import AutowarePlanning.Messages
import AutowarePlanning.Binary64
import Mathlib.Algebra.Order.Field.Rat

/-!
# Connecting the path to the goal inside the lanelets

`connect_path_to_goal` replaces the end of the path by a connection to the goal. It keeps the path
up to `connection_section_length` before the goal's closest point on the goal lanelet. It adds a
pre-goal point `pre_goal_offset` behind the goal when the goal is farther than that, and ends at
the goal with zero velocity. `connect_path_to_goal_inside_lanelets` tries connection lengths from
`connection_section_length` down in steps of `0.1` while they are positive. It returns the first
connected path that `is_path_inside_lanelets` accepts, its orientations aligned with its
direction. `is_path_inside_lanelets` samples the path every `0.1` of arc length from `0` while
below its length.

Both loops count in `double`. Their counters are `sampledArcLength` and `triedConnectionLength`:
each step is rounded to the nearest double, so the counters drift from the multiples of a tenth.
Each loop is given a bound on its iterations, `⌈20 x⌉ + 1` for a length `x`. For lengths up to
`2 ^ 40` a step moves the counter by at least a twentieth, so the loop leaves by its own condition
before the bound is spent.

The sampling accepts exactly when each sample the loop reaches lies inside a lanelet
(`isPathInsideLanelets_iff`). The search returns the first connection inside the lanelets among
the lengths it reaches (`connectPathToGoalInsideLanelets_eq_some_iff`). A goal that
`closest_with_constraint` does not find leaves only the input path to accept or reject
(`connectPathToGoalInsideLanelets_of_no_goal`).
-/

namespace AutowarePlanning.PathGenerator

open AutowarePlanning

/-- `autoware::experimental::trajectory::Trajectory<PathPointWithLaneId>` and the free functions
on it that the goal connection calls. -/
structure PathTrajectoryOps (T : Type) where
  length : T → ℚ
  compute : T → ℚ → PathPointWithLaneId
  /-- `closest(trajectory, pose)`. -/
  closest : T → Pose → ℚ
  /-- `closest_with_constraint(trajectory, pose, constraint)`. -/
  closestWithConstraint : T → Pose → (PathPointWithLaneId → Bool) → Option ℚ
  /-- `crop(trajectory, start, end)`. -/
  crop : T → ℚ → ℚ → T
  /-- `restore(min_points)`. -/
  restore : T → ℕ → List PathPointWithLaneId
  /-- `pretty_build(points)`. -/
  prettyBuild : List PathPointWithLaneId → Option T
  alignOrientationWithTrajectoryDirection : T → T

section GoalConnection

variable {T L : Type} (P : PathTrajectoryOps T)
  (calcOffsetPose : Pose → ℚ → ℚ → ℚ → Pose) (isInLanelet : Pose → L → Bool)

/-- `is_pose_inside_lanelets`. -/
def isPoseInsideLanelets (pose : Pose) (lanelets : List L) : Bool :=
  lanelets.any fun l => isInLanelet pose l

/-- The arc lengths the loop of `is_path_inside_lanelets` samples: `s = 0.0`, then `s += 0.1`
in double precision. -/
def sampledArcLength : ℕ → ℚ
  | 0 => 0
  | k + 1 => roundDouble (sampledArcLength k + oneTenth)

/-- The `for (double s = 0.0; s < path.length(); s += 0.1)` loop of `is_path_inside_lanelets`, at
most `n` iterations. -/
def isPathInsideLaneletsLoop (path : T) (lanelets : List L) : ℕ → ℚ → Bool
  | 0, _ => true
  | n + 1, s =>
    if s < P.length path then
      if !isPoseInsideLanelets isInLanelet (P.compute path s).pose lanelets then false
      else isPathInsideLaneletsLoop path lanelets n (roundDouble (s + oneTenth))
    else true

/-- `is_path_inside_lanelets`, its loop given `⌈20 · length⌉ + 1` iterations. -/
def isPathInsideLanelets (path : T) (lanelets : List L) : Bool :=
  isPathInsideLaneletsLoop P isInLanelet path lanelets (⌈P.length path * 20⌉₊ + 1) 0

/-- `connect_path_to_goal`. -/
def connectPathToGoal (path : T) (goalPose : Pose) (goalLaneId : ℤ)
    (connectionSectionLength preGoalOffset : ℚ) : T :=
  let hasGoalLaneId := fun point : PathPointWithLaneId => decide (goalLaneId ∈ point.laneIds)
  match P.closestWithConstraint path goalPose hasGoalLaneId with
  | none => path
  | some sGoal =>
    let goal := { P.compute path sGoal with pose := goalPose, longitudinalVelocityMps := 0 }
    let preGoalPose := calcOffsetPose goalPose (-preGoalOffset) 0 0
    let preGoal := { P.compute path (P.closest path preGoalPose) with pose := preGoalPose }
    let pathPointsToGoal :=
      if sGoal ≤ connectionSectionLength then [P.compute path 0]
      else P.restore (P.crop path 0 (sGoal - connectionSectionLength)) 2
    let pathPointsToGoal :=
      if sGoal > preGoalOffset then pathPointsToGoal ++ [preGoal] else pathPointsToGoal
    match P.prettyBuild (pathPointsToGoal ++ [goal]) with
    | some output => output
    | none => path

/-- The connection lengths the loop of `connect_path_to_goal_inside_lanelets` tries:
`m = connection_section_length`, then `m -= 0.1` in double precision. -/
def triedConnectionLength (connectionSectionLength : ℚ) : ℕ → ℚ
  | 0 => connectionSectionLength
  | k + 1 => roundDouble (triedConnectionLength connectionSectionLength k - oneTenth)

/-- The `for (auto m = connection_section_length; m > 0.0; m -= 0.1)` loop of
`connect_path_to_goal_inside_lanelets`, at most `n` iterations. -/
def connectPathToGoalInsideLaneletsLoop (path : T) (lanelets : List L) (goalPose : Pose)
    (goalLaneId : ℤ) (preGoalOffset : ℚ) : ℕ → ℚ → Option T
  | 0, _ => none
  | n + 1, m =>
    if 0 < m then
      let pathToGoal := connectPathToGoal P calcOffsetPose path goalPose goalLaneId m preGoalOffset
      if !isPathInsideLanelets P isInLanelet pathToGoal lanelets then
        connectPathToGoalInsideLaneletsLoop path lanelets goalPose goalLaneId preGoalOffset n
          (roundDouble (m - oneTenth))
      else some (P.alignOrientationWithTrajectoryDirection pathToGoal)
    else none

/-- `connect_path_to_goal_inside_lanelets`, its loop given `⌈20 · connection_section_length⌉ + 1`
iterations. -/
def connectPathToGoalInsideLanelets (path : T) (lanelets : List L) (goalPose : Pose)
    (goalLaneId : ℤ) (connectionSectionLength preGoalOffset : ℚ) : Option T :=
  connectPathToGoalInsideLaneletsLoop P calcOffsetPose isInLanelet path lanelets goalPose goalLaneId
    preGoalOffset (⌈connectionSectionLength * 20⌉₊ + 1) connectionSectionLength

/-! A straight path along the x axis, a trajectory given by its length, and lanelets given by
the bound on x they end at: the inputs of the witnesses below. -/

def straightPoint (x : ℚ) : PathPointWithLaneId := ⟨⟨⟨x, 0, 0⟩, default⟩, 1, [1]⟩

def straightPathOps : PathTrajectoryOps ℚ where
  length t := t
  compute _ s := straightPoint s
  closest _ pose := pose.position.x
  closestWithConstraint _ pose _ := some pose.position.x
  crop _ start finish := finish - start
  restore t _ := [straightPoint 0, straightPoint t]
  prettyBuild points := some ((points.getLast?.map fun point => point.pose.position.x).getD 0)
  alignOrientationWithTrajectoryDirection t := t

def offsetAlongX (pose : Pose) (dx _ _ : ℚ) : Pose :=
  ⟨⟨pose.position.x + dx, pose.position.y, pose.position.z⟩, pose.orientation⟩

def belowX (pose : Pose) (bound : ℚ) : Bool := pose.position.x ≤ bound

theorem isPoseInsideLanelets_straight {t x bound : ℚ} (h : x ≤ bound) :
    isPoseInsideLanelets belowX (straightPathOps.compute t x).pose [bound] = true := by
  simp [isPoseInsideLanelets, straightPathOps, straightPoint, belowX, h]

/-! The sampling loop checks the samples it reaches, from its start while they stay below the
path's length. -/

/-- The sampling loop started at the `j`-th sample accepts exactly when each sample it reaches
within its `n` iterations lies inside a lanelet; it reaches the `k`-th when every sample from the
`j`-th to the `k`-th is below the length. -/
theorem isPathInsideLaneletsLoop_iff (path : T) (lanelets : List L) (n j : ℕ) :
    isPathInsideLaneletsLoop P isInLanelet path lanelets n (sampledArcLength j) = true ↔
      ∀ k, j ≤ k → k < j + n → (∀ i, j ≤ i → i ≤ k → sampledArcLength i < P.length path) →
        isPoseInsideLanelets isInLanelet (P.compute path (sampledArcLength k)).pose lanelets = true := by
  induction n generalizing j with
  | zero =>
    simp only [isPathInsideLaneletsLoop, true_iff]
    intro k h₁ h₂
    omega
  | succ n ih =>
    rw [isPathInsideLaneletsLoop]
    by_cases hj : sampledArcLength j < P.length path
    · rw [if_pos hj]
      by_cases hin : isPoseInsideLanelets isInLanelet (P.compute path (sampledArcLength j)).pose
          lanelets = true
      · rw [hin, Bool.not_true, if_neg Bool.false_ne_true, ← sampledArcLength, ih (j + 1)]
        constructor
        · intro H k hjk hk hreach
          rcases eq_or_lt_of_le hjk with rfl | hlt
          · exact hin
          · exact H k hlt (by omega) fun i hi hik => hreach i (by omega) hik
        · intro H k hjk hk hreach
          refine H k (by omega) (by omega) fun i hi hik => ?_
          rcases eq_or_lt_of_le hi with rfl | hlt
          · exact hj
          · exact hreach i hlt hik
      · simp only [Bool.not_eq_true] at hin
        simp only [hin, Bool.not_false, ↓reduceIte, Bool.false_eq_true, false_iff, not_forall]
        exact ⟨j, le_rfl, by omega, fun i hi hij => le_antisymm hij hi ▸ hj, by simp [hin]⟩
    · simp only [hj, ↓reduceIte, true_iff]
      intro k hjk _ hreach
      exact absurd (hreach j le_rfl hjk) hj

/-- While the samples stay below a length of at most `2 ^ 40`, the `k`-th is at least `k / 20`. -/
theorem sampledArcLength_ge {len : ℚ} (hlen : len ≤ 2 ^ 40) {k : ℕ}
    (h : ∀ i < k, sampledArcLength i < len) : (k : ℚ) / 20 ≤ sampledArcLength k := by
  induction k with
  | zero => simp [sampledArcLength]
  | succ k ih =>
    have hk := ih fun i hi => h i (by omega)
    have hstep := add_oneTenth_ge (le_trans (by positivity) hk) ((h k (by omega)).le.trans hlen)
    rw [sampledArcLength]
    push_cast
    linarith

/-- A sample the loop reaches on a path of at most `2 ^ 40` is within its iterations. -/
theorem lt_of_sampledArcLength_lt {len : ℚ} (hlen : len ≤ 2 ^ 40) {k : ℕ}
    (h : ∀ i ≤ k, sampledArcLength i < len) : k < ⌈len * 20⌉₊ + 1 := by
  have hk := sampledArcLength_ge hlen fun i hi => h i hi.le
  have : (k : ℚ) < len * 20 := by linarith [h k le_rfl]
  have := Nat.lt_ceil.mpr this
  omega

/-- The sampling check accepts a path, of any length, when every sample it can reach lies inside a
lanelet. -/
theorem isPathInsideLanelets_of_forall (path : T) (lanelets : List L)
    (h : ∀ k, (∀ i ≤ k, sampledArcLength i < P.length path) →
      isPoseInsideLanelets isInLanelet (P.compute path (sampledArcLength k)).pose lanelets = true) :
    isPathInsideLanelets P isInLanelet path lanelets = true :=
  (isPathInsideLaneletsLoop_iff P isInLanelet path lanelets _ 0).mpr fun k _ _ hreach =>
    h k fun i hi => hreach i (Nat.zero_le i) hi

/-- `is_path_inside_lanelets` accepts a path of at most `2 ^ 40` exactly when each sample it
reaches lies inside one of the lanelets: the arc lengths `0.0, 0.1, …` summed in double precision,
up to the first that is not below the path's length. -/
theorem isPathInsideLanelets_iff (path : T) (lanelets : List L) (hlen : P.length path ≤ 2 ^ 40) :
    isPathInsideLanelets P isInLanelet path lanelets = true ↔
      ∀ k, (∀ i ≤ k, sampledArcLength i < P.length path) →
        isPoseInsideLanelets isInLanelet (P.compute path (sampledArcLength k)).pose lanelets = true :=
  ⟨fun h k hreach => (isPathInsideLaneletsLoop_iff P isInLanelet path lanelets _ 0).mp h k
      (Nat.zero_le k) (by simpa using lt_of_sampledArcLength_lt hlen hreach) fun i _ hi => hreach i hi,
    isPathInsideLanelets_of_forall P isInLanelet path lanelets⟩

/-- A path of length `1` and a lanelet ending at `x = 2`: every sample the loop reaches is below
`1`, so the path is accepted. -/
theorem isPathInsideLanelets_iff_on_straight :
    (1 : ℚ) ≤ 2 ^ 40 ∧ isPathInsideLanelets straightPathOps belowX 1 [2] = true :=
  ⟨by norm_num, (isPathInsideLanelets_iff straightPathOps belowX 1 [2]
    (show (1 : ℚ) ≤ 2 ^ 40 by norm_num)).mpr fun k hk =>
      isPoseInsideLanelets_straight ((hk k le_rfl).le.trans (show (1 : ℚ) ≤ 2 by norm_num))⟩

/-! The search loop tries the connection lengths it reaches, from its start while they stay
positive. -/

/-- While the tried lengths stay positive from a start of at most `2 ^ 40`, the `k`-th is at
most the start less `k / 20`. -/
theorem triedConnectionLength_le {c : ℚ} (hc : c ≤ 2 ^ 40) {k : ℕ}
    (h : ∀ i < k, 0 < triedConnectionLength c i) : triedConnectionLength c k ≤ c - k / 20 := by
  induction k with
  | zero => simp [triedConnectionLength]
  | succ k ih =>
    have hk := ih fun i hi => h i (by omega)
    have hpos : (0 : ℚ) ≤ k / 20 := by positivity
    have hstep := sub_oneTenth_le (h k (by omega)) (by linarith)
    rw [triedConnectionLength]
    push_cast
    linarith

/-- A length the loop reaches from a start of at most `2 ^ 40` is within its iterations. -/
theorem lt_of_triedConnectionLength_pos {c : ℚ} (hc : c ≤ 2 ^ 40) {k : ℕ}
    (h : ∀ i ≤ k, 0 < triedConnectionLength c i) : k < ⌈c * 20⌉₊ + 1 := by
  have hk := triedConnectionLength_le hc fun i hi => h i hi.le
  have : (k : ℚ) < c * 20 := by linarith [h k le_rfl]
  have := Nat.lt_ceil.mpr this
  omega

section Search

variable (path : T) (lanelets : List L) (goalPose : Pose) (goalLaneId : ℤ)
  (connectionSectionLength preGoalOffset : ℚ)

/-- The search loop started at the `j`-th tried length returns a path exactly when, among the
lengths it reaches within its `n` iterations, one connects inside the lanelets: it returns the
first such connection, aligned. It reaches the `k`-th length when every length from the `j`-th to
the `k`-th is positive. -/
theorem connectPathToGoalInsideLaneletsLoop_eq_some_iff (n j : ℕ) {result : T} :
    connectPathToGoalInsideLaneletsLoop P calcOffsetPose isInLanelet path lanelets goalPose
        goalLaneId preGoalOffset n (triedConnectionLength connectionSectionLength j) = some result ↔
      ∃ k, j ≤ k ∧ k < j + n ∧
        (∀ i, j ≤ i → i ≤ k → 0 < triedConnectionLength connectionSectionLength i) ∧
        (∀ i, j ≤ i → i < k → isPathInsideLanelets P isInLanelet (connectPathToGoal P calcOffsetPose
          path goalPose goalLaneId (triedConnectionLength connectionSectionLength i) preGoalOffset)
          lanelets = false) ∧
        isPathInsideLanelets P isInLanelet (connectPathToGoal P calcOffsetPose path goalPose
          goalLaneId (triedConnectionLength connectionSectionLength k) preGoalOffset) lanelets = true ∧
        result = P.alignOrientationWithTrajectoryDirection (connectPathToGoal P calcOffsetPose path
          goalPose goalLaneId (triedConnectionLength connectionSectionLength k) preGoalOffset) := by
  induction n generalizing j with
  | zero =>
    simp only [connectPathToGoalInsideLaneletsLoop, reduceCtorEq, false_iff, not_exists, not_and]
    intro k h₁ h₂
    omega
  | succ n ih =>
    rw [connectPathToGoalInsideLaneletsLoop]
    by_cases hj : 0 < triedConnectionLength connectionSectionLength j
    · rw [if_pos hj]
      dsimp only
      by_cases hin : isPathInsideLanelets P isInLanelet (connectPathToGoal P calcOffsetPose path
          goalPose goalLaneId (triedConnectionLength connectionSectionLength j) preGoalOffset)
          lanelets = true
      · rw [hin, Bool.not_true, if_neg Bool.false_ne_true, Option.some.injEq]
        constructor
        · rintro rfl
          exact ⟨j, le_rfl, by omega, fun i hi hij => le_antisymm hij hi ▸ hj,
            fun i hi hij => absurd hij (not_lt.mpr hi), hin, rfl⟩
        · rintro ⟨k, hjk, -, -, hfail, hk, rfl⟩
          rcases eq_or_lt_of_le hjk with rfl | hlt
          · rfl
          · exact absurd (hfail j le_rfl hlt) (by simp [hin])
      · simp only [Bool.not_eq_true] at hin
        rw [hin, Bool.not_false, if_pos rfl, ← triedConnectionLength, ih (j + 1)]
        constructor
        · rintro ⟨k, hjk, hk, hpos, hfail, hin', hres⟩
          refine ⟨k, by omega, by omega, fun i hi hik => ?_, fun i hi hik => ?_, hin', hres⟩
          · rcases eq_or_lt_of_le hi with rfl | hlt
            · exact hj
            · exact hpos i hlt hik
          · rcases eq_or_lt_of_le hi with rfl | hlt
            · exact hin
            · exact hfail i hlt hik
        · rintro ⟨k, hjk, hk, hpos, hfail, hin', hres⟩
          have hne : k ≠ j := by rintro rfl; simp [hin] at hin'
          exact ⟨k, by omega, by omega, fun i hi hik => hpos i (by omega) hik,
            fun i hi hik => hfail i (by omega) hik, hin', hres⟩
    · rw [if_neg hj]
      simp only [reduceCtorEq, false_iff, not_exists, not_and]
      intro k hjk _ hpos
      exact absurd (hpos j le_rfl hjk) hj

/-- `connect_path_to_goal_inside_lanelets`, from a connection section of at most `2 ^ 40`, returns
a path exactly when one of the lengths it tries connects inside the lanelets: the lengths
`connection_section_length, connection_section_length - 0.1, …` decremented in double precision,
while positive. It returns the first such connection, with its orientations aligned. -/
theorem connectPathToGoalInsideLanelets_eq_some_iff (hc : connectionSectionLength ≤ 2 ^ 40)
    {result : T} :
    connectPathToGoalInsideLanelets P calcOffsetPose isInLanelet path lanelets goalPose goalLaneId
        connectionSectionLength preGoalOffset = some result ↔
      ∃ k, (∀ i ≤ k, 0 < triedConnectionLength connectionSectionLength i) ∧
        (∀ i < k, isPathInsideLanelets P isInLanelet (connectPathToGoal P calcOffsetPose path
          goalPose goalLaneId (triedConnectionLength connectionSectionLength i) preGoalOffset)
          lanelets = false) ∧
        isPathInsideLanelets P isInLanelet (connectPathToGoal P calcOffsetPose path goalPose
          goalLaneId (triedConnectionLength connectionSectionLength k) preGoalOffset) lanelets = true ∧
        result = P.alignOrientationWithTrajectoryDirection (connectPathToGoal P calcOffsetPose path
          goalPose goalLaneId (triedConnectionLength connectionSectionLength k) preGoalOffset) := by
  rw [connectPathToGoalInsideLanelets, show connectionSectionLength =
      triedConnectionLength connectionSectionLength 0 from rfl,
    connectPathToGoalInsideLaneletsLoop_eq_some_iff]
  constructor
  · rintro ⟨k, -, -, hpos, hfail, hin, hres⟩
    exact ⟨k, fun i hi => hpos i (Nat.zero_le i) hi, fun i hi => hfail i (Nat.zero_le i) hi, hin, hres⟩
  · rintro ⟨k, hpos, hfail, hin, hres⟩
    exact ⟨k, Nat.zero_le k, by simpa using lt_of_triedConnectionLength_pos hc hpos,
      fun i _ hi => hpos i hi, fun i _ hi => hfail i hi, hin, hres⟩

/-- A goal `0.1` along a straight path and a connection section of `1`: the first length tried
connects to the goal, before the lanelet's end at `x = 2`. -/
theorem connectPathToGoalInsideLanelets_eq_some_iff_on_straight :
    (1 : ℚ) ≤ 2 ^ 40 ∧ connectPathToGoalInsideLanelets straightPathOps offsetAlongX belowX 1 [2]
      ⟨⟨1 / 10, 0, 0⟩, default⟩ 1 1 0 = some (1 / 10) := by
  have hconn : connectPathToGoal straightPathOps offsetAlongX 1 ⟨⟨1 / 10, 0, 0⟩, default⟩ 1
      (triedConnectionLength 1 0) 0 = 1 / 10 := by
    norm_num [connectPathToGoal, triedConnectionLength, straightPathOps, straightPoint]
  have hin : isPathInsideLanelets straightPathOps belowX (1 / 10) [2] = true :=
    isPathInsideLanelets_of_forall straightPathOps belowX (1 / 10) [2] fun k hk =>
      isPoseInsideLanelets_straight ((hk k le_rfl).le.trans (show (1 / 10 : ℚ) ≤ 2 by norm_num))
  refine ⟨by norm_num, (connectPathToGoalInsideLanelets_eq_some_iff straightPathOps offsetAlongX
    belowX 1 [2] ⟨⟨1 / 10, 0, 0⟩, default⟩ 1 1 0 (by norm_num)).mpr
      ⟨0, fun i hi => ?_, fun i hi => absurd hi (Nat.not_lt_zero i), by rw [hconn, hin], by rw [hconn]; rfl⟩⟩
  rw [Nat.le_zero.mp hi]
  norm_num [triedConnectionLength]

end Search

end GoalConnection

end AutowarePlanning.PathGenerator
