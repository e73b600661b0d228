import AutowarePlanning.Messages
import AutowarePlanning.PathGenerator.ArcLength

/-!
# The bounds of the path between two centerline arc lengths

`get_path_bounds` maps the two centerline arc lengths onto each bound with
`get_arc_length_on_bounds` and hands the pair to `crop_line_string`, which returns the whole bound
when the start is negative or larger than the end.

When each lanelet's projection onto a bound is non-decreasing from the bound's start to its end
(`OffsetMonotone`), `get_arc_length_on_bounds` is non-decreasing on each side up to the end of the
sequence (`boundsSideLoop_monotone`), so inside the sequence `get_path_bounds` crops both bounds
(`getPathBounds_crops_within_sequence`). Past the end the loop falls through to the pass-through of
a sequence that is too short and returns the centerline arc length itself
(`boundsSideLoop_of_sequenceLength_lt`), a value in centerline units where the last value inside
was a bound length: across that seam the order is lost, and `get_path_bounds` then returns the
uncropped bound.
-/

namespace AutowarePlanning.PathGenerator

open AutowarePlanning

/-- `autoware::experimental::trajectory::Trajectory<geometry_msgs::msg::Point>` as
`crop_line_string` uses it: the builder with a linear xy interpolator, `crop` and `restore`. -/
structure TrajectoryOps (T : Type) where
  build : List Point → Option T
  crop : T → ℚ → ℚ → T
  restore : T → List Point

/-- `lanelet::LaneletSequence::leftBound()` and `rightBound()`, converted by
`to_geometry_msgs_points`. -/
structure SequenceBounds where
  leftBound : List Lanelet → List Point
  rightBound : List Lanelet → List Point

section Crop

variable {T : Type} (B : TrajectoryOps T)

/-- `crop_line_string`. -/
def cropLineString (lineString : List Point) (sStart sEnd : ℚ) : List Point :=
  if sStart < 0 then lineString
  else if sStart > sEnd then lineString
  else
    match B.build lineString with
    | none => []
    | some trajectory => B.restore (B.crop trajectory sStart (sEnd - sStart))

/-- `get_path_bounds`. -/
def getPathBounds (G : LaneletGeometry) (S : SequenceBounds) (laneletSequence : List Lanelet)
    (sStart sEnd : ℚ) : PathRange (List Point) :=
  if laneletSequence.isEmpty then ⟨[], []⟩
  else
    let sBoundsStart := getArcLengthOnBounds G sStart laneletSequence
    let sBoundsEnd := getArcLengthOnBounds G sEnd laneletSequence
    ⟨cropLineString B (S.leftBound laneletSequence) sBoundsStart.left sBoundsEnd.left,
      cropLineString B (S.rightBound laneletSequence) sBoundsStart.right sBoundsEnd.right⟩

theorem cropLineString_of_gt (lineString : List Point) {sStart sEnd : ℚ} (h : sEnd < sStart) :
    cropLineString B lineString sStart sEnd = lineString := by
  unfold cropLineString
  split_ifs <;> rfl

/-- A range that starts at or after zero and ends no earlier is cropped, not returned as is. -/
theorem cropLineString_of_le (lineString : List Point) {sStart sEnd : ℚ} (h₀ : 0 ≤ sStart)
    (h : sStart ≤ sEnd) :
    cropLineString B lineString sStart sEnd =
      (B.build lineString).elim [] fun trajectory =>
        B.restore (B.crop trajectory sStart (sEnd - sStart)) := by
  unfold cropLineString
  rw [if_neg (not_lt.mpr h₀), if_neg (not_lt.mpr h)]
  cases B.build lineString <;> rfl

end Crop

section Monotone

variable (G : LaneletGeometry) (bound : Lanelet → LineString2d)

/-- The projection of a lanelet's centerline onto one of its bounds is non-decreasing and runs
from the bound's start to its end. -/
structure OffsetMonotone (it : Lanelet) : Prop where
  centerline_nonneg : 0 ≤ G.length it.centerline2d
  start : centerlineToBound G it (bound it) 0 = 0
  finish : centerlineToBound G it (bound it) (G.length it.centerline2d) = G.length (bound it)
  mono : ∀ t₁ t₂, 0 ≤ t₁ → t₁ ≤ t₂ → t₂ ≤ G.length it.centerline2d →
    centerlineToBound G it (bound it) t₁ ≤ centerlineToBound G it (bound it) t₂

namespace OffsetMonotone

variable {G bound} {it : Lanelet} (h : OffsetMonotone G bound it)
include h

theorem nonneg {t : ℚ} (h0 : 0 ≤ t) (hc : t ≤ G.length it.centerline2d) :
    0 ≤ centerlineToBound G it (bound it) t :=
  h.start ▸ h.mono 0 t le_rfl h0 hc

theorem le_length {t : ℚ} (h0 : 0 ≤ t) (hc : t ≤ G.length it.centerline2d) :
    centerlineToBound G it (bound it) t ≤ G.length (bound it) :=
  h.finish ▸ h.mono t _ h0 hc le_rfl

theorem bound_nonneg : 0 ≤ G.length (bound it) :=
  h.finish ▸ h.nonneg h.centerline_nonneg le_rfl

end OffsetMonotone

variable {laneletSequence : List Lanelet}

/-- From a start strictly before the point and with the point inside the sequence, the forward
loop is at least its running bound sum. -/
theorem le_boundsSideLoop_of_lt (hm : ∀ it ∈ laneletSequence, OffsetMonotone G bound it)
    {sCenterline s : ℚ} (hs : s < sCenterline)
    (hle : sCenterline ≤ s + sequenceLength G Lanelet.centerline2d laneletSequence) (sSide : ℚ) :
    sSide ≤ boundsSideLoop G sCenterline bound laneletSequence s sSide := by
  induction laneletSequence generalizing s sSide with
  | nil => simp only [sequenceLength_nil, add_zero] at hle; linarith
  | cons it rest ih =>
    simp only [List.mem_cons, forall_eq_or_imp] at hm
    rw [sequenceLength_cons] at hle
    by_cases hA : s + G.length it.centerline2d < sCenterline
    · rw [boundsSideLoop_of_lt G bound hA]
      linarith [ih hm.2 hA (by linarith) (sSide + G.length (bound it)), hm.1.bound_nonneg]
    · rw [boundsSideLoop_of_le G bound hA]
      linarith [hm.1.nonneg (sub_nonneg.mpr hs.le) (by linarith)]

/-- Inside the sequence the forward loop is non-decreasing in the centerline arc length: within a
lanelet by the projection's monotonicity, and from a lanelet to a later one because a point on the
earlier lanelet projects at most to its bound's end. -/
theorem boundsSideLoop_monotone (hm : ∀ it ∈ laneletSequence, OffsetMonotone G bound it)
    {s s₁ s₂ : ℚ} (h₀ : s ≤ s₁) (h₁₂ : s₁ ≤ s₂)
    (h₂ : s₂ ≤ s + sequenceLength G Lanelet.centerline2d laneletSequence) (sSide : ℚ) :
    boundsSideLoop G s₁ bound laneletSequence s sSide ≤
      boundsSideLoop G s₂ bound laneletSequence s sSide := by
  induction laneletSequence generalizing s sSide with
  | nil => exact h₁₂
  | cons it rest ih =>
    simp only [List.mem_cons, forall_eq_or_imp] at hm
    rw [sequenceLength_cons] at h₂
    by_cases hA₁ : s + G.length it.centerline2d < s₁
    · -- both points lie past this lanelet
      rw [boundsSideLoop_of_lt G bound hA₁, boundsSideLoop_of_lt G bound (hA₁.trans_le h₁₂)]
      exact ih hm.2 hA₁.le (by linarith) _
    rw [boundsSideLoop_of_le G bound hA₁]
    by_cases hA₂ : s + G.length it.centerline2d < s₂
    · -- the first point lies on this lanelet, the second on a later one
      rw [boundsSideLoop_of_lt G bound hA₂]
      have hfirst := hm.1.le_length (sub_nonneg.mpr h₀) (by linarith)
      linarith [le_boundsSideLoop_of_lt G bound hm.2 hA₂ (by linarith) (sSide + G.length (bound it))]
    · -- both points lie on this lanelet
      rw [boundsSideLoop_of_le G bound hA₂]
      linarith [hm.1.mono (s₁ - s) (s₂ - s) (by linarith) (by linarith) (by linarith)]

/-- Inside the sequence the forward loop from the sequence's start is non-negative. -/
theorem boundsSideLoop_nonneg (hm : ∀ it ∈ laneletSequence, OffsetMonotone G bound it)
    {sCenterline : ℚ} (h₀ : 0 ≤ sCenterline)
    (h : sCenterline ≤ sequenceLength G Lanelet.centerline2d laneletSequence) :
    0 ≤ boundsSideLoop G sCenterline bound laneletSequence 0 0 := by
  rcases h₀.lt_or_eq with hpos | rfl
  · exact le_boundsSideLoop_of_lt G bound hm hpos (by rwa [zero_add]) 0
  · cases laneletSequence with
    | nil => exact le_rfl
    | cons it rest =>
      have hit := hm it (List.mem_cons_self _ _)
      rw [boundsSideLoop_of_le G bound (not_lt.mpr (by linarith [hit.centerline_nonneg])), zero_add,
        sub_self]
      exact hit.nonneg le_rfl hit.centerline_nonneg

/-- Past the end of the sequence the loop falls through and returns the centerline arc length. -/
theorem boundsSideLoop_of_sequenceLength_lt
    (hc : ∀ it ∈ laneletSequence, 0 ≤ G.length it.centerline2d) {sCenterline s : ℚ}
    (h : s + sequenceLength G Lanelet.centerline2d laneletSequence < sCenterline) (sSide : ℚ) :
    boundsSideLoop G sCenterline bound laneletSequence s sSide = sCenterline := by
  induction laneletSequence generalizing s sSide with
  | nil => rfl
  | cons it rest ih =>
    simp only [List.mem_cons, forall_eq_or_imp] at hc
    rw [sequenceLength_cons] at h
    have hrest := sequenceLength_nonneg G Lanelet.centerline2d hc.2
    rw [boundsSideLoop_of_lt G bound (by linarith)]
    exact ih hc.2 (by linarith) _

section Sides

variable (hm : ∀ it ∈ laneletSequence,
  OffsetMonotone G Lanelet.leftBound2d it ∧ OffsetMonotone G Lanelet.rightBound2d it)
include hm

theorem getArcLengthOnBounds_le_of_le {s₁ s₂ : ℚ} (h₀ : 0 ≤ s₁) (h₁₂ : s₁ ≤ s₂)
    (h₂ : s₂ ≤ sequenceLength G Lanelet.centerline2d laneletSequence) :
    (getArcLengthOnBounds G s₁ laneletSequence).left ≤ (getArcLengthOnBounds G s₂ laneletSequence).left ∧
      (getArcLengthOnBounds G s₁ laneletSequence).right ≤
        (getArcLengthOnBounds G s₂ laneletSequence).right := by
  rw [getArcLengthOnBounds_of_nonneg G h₀, getArcLengthOnBounds_of_nonneg G (h₀.trans h₁₂)]
  have h₂' : s₂ ≤ 0 + sequenceLength G Lanelet.centerline2d laneletSequence := by rwa [zero_add]
  exact ⟨boundsSideLoop_monotone G _ (fun it hit => (hm it hit).1) h₀ h₁₂ h₂' 0,
    boundsSideLoop_monotone G _ (fun it hit => (hm it hit).2) h₀ h₁₂ h₂' 0⟩

theorem getArcLengthOnBounds_nonneg {s : ℚ} (h₀ : 0 ≤ s)
    (h : s ≤ sequenceLength G Lanelet.centerline2d laneletSequence) :
    0 ≤ (getArcLengthOnBounds G s laneletSequence).left ∧
      0 ≤ (getArcLengthOnBounds G s laneletSequence).right := by
  rw [getArcLengthOnBounds_of_nonneg G h₀]
  exact ⟨boundsSideLoop_nonneg G _ (fun it hit => (hm it hit).1) h₀ h,
    boundsSideLoop_nonneg G _ (fun it hit => (hm it hit).2) h₀ h⟩

end Sides

/-- `get_arc_length_on_bounds` is non-decreasing on each side over the sequence, end included,
when every lanelet's projections onto both bounds are; past the end it returns the centerline arc
length on both sides. -/
theorem getArcLengthOnBounds_monotone_within_sequence
    (hm : ∀ it ∈ laneletSequence,
      OffsetMonotone G Lanelet.leftBound2d it ∧ OffsetMonotone G Lanelet.rightBound2d it) :
    (∀ s₁ s₂, 0 ≤ s₁ → s₁ ≤ s₂ → s₂ ≤ sequenceLength G Lanelet.centerline2d laneletSequence →
      (getArcLengthOnBounds G s₁ laneletSequence).left ≤ (getArcLengthOnBounds G s₂ laneletSequence).left ∧
      (getArcLengthOnBounds G s₁ laneletSequence).right ≤
        (getArcLengthOnBounds G s₂ laneletSequence).right) ∧
    ∀ s, sequenceLength G Lanelet.centerline2d laneletSequence < s →
      getArcLengthOnBounds G s laneletSequence = ⟨s, s⟩ := by
  have hc : ∀ it ∈ laneletSequence, 0 ≤ G.length it.centerline2d :=
    fun it hit => (hm it hit).1.centerline_nonneg
  refine ⟨fun s₁ s₂ h₀ h₁₂ h₂ => getArcLengthOnBounds_le_of_le G hm h₀ h₁₂ h₂, fun s hs => ?_⟩
  have h₀ : 0 ≤ s := (sequenceLength_nonneg G _ hc).trans hs.le
  have hs' : 0 + sequenceLength G Lanelet.centerline2d laneletSequence < s := by rwa [zero_add]
  rw [getArcLengthOnBounds_of_nonneg G h₀, boundsSideLoop_of_sequenceLength_lt G _ hc hs',
    boundsSideLoop_of_sequenceLength_lt G _ hc hs']

section Sides

variable (hm : ∀ it ∈ laneletSequence,
  OffsetMonotone G Lanelet.leftBound2d it ∧ OffsetMonotone G Lanelet.rightBound2d it)
include hm

/-- Inside the sequence, `get_path_bounds` hands `crop_line_string` on each side a start that is
non-negative and not larger than the end, so both bounds are cropped and neither is returned
whole. -/
theorem getPathBounds_crops_within_sequence {T : Type} (B : TrajectoryOps T) (S : SequenceBounds)
    (hne : laneletSequence ≠ []) {sStart sEnd : ℚ} (h₀ : 0 ≤ sStart) (h₁₂ : sStart ≤ sEnd)
    (h₂ : sEnd ≤ sequenceLength G Lanelet.centerline2d laneletSequence) :
    let startBounds := getArcLengthOnBounds G sStart laneletSequence
    let endBounds := getArcLengthOnBounds G sEnd laneletSequence
    (0 ≤ startBounds.left ∧ startBounds.left ≤ endBounds.left) ∧
      (0 ≤ startBounds.right ∧ startBounds.right ≤ endBounds.right) ∧
      getPathBounds B G S laneletSequence sStart sEnd =
        ⟨(B.build (S.leftBound laneletSequence)).elim [] fun trajectory =>
            B.restore (B.crop trajectory startBounds.left (endBounds.left - startBounds.left)),
          (B.build (S.rightBound laneletSequence)).elim [] fun trajectory =>
            B.restore (B.crop trajectory startBounds.right (endBounds.right - startBounds.right))⟩ := by
  have hmono := getArcLengthOnBounds_le_of_le G hm h₀ h₁₂ h₂
  have hnn := getArcLengthOnBounds_nonneg G hm h₀ (h₁₂.trans h₂)
  refine ⟨⟨hnn.1, hmono.1⟩, ⟨hnn.2, hmono.2⟩, ?_⟩
  rw [getPathBounds, if_neg (by simpa using hne)]
  dsimp only
  rw [cropLineString_of_le B _ hnn.1 hmono.1, cropLineString_of_le B _ hnn.2 hmono.2]

end Sides

end Monotone

section RightTurn

/-! The projections of `rightTurnLanelet` are non-decreasing on both sides: the left one jumps by
one at the corner, the right one is the identity. -/

theorem offsetMonotone_rightTurn_left :
    OffsetMonotone rectilinearGeometry Lanelet.leftBound2d rightTurnLanelet where
  centerline_nonneg := by rw [rightTurn_centerline_length]; norm_num
  start := projectionsInverse_rightTurn_left.start
  finish := projectionsInverse_rightTurn_left.finish
  mono t₁ t₂ h₀ h₁₂ h₂ := by
    rw [rightTurn_centerline_length] at h₂
    show centerlineToBound rectilinearGeometry rightTurnLanelet rightTurnLanelet.leftBound2d t₁ ≤
      centerlineToBound rectilinearGeometry rightTurnLanelet rightTurnLanelet.leftBound2d t₂
    rw [rightTurn_left_projection h₀ (h₁₂.trans h₂), rightTurn_left_projection (h₀.trans h₁₂) h₂]
    split_ifs <;> linarith

theorem offsetMonotone_rightTurn_right :
    OffsetMonotone rectilinearGeometry Lanelet.rightBound2d rightTurnLanelet where
  centerline_nonneg := by rw [rightTurn_centerline_length]; norm_num
  start := projectionsInverse_rightTurn_right.start
  finish := projectionsInverse_rightTurn_right.finish
  mono t₁ t₂ h₀ h₁₂ h₂ := by
    rw [rightTurn_centerline_length] at h₂
    show rectilinearGeometry.toArcCoordinatesLength rightTurnLanelet.centerline2d
        (rectilinearGeometry.interpolatedPointAtDistance rightTurnLanelet.centerline2d t₁) ≤
      rectilinearGeometry.toArcCoordinatesLength rightTurnLanelet.centerline2d
        (rectilinearGeometry.interpolatedPointAtDistance rightTurnLanelet.centerline2d t₂)
    rw [rightTurn_right_projection h₀ (h₁₂.trans h₂), rightTurn_right_projection (h₀.trans h₁₂) h₂]
    exact h₁₂

theorem offsetMonotone_rightTurn :
    ∀ it ∈ [rightTurnLanelet], OffsetMonotone rectilinearGeometry Lanelet.leftBound2d it ∧
      OffsetMonotone rectilinearGeometry Lanelet.rightBound2d it := by
  simpa using ⟨offsetMonotone_rightTurn_left, offsetMonotone_rightTurn_right⟩

theorem rightTurn_two_le_sequenceLength :
    2 ≤ sequenceLength rectilinearGeometry Lanelet.centerline2d [rightTurnLanelet] := by
  simp [rightTurn_centerline_length]

/-- On the right-turn lanelet the left bound arc length at `1` is at most the one at `2`. -/
theorem getArcLengthOnBounds_monotone_within_rightTurn :
    (∀ it ∈ [rightTurnLanelet], OffsetMonotone rectilinearGeometry Lanelet.leftBound2d it ∧
        OffsetMonotone rectilinearGeometry Lanelet.rightBound2d it) ∧
      (getArcLengthOnBounds rectilinearGeometry 1 [rightTurnLanelet]).left ≤
        (getArcLengthOnBounds rectilinearGeometry 2 [rightTurnLanelet]).left :=
  ⟨offsetMonotone_rightTurn, ((getArcLengthOnBounds_monotone_within_sequence rectilinearGeometry
    offsetMonotone_rightTurn).1 1 2 (by norm_num) (by norm_num) rightTurn_two_le_sequenceLength).1⟩

/-- On the right-turn lanelet, with a trajectory whose crop is empty and bounds of one point each,
`get_path_bounds` from `1` to `2` returns the two empty crops, not the bounds. -/
theorem getPathBounds_crops_within_rightTurn :
    (∀ it ∈ [rightTurnLanelet], OffsetMonotone rectilinearGeometry Lanelet.leftBound2d it ∧
        OffsetMonotone rectilinearGeometry Lanelet.rightBound2d it) ∧
      [rightTurnLanelet] ≠ [] ∧ (0 : ℚ) ≤ 1 ∧ (1 : ℚ) ≤ 2 ∧
      2 ≤ sequenceLength rectilinearGeometry Lanelet.centerline2d [rightTurnLanelet] ∧
      getPathBounds (⟨some, fun _ _ _ => [], id⟩ : TrajectoryOps (List Point)) rectilinearGeometry
        ⟨fun _ => [default], fun _ => [default]⟩ [rightTurnLanelet] 1 2 = ⟨[], []⟩ :=
  ⟨offsetMonotone_rightTurn, List.cons_ne_nil _ _, by norm_num, by norm_num,
    rightTurn_two_le_sequenceLength, (getPathBounds_crops_within_sequence rectilinearGeometry
      offsetMonotone_rightTurn _ _ (List.cons_ne_nil _ _) (by norm_num) (by norm_num)
      rightTurn_two_le_sequenceLength).2.2⟩

end RightTurn

/-- On the right-turn lanelet, whose projections are non-decreasing on both sides, the left bound
arc length drops from `3` at the end of the sequence (`s = 2`) to `5/2` just past it, and
`get_path_bounds` from `2` to `5/2` returns the whole left bound. -/
theorem getArcLengthOnBounds_drops_past_sequence_end :
    OffsetMonotone rectilinearGeometry Lanelet.leftBound2d rightTurnLanelet ∧
      OffsetMonotone rectilinearGeometry Lanelet.rightBound2d rightTurnLanelet ∧
      (getArcLengthOnBounds rectilinearGeometry 2 [rightTurnLanelet]).left = 3 ∧
      (getArcLengthOnBounds rectilinearGeometry (5 / 2) [rightTurnLanelet]).left = 5 / 2 ∧
      ∀ {T : Type} (B : TrajectoryOps T) (S : SequenceBounds),
        (getPathBounds B rectilinearGeometry S [rightTurnLanelet] 2 (5 / 2)).left =
          S.leftBound [rightTurnLanelet] := by
  have hend : (getArcLengthOnBounds rectilinearGeometry 2 [rightTurnLanelet]).left = 3 := by
    rw [getArcLengthOnBounds_of_nonneg _ (by norm_num),
      boundsSideLoop_of_le _ _ (by rw [rightTurn_centerline_length]; norm_num)]
    show 0 + centerlineToBound rectilinearGeometry rightTurnLanelet rightTurnLanelet.leftBound2d (2 - 0) = 3
    rw [rightTurn_left_projection (by norm_num) (by norm_num), if_neg (by norm_num)]
    norm_num
  have hpast : (getArcLengthOnBounds rectilinearGeometry (5 / 2) [rightTurnLanelet]).left = 5 / 2 := by
    rw [getArcLengthOnBounds_of_nonneg _ (by norm_num)]
    exact boundsSideLoop_of_sequenceLength_lt _ _
      (by simpa using offsetMonotone_rightTurn_left.centerline_nonneg)
      (by simp [rightTurn_centerline_length]; norm_num) 0
  refine ⟨offsetMonotone_rightTurn_left, offsetMonotone_rightTurn_right, hend, hpast, ?_⟩
  intro T B S
  simp only [getPathBounds, List.isEmpty_cons, Bool.false_eq_true, ↓reduceIte]
  exact cropLineString_of_gt B _ (by rw [hend, hpast]; norm_num)

end AutowarePlanning.PathGenerator
