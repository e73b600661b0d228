import AutowarePlanning.Primitives
import Mathlib.Algebra.Order.Floor
import Mathlib.Data.Rat.Floor

/-!
# `motion_velocity_planner_common` utilities

The trajectory helpers of `utils.cpp` the obstacle stop module calls: extending a trajectory past
its goal, decimating it from the ego pose, and the distance helpers of the obstacle filters.

The `while` loop of `get_extended_trajectory_points` is `extendLoop`. It is given a bound on its
iterations, `extendBound`; for a positive step the loop leaves by its own condition before the
bound is spent (the configuration's step length is positive by construction, see
`TrajectoryPolygonCollisionCheck`). `getExtendedTrajectoryPoints_eq` says what the loop pushes:
points at the offsets `extendOffsets`, strictly increasing up to the extension length. The
accumulator starts at `0`, so when one step fits, the first of them sits on the goal point itself
and the output repeats it (`getExtendedTrajectoryPoints_repeats_goal`).
-/

namespace AutowarePlanning.Utils

open AutowarePlanning

variable (P : Primitives)

/-- `extend_trajectory_point`. -/
def extendTrajectoryPoint (extendDistance : ℚ) (goalPoint : TrajectoryPoint)
    (isDrivingForward : Bool) : TrajectoryPoint :=
  { pose := P.calcOffsetPose goalPoint.pose (extendDistance * (if isDrivingForward then 1 else -1)) 0 0
    longitudinalVelocityMps := goalPoint.longitudinalVelocityMps
    lateralVelocityMps := goalPoint.lateralVelocityMps
    accelerationMps2 := goalPoint.accelerationMps2 }

/-- The `while (extend_sum <= extend_distance - step_length)` loop, at most `n` iterations. -/
def extendLoop (goalPoint : TrajectoryPoint) (isDrivingForward : Bool) (extendDistance stepLength : ℚ) :
    ℕ → ℚ → List TrajectoryPoint → List TrajectoryPoint
  | 0, _, outputPoints => outputPoints
  | n + 1, extendSum, outputPoints =>
    if extendSum ≤ extendDistance - stepLength then
      extendLoop goalPoint isDrivingForward extendDistance stepLength n (extendSum + stepLength)
        (outputPoints ++ [extendTrajectoryPoint P extendSum goalPoint isDrivingForward])
    else outputPoints

/-- More iterations than the loop makes for a positive step. -/
def extendBound (extendDistance stepLength : ℚ) : ℕ := ⌈extendDistance / stepLength⌉₊ + 1

/-- `get_extended_trajectory_points`. -/
def getExtendedTrajectoryPoints (inputPoints : List TrajectoryPoint) (extendDistance stepLength : ℚ) :
    List TrajectoryPoint :=
  let isDrivingForward := (P.isDrivingForwardWithTwist inputPoints).getD true
  if extendDistance < doubleEpsilon then inputPoints
  else
    let goalPoint := inputPoints.getLastD default
    extendLoop P goalPoint isDrivingForward extendDistance stepLength
        (extendBound extendDistance stepLength) 0 inputPoints ++
      [extendTrajectoryPoint P extendDistance goalPoint isDrivingForward]

/-- `resample_trajectory_points` of `utils.cpp` (with the orientation re-interpolated). -/
def resampleTrajectoryPoints (trajPoints : List TrajectoryPoint) (interval : ℚ) : List TrajectoryPoint :=
  P.insertOrientationAsSpline (P.resampleTrajectory trajPoints interval)
    (P.isDrivingForward (trajPoints.getD 0 default) (trajPoints.getD 1 default))

/-- `decimate_trajectory_points_from_ego`. -/
def decimateTrajectoryPointsFromEgo (trajPoints : List TrajectoryPoint) (currentPose : Pose)
    (egoNearestDistThreshold egoNearestYawThreshold decimateTrajectoryStepLength
      goalExtendedTrajectoryLength : ℚ) : List TrajectoryPoint :=
  let trajEgoSegIdx := P.findFirstNearestSegmentIndexWithSoftConstraints trajPoints currentPose
    egoNearestDistThreshold egoNearestYawThreshold
  let trajPointsFromEgo := trajPoints.drop trajEgoSegIdx
  let decimatedTrajPointsFromEgo := resampleTrajectoryPoints P trajPointsFromEgo decimateTrajectoryStepLength
  let extendedTrajPointsFromEgo := getExtendedTrajectoryPoints P decimatedTrajPointsFromEgo
    goalExtendedTrajectoryLength decimateTrajectoryStepLength
  if extendedTrajPointsFromEgo.length < 2 then trajPoints else extendedTrajPointsFromEgo

/-- `calc_distance_to_front_object`. -/
def calcDistanceToFrontObject (trajPoints : List TrajectoryPoint) (egoIdx : ℕ) (obstaclePos : Point) :
    Option ℚ :=
  let obstacleIdx := P.findNearestIndex trajPoints obstaclePos
  let egoToObstacleDistance := P.calcSignedArcLength trajPoints egoIdx obstacleIdx
  if egoToObstacleDistance < 0 then none else some egoToObstacleDistance

/-- `calc_object_possible_max_dist_from_center`. -/
def calcObjectPossibleMaxDistFromCenter (shape : Shape) : ℚ :=
  match shape.type with
  | .boundingBox => P.hypot (shape.dimensions.x / 2) (shape.dimensions.y / 2)
  | .cylinder => shape.dimensions.x / 2
  | .polygon => shape.footprint.foldl (fun m relPoint =>
      if m < P.hypot relPoint.x relPoint.y then P.hypot relPoint.x relPoint.y else m) 0

/-- `calc_possible_min_dist_from_obj_to_traj_poly`. -/
def calcPossibleMinDistFromObjToTrajPoly (object : Object) (trajPoints : List TrajectoryPoint)
    (vehicleInfo : VehicleInfo) : ℚ :=
  let objectPossibleMaxDist := calcObjectPossibleMaxDistFromCenter P object.shape
  let egoPossibleMaxDist := P.hypot vehicleInfo.maxLongitudinalOffsetM (vehicleInfo.vehicleWidthM / 2)
  |P.getDistToTrajLateral object trajPoints| - egoPossibleMaxDist - objectPossibleMaxDist

/-- `get_dist_to_traj_poly` of a point: the least distance to the polygons, `⊤` for none. -/
def getDistToTrajPoly (point : Point) (decimatedTrajPolys : List Polygon2d) : WithTop ℚ :=
  decimatedTrajPolys.foldl
    (fun d poly => min d (P.distancePolygonPoint poly (point.x, point.y) : WithTop ℚ)) ⊤

section Extension

/-- The offsets from the goal at which `get_extended_trajectory_points` places its points: the
loop's `extend_sum` values `0, step, 2 step, …` while one more step fits, then `extend_distance`. -/
def extendOffsets (extendDistance stepLength : ℚ) : List ℚ :=
  (List.range ⌊extendDistance / stepLength⌋₊).map (fun j : ℕ => (j : ℚ) * stepLength) ++
    [extendDistance]

variable {extendDistance stepLength : ℚ}

/-- The loop's condition before its `i`-th push: `i + 1` steps fit in the extension. -/
theorem extendSum_le_iff (hstep : 0 < stepLength) (i : ℕ) :
    (i : ℚ) * stepLength ≤ extendDistance - stepLength ↔ i < ⌊extendDistance / stepLength⌋₊ := by
  rw [← Nat.add_one_le_iff, Nat.le_floor_iff' (Nat.succ_ne_zero i), le_div_iff₀ hstep]
  push_cast
  constructor <;> intro h <;> linarith

/-- From its `i`-th iteration, with fuel for the remaining ones, the loop pushes the points at
offsets `i step, …, (k - 1) step`, `k = ⌊extend_distance / step⌋`, and leaves by its condition. -/
theorem extendLoop_eq (hstep : 0 < stepLength) (goalPoint : TrajectoryPoint) (isDrivingForward : Bool)
    (n i : ℕ) (outputPoints : List TrajectoryPoint) (hn : ⌊extendDistance / stepLength⌋₊ ≤ i + n) :
    extendLoop P goalPoint isDrivingForward extendDistance stepLength n (i * stepLength) outputPoints =
      outputPoints ++ (List.range' i (⌊extendDistance / stepLength⌋₊ - i)).map
        (fun j : ℕ => extendTrajectoryPoint P (j * stepLength) goalPoint isDrivingForward) := by
  induction n generalizing i outputPoints with
  | zero => simp [extendLoop, Nat.sub_eq_zero_of_le (by omega : ⌊extendDistance / stepLength⌋₊ ≤ i)]
  | succ n ih =>
    rw [extendLoop]
    by_cases h : i < ⌊extendDistance / stepLength⌋₊
    · have hsum : (i : ℚ) * stepLength + stepLength = ((i + 1 : ℕ) : ℚ) * stepLength := by
        push_cast; ring
      rw [if_pos ((extendSum_le_iff hstep i).mpr h), hsum, ih (i + 1) _ (by omega),
        show ⌊extendDistance / stepLength⌋₊ - i = ⌊extendDistance / stepLength⌋₊ - (i + 1) + 1 by omega,
        List.range'_succ]
      simp
    · rw [if_neg (mt (extendSum_le_iff hstep i).mp h), Nat.sub_eq_zero_of_le (not_lt.mp h)]
      simp

/-- `get_extended_trajectory_points` returns, for a positive step, the input followed by points
along the goal's heading at the offsets `extendOffsets`: the loop leaves by its condition within
`extendBound` iterations. -/
theorem getExtendedTrajectoryPoints_eq (hstep : 0 < stepLength) (hE : doubleEpsilon ≤ extendDistance)
    (inputPoints : List TrajectoryPoint) :
    getExtendedTrajectoryPoints P inputPoints extendDistance stepLength =
      inputPoints ++ (extendOffsets extendDistance stepLength).map (fun d =>
        extendTrajectoryPoint P d (inputPoints.getLastD default)
          ((P.isDrivingForwardWithTwist inputPoints).getD true)) := by
  have hloop := extendLoop_eq P hstep (inputPoints.getLastD default)
    ((P.isDrivingForwardWithTwist inputPoints).getD true) (extendBound extendDistance stepLength) 0
    inputPoints (by simpa [extendBound] using Nat.le_succ_of_le (Nat.floor_le_ceil _))
  rw [Nat.cast_zero, zero_mul] at hloop
  simp only [getExtendedTrajectoryPoints, if_neg (not_lt.mpr hE), hloop, extendOffsets,
    List.range_eq_range', Nat.sub_zero, List.map_append, List.map_map, List.append_assoc]
  rfl

/-- The offsets increase strictly and end at `extend_distance`. -/
theorem extendOffsets_pairwise_lt (hstep : 0 < stepLength) :
    (extendOffsets extendDistance stepLength).Pairwise (· < ·) := by
  refine List.pairwise_append.mpr ⟨?_, List.pairwise_singleton _ _, ?_⟩
  · exact List.pairwise_map.mpr ((List.pairwise_lt_range _).imp fun h =>
      mul_lt_mul_of_pos_right (Nat.cast_lt.mpr h) hstep)
  · simp only [List.mem_map, List.mem_range, List.mem_singleton]
    rintro _ ⟨j, hj, rfl⟩ _ rfl
    linarith [(extendSum_le_iff hstep j).mpr hj]

theorem extendOffsets_getLast? : (extendOffsets extendDistance stepLength).getLast? = some extendDistance := by
  simp [extendOffsets]

/-- For a step that fits in the extension the first offset is `0`: the loop's accumulator starts
at `0`. -/
theorem extendOffsets_head? (hstep : 0 < stepLength) (hle : stepLength ≤ extendDistance) :
    (extendOffsets extendDistance stepLength).head? = some 0 := by
  have h0 : 0 < ⌊extendDistance / stepLength⌋₊ :=
    (extendSum_le_iff hstep 0).mp (by simpa using hle)
  obtain ⟨k, hk⟩ := Nat.exists_eq_add_of_lt h0
  simp [extendOffsets, hk, List.range_succ_eq_map]

/-- With `calc_offset_pose` the identity at a zero offset, the first point after a non-empty
input is the goal point itself whenever one step fits in the extension. -/
theorem getExtendedTrajectoryPoints_repeats_goal (hoff : ∀ p, P.calcOffsetPose p 0 0 0 = p)
    (hstep : 0 < stepLength) (hle : stepLength ≤ extendDistance)
    (hE : doubleEpsilon ≤ extendDistance) {inputPoints : List TrajectoryPoint} (hne : inputPoints ≠ []) :
    (getExtendedTrajectoryPoints P inputPoints extendDistance stepLength)[inputPoints.length]? =
      inputPoints.getLast? := by
  rw [getExtendedTrajectoryPoints_eq P hstep hE, List.getElem?_append_right le_rfl, Nat.sub_self,
    ← List.head?_eq_getElem?, List.head?_map, extendOffsets_head? hstep hle,
    List.getLast?_eq_getLast inputPoints hne]
  simp [extendTrajectoryPoint, hoff, List.getLastD_eq_getLast?, List.getLast?_eq_getLast inputPoints hne]
/-- A one-point trajectory extended by 2 m in 1 m steps, with `calc_offset_pose` a translation:
the goal appears twice. -/
theorem getExtendedTrajectoryPoints_repeats_goal_of_one_point :
    let P₀ : Primitives := { (default : Primitives) with
      calcOffsetPose := fun p dx dy dz =>
        ⟨⟨p.position.x + dx, p.position.y + dy, p.position.z + dz⟩, p.orientation⟩ }
    (∀ p, P₀.calcOffsetPose p 0 0 0 = p) ∧ (0 : ℚ) < 1 ∧ (1 : ℚ) ≤ 2 ∧ doubleEpsilon ≤ 2 ∧
      [(default : TrajectoryPoint)] ≠ [] ∧
      (getExtendedTrajectoryPoints P₀ [default] 2 1)[1]? = some default := by
  intro P₀
  have hoff : ∀ p, P₀.calcOffsetPose p 0 0 0 = p := fun p => by simp [P₀]
  have hE : doubleEpsilon ≤ 2 := by norm_num [doubleEpsilon]
  exact ⟨hoff, one_pos, one_le_two, hE, List.cons_ne_nil _ _,
    getExtendedTrajectoryPoints_repeats_goal P₀ hoff one_pos one_le_two hE (List.cons_ne_nil _ _)⟩

end Extension

end AutowarePlanning.Utils
