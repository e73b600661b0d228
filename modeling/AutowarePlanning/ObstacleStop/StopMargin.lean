import AutowarePlanning.ObstacleStop.Types
import AutowarePlanning.Common.TrajectoryUtils
import Mathlib.Tactic.LinearCombination

/-!
# The desired stop margin

`calc_desired_stop_margin` first picks a default margin: for an oncoming obstacle one that lets
ego coast and then brake, at the end of a trajectory the terminal margin, and otherwise the plain
stop margin. `calc_margin_from_obstacle_on_curve` may then shorten it where ego approaches the
obstacle on a curve, and a behaviour stop point just ahead replaces it by the minimum behaviour
stop margin.

For the oncoming case the coasting time is meant to leave `stop_margin_opposing_traffic` between
ego and the obstacle when ego stops. `oncomingStopMargin_sub_obstacle_travel` computes what it
leaves instead: the distance the obstacle covers while ego brakes enters the coasting time with
the wrong sign, and the gap is short by twice that distance.

The curve adjustment and the behaviour override are meant to shorten the default margin. The
margin never falls below the least of the default and the two configured minimums
(`le_calcDesiredStopMargin`), but two exits return a configured minimum without comparing it with
the default: the curve adjustment when no resampled pose comes within half the vehicle width of
the obstacle, and the behaviour override. The interpolated exit of the curve adjustment divides by
the drop in distance between the two poses around the first crossing; the first-crossing search
makes that drop negative and the interpolation fraction lie in `(0, 1]`.
-/

namespace AutowarePlanning.ObstacleStop

open AutowarePlanning

section DefaultMargin

variable (sp : StopPlanningParam)

/-- `T_coast` of the `default_stop_margin` lambda, for an oncoming obstacle. -/
def coastingTime (vEgo vObs bumperToBumperDistance : ℚ) : ℚ :=
  let aEgo := sp.effectiveDecelerationOpposingTraffic
  let brakingDistance := vEgo * vEgo / (2 * aEgo)
  let stoppingTime := vEgo / aEgo
  let distanceObsEgoBraking := |vObs * stoppingTime|
  let egoStopMargin := sp.stopMarginOpposingTraffic
  let relVel := vEgo - vObs
  max ((bumperToBumperDistance - egoStopMargin - brakingDistance + distanceObsEgoBraking) / relVel) 0

/-- The oncoming branch of the `default_stop_margin` lambda. -/
def oncomingStopMargin (vEgo vObs bumperToBumperDistance : ℚ) : ℚ :=
  if |vEgo - vObs| ≤ 1 / 1000000 then sp.stopMargin
  else
    let brakingDistance := vEgo * vEgo / (2 * sp.effectiveDecelerationOpposingTraffic)
    let stoppingDistance := vEgo * coastingTime sp vEgo vObs bumperToBumperDistance + brakingDistance
    bumperToBumperDistance - stoppingDistance

/-- The `default_stop_margin` lambda of `calc_desired_stop_margin`. -/
def defaultStopMargin (P : Primitives) (vEgo : ℚ) (trajPoints : List TrajectoryPoint)
    (stopObstacle : StopObstacle) (distToCollideOnRefTraj : ℚ) : ℚ :=
  let refTrajLength := P.calcSignedArcLength trajPoints 0 (trajPoints.length - 1)
  if stopObstacle.velocity < sp.maxNegativeVelocity then
    oncomingStopMargin sp vEgo stopObstacle.velocity stopObstacle.distToCollideOnDecimatedTraj
  else if refTrajLength < distToCollideOnRefTraj then sp.terminalStopMargin
  else sp.stopMargin

/-- What the oncoming margin leaves between ego and an obstacle of constant velocity when ego,
coasting and then braking at the opposing-traffic deceleration, comes to rest: the configured
margin less twice the distance the obstacle covers while ego brakes. -/
theorem oncomingStopMargin_sub_obstacle_travel {vEgo vObs S : ℚ} (hvEgo : 0 ≤ vEgo)
    (hvObs : vObs < 0) (ha : 0 < sp.effectiveDecelerationOpposingTraffic)
    (hrel : 1 / 1000000 < |vEgo - vObs|) (hT : 0 < coastingTime sp vEgo vObs S) :
    oncomingStopMargin sp vEgo vObs S -
        |vObs| * (coastingTime sp vEgo vObs S + vEgo / sp.effectiveDecelerationOpposingTraffic) =
      sp.stopMarginOpposingTraffic -
        2 * (|vObs| * (vEgo / sp.effectiveDecelerationOpposingTraffic)) := by
  set a := sp.effectiveDecelerationOpposingTraffic with ha_def
  have hrelPos : vEgo - vObs ≠ 0 := by linarith
  have habs : |vObs * (vEgo / a)| = |vObs| * (vEgo / a) := by
    rw [abs_mul, abs_of_nonneg (div_nonneg hvEgo ha.le)]
  -- ego covers the gap less the margin, its braking distance and the obstacle's travel meanwhile
  have hcoast : (vEgo - vObs) * coastingTime sp vEgo vObs S =
      S - sp.stopMarginOpposingTraffic - vEgo * vEgo / (2 * a) + |vObs| * (vEgo / a) := by
    simp only [coastingTime, ← ha_def, habs] at hT ⊢
    rw [max_eq_left (le_of_lt (lt_max_iff.mp hT |>.resolve_right (lt_irrefl 0))),
      mul_div_cancel₀ _ hrelPos]
  simp only [oncomingStopMargin, not_le.mpr hrel, ↓reduceIte, ← ha_def]
  rw [abs_of_neg hvObs] at hcoast ⊢
  linear_combination -hcoast

/-- Ego at 10 m/s, an obstacle at -2 m/s 100 m ahead, a 1 m/s² deceleration and a 5 m
opposing-traffic margin: ego coasts for 65/12 s, and when it stops the obstacle is 35 m past the
point the margin was to keep free. -/
theorem defaultStopMargin_oncoming_overruns_margin :
    0 < coastingTime
        { (default : StopPlanningParam) with
          maxNegativeVelocity := -1 / 2, effectiveDecelerationOpposingTraffic := 1,
          stopMarginOpposingTraffic := 5 } 10 (-2) 100 ∧
      defaultStopMargin
          { (default : StopPlanningParam) with
            maxNegativeVelocity := -1 / 2, effectiveDecelerationOpposingTraffic := 1,
            stopMarginOpposingTraffic := 5 } default 10 []
          { (default : StopObstacle) with velocity := -2, distToCollideOnDecimatedTraj := 100 } 0 -
        |(-2 : ℚ)| * (coastingTime
          { (default : StopPlanningParam) with
            maxNegativeVelocity := -1 / 2, effectiveDecelerationOpposingTraffic := 1,
            stopMarginOpposingTraffic := 5 } 10 (-2) 100 + 10 / 1) = -35 := by
  have hT : 0 < coastingTime
      { (default : StopPlanningParam) with
        maxNegativeVelocity := -1 / 2, effectiveDecelerationOpposingTraffic := 1,
        stopMarginOpposingTraffic := 5 } 10 (-2) 100 := by
    norm_num [coastingTime]
  refine ⟨hT, ?_⟩
  have hgap := oncomingStopMargin_sub_obstacle_travel _ (by norm_num) (by norm_num) (by norm_num)
    (by norm_num) hT
  simp only [defaultStopMargin, show (-2 : ℚ) < -1 / 2 by norm_num, ↓reduceIte]
  rw [hgap]
  norm_num

end DefaultMargin

section OnCurve

variable (P : Primitives) (cfg : Config)

/-- The backward loop of `calc_margin_from_obstacle_on_curve` that collects the trajectory points
before the obstacle's segment, from index `i` down to `0`, until they span `limit`. -/
def collectShortTrajPoints (trajPoints : List TrajectoryPoint) (limit : ℚ) :
    ℕ → ℚ → List TrajectoryPoint → List TrajectoryPoint
  | 0, _, shortTrajPoints => shortTrajPoints ++ [trajPoints.getD 0 default]
  | i + 1, sumShortTrajLength, shortTrajPoints =>
    let shortTrajPoints := shortTrajPoints ++ [trajPoints.getD (i + 1) default]
    if 1 < shortTrajPoints.length ∧ limit < sumShortTrajLength then shortTrajPoints
    else
      collectShortTrajPoints trajPoints limit i
        (sumShortTrajLength +
          P.calcDistance2d (trajPoints.getD (i + 1) default) (trajPoints.getD (i + 2) default))
        shortTrajPoints

/-- The `calculate_distance_from_straight_ego_path` lambda: the distance from the obstacle's
polygon to the straight segment ahead of a pose. -/
def calcDistanceFromStraightEgoPath (egoPose : Pose) (objectPolygon : Polygon2d) : ℚ :=
  let forwardEgoPose := P.calcOffsetPose egoPose (cfg.stopPlanningParam.stopMargin + 3) 0 0
  P.distanceSegmentPolygon
    ((egoPose.position.x, egoPose.position.y), (forwardEgoPose.position.x, forwardEgoPose.position.y))
    objectPolygon

/-- `resample_trajectory_points` of `obstacle_stop_module.cpp`: `convertToTrajectory`,
`resampleTrajectory`, `convertToTrajectoryPointArray`. Unlike the helper of the same name in
`utils.cpp` (`Utils.resampleTrajectoryPoints`), it keeps the orientation the resampling
interpolates. -/
def resampleTrajectoryPoints (trajPoints : List TrajectoryPoint) (interval : ℚ) :
    List TrajectoryPoint :=
  P.resampleTrajectory trajPoints interval

/-- The short trajectory towards the obstacle of `calc_margin_from_obstacle_on_curve`: the points
the backward loop collects from the obstacle's segment, in trajectory order. -/
def shortTrajPointsOnCurve (trajPoints : List TrajectoryPoint) (stopObstacle : StopObstacle)
    (distToBumper : ℚ) : List TrajectoryPoint :=
  let objSegmentIdx := P.findNearestSegmentIndex trajPoints stopObstacle.collisionPoint
  (collectShortTrajPoints P trajPoints (cfg.stopPlanningParam.stopMargin + distToBumper)
    objSegmentIdx 0 [trajPoints.getD (objSegmentIdx + 1) default]).reverse

/-- The `collision_idx` lambda: the first resampled pose whose straight path comes within half the
vehicle width of the obstacle. -/
def collisionIdx (vehicleInfo : VehicleInfo) (resampledShortTrajPoints : List TrajectoryPoint)
    (objectPolygon : Polygon2d) : Option ℕ :=
  resampledShortTrajPoints.findIdx? fun q =>
    decide (calcDistanceFromStraightEgoPath P cfg q.pose objectPolygon < vehicleInfo.vehicleWidthM / 2)

/-- The `partial_segment_length` lambda: the part of the segment ending at the collision index,
interpolated from the distances at its two ends. -/
def partialSegmentLength (vehicleInfo : VehicleInfo) (resampledShortTrajPoints : List TrajectoryPoint)
    (objectPolygon : Polygon2d) (collisionIdx : ℕ) : ℚ :=
  let collisionSegmentLength := P.calcDistance2d (resampledShortTrajPoints.getD (collisionIdx - 1) default)
    (resampledShortTrajPoints.getD collisionIdx default)
  let prevDist := calcDistanceFromStraightEgoPath P cfg
    (resampledShortTrajPoints.getD (collisionIdx - 1) default).pose objectPolygon
  let nextDist := calcDistanceFromStraightEgoPath P cfg
    (resampledShortTrajPoints.getD collisionIdx default).pose objectPolygon
  (nextDist - vehicleInfo.vehicleWidthM / 2) / (nextDist - prevDist) * collisionSegmentLength

/-- `calc_margin_from_obstacle_on_curve`. -/
def calcMarginFromObstacleOnCurve (vehicleInfo : VehicleInfo) (trajPoints : List TrajectoryPoint)
    (stopObstacle : StopObstacle) (distToBumper defaultStopMargin : ℚ) : ℚ :=
  let sp := cfg.stopPlanningParam
  if !sp.enableApproachingOnCurve || cfg.obstacleFilteringParam.usePointcloud then defaultStopMargin
  else
    let shortTrajPoints := shortTrajPointsOnCurve P cfg trajPoints stopObstacle distToBumper
    if shortTrajPoints.length < 2 then defaultStopMargin
    else
      let resampledShortTrajPoints := resampleTrajectoryPoints P shortTrajPoints (1 / 2)
      let objectPolygon := P.toPolygon2d stopObstacle.pose stopObstacle.shape
      match collisionIdx P cfg vehicleInfo resampledShortTrajPoints objectPolygon with
      | none => sp.minStopMarginOnCurve
      | some 0 => defaultStopMargin
      | some (i + 1) =>
        let shortMarginFromObstacle :=
          partialSegmentLength P cfg vehicleInfo resampledShortTrajPoints objectPolygon (i + 1) +
            P.calcSignedArcLengthToPoint resampledShortTrajPoints (i + 1) stopObstacle.collisionPoint -
            distToBumper + sp.additionalStopMarginOnCurve
        min defaultStopMargin (max sp.minStopMarginOnCurve shortMarginFromObstacle)

/-- `calc_desired_stop_margin`. -/
def calcDesiredStopMargin (pd : PlannerData) (trajPoints : List TrajectoryPoint)
    (stopObstacle : StopObstacle) (distToBumper : ℚ) (egoSegmentIdx : ℕ)
    (distToCollideOnRefTraj : ℚ) : ℚ :=
  let sp := cfg.stopPlanningParam
  let defaultStopMargin := ObstacleStop.defaultStopMargin sp P pd.currentOdometry.twistLinearX
    trajPoints stopObstacle distToCollideOnRefTraj
  let stopMarginOnCurve := calcMarginFromObstacleOnCurve P cfg pd.vehicleInfo trajPoints
    stopObstacle distToBumper defaultStopMargin
  match P.searchZeroVelocityIndex trajPoints (egoSegmentIdx + 1) with
  | none => stopMarginOnCurve
  | some closestBehaviorStopIdx =>
    let stopDistDiff := P.calcSignedArcLength trajPoints 0 closestBehaviorStopIdx -
      (distToCollideOnRefTraj - stopMarginOnCurve)
    if 0 < stopDistDiff ∧ stopDistDiff < stopMarginOnCurve then sp.minBehaviorStopMargin
    else stopMarginOnCurve

theorem min_le_calcMarginFromObstacleOnCurve (vehicleInfo : VehicleInfo)
    (trajPoints : List TrajectoryPoint) (stopObstacle : StopObstacle) (distToBumper D : ℚ) :
    min D cfg.stopPlanningParam.minStopMarginOnCurve ≤
      calcMarginFromObstacleOnCurve P cfg vehicleInfo trajPoints stopObstacle distToBumper D := by
  unfold calcMarginFromObstacleOnCurve
  dsimp only
  split_ifs
  · exact min_le_left _ _
  · exact min_le_left _ _
  · split
    · exact min_le_right _ _
    · exact min_le_left _ _
    · exact le_min (min_le_left _ _) ((min_le_right _ _).trans (le_max_left _ _))

/-- The desired margin is at least the least of the default margin and the two configured
minimums. -/
theorem le_calcDesiredStopMargin (pd : PlannerData) (trajPoints : List TrajectoryPoint)
    (stopObstacle : StopObstacle) (distToBumper : ℚ) (egoSegmentIdx : ℕ)
    (distToCollideOnRefTraj : ℚ) :
    min (min (defaultStopMargin cfg.stopPlanningParam P pd.currentOdometry.twistLinearX trajPoints
          stopObstacle distToCollideOnRefTraj) cfg.stopPlanningParam.minStopMarginOnCurve)
        cfg.stopPlanningParam.minBehaviorStopMargin ≤
      calcDesiredStopMargin P cfg pd trajPoints stopObstacle distToBumper egoSegmentIdx
        distToCollideOnRefTraj := by
  have h := min_le_calcMarginFromObstacleOnCurve P cfg pd.vehicleInfo trajPoints stopObstacle
    distToBumper (defaultStopMargin cfg.stopPlanningParam P pd.currentOdometry.twistLinearX
      trajPoints stopObstacle distToCollideOnRefTraj)
  unfold calcDesiredStopMargin
  dsimp only
  split
  · exact (min_le_left _ _).trans h
  · split_ifs
    · exact min_le_right _ _
    · exact (min_le_left _ _).trans h

/-- The curve adjustment enabled, an obstacle beyond the end of the reference trajectory, every
resampled pose 10 m from it and a 2 m wide vehicle: the default margin is the 3 m terminal margin,
no pose crosses, and the desired margin is the 4 m minimum on curve, although that minimum is below
the 5 m stop margin. -/
theorem calcDesiredStopMargin_exceeds_default_without_crossing :
    defaultStopMargin
        { (default : StopPlanningParam) with
          enableApproachingOnCurve := true, stopMargin := 5, terminalStopMargin := 3,
          minStopMarginOnCurve := 4 }
        { (default : Primitives) with
          resampleTrajectory := fun pts _ => pts, insertOrientationAsSpline := fun pts _ => pts,
          distanceSegmentPolygon := fun _ _ => 10, searchZeroVelocityIndex := fun _ _ => none }
        0 [default, default] default 1 = 3 ∧
      calcDesiredStopMargin
        { (default : Primitives) with
          resampleTrajectory := fun pts _ => pts, insertOrientationAsSpline := fun pts _ => pts,
          distanceSegmentPolygon := fun _ _ => 10, searchZeroVelocityIndex := fun _ _ => none }
        { (default : Config) with
          stopPlanningParam :=
            { (default : StopPlanningParam) with
              enableApproachingOnCurve := true, stopMargin := 5, terminalStopMargin := 3,
              minStopMarginOnCurve := 4 } }
        { (default : PlannerData) with
          vehicleInfo := { (default : VehicleInfo) with vehicleWidthM := 2 } }
        [default, default] default 0 0 1 = 4 := by
  constructor
  · unfold defaultStopMargin
    exact (if_neg (lt_irrefl (0 : ℚ))).trans (if_pos zero_lt_one)
  · simp [calcDesiredStopMargin, calcMarginFromObstacleOnCurve, shortTrajPointsOnCurve,
      collectShortTrajPoints, resampleTrajectoryPoints, collisionIdx, calcDistanceFromStraightEgoPath]

end OnCurve

section Interpolation

/-- The search for the first pose below a threshold, found at a positive index: the pose before
it is at or above the threshold, the pose at it below. -/
theorem first_crossing_of_findIdx? {rs : List TrajectoryPoint} {f : TrajectoryPoint → ℚ} {t : ℚ}
    {i : ℕ} (h : rs.findIdx? (fun q => decide (f q < t)) = some (i + 1)) :
    t ≤ f (rs.getD i default) ∧ f (rs.getD (i + 1) default) < t := by
  obtain ⟨hlt, hp, hprev⟩ := List.findIdx?_eq_some_iff_getElem.mp h
  have hi : i < rs.length := by omega
  constructor
  · simpa [List.getD_eq_getElem?_getD, List.getElem?_eq_getElem hi] using hprev i (Nat.lt_succ_self i)
  · simpa [List.getD_eq_getElem?_getD, List.getElem?_eq_getElem hlt] using hp

theorem interpolation_fraction_mem {prev next t : ℚ} (hprev : t ≤ prev) (hnext : next < t) :
    next - prev < 0 ∧ 0 < (next - t) / (next - prev) ∧ (next - t) / (next - prev) ≤ 1 :=
  ⟨by linarith, div_pos_of_neg_of_neg (by linarith) (by linarith),
    (div_le_one_of_neg (by linarith)).mpr (by linarith)⟩

variable (P : Primitives) (cfg : Config)

/-- Where `calc_margin_from_obstacle_on_curve` interpolates, at the collision index `i + 1` the
first-crossing search finds, the margin it returns is built from `partial_segment_length`. The
distance to the obstacle drops from the pose before the crossing to the pose at it, the
interpolation fraction lies in `(0, 1]`, and the partial segment lies within the collision
segment. -/
theorem partialSegmentLength_within_collision_segment (hdist : ∀ a b, 0 ≤ P.calcDistance2d a b)
    {vehicleInfo : VehicleInfo} {trajPoints : List TrajectoryPoint} {stopObstacle : StopObstacle}
    {distToBumper : ℚ} (defaultStopMargin : ℚ) {i : ℕ}
    (henable : cfg.stopPlanningParam.enableApproachingOnCurve = true)
    (hpc : cfg.obstacleFilteringParam.usePointcloud = false)
    (hshort : 2 ≤ (shortTrajPointsOnCurve P cfg trajPoints stopObstacle distToBumper).length)
    (hidx : collisionIdx P cfg vehicleInfo
      (resampleTrajectoryPoints P (shortTrajPointsOnCurve P cfg trajPoints stopObstacle distToBumper)
        (1 / 2)) (P.toPolygon2d stopObstacle.pose stopObstacle.shape) = some (i + 1)) :
    let rs := resampleTrajectoryPoints P
      (shortTrajPointsOnCurve P cfg trajPoints stopObstacle distToBumper) (1 / 2)
    let objectPolygon := P.toPolygon2d stopObstacle.pose stopObstacle.shape
    let prevDist := calcDistanceFromStraightEgoPath P cfg (rs.getD i default).pose objectPolygon
    let nextDist := calcDistanceFromStraightEgoPath P cfg (rs.getD (i + 1) default).pose objectPolygon
    let fraction := (nextDist - vehicleInfo.vehicleWidthM / 2) / (nextDist - prevDist)
    calcMarginFromObstacleOnCurve P cfg vehicleInfo trajPoints stopObstacle distToBumper
        defaultStopMargin =
      min defaultStopMargin (max cfg.stopPlanningParam.minStopMarginOnCurve
        (partialSegmentLength P cfg vehicleInfo rs objectPolygon (i + 1) +
          P.calcSignedArcLengthToPoint rs (i + 1) stopObstacle.collisionPoint - distToBumper +
          cfg.stopPlanningParam.additionalStopMarginOnCurve)) ∧
      nextDist - prevDist < 0 ∧ 0 < fraction ∧ fraction ≤ 1 ∧
      0 ≤ partialSegmentLength P cfg vehicleInfo rs objectPolygon (i + 1) ∧
      partialSegmentLength P cfg vehicleInfo rs objectPolygon (i + 1) ≤
        P.calcDistance2d (rs.getD i default) (rs.getD (i + 1) default) := by
  intro rs objectPolygon prevDist nextDist fraction
  obtain ⟨hprev, hnext⟩ := first_crossing_of_findIdx? hidx
  obtain ⟨hden, hpos, hle⟩ := interpolation_fraction_mem hprev hnext
  have hc := hdist (rs.getD i default) (rs.getD (i + 1) default)
  have hpartial : partialSegmentLength P cfg vehicleInfo rs objectPolygon (i + 1) =
      fraction * P.calcDistance2d (rs.getD i default) (rs.getD (i + 1) default) := rfl
  refine ⟨?_, hden, hpos, hle, hpartial ▸ mul_nonneg hpos.le hc,
    hpartial ▸ mul_le_of_le_one_left hc hle⟩
  simp only [calcMarginFromObstacleOnCurve, henable, hpc, Bool.not_true, Bool.or_false,
    Bool.false_eq_true, ↓reduceIte, if_neg (not_lt.mpr hshort)]
  rw [hidx]

/-- An obstacle whose distance reads as the ego pose's x coordinate, on the first segment of a
two-point trajectory from `x = 5` to `x = 0`, for a 2 m wide vehicle: the search crosses at index
`1`, and the partial segment, `1`, lies within the collision segment of length `5`. -/
theorem partialSegmentLength_within_collision_segment_at_first_crossing :
    let P₀ : Primitives := { (default : Primitives) with
      distanceSegmentPolygon := fun s _ => s.1.1
      calcDistance2d := fun a b => |a.pose.position.x - b.pose.position.x|
      resampleTrajectory := fun pts _ => pts
      findNearestSegmentIndex := fun _ _ => 0 }
    let cfg₀ : Config := { (default : Config) with
      stopPlanningParam := { (default : StopPlanningParam) with enableApproachingOnCurve := true } }
    let vehicleInfo : VehicleInfo := { (default : VehicleInfo) with vehicleWidthM := 2 }
    let trajPoints : List TrajectoryPoint :=
      [{ (default : TrajectoryPoint) with pose := { (default : Pose) with position := ⟨5, 0, 0⟩ } },
        { (default : TrajectoryPoint) with pose := { (default : Pose) with position := ⟨0, 0, 0⟩ } }]
    2 ≤ (shortTrajPointsOnCurve P₀ cfg₀ trajPoints default 0).length ∧
      collisionIdx P₀ cfg₀ vehicleInfo (resampleTrajectoryPoints P₀ trajPoints (1 / 2))
        (P₀.toPolygon2d (default : StopObstacle).pose (default : StopObstacle).shape) = some (0 + 1) ∧
      partialSegmentLength P₀ cfg₀ vehicleInfo (resampleTrajectoryPoints P₀ trajPoints (1 / 2))
          (P₀.toPolygon2d (default : StopObstacle).pose (default : StopObstacle).shape) (0 + 1) ≤
        P₀.calcDistance2d (trajPoints.getD 0 default) (trajPoints.getD (0 + 1) default) := by
  intro P₀ cfg₀ vehicleInfo trajPoints
  have hshortEq : shortTrajPointsOnCurve P₀ cfg₀ trajPoints default 0 = trajPoints := by
    simp [shortTrajPointsOnCurve, collectShortTrajPoints, P₀, trajPoints]
  have hshort : 2 ≤ (shortTrajPointsOnCurve P₀ cfg₀ trajPoints default 0).length := by
    rw [hshortEq]
    decide
  have hidx : collisionIdx P₀ cfg₀ vehicleInfo (resampleTrajectoryPoints P₀ trajPoints (1 / 2))
      (P₀.toPolygon2d (default : StopObstacle).pose (default : StopObstacle).shape) = some (0 + 1) := by
    simp [collisionIdx, resampleTrajectoryPoints, calcDistanceFromStraightEgoPath, P₀, trajPoints,
      vehicleInfo]
  have h := @partialSegmentLength_within_collision_segment P₀ cfg₀ (fun _ _ => abs_nonneg _)
    vehicleInfo trajPoints default 0 0 0 rfl rfl hshort (by rw [hshortEq]; exact hidx)
  rw [hshortEq] at h
  exact ⟨hshort, hidx, h.2.2.2.2.2⟩

end Interpolation

end AutowarePlanning.ObstacleStop
