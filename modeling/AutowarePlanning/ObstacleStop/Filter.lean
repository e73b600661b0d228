import AutowarePlanning.ObstacleStop.Closest
import AutowarePlanning.Common.TrajectoryUtils

/-!
# Filtering predicted objects into stop obstacles

`filter_stop_obstacle_for_predicted_object` and everything it calls: the rough gates, the
precise lateral gate, the collision search with the margin-keyed polygon table, the cut-in and
crossing checks, the fixed-stop hysteresis, and the cross-cycle re-admission of
`check_consistency`.

`pick_stop_obstacle_from_predicted_object` is split at its last decision: `pickCollisionPoint` is
everything up to the collision point an obstacle is stopped for, `stopObstacleOfDecision` the
choice between a fixed stop and an RSS stop. The polygon tables (`trajectory_polygon_for_inside_map_`
and `decimated_traj_polys_`) are threaded through the loop as `PolygonTables`.
-/

namespace AutowarePlanning.ObstacleStop

open AutowarePlanning

/-- `rclcpp::Duration::from_seconds`, truncated to nanoseconds. -/
def fromSeconds (s : ℚ) : ℤ :=
  if 0 ≤ s * 1000000000 then (s * 1000000000).floor else (s * 1000000000).ceil

section Helpers

variable (P : Primitives)

/-- The lambda of `calc_estimation_time`; `none` is `std::numeric_limits<double>::infinity()`. -/
def equivalentEstimationTime (predictedObject : Object) (deceleration : ℚ) : Option ℚ :=
  if deceleration ≤ doubleEpsilon then none
  else some (P.hypot predictedObject.initialTwistLinearX predictedObject.initialTwistLinearY *
    (1 / 2) / deceleration)

/-- `std::clamp` of a time that may be infinite: infinity clamps to the upper bound. -/
def clampTime (t : Option ℚ) (lo hi : ℚ) : ℚ := (t.map (stdClamp · lo hi)).getD hi

/-- `calc_estimation_time`. -/
def calcEstimationTime (predictedObject : Object) (p : ObstacleFilteringParam) : ℚ :=
  let objLabel := predictedObject.classification.label
  if !isInVector objLabel p.outsideStopObjectTypes then 0
  else if objLabel = ObjectClassification.PEDESTRIAN then
    clampTime (equivalentEstimationTime P predictedObject p.outsidePedestrianDeceleration) 0
      p.outsideEstimationTimeHorizon
  else if objLabel = ObjectClassification.BICYCLE then
    clampTime (equivalentEstimationTime P predictedObject p.outsideBicycleDeceleration) 0
      p.outsideEstimationTimeHorizon
  else p.outsideEstimationTimeHorizon

/-- `calc_dist_to_bumper`. -/
def calcDistToBumper (isDrivingForward : Bool) (vehicleInfo : VehicleInfo) : ℚ :=
  if isDrivingForward then |vehicleInfo.maxLongitudinalOffsetM| else |vehicleInfo.minLongitudinalOffsetM|

/-- `calc_time_to_reach_collision_point`. -/
def calcTimeToReachCollisionPoint (odometry : Odometry) (collisionPoint : Point)
    (trajPoints : List TrajectoryPoint) (distToBumper minVelocityToReachCollisionPoint : ℚ) : ℚ :=
  let distFromEgoToObstacle :=
    |P.calcSignedArcLengthBetweenPoints trajPoints odometry.pose.position collisionPoint| - distToBumper
  distFromEgoToObstacle / max minVelocityToReachCollisionPoint |odometry.twistLinearX|

/-- `calc_braking_dist`. -/
def calcBrakingDist (objLabel : UInt8) (lonVel : ℚ) (rssParams : RSSParam) : ℚ :=
  let brakingAcc :=
    if objLabel = ObjectClassification.UNKNOWN ∨ objLabel = ObjectClassification.PEDESTRIAN then
      rssParams.noWheelObjectsDeceleration
    else if objLabel = ObjectClassification.BICYCLE ∨ objLabel = ObjectClassification.MOTORCYCLE then
      rssParams.twoWheelObjectsDeceleration
    else rssParams.vehicleObjectsDeceleration
  let errorConsideredVel := max (lonVel + rssParams.velocityOffset) 0
  errorConsideredVel * errorConsideredVel * (1 / 2) / -brakingAcc

/-- `resample_highest_confidence_predicted_paths`. -/
def resampleHighestConfidencePredictedPaths (predictedPaths : List PredictedPath)
    (timeInterval timeHorizon : ℚ) (numPaths : ℕ) : List PredictedPath :=
  let selectedPaths := (P.sortByDescendingConfidence predictedPaths).take numPaths
  (selectedPaths.filter fun path => !(path.path.length < 2)).map
    fun path => P.resamplePredictedPath path timeInterval timeHorizon

end Helpers

/-- `trajectory_polygon_for_inside_map_` and `decimated_traj_polys_`. -/
abbrev PolygonTables := List (ℚ × List Polygon2d) × Option (List Polygon2d)

section Polygons

variable (P : Primitives)

/-- `get_trajectory_polygon`: the table is keyed by the lateral margin alone. -/
def getTrajectoryPolygon (tables : PolygonTables) (decimatedTrajPoints : List TrajectoryPoint)
    (vehicleInfo : VehicleInfo) (currentEgoPose : Pose) (latMargin : ℚ)
    (enableToConsiderCurrentPose : Bool) (timeToConvergence decimateTrajectoryStepLength : ℚ) :
    List Polygon2d × PolygonTables :=
  match tables.1.lookup latMargin with
  | some trajPolys => (trajPolys, tables)
  | none =>
    let trajPolys := P.createOneStepPolygons decimatedTrajPoints vehicleInfo currentEgoPose latMargin
      enableToConsiderCurrentPose timeToConvergence decimateTrajectoryStepLength
    (trajPolys, (tables.1 ++ [(latMargin, trajPolys)], tables.2))

/-- `get_decimated_traj_polys`: zero-margin polygons of a trajectory decimated from ego. -/
def getDecimatedTrajPolys (tables : PolygonTables) (trajPoints : List TrajectoryPoint)
    (currentPose : Pose) (vehicleInfo : VehicleInfo) (egoNearestDistThreshold egoNearestYawThreshold : ℚ)
    (p : TrajectoryPolygonCollisionCheck) : List Polygon2d × PolygonTables :=
  match tables.2 with
  | some polys => (polys, tables)
  | none =>
    let decimatedTrajPoints := Utils.decimateTrajectoryPointsFromEgo P trajPoints currentPose
      egoNearestDistThreshold egoNearestYawThreshold p.decimateTrajectoryStepLength
      p.goalExtendedTrajectoryLength
    let polys := P.createOneStepPolygons decimatedTrajPoints vehicleInfo currentPose 0
      p.enableToConsiderCurrentPose p.timeToConvergence p.decimateTrajectoryStepLength
    (polys, (tables.1, some polys))

end Polygons

section Pick

variable (P : Primitives) (cfg : Config)

/-- `utils::get_obstacle_from_uuid`, a header helper not under src/: the first obstacle with the
given UUID (`std::find_if`). -/
def getObstacleFromUuid (obstacles : List StopObstacle) (targetUuid : String) : Option StopObstacle :=
  obstacles.find? fun o => o.uuid = targetUuid

/-- `is_obstacle_velocity_requiring_fixed_stop`: exit threshold for an object that caused a fixed
stop last cycle, enter threshold otherwise. -/
def isObstacleVelocityRequiringFixedStop (prevStopObstacles : List StopObstacle) (object : Object)
    (trajPoints : List TrajectoryPoint) : Bool :=
  let stopObstacleOpt := getObstacleFromUuid prevStopObstacles object.objectId
  let isPrevObjectRequiresFixedStop :=
    stopObstacleOpt.isSome && (stopObstacleOpt.bind (·.brakingDist)).isNone
  if isPrevObjectRequiresFixedStop then
    !(cfg.stopPlanningParam.obstacleVelocityThresholdExitFixedStop <
      P.getLonVelRelativeToTraj object trajPoints)
  else
    P.getLonVelRelativeToTraj object trajPoints < cfg.stopPlanningParam.obstacleVelocityThresholdEnterFixedStop

/-- `is_crossing_transient_obstacle`. -/
def isCrossingTransientObstacle (pd : PlannerData) (decimatedTrajPoints : List TrajectoryPoint)
    (object : Object) (distToBumper : ℚ) (decimatedTrajPolysWithLatMargin : List Polygon2d)
    (collisionPoint : Point × ℚ) : Bool :=
  let p := cfg.obstacleFilteringParam
  let diffAngle := P.calcDiffAngleAgainstTrajectory pd.trajectory object.initialPose
  let nearZero := -p.crossingObstacleTrajAngleThreshold < diffAngle ∧
    diffAngle < p.crossingObstacleTrajAngleThreshold
  let nearPi := mPi - p.crossingObstacleTrajAngleThreshold < |diffAngle| ∧
    |diffAngle| < mPi + p.crossingObstacleTrajAngleThreshold
  if nearZero ∨ nearPi then false
  else
    let timeToReachStopPoint := calcTimeToReachCollisionPoint P pd.currentOdometry collisionPoint.1
      pd.trajectory (cfg.stopPlanningParam.minBehaviorStopMargin + distToBumper)
      p.minVelocityToReachCollisionPoint
    if timeToReachStopPoint ≤ p.crossingObstacleCollisionTimeMargin then false
    else
      match resampleHighestConfidencePredictedPaths P object.predictedPaths (1 / 10) 10 1 with
      | [] => false
      | front :: _ =>
        match front.path.getLast? with
        | none => false
        | some back =>
          let futureObjPose := (P.calcInterpolatedPose front
            (timeToReachStopPoint - p.crossingObstacleCollisionTimeMargin)).getD back
          let futureCollisionPoint := P.getCollisionPoint decimatedTrajPoints
            decimatedTrajPolysWithLatMargin futureObjPose.position pd.now
            (P.toPolygon2d futureObjPose object.shape) distToBumper
          futureCollisionPoint.isNone

/-- `check_outside_cut_in_obstacle`. -/
def checkOutsideCutInObstacle (pd : PlannerData) (object : Object)
    (decimatedTrajPoints : List TrajectoryPoint) (decimatedTrajPolysWithLatMargin : List Polygon2d)
    (distToBumper estimationTime : ℚ) : Option (Point × ℚ) :=
  if cfg.obstacleFilteringParam.outsideMaxLateralVelocity <
      |P.getLatVelRelativeToTraj object pd.trajectory| then none
  else
    let currentObjPose := P.getPredictedCurrentPose object pd.now pd.predictedObjectsStamp
    let futureObjPose :=
      P.calcPredictedPose object (pd.now + fromSeconds estimationTime) pd.predictedObjectsStamp
    let convexPoly := P.convexHull
      (P.toPolygon2d currentObjPose object.shape ++ P.toPolygon2d futureObjPose object.shape)
    match P.getCollisionPoint decimatedTrajPoints decimatedTrajPolysWithLatMargin
        futureObjPose.position pd.now convexPoly distToBumper with
    | some collisionPoint => if collisionPoint.2 < 0 then none else some collisionPoint
    | none => none

/-- The lateral gate of `pick_stop_obstacle_from_predicted_object`: the margin is floored at
`1e-3` because it may be configured negative. -/
def preciseLateralGatePasses (object : Object) (trajPoints : List TrajectoryPoint)
    (distFromObjPolyToTrajPoly : ℚ) : Bool :=
  let p := cfg.obstacleFilteringParam
  let maxLatMargin := getMaxLatMargin p object.classification.label
  !(max maxLatMargin (1 / 1000) ≤ distFromObjPolyToTrajPoly -
      max (P.getLatVelRelativeToTraj object trajPoints * calcEstimationTime P object p) 0)

/-- The collision checks of `pick_stop_obstacle_from_predicted_object` against the trajectory
polygons with lateral margin: the inside collision, the cut-in check for an outside type, and the
crossing filter. -/
def collisionPointAgainst (pd : PlannerData) (decimatedTrajPoints : List TrajectoryPoint)
    (object : Object) (distToBumper : ℚ) (decimatedTrajPolysWithLatMargin : List Polygon2d) :
    Option (Point × ℚ) :=
  let p := cfg.obstacleFilteringParam
  let objPose := P.getPredictedCurrentPose object pd.now pd.predictedObjectsStamp
  let estimationTime := calcEstimationTime P object p
  let collisionPoint :=
    match P.getCollisionPoint decimatedTrajPoints decimatedTrajPolysWithLatMargin objPose.position
        pd.now (P.toPolygon2d objPose object.shape) distToBumper with
    | some collisionPoint => some collisionPoint
    | none =>
      if isInVector object.classification.label p.outsideStopObjectTypes then
        checkOutsideCutInObstacle P cfg pd object decimatedTrajPoints decimatedTrajPolysWithLatMargin
          distToBumper estimationTime
      else none
  match collisionPoint with
  | none => none
  | some collisionPoint =>
    if cfg.ignoreCrossingObstacle &&
        isCrossingTransientObstacle P cfg pd decimatedTrajPoints object distToBumper
          decimatedTrajPolysWithLatMargin collisionPoint then none
    else some collisionPoint

/-- `pick_stop_obstacle_from_predicted_object` up to its last decision: the collision point the
object would be stopped for, if it passes the label and lateral gates and the collision checks. -/
def pickCollisionPoint (pd : PlannerData) (decimatedTrajPoints : List TrajectoryPoint)
    (object : Object) (distFromObjPolyToTrajPoly distToBumper : ℚ) (tables : PolygonTables) :
    Option (Point × ℚ) × PolygonTables :=
  let p := cfg.obstacleFilteringParam
  let objLabel := object.classification.label
  if !isInVector objLabel p.insideStopObjectTypes then (none, tables)
  else if !preciseLateralGatePasses P cfg object pd.trajectory distFromObjPolyToTrajPoly then
    (none, tables)
  else
    let tp := pd.trajectoryPolygonCollisionCheck
    let r := getTrajectoryPolygon P tables decimatedTrajPoints pd.vehicleInfo
      pd.currentOdometry.pose (getMaxLatMargin p objLabel) tp.enableToConsiderCurrentPose
      tp.timeToConvergence tp.decimateTrajectoryStepLength
    (collisionPointAgainst P cfg pd decimatedTrajPoints object distToBumper r.1, r.2)

/-- The last decision of `pick_stop_obstacle_from_predicted_object`: a fixed stop, an RSS stop
with its braking distance, or none. -/
def stopObstacleOfDecision (prevStopObstacles : List StopObstacle) (pd : PlannerData)
    (object : Object) (collisionPoint : Point × ℚ) : Option StopObstacle :=
  let objPose := P.getPredictedCurrentPose object pd.now pd.predictedObjectsStamp
  let lonVel := P.getLonVelRelativeToTraj object pd.trajectory
  if isObstacleVelocityRequiringFixedStop P cfg prevStopObstacles object pd.trajectory then
    some ⟨object.objectId, pd.predictedObjectsStamp, object.classification, objPose, object.shape,
      lonVel, collisionPoint.1, collisionPoint.2, none⟩
  else if cfg.stopPlanningParam.rssParams.useRssStop then
    some ⟨object.objectId, pd.predictedObjectsStamp, object.classification, objPose, object.shape,
      lonVel, collisionPoint.1, collisionPoint.2,
      some (calcBrakingDist object.classification.label lonVel cfg.stopPlanningParam.rssParams)⟩
  else none

/-- `pick_stop_obstacle_from_predicted_object`. -/
def pickStopObstacleFromPredictedObject (prevStopObstacles : List StopObstacle) (pd : PlannerData)
    (decimatedTrajPoints : List TrajectoryPoint) (object : Object)
    (distFromObjPolyToTrajPoly distToBumper : ℚ) (tables : PolygonTables) :
    Option StopObstacle × PolygonTables :=
  let r := pickCollisionPoint P cfg pd decimatedTrajPoints object distFromObjPolyToTrajPoly
    distToBumper tables
  (r.1.bind (stopObstacleOfDecision P cfg prevStopObstacles pd object), r.2)

/-- The rough lateral gate of `filter_stop_obstacle_for_predicted_object`: a lower bound of the
distance to the swept polygons, reduced by the approach over the outside estimation horizon. -/
def roughLateralGatePasses (object : Object) (trajPoints : List TrajectoryPoint)
    (vehicleInfo : VehicleInfo) : Bool :=
  let p := cfg.obstacleFilteringParam
  !(getMaxLatMargin p object.classification.label <
    Utils.calcPossibleMinDistFromObjToTrajPoly P object trajPoints vehicleInfo -
      max (P.getLatVelRelativeToTraj object trajPoints * p.outsideEstimationTimeHorizon) 0)

/-- The rough gates of `filter_stop_obstacle_for_predicted_object`: in front of ego, then the
rough lateral gate. -/
def roughGatesPass (pd : PlannerData) (object : Object) : Bool :=
  !(P.getDistFromEgoLongitudinal object pd.trajectory pd.currentOdometry.pose.position < 0) &&
    roughLateralGatePasses P cfg object pd.trajectory pd.vehicleInfo

/-- One iteration of the object loop of `filter_stop_obstacle_for_predicted_object`. -/
def filterStep (prevStopObstacles : List StopObstacle) (pd : PlannerData)
    (decimatedTrajPoints : List TrajectoryPoint) (distToBumper : ℚ)
    (acc : List StopObstacle × PolygonTables) (object : Object) : List StopObstacle × PolygonTables :=
  if !roughGatesPass P cfg pd object then acc
  else
    let d := getDecimatedTrajPolys P acc.2 pd.trajectory pd.currentOdometry.pose pd.vehicleInfo
      pd.egoNearestDistThreshold pd.egoNearestYawThreshold pd.trajectoryPolygonCollisionCheck
    let distFromObjToTrajPoly := P.getDistToTrajPoly object d.1
    let r := pickStopObstacleFromPredictedObject P cfg prevStopObstacles pd decimatedTrajPoints object
      distFromObjToTrajPoly distToBumper d.2
    match r.1 with
    | some stopObstacle => (acc.1 ++ [stopObstacle], r.2)
    | none => (acc.1, r.2)

end Pick

section Consistency

variable (cfg : Config)

/-- One iteration of `check_consistency`: a previous closest obstacle missing from this cycle's
candidates comes back if its object is still perceived, slow, and was stamped recently. -/
def readmitStep (currentTime : Time) (objects : List Object) (stopObstacles : List StopObstacle)
    (prevClosestStopObstacle : StopObstacle) : List StopObstacle :=
  match objects.find? (fun o => o.objectId = prevClosestStopObstacle.uuid) with
  | none => stopObstacles
  | some object =>
    if stopObstacles.all (fun so => so.uuid ≠ prevClosestStopObstacle.uuid) then
      let elapsedTime := seconds (currentTime - prevClosestStopObstacle.stamp)
      if object.initialTwistLinearX < cfg.stopPlanningParam.obstacleVelocityThresholdEnterFixedStop ∧
          elapsedTime < cfg.obstacleFilteringParam.stopObstacleHoldTimeThreshold then
        stopObstacles ++ [prevClosestStopObstacle]
      else stopObstacles
    else stopObstacles

/-- `check_consistency`: the completed candidate list and the new `prev_closest_stop_obstacles_`. -/
def checkConsistency (currentTime : Time) (objects : List Object)
    (prevClosestStopObstacles stopObstacles : List StopObstacle) :
    List StopObstacle × List StopObstacle :=
  let stopObstacles := prevClosestStopObstacles.foldl (readmitStep cfg currentTime objects) stopObstacles
  (stopObstacles, getClosestStopObstacles stopObstacles)

end Consistency

/-- `filter_stop_obstacle_for_predicted_object`, with the module state it reads and writes. -/
def filterStopObstacleForPredictedObject {B : Type} (P : Primitives) (cfg : Config)
    (pd : PlannerData) (decimatedTrajPoints : List TrajectoryPoint) (distToBumper : ℚ)
    (m : ObstacleStopModule B) : List StopObstacle × ObstacleStopModule B :=
  let r := pd.objects.foldl (filterStep P cfg m.prevStopObstacles pd decimatedTrajPoints distToBumper)
    ([], (m.trajectoryPolygonForInsideMap, m.decimatedTrajPolys))
  let c := checkConsistency cfg pd.predictedObjectsStamp pd.objects m.prevClosestStopObstacles r.1
  (c.1, { m with prevStopObstacles := c.1, prevClosestStopObstacles := c.2,
                 trajectoryPolygonForInsideMap := r.2.1, decimatedTrajPolys := r.2.2 })


section LateralGates

variable (P : Primitives) (cfg : Config)

theorem stdClamp_mem {v lo hi : ℚ} (h : lo ≤ hi) : lo ≤ stdClamp v lo hi ∧ stdClamp v lo hi ≤ hi := by
  unfold stdClamp
  split_ifs with h1 h2
  · exact ⟨le_rfl, h⟩
  · exact ⟨h, le_rfl⟩
  · exact ⟨not_lt.mp h1, not_lt.mp h2⟩

/-- The estimation time of every label lies in `[0, outside_estimation_time_horizon]`. -/
theorem calcEstimationTime_mem (object : Object) (p : ObstacleFilteringParam)
    (hh : 0 ≤ p.outsideEstimationTimeHorizon) :
    0 ≤ calcEstimationTime P object p ∧ calcEstimationTime P object p ≤ p.outsideEstimationTimeHorizon := by
  have hc : ∀ t, 0 ≤ clampTime t 0 p.outsideEstimationTimeHorizon ∧
      clampTime t 0 p.outsideEstimationTimeHorizon ≤ p.outsideEstimationTimeHorizon := by
    intro t
    cases t with
    | none => exact ⟨hh, le_rfl⟩
    | some v => exact stdClamp_mem hh
  dsimp only [calcEstimationTime]
  split_ifs
  · exact ⟨le_rfl, hh⟩
  · exact hc _
  · exact hc _
  · exact ⟨hh, le_rfl⟩

theorem max_mul_le_max_mul {v e h : ℚ} (he : 0 ≤ e) (heh : e ≤ h) : max (v * e) 0 ≤ max (v * h) 0 := by
  rcases le_or_lt 0 v with hv | hv
  · exact max_le_max (mul_le_mul_of_nonneg_left heh hv) le_rfl
  · exact max_le (le_max_of_le_right (mul_nonpos_of_nonpos_of_nonneg hv.le he)) (le_max_right _ _)

/-- For a margin of at least `1e-3`, the rough lateral gate keeps every object the precise gate
keeps, given that its distance is a lower bound of the precise one. -/
theorem roughLateralGatePasses_of_precise (object : Object) (trajPoints : List TrajectoryPoint)
    (vehicleInfo : VehicleInfo) (distFromObjPolyToTrajPoly : ℚ)
    (hh : 0 ≤ cfg.obstacleFilteringParam.outsideEstimationTimeHorizon)
    (hm : 1 / 1000 ≤ getMaxLatMargin cfg.obstacleFilteringParam object.classification.label)
    (hlower : Utils.calcPossibleMinDistFromObjToTrajPoly P object trajPoints vehicleInfo ≤
      distFromObjPolyToTrajPoly)
    (hprecise : preciseLateralGatePasses P cfg object trajPoints distFromObjPolyToTrajPoly = true) :
    roughLateralGatePasses P cfg object trajPoints vehicleInfo = true := by
  obtain ⟨he0, heh⟩ := calcEstimationTime_mem P object cfg.obstacleFilteringParam hh
  have happroach := max_mul_le_max_mul (v := P.getLatVelRelativeToTraj object trajPoints) he0 heh
  simp only [preciseLateralGatePasses, max_eq_left hm, Bool.not_eq_true', decide_eq_false_iff_not,
    not_le] at hprecise
  simp only [roughLateralGatePasses, Bool.not_eq_true', decide_eq_false_iff_not, not_lt]
  linarith

/-- The hypotheses of `roughLateralGatePasses_of_precise` hold together: a unit margin for an
unknown object on the swept polygons. -/
theorem roughLateralGatePasses_of_precise_at_unit_margin :
    0 ≤ (default : ObstacleFilteringParam).outsideEstimationTimeHorizon ∧
      1 / 1000 ≤ getMaxLatMargin
        { (default : ObstacleFilteringParam) with maxLatMarginAgainstPredictedObjectUnknown := 1 }
        (default : Object).classification.label ∧
      Utils.calcPossibleMinDistFromObjToTrajPoly default default [] default ≤ 0 ∧
      preciseLateralGatePasses default ({ (default : Config) with obstacleFilteringParam :=
      { (default : ObstacleFilteringParam) with maxLatMarginAgainstPredictedObjectUnknown := 1 } }) default [] 0 = true ∧
      roughLateralGatePasses default ({ (default : Config) with obstacleFilteringParam :=
      { (default : ObstacleFilteringParam) with maxLatMarginAgainstPredictedObjectUnknown := 1 } }) default [] default = true := by
  have h1 : 0 ≤ (({ (default : Config) with obstacleFilteringParam :=
      { (default : ObstacleFilteringParam) with maxLatMarginAgainstPredictedObjectUnknown := 1 } })).obstacleFilteringParam.outsideEstimationTimeHorizon := le_rfl
  have h2 : 1 / 1000 ≤ getMaxLatMargin (({ (default : Config) with obstacleFilteringParam :=
      { (default : ObstacleFilteringParam) with maxLatMarginAgainstPredictedObjectUnknown := 1 } })).obstacleFilteringParam
      (default : Object).classification.label := by
    show (1 / 1000 : ℚ) ≤ 1
    norm_num
  have h3 : Utils.calcPossibleMinDistFromObjToTrajPoly default default [] default ≤ 0 := by
    show |(0 : ℚ)| - 0 - 0 ≤ 0
    norm_num
  have h4 : preciseLateralGatePasses default ({ (default : Config) with obstacleFilteringParam :=
      { (default : ObstacleFilteringParam) with maxLatMarginAgainstPredictedObjectUnknown := 1 } }) default [] 0 = true := by
    show (!(max (1 : ℚ) (1 / 1000) ≤ 0 - max (0 * 0) 0)) = true
    norm_num
  exact ⟨h1, h2, h3, h4, roughLateralGatePasses_of_precise default ({ (default : Config) with obstacleFilteringParam :=
      { (default : ObstacleFilteringParam) with maxLatMarginAgainstPredictedObjectUnknown := 1 } }) default [] default 0 h1 h2 h3 h4⟩

/-- Below `1e-3` the gates disagree: with a zero margin, an object `5e-4` away whose rough bound
is exact passes the precise gate (floored at `1e-3`) and fails the rough one. -/
theorem rough_gate_discards_precisely_admitted_object :
    0 ≤ (default : Config).obstacleFilteringParam.outsideEstimationTimeHorizon ∧
      Utils.calcPossibleMinDistFromObjToTrajPoly { (default : Primitives) with getDistToTrajLateral := fun _ _ => 1 / 2000 } default [] default ≤ 1 / 2000 ∧
      preciseLateralGatePasses { (default : Primitives) with getDistToTrajLateral := fun _ _ => 1 / 2000 } default default [] (1 / 2000) = true ∧
      roughLateralGatePasses { (default : Primitives) with getDistToTrajLateral := fun _ _ => 1 / 2000 } default default [] default = false := by
  refine ⟨le_rfl, ?_, ?_, ?_⟩
  · show |(1 / 2000 : ℚ)| - 0 - 0 ≤ 1 / 2000
    rw [abs_of_pos (by norm_num)]
    norm_num
  · show (!(max (0 : ℚ) (1 / 1000) ≤ 1 / 2000 - max (0 * 0) 0)) = true
    norm_num
  · show (!((0 : ℚ) < |(1 / 2000 : ℚ)| - 0 - 0 - max (0 * 0) 0)) = false
    rw [abs_of_pos (by norm_num)]
    norm_num

end LateralGates

end AutowarePlanning.ObstacleStop
