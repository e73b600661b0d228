import AutowarePlanning.Primitives

/-!
# Data model of the obstacle stop module

`StopObstacle`, the parameter structures the module reads, the per-cycle `PlannerData`, and the
state `ObstacleStopModule` carries from one `plan()` cycle to the next. The path length buffer is
an external class; the module is generic in its type and reaches it only through
`PathLengthBufferOps`.
-/

namespace AutowarePlanning.ObstacleStop

open AutowarePlanning

/-- `StopObstacle`. A braking distance is present exactly for an RSS stop. -/
structure StopObstacle where
  uuid : String
  stamp : Time
  classification : ObjectClassification
  pose : Pose
  shape : Shape
  velocity : ℚ
  collisionPoint : Point
  distToCollideOnDecimatedTraj : ℚ
  brakingDist : Option ℚ := none
  deriving DecidableEq, Repr, Inhabited

/-- `ObstacleFilteringParam`, the fields the module reads. -/
structure ObstacleFilteringParam where
  usePointcloud : Bool
  insideStopObjectTypes : List UInt8
  outsideStopObjectTypes : List UInt8
  outsideEstimationTimeHorizon : ℚ
  outsidePedestrianDeceleration : ℚ
  outsideBicycleDeceleration : ℚ
  maxLatMargin : ℚ
  maxLatMarginAgainstPredictedObjectUnknown : ℚ
  crossingObstacleTrajAngleThreshold : ℚ
  minVelocityToReachCollisionPoint : ℚ
  crossingObstacleCollisionTimeMargin : ℚ
  outsideMaxLateralVelocity : ℚ
  stopObstacleHoldTimeThreshold : ℚ
  deriving Inhabited

/-- `RSSParam`. -/
structure RSSParam where
  useRssStop : Bool
  noWheelObjectsDeceleration : ℚ
  twoWheelObjectsDeceleration : ℚ
  vehicleObjectsDeceleration : ℚ
  velocityOffset : ℚ
  deriving Inhabited

/-- The per-classification parameters returned by `StopPlanningParam::get_param`. -/
structure ObjectTypeSpecificParams where
  limitMinAcc : ℚ
  suddenObjectAccThreshold : ℚ
  suddenObjectDistThreshold : ℚ
  abandonToStop : Bool
  deriving Inhabited

/-- `StopPlanningParam`. Its header-defined lookups `get_param_type` and `get_param` are not under
src/ and are taken as fields. -/
structure StopPlanningParam where
  stopMargin : ℚ
  terminalStopMargin : ℚ
  minBehaviorStopMargin : ℚ
  maxNegativeVelocity : ℚ
  stopMarginOpposingTraffic : ℚ
  effectiveDecelerationOpposingTraffic : ℚ
  holdStopVelocityThreshold : ℚ
  holdStopDistanceThreshold : ℚ
  enableApproachingOnCurve : Bool
  additionalStopMarginOnCurve : ℚ
  minStopMarginOnCurve : ℚ
  obstacleVelocityThresholdEnterFixedStop : ℚ
  obstacleVelocityThresholdExitFixedStop : ℚ
  rssParams : RSSParam
  getParamType : ObjectClassification → String
  getParam : ObjectClassification → ObjectTypeSpecificParams
  deriving Inhabited

/-- `CommonParam`. -/
structure CommonParam where
  limitMaxAccel : ℚ
  limitMinAccel : ℚ
  deriving Inhabited

/-- `TrajectoryPolygonCollisionCheck`. A decimation step must be positive: with any other the
extension loop of `get_extended_trajectory_points` never ends. -/
structure TrajectoryPolygonCollisionCheck where
  decimateTrajectoryStepLength : ℚ
  goalExtendedTrajectoryLength : ℚ
  enableToConsiderCurrentPose : Bool
  timeToConvergence : ℚ
  decimateTrajectoryStepLength_pos : 0 < decimateTrajectoryStepLength

instance : Inhabited TrajectoryPolygonCollisionCheck := ⟨⟨1, 0, false, 0, zero_lt_one⟩⟩

/-- The module's configuration: its parameter structures and the two option flags. -/
structure Config where
  ignoreCrossingObstacle : Bool
  suppressSuddenStop : Bool
  commonParam : CommonParam
  stopPlanningParam : StopPlanningParam
  obstacleFilteringParam : ObstacleFilteringParam
  deriving Inhabited

/-- `PlannerData` of one cycle, with the raw trajectory handed to `plan()` and the clock reading
`clock_->now()` of that cycle. -/
structure PlannerData where
  trajectory : List TrajectoryPoint
  currentOdometry : Odometry
  isDrivingForward : Bool
  vehicleInfo : VehicleInfo
  egoNearestDistThreshold : ℚ
  egoNearestYawThreshold : ℚ
  trajectoryPolygonCollisionCheck : TrajectoryPolygonCollisionCheck
  predictedObjectsStamp : Time
  objects : List Object
  noGroundPointcloud : Pointcloud
  now : Time
  deriving Inhabited

/-- The two operations of the external `PathLengthBuffer` the module calls. -/
structure PathLengthBufferOps (B : Type) where
  updateBuffer : B → Option Point → (Point → ℚ) → Time → StopObstacle → ℚ → B
  getNearestActiveItem : B → Option Point

/-- The members of `ObstacleStopModule` that outlive a call. The two polygon tables are cleared at
the start of every `plan()`. -/
structure ObstacleStopModule (B : Type) where
  prevStopObstacles : List StopObstacle
  prevClosestStopObstacles : List StopObstacle
  stopPointcloudObstacleHistory : List StopObstacle
  prevStopDistanceInfo : Option (List TrajectoryPoint × ℚ)
  pathLengthBuffer : B
  trajectoryPolygonForInsideMap : List (ℚ × List Polygon2d)
  decimatedTrajPolys : Option (List Polygon2d)

/-- The module right after `init`: no history, an initial buffer. -/
def ObstacleStopModule.initial {B : Type} (buffer : B) : ObstacleStopModule B :=
  ⟨[], [], [], none, buffer, [], none⟩

/-- `is_in_vector`. -/
def isInVector (v : UInt8) (vec : List UInt8) : Bool := vec.contains v

/-- `get_max_lat_margin`. -/
def getMaxLatMargin (p : ObstacleFilteringParam) (objLabel : UInt8) : ℚ :=
  if objLabel = ObjectClassification.UNKNOWN then p.maxLatMarginAgainstPredictedObjectUnknown
  else p.maxLatMargin

end AutowarePlanning.ObstacleStop
