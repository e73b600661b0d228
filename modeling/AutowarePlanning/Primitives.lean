import AutowarePlanning.Messages

/-!
# The geometry libraries the planning core calls

`motion_utils`, `polygon_utils`, `boost::geometry`, `object_recognition_utils` and the methods of
`PlannerData` are not part of the modelled core: the module consumes them as black boxes. They
are the fields of `Primitives`, under the library's own names, and every definition of the core
takes one `Primitives` value. Nothing is assumed of them here; the few contracts a result needs
are stated where that result is.
-/

namespace AutowarePlanning

/-- `PlannerData::Object`: the predicted object, with the hex string of its UUID and the first
entry of its classification list (the only one the module reads). -/
structure Object where
  objectId : String
  classification : ObjectClassification
  initialPose : Pose
  initialTwistLinearX : ℚ
  initialTwistLinearY : ℚ
  shape : Shape
  predictedPaths : List PredictedPath
  deriving DecidableEq, Repr, Inhabited

/-- `PlannerData::Pointcloud`: the header stamp and the raw points. -/
structure Pointcloud where
  stamp : Time
  points : List Point
  deriving DecidableEq, Repr, Inhabited

/-- The external functions, grouped by the library they come from. -/
structure Primitives where
  /-- `std::hypot`. -/
  hypot : ℚ → ℚ → ℚ
  /-- `PlannerData::Object` methods. -/
  getDistFromEgoLongitudinal : Object → List TrajectoryPoint → Point → ℚ
  getDistToTrajLateral : Object → List TrajectoryPoint → ℚ
  getLatVelRelativeToTraj : Object → List TrajectoryPoint → ℚ
  getLonVelRelativeToTraj : Object → List TrajectoryPoint → ℚ
  getDistToTrajPoly : Object → List Polygon2d → ℚ
  getPredictedCurrentPose : Object → Time → Time → Pose
  calcPredictedPose : Object → Time → Time → Pose
  /-- `PlannerData::Pointcloud` methods. -/
  getFilteredPointcloud : Pointcloud → List TrajectoryPoint → VehicleInfo → List Point
  getClusterIndices : Pointcloud → List TrajectoryPoint → VehicleInfo → List (List ℕ)
  /-- `PlannerData::find_index` and `find_segment_index`. -/
  findIndex : List TrajectoryPoint → Pose → ℕ
  findSegmentIndex : List TrajectoryPoint → Pose → ℕ
  /-- `polygon_utils`. -/
  createOneStepPolygons :
    List TrajectoryPoint → VehicleInfo → Pose → ℚ → Bool → ℚ → ℚ → List Polygon2d
  getCollisionPoint :
    List TrajectoryPoint → List Polygon2d → Point → Time → Polygon2d → ℚ → Option (Point × ℚ)
  /-- `autoware_utils_geometry` and `boost::geometry`. -/
  toPolygon2d : Pose → Shape → Polygon2d
  convexHull : List (ℚ × ℚ) → Polygon2d
  distancePolygonPoint : Polygon2d → ℚ × ℚ → ℚ
  distanceSegmentPolygon : (ℚ × ℚ) × (ℚ × ℚ) → Polygon2d → ℚ
  calcOffsetPose : Pose → ℚ → ℚ → ℚ → Pose
  calcDistance2d : TrajectoryPoint → TrajectoryPoint → ℚ
  isDrivingForward : TrajectoryPoint → TrajectoryPoint → Bool
  /-- `motion_utils`; the overloads of `calcSignedArcLength` by the kind of their end points. -/
  calcSignedArcLength : List TrajectoryPoint → ℕ → ℕ → ℚ
  calcSignedArcLengthToPoint : List TrajectoryPoint → ℕ → Point → ℚ
  calcSignedArcLengthBetweenPoints : List TrajectoryPoint → Point → Point → ℚ
  calcSignedArcLengthToPointOnSegment : List TrajectoryPoint → ℕ → Point → ℕ → ℚ
  calcLateralOffset : List TrajectoryPoint → Point → ℚ
  calcDiffAngleAgainstTrajectory : List TrajectoryPoint → Pose → ℚ
  findNearestIndex : List TrajectoryPoint → Point → ℕ
  findNearestSegmentIndex : List TrajectoryPoint → Point → ℕ
  findFirstNearestSegmentIndexWithSoftConstraints : List TrajectoryPoint → Pose → ℚ → ℚ → ℕ
  /-- The same search with its default (unbounded) thresholds. -/
  findFirstNearestSegmentIndex : List TrajectoryPoint → Pose → ℕ
  searchZeroVelocityIndex : List TrajectoryPoint → ℕ → Option ℕ
  /-- `insertStopPoint(0, distance, points)`: the stop index and the modified points. -/
  insertStopPoint : ℚ → List TrajectoryPoint → Option (ℕ × List TrajectoryPoint)
  /-- `convertToTrajectory`, `resampleTrajectory`, `convertToTrajectoryPointArray`. -/
  resampleTrajectory : List TrajectoryPoint → ℚ → List TrajectoryPoint
  insertOrientationAsSpline : List TrajectoryPoint → Bool → List TrajectoryPoint
  isDrivingForwardWithTwist : List TrajectoryPoint → Option Bool
  /-- `object_recognition_utils`. -/
  resamplePredictedPath : PredictedPath → ℚ → ℚ → PredictedPath
  calcInterpolatedPose : PredictedPath → ℚ → Option Pose
  /-- `std::sort` by descending confidence (the order of ties is the library's). -/
  sortByDescendingConfidence : List PredictedPath → List PredictedPath
  deriving Inhabited

end AutowarePlanning
