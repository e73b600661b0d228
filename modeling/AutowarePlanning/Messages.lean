import Mathlib.Algebra.Order.Field.Rat
import Mathlib.Data.List.Nodup

/-!
# Message types read by the planning core

The ROS 2 messages the obstacle stop module and the path generator read, cut down to the fields
the modelled functions read. Coordinates, velocities and lengths are exact rationals (the C++
code uses `double`; rounding is not modelled). Stamps are `rclcpp::Time` in nanoseconds.
-/

namespace AutowarePlanning

/-- `rclcpp::Time`, in nanoseconds. -/
abbrev Time := ℤ

/-- `rclcpp::Duration::seconds` of a difference of two stamps. -/
def seconds (d : ℤ) : ℚ := (d : ℚ) / 1000000000

/-- `std::numeric_limits<double>::epsilon()`. -/
def doubleEpsilon : ℚ := 1 / 4503599627370496

/-- `M_PI` as the double the C++ code reads. -/
def mPi : ℚ := 884279719003555 / 281474976710656

/-- `std::clamp(v, lo, hi)`. -/
def stdClamp (v lo hi : ℚ) : ℚ := if v < lo then lo else if hi < v then hi else v

/-- `geometry_msgs::msg::Point`. -/
structure Point where
  x : ℚ
  y : ℚ
  z : ℚ
  deriving DecidableEq, Repr, Inhabited

/-- `geometry_msgs::msg::Quaternion`. -/
structure Quaternion where
  x : ℚ
  y : ℚ
  z : ℚ
  w : ℚ
  deriving DecidableEq, Repr, Inhabited

/-- `geometry_msgs::msg::Pose`. -/
structure Pose where
  position : Point
  orientation : Quaternion
  deriving DecidableEq, Repr, Inhabited

/-- The three shape kinds of `autoware_perception_msgs::msg::Shape`. -/
inductive ShapeType
  | boundingBox
  | cylinder
  | polygon
  deriving DecidableEq, Repr, Inhabited

/-- `autoware_perception_msgs::msg::Shape`. -/
structure Shape where
  type : ShapeType
  footprint : List Point
  dimensions : Point
  deriving DecidableEq, Repr, Inhabited

/-- `autoware_utils_geometry::Polygon2d`, by its outer ring. -/
abbrev Polygon2d := List (ℚ × ℚ)

/-- `autoware_planning_msgs::msg::TrajectoryPoint`, with the fields the modelled code reads. -/
structure TrajectoryPoint where
  pose : Pose
  longitudinalVelocityMps : ℚ
  lateralVelocityMps : ℚ
  accelerationMps2 : ℚ
  deriving DecidableEq, Repr, Inhabited

/-- `autoware_perception_msgs::msg::PredictedPath`. -/
structure PredictedPath where
  path : List Pose
  timeStep : ℚ
  confidence : ℚ
  deriving DecidableEq, Repr, Inhabited

/-- `autoware_perception_msgs::msg::ObjectClassification`; only `label` is read. -/
structure ObjectClassification where
  label : UInt8
  deriving DecidableEq, Repr, Inhabited

namespace ObjectClassification

def UNKNOWN : UInt8 := 0
def CAR : UInt8 := 1
def TRUCK : UInt8 := 2
def BUS : UInt8 := 3
def TRAILER : UInt8 := 4
def MOTORCYCLE : UInt8 := 5
def BICYCLE : UInt8 := 6
def PEDESTRIAN : UInt8 := 7

end ObjectClassification

/-- `autoware::vehicle_info_utils::VehicleInfo`, the three offsets the module reads. -/
structure VehicleInfo where
  maxLongitudinalOffsetM : ℚ
  minLongitudinalOffsetM : ℚ
  vehicleWidthM : ℚ
  deriving DecidableEq, Repr, Inhabited

/-- `nav_msgs::msg::Odometry`: header stamp, pose and longitudinal twist. -/
structure Odometry where
  stamp : Time
  pose : Pose
  twistLinearX : ℚ
  deriving DecidableEq, Repr, Inhabited

/-- `autoware_internal_planning_msgs::msg::PathPointWithLaneId`: the point's pose and longitudinal
velocity, and the ids of the lanes it lies on. -/
structure PathPointWithLaneId where
  pose : Pose
  longitudinalVelocityMps : ℚ
  laneIds : List ℤ
  deriving DecidableEq, Repr, Inhabited

namespace TurnIndicatorsCommand

/-! The commands of `autoware_vehicle_msgs::msg::TurnIndicatorsCommand`. -/

def NO_COMMAND : UInt8 := 0
def DISABLE : UInt8 := 1
def ENABLE_LEFT : UInt8 := 2
def ENABLE_RIGHT : UInt8 := 3

end TurnIndicatorsCommand

end AutowarePlanning
