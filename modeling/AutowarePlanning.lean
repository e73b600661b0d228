import AutowarePlanning.Messages
import AutowarePlanning.Binary64
import AutowarePlanning.Primitives
import AutowarePlanning.Common.TrajectoryUtils
import AutowarePlanning.ObstacleStop.Types
import AutowarePlanning.ObstacleStop.Closest
import AutowarePlanning.ObstacleStop.Filter
import AutowarePlanning.ObstacleStop.PolygonCache
import AutowarePlanning.ObstacleStop.Consistency
import AutowarePlanning.ObstacleStop.PointCloud
import AutowarePlanning.ObstacleStop.StopMargin
import AutowarePlanning.ObstacleStop.PlanStop
import AutowarePlanning.ObstacleStop.Module
import AutowarePlanning.ObstacleStop.Runs
import AutowarePlanning.ObstacleStop.Idempotence
import AutowarePlanning.PathGenerator.ArcLength
import AutowarePlanning.PathGenerator.PathBounds
import AutowarePlanning.PathGenerator.SelfIntersection
import AutowarePlanning.PathGenerator.FirstIntersection
import AutowarePlanning.PathGenerator.ArcLengthOnPath
import AutowarePlanning.PathGenerator.GoalConnection
import AutowarePlanning.PathGenerator.WaypointGroups
import AutowarePlanning.PathGenerator.Route
import AutowarePlanning.PathGenerator.TurnSignal
