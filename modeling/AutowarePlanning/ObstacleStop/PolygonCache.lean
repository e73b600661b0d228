import AutowarePlanning.ObstacleStop.Filter

/-!
# The polygon tables memoise the current cycle

`trajectory_polygon_for_inside_map_` is keyed by the lateral margin alone and
`decimated_traj_polys_` by nothing at all: they are right only because `plan()` clears both before
its object loop, and within one cycle every call passes the cycle's own trajectory, pose and
collision-check parameters.

`TablesValid` says that every entry is what `create_one_step_polygons` gives for its key in this
cycle. Empty tables are valid, each lookup of valid tables returns the current polygons and leaves
the tables valid, and so the object loop with its threaded tables builds the same stop obstacles
as a loop that computes every polygon afresh (`filterStopObstacleForPredictedObject_of_valid`).
-/

namespace AutowarePlanning.ObstacleStop

open AutowarePlanning

section Tables

variable (P : Primitives) (pd : PlannerData) (decimatedTrajPoints : List TrajectoryPoint)

/-- The zero-margin polygons `get_decimated_traj_polys` computes on a miss. -/
def zeroMarginTrajPolys : List Polygon2d :=
  let tp := pd.trajectoryPolygonCollisionCheck
  P.createOneStepPolygons
    (Utils.decimateTrajectoryPointsFromEgo P pd.trajectory pd.currentOdometry.pose
      pd.egoNearestDistThreshold pd.egoNearestYawThreshold tp.decimateTrajectoryStepLength
      tp.goalExtendedTrajectoryLength)
    pd.vehicleInfo pd.currentOdometry.pose 0 tp.enableToConsiderCurrentPose tp.timeToConvergence
    tp.decimateTrajectoryStepLength

/-- The polygons with lateral margin `latMargin` around this cycle's decimated trajectory. -/
def marginTrajPolys (latMargin : ℚ) : List Polygon2d :=
  let tp := pd.trajectoryPolygonCollisionCheck
  P.createOneStepPolygons decimatedTrajPoints pd.vehicleInfo pd.currentOdometry.pose latMargin
    tp.enableToConsiderCurrentPose tp.timeToConvergence tp.decimateTrajectoryStepLength

/-- Every polygon list the tables hold is this cycle's for its key. -/
def TablesValid (tables : PolygonTables) : Prop :=
  (∀ e ∈ tables.1, e.2 = marginTrajPolys P pd decimatedTrajPoints e.1) ∧
    ∀ polys, tables.2 = some polys → polys = zeroMarginTrajPolys P pd

theorem tablesValid_empty : TablesValid P pd decimatedTrajPoints ([], none) :=
  ⟨fun _ h => absurd h (List.not_mem_nil _), fun _ h => Option.noConfusion h⟩

theorem getTrajectoryPolygon_of_valid {tables : PolygonTables}
    (h : TablesValid P pd decimatedTrajPoints tables) (latMargin : ℚ) :
    ∃ tables', getTrajectoryPolygon P tables decimatedTrajPoints pd.vehicleInfo
        pd.currentOdometry.pose latMargin pd.trajectoryPolygonCollisionCheck.enableToConsiderCurrentPose
        pd.trajectoryPolygonCollisionCheck.timeToConvergence
        pd.trajectoryPolygonCollisionCheck.decimateTrajectoryStepLength =
      (marginTrajPolys P pd decimatedTrajPoints latMargin, tables') ∧
      TablesValid P pd decimatedTrajPoints tables' := by
  cases hl : tables.1.lookup latMargin with
  | some polys =>
    obtain ⟨l₁, l₂, heq, -⟩ := List.lookup_eq_some_iff.mp hl
    have hpolys : polys = marginTrajPolys P pd decimatedTrajPoints latMargin :=
      h.1 (latMargin, polys) (by rw [heq]; simp)
    exact ⟨tables, by simp only [getTrajectoryPolygon, hl, hpolys], h⟩
  | none =>
    refine ⟨(tables.1 ++ [(latMargin, marginTrajPolys P pd decimatedTrajPoints latMargin)], tables.2),
      by simp only [getTrajectoryPolygon, hl]; rfl, fun e he => ?_, h.2⟩
    rcases List.mem_append.mp he with he | he
    · exact h.1 e he
    · rw [List.mem_singleton.mp he]

theorem getDecimatedTrajPolys_of_valid {tables : PolygonTables}
    (h : TablesValid P pd decimatedTrajPoints tables) :
    ∃ tables', getDecimatedTrajPolys P tables pd.trajectory pd.currentOdometry.pose pd.vehicleInfo
        pd.egoNearestDistThreshold pd.egoNearestYawThreshold pd.trajectoryPolygonCollisionCheck =
      (zeroMarginTrajPolys P pd, tables') ∧ TablesValid P pd decimatedTrajPoints tables' := by
  cases h2 : tables.2 with
  | some polys => exact ⟨tables, by simp [getDecimatedTrajPolys, h2, h.2 polys h2], h⟩
  | none =>
    exact ⟨(tables.1, some (zeroMarginTrajPolys P pd)), by simp only [getDecimatedTrajPolys, h2]; rfl,
      h.1, fun _ hp => (Option.some.inj hp).symm⟩

variable (cfg : Config)

/-- The collision point of an object with valid tables is the one computed from empty tables. -/
theorem pickCollisionPoint_of_valid (object : Object) (distFromObjPolyToTrajPoly distToBumper : ℚ)
    {tables : PolygonTables} (h : TablesValid P pd decimatedTrajPoints tables) :
    ∃ tables', pickCollisionPoint P cfg pd decimatedTrajPoints object distFromObjPolyToTrajPoly
        distToBumper tables =
      ((pickCollisionPoint P cfg pd decimatedTrajPoints object distFromObjPolyToTrajPoly distToBumper
        ([], none)).1, tables') ∧ TablesValid P pd decimatedTrajPoints tables' := by
  let latMargin := getMaxLatMargin cfg.obstacleFilteringParam object.classification.label
  obtain ⟨t, ht, hv⟩ := getTrajectoryPolygon_of_valid P pd decimatedTrajPoints h latMargin
  obtain ⟨t₀, ht₀, -⟩ := getTrajectoryPolygon_of_valid P pd decimatedTrajPoints
    (tablesValid_empty P pd decimatedTrajPoints) latMargin
  simp only [pickCollisionPoint]
  split_ifs
  · exact ⟨tables, rfl, h⟩
  · exact ⟨tables, rfl, h⟩
  · exact ⟨t, by simp only [ht, ht₀], hv⟩

end Tables

section Loop

variable (P : Primitives) (cfg : Config) (prevStopObstacles : List StopObstacle) (pd : PlannerData)
  (decimatedTrajPoints : List TrajectoryPoint) (distToBumper : ℚ)

/-- The stop obstacle the object loop builds for one object when every polygon is computed
afresh. -/
def freshStopObstacle (object : Object) : Option StopObstacle :=
  if !roughGatesPass P cfg pd object then none
  else
    (pickStopObstacleFromPredictedObject P cfg prevStopObstacles pd decimatedTrajPoints object
      (P.getDistToTrajPoly object (zeroMarginTrajPolys P pd)) distToBumper ([], none)).1

theorem filterStep_of_valid (acc : List StopObstacle) (object : Object) {tables : PolygonTables}
    (h : TablesValid P pd decimatedTrajPoints tables) :
    ∃ tables', filterStep P cfg prevStopObstacles pd decimatedTrajPoints distToBumper (acc, tables)
        object =
      (acc ++ (freshStopObstacle P cfg prevStopObstacles pd decimatedTrajPoints distToBumper
        object).toList, tables') ∧ TablesValid P pd decimatedTrajPoints tables' := by
  by_cases hg : roughGatesPass P cfg pd object = true
  · obtain ⟨t₁, hd, hv₁⟩ := getDecimatedTrajPolys_of_valid P pd decimatedTrajPoints h
    obtain ⟨t₂, hp, hv₂⟩ := pickCollisionPoint_of_valid P pd decimatedTrajPoints cfg object
      (P.getDistToTrajPoly object (zeroMarginTrajPolys P pd)) distToBumper hv₁
    refine ⟨t₂, ?_, hv₂⟩
    simp only [filterStep, freshStopObstacle, hg, Bool.not_true, Bool.false_eq_true, ↓reduceIte, hd,
      pickStopObstacleFromPredictedObject, hp]
    split <;> rename_i hb <;>
      rw [show Option.bind _ (stopObstacleOfDecision P cfg prevStopObstacles pd object) = _ from hb] <;> simp
  · exact ⟨tables, by simp [filterStep, freshStopObstacle, hg], h⟩

theorem foldl_filterStep_of_valid (objects : List Object) (acc : List StopObstacle)
    {tables : PolygonTables} (h : TablesValid P pd decimatedTrajPoints tables) :
    ∃ tables', objects.foldl (filterStep P cfg prevStopObstacles pd decimatedTrajPoints distToBumper)
        (acc, tables) =
      (acc ++ objects.filterMap
        (freshStopObstacle P cfg prevStopObstacles pd decimatedTrajPoints distToBumper), tables') ∧
      TablesValid P pd decimatedTrajPoints tables' := by
  induction objects generalizing acc tables with
  | nil => exact ⟨tables, by simp, h⟩
  | cons object objects ih =>
    obtain ⟨t, ht, hv⟩ := filterStep_of_valid P cfg prevStopObstacles pd decimatedTrajPoints
      distToBumper acc object h
    obtain ⟨t', ht', hv'⟩ := ih _ hv
    refine ⟨t', ?_, hv'⟩
    rw [List.foldl_cons, ht, ht', List.filterMap_cons]
    cases freshStopObstacle P cfg prevStopObstacles pd decimatedTrajPoints distToBumper object <;> simp

end Loop

/-- With valid tables, `filter_stop_obstacle_for_predicted_object` returns, and stores as
`prev_stop_obstacles_`, the list built from polygons computed afresh, and leaves valid tables. -/
theorem filterStopObstacleForPredictedObject_of_valid {B : Type} (P : Primitives) (cfg : Config)
    (pd : PlannerData) (decimatedTrajPoints : List TrajectoryPoint) (distToBumper : ℚ)
    (m : ObstacleStopModule B)
    (h : TablesValid P pd decimatedTrajPoints (m.trajectoryPolygonForInsideMap, m.decimatedTrajPolys)) :
    ∃ tables', TablesValid P pd decimatedTrajPoints tables' ∧
      filterStopObstacleForPredictedObject P cfg pd decimatedTrajPoints distToBumper m =
        let c := checkConsistency cfg pd.predictedObjectsStamp pd.objects m.prevClosestStopObstacles
          (pd.objects.filterMap (freshStopObstacle P cfg m.prevStopObstacles pd decimatedTrajPoints
            distToBumper))
        (c.1, { m with prevStopObstacles := c.1, prevClosestStopObstacles := c.2,
                       trajectoryPolygonForInsideMap := tables'.1, decimatedTrajPolys := tables'.2 }) := by
  obtain ⟨t, ht, hv⟩ := foldl_filterStep_of_valid P cfg m.prevStopObstacles pd decimatedTrajPoints
    distToBumper pd.objects [] h
  refine ⟨t, hv, ?_⟩
  simp only [filterStopObstacleForPredictedObject, ht, List.nil_append]

end AutowarePlanning.ObstacleStop
