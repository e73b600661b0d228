import AutowarePlanning.ObstacleStop.Consistency
import AutowarePlanning.ObstacleStop.PointCloud
import AutowarePlanning.ObstacleStop.PlanStop

/-!
# One `plan()` cycle and the runs of the module

`plan` clears the polygon tables, decimates the trajectory, filters the predicted objects and the
point cloud, and plans the stop. `Reachable` holds of the states a run of cycles reaches from the
initial module when every cycle's predicted objects have pairwise distinct UUIDs. It carries a
ghost `LastFresh`: for each UUID, the predicted-objects stamp of the last cycle that built a fresh
stop obstacle for it.

`ModuleInv` is what every reachable state satisfies: the previous closest obstacles are the closest
of the previous candidates, those have pairwise distinct UUIDs, and each previous closest obstacle
is stamped with the last fresh detection of its UUID (`prevStopObstacles_of_reachable`).

With the point cloud off a cycle always returns (`plan_eq_some_getD`), and with sudden-stop
suppression off it stops whenever it has stop obstacles and none is oncoming (`plan_stops`). The
slow-object run is a concrete run of two cycles: a fixed stop, then its re-admission.
-/

namespace AutowarePlanning.ObstacleStop

open AutowarePlanning

/-- `plan()` clears both polygon tables before anything else. -/
def ObstacleStopModule.clearPolygonTables {B : Type} (m : ObstacleStopModule B) :
    ObstacleStopModule B :=
  { m with trajectoryPolygonForInsideMap := [], decimatedTrajPolys := none }

section Plan

variable {B : Type} (ops : PathLengthBufferOps B) (P : Primitives) (cfg : Config)

/-- The decimated trajectory of `plan()`, extended past the goal by the stop margin. -/
def planDecimatedTrajPoints (pd : PlannerData) : List TrajectoryPoint :=
  Utils.decimateTrajectoryPointsFromEgo P pd.trajectory pd.currentOdometry.pose
    pd.egoNearestDistThreshold pd.egoNearestYawThreshold
    pd.trajectoryPolygonCollisionCheck.decimateTrajectoryStepLength cfg.stopPlanningParam.stopMargin

/-- Steps 1 to 5 of `plan()`: the stop obstacles of the predicted objects followed by those of the
point cloud, and the module after both filters; `none` while the point-cloud history loop is still
running after `fuel` passes. -/
def collectStopObstacles (fuel : ℕ) (pd : PlannerData) (m : ObstacleStopModule B) :
    Option (List StopObstacle × ObstacleStopModule B) :=
  let distToBumper := calcDistToBumper pd.isDrivingForward pd.vehicleInfo
  let decimatedTrajPoints := planDecimatedTrajPoints P cfg pd
  let r := filterStopObstacleForPredictedObject P cfg pd decimatedTrajPoints distToBumper
    m.clearPolygonTables
  (filterStopObstacleForPointCloud P cfg pd decimatedTrajPoints distToBumper
      (P.findIndex pd.trajectory pd.currentOdometry.pose) fuel r.2).map fun q => (r.1 ++ q.1, q.2)

/-- `plan()`: the stop point of the cycle and the module after it. -/
def plan (fuel : ℕ) (pd : PlannerData) (m : ObstacleStopModule B) :
    Option (Option Point × ObstacleStopModule B) :=
  (collectStopObstacles P cfg fuel pd m).map fun q =>
    planStop ops P cfg pd pd.trajectory (calcDistToBumper pd.isDrivingForward pd.vehicleInfo) q.1 q.2

/-- The stop obstacles the object loop of a cycle builds from its predicted objects. -/
def cycleFreshStopObstacles (pd : PlannerData) (m : ObstacleStopModule B) : List StopObstacle :=
  pd.objects.filterMap (freshStopObstacle P cfg m.prevStopObstacles pd (planDecimatedTrajPoints P cfg pd)
    (calcDistToBumper pd.isDrivingForward pd.vehicleInfo))

/-- The list `filter_stop_obstacle_for_predicted_object` returns in a cycle: the fresh candidates,
then the previous closest obstacles `check_consistency` re-admits. -/
def cycleStopObstacles (pd : PlannerData) (m : ObstacleStopModule B) : List StopObstacle :=
  cycleFreshStopObstacles P cfg pd m ++ m.prevClosestStopObstacles.filter fun r =>
    readmitCondition cfg pd.predictedObjectsStamp pd.objects r &&
      isNewUuid (cycleFreshStopObstacles P cfg pd m) r

end Plan

/-- The cycle inputs the run properties are about: predicted objects of pairwise distinct UUIDs. -/
def Admissible (pd : PlannerData) : Prop := (pd.objects.map Object.objectId).Nodup

/-- For each UUID, the predicted-objects stamp of the last cycle that freshly detected it. -/
abbrev LastFresh := String → Option Time

/-- The ghost after a cycle whose fresh candidates are `fresh`. -/
def updateLastFresh (g : LastFresh) (fresh : List StopObstacle) (stamp : Time) : LastFresh :=
  fun uuid => if fresh.any fun s => s.uuid = uuid then some stamp else g uuid

/-- The states, with their ghost, reached from the initial module by cycles of admissible input. -/
inductive Reachable {B : Type} (ops : PathLengthBufferOps B) (P : Primitives) (cfg : Config) :
    ObstacleStopModule B → LastFresh → Prop
  | init (buffer : B) : Reachable ops P cfg (ObstacleStopModule.initial buffer) fun _ => none
  | step {m m' : ObstacleStopModule B} {g : LastFresh} {fuel : ℕ} {pd : PlannerData}
      {stopPoint : Option Point} :
      Reachable ops P cfg m g → Admissible pd → plan ops P cfg fuel pd m = some (stopPoint, m') →
      Reachable ops P cfg m'
        (updateLastFresh g (cycleFreshStopObstacles P cfg pd m) pd.predictedObjectsStamp)

/-- The invariant of reachable states. -/
structure ModuleInv {B : Type} (m : ObstacleStopModule B) (g : LastFresh) : Prop where
  prevClosest_eq : m.prevClosestStopObstacles = getClosestStopObstacles m.prevStopObstacles
  nodup_uuids : (m.prevStopObstacles.map StopObstacle.uuid).Nodup
  lastFresh_stamp : ∀ r ∈ m.prevClosestStopObstacles, g r.uuid = some r.stamp

theorem ModuleInv.nodup_closest_uuids {B : Type} {m : ObstacleStopModule B} {g : LastFresh}
    (h : ModuleInv m g) : (m.prevClosestStopObstacles.map StopObstacle.uuid).Nodup := by
  rw [h.prevClosest_eq]
  exact nodup_uuids_getClosestStopObstacles h.nodup_uuids

section Cycle

variable {B : Type} (ops : PathLengthBufferOps B) (P : Primitives) (cfg : Config)

/-- After the cleared tables, the predicted-object filter of a cycle returns and stores
`cycleStopObstacles`. -/
theorem filterStopObstacleForPredictedObject_clear (pd : PlannerData) (m : ObstacleStopModule B)
    (h : (m.prevClosestStopObstacles.map StopObstacle.uuid).Nodup) :
    ∃ tables : PolygonTables,
      filterStopObstacleForPredictedObject P cfg pd (planDecimatedTrajPoints P cfg pd)
          (calcDistToBumper pd.isDrivingForward pd.vehicleInfo) m.clearPolygonTables =
        (cycleStopObstacles P cfg pd m,
          { m.clearPolygonTables with
            prevStopObstacles := cycleStopObstacles P cfg pd m
            prevClosestStopObstacles := getClosestStopObstacles (cycleStopObstacles P cfg pd m)
            trajectoryPolygonForInsideMap := tables.1, decimatedTrajPolys := tables.2 }) := by
  obtain ⟨t, -, heq⟩ := filterStopObstacleForPredictedObject_of_valid P cfg pd
    (planDecimatedTrajPoints P cfg pd) (calcDistToBumper pd.isDrivingForward pd.vehicleInfo)
    m.clearPolygonTables (tablesValid_empty P pd _)
  have h' : (m.clearPolygonTables.prevClosestStopObstacles.map StopObstacle.uuid).Nodup := h
  exact ⟨t, by rw [heq, checkConsistency_eq _ _ _ _ h']; rfl⟩

theorem filterStopObstacleForPointCloud_frame {fuel : ℕ} {pd : PlannerData}
    {decimatedTrajPoints : List TrajectoryPoint} {distToBumper : ℚ} {egoIdx : ℕ}
    {m m' : ObstacleStopModule B} {l : List StopObstacle}
    (h : filterStopObstacleForPointCloud P cfg pd decimatedTrajPoints distToBumper egoIdx fuel m =
      some (l, m')) :
    m'.prevStopObstacles = m.prevStopObstacles ∧
      m'.prevClosestStopObstacles = m.prevClosestStopObstacles := by
  simp only [filterStopObstacleForPointCloud] at h
  split_ifs at h
  · cases h
    exact ⟨rfl, rfl⟩
  · split at h
    · cases h
    · cases h
      exact ⟨rfl, rfl⟩

theorem planStop_frame (pd : PlannerData) (trajPoints : List TrajectoryPoint) (distToBumper : ℚ)
    (stopObstacles : List StopObstacle) (m : ObstacleStopModule B) :
    (planStop ops P cfg pd trajPoints distToBumper stopObstacles m).2.prevStopObstacles =
        m.prevStopObstacles ∧
      (planStop ops P cfg pd trajPoints distToBumper stopObstacles m).2.prevClosestStopObstacles =
        m.prevClosestStopObstacles ∧
      (planStop ops P cfg pd trajPoints distToBumper stopObstacles m).2.stopPointcloudObstacleHistory =
        m.stopPointcloudObstacleHistory := by
  unfold planStop
  split_ifs
  · exact ⟨rfl, rfl, rfl⟩
  · split
    · exact ⟨rfl, rfl, rfl⟩
    · unfold insertDeterminedStop
      split_ifs <;> exact ⟨rfl, rfl, rfl⟩

/-- A cycle stores `cycleStopObstacles` as the previous candidates and their closest as the
previous closest obstacles. -/
theorem plan_prevStopObstacles {fuel : ℕ} {pd : PlannerData} {m m' : ObstacleStopModule B}
    {stopPoint : Option Point} (h : (m.prevClosestStopObstacles.map StopObstacle.uuid).Nodup)
    (hplan : plan ops P cfg fuel pd m = some (stopPoint, m')) :
    m'.prevStopObstacles = cycleStopObstacles P cfg pd m ∧
      m'.prevClosestStopObstacles = getClosestStopObstacles (cycleStopObstacles P cfg pd m) := by
  obtain ⟨t, ht⟩ := filterStopObstacleForPredictedObject_clear P cfg pd m h
  simp only [plan, collectStopObstacles, ht, Option.map_map] at hplan
  obtain ⟨q, hq, hq'⟩ := Option.map_eq_some.mp hplan
  obtain ⟨h1, h2⟩ := filterStopObstacleForPointCloud_frame P cfg hq
  obtain ⟨h3, h4, -⟩ := planStop_frame ops P cfg pd pd.trajectory
    (calcDistToBumper pd.isDrivingForward pd.vehicleInfo) _ q.2
  simp only [Function.comp, Prod.ext_iff] at hq'
  rw [← hq'.2, h3, h4, h1, h2]
  exact ⟨rfl, rfl⟩

theorem updateLastFresh_of_mem {g : LastFresh} {fresh : List StopObstacle} {stamp : Time}
    {r : StopObstacle} (hr : r ∈ fresh) : updateLastFresh g fresh stamp r.uuid = some stamp := by
  simp only [updateLastFresh, List.any_eq_true, decide_eq_true_eq]
  rw [if_pos ⟨r, hr, rfl⟩]

theorem updateLastFresh_of_new {g : LastFresh} {fresh : List StopObstacle} {stamp : Time}
    {r : StopObstacle} (hr : isNewUuid fresh r = true) :
    updateLastFresh g fresh stamp r.uuid = g r.uuid := by
  simp only [isNewUuid, List.all_eq_true, decide_eq_true_eq] at hr
  simp only [updateLastFresh, List.any_eq_true, decide_eq_true_eq]
  rw [if_neg fun ⟨s, hs, he⟩ => hr s hs he]

/-- Under distinct object UUIDs a cycle's candidates have pairwise distinct UUIDs. -/
theorem nodup_uuids_cycleStopObstacles {pd : PlannerData} {m : ObstacleStopModule B}
    (hadm : Admissible pd) (hclosest : (m.prevClosestStopObstacles.map StopObstacle.uuid).Nodup) :
    ((cycleStopObstacles P cfg pd m).map StopObstacle.uuid).Nodup := by
  rw [cycleStopObstacles, List.map_append, List.nodup_append]
  refine ⟨(uuids_filterMap_freshStopObstacle_sublist P cfg _ pd _ _ pd.objects).nodup hadm,
    ((List.filter_sublist _).map _).nodup hclosest, fun a ha hb => ?_⟩
  obtain ⟨s, hs, rfl⟩ := List.mem_map.mp ha
  obtain ⟨r, hr, hrs⟩ := List.mem_map.mp hb
  have hnew := (Bool.and_eq_true _ _).mp (List.mem_filter.mp hr).2
  simp only [isNewUuid, List.all_eq_true, decide_eq_true_eq] at hnew
  exact hnew.2 s hs hrs.symm

theorem moduleInv_step {g : LastFresh} {fuel : ℕ} {pd : PlannerData} {m m' : ObstacleStopModule B}
    {stopPoint : Option Point} (hinv : ModuleInv m g) (hadm : Admissible pd)
    (hplan : plan ops P cfg fuel pd m = some (stopPoint, m')) :
    ModuleInv m' (updateLastFresh g (cycleFreshStopObstacles P cfg pd m) pd.predictedObjectsStamp) := by
  obtain ⟨h1, h2⟩ := plan_prevStopObstacles ops P cfg hinv.nodup_closest_uuids hplan
  refine ⟨by rw [h1, h2], h1 ▸ nodup_uuids_cycleStopObstacles P cfg hadm hinv.nodup_closest_uuids,
    fun r hr => ?_⟩
  rw [h2] at hr
  rcases List.mem_append.mp (mem_of_mem_getClosestStopObstacles hr) with hr | hr
  · obtain ⟨o, -, ho⟩ := List.mem_filterMap.mp hr
    rw [updateLastFresh_of_mem hr, (freshStopObstacle_eq_some P cfg _ pd _ _ ho).2]
  · obtain ⟨hmem, hcond⟩ := List.mem_filter.mp hr
    rw [updateLastFresh_of_new ((Bool.and_eq_true _ _).mp hcond).2]
    exact hinv.lastFresh_stamp r hmem

theorem moduleInv_of_reachable {m : ObstacleStopModule B} {g : LastFresh}
    (hr : Reachable ops P cfg m g) : ModuleInv m g := by
  induction hr with
  | init buffer => exact ⟨rfl, List.nodup_nil, fun _ h => absurd h (List.not_mem_nil _)⟩
  | step _ hadm hplan ih => exact moduleInv_step ops P cfg ih hadm hplan

/-- With the point cloud off, steps 1 to 5 of `plan()` always finish: the point-cloud filter adds
nothing. -/
theorem collectStopObstacles_of_usePointcloud_false
    (h : cfg.obstacleFilteringParam.usePointcloud = false) (fuel : ℕ) (pd : PlannerData)
    (m : ObstacleStopModule B) :
    collectStopObstacles P cfg fuel pd m =
      some ((filterStopObstacleForPredictedObject P cfg pd (planDecimatedTrajPoints P cfg pd)
          (calcDistToBumper pd.isDrivingForward pd.vehicleInfo) m.clearPolygonTables).1 ++ [],
        (filterStopObstacleForPredictedObject P cfg pd (planDecimatedTrajPoints P cfg pd)
          (calcDistToBumper pd.isDrivingForward pd.vehicleInfo) m.clearPolygonTables).2) := by
  simp only [collectStopObstacles, filterStopObstacleForPointCloud, h, Bool.not_false, ite_true,
    Option.map_some']

theorem plan_eq_some_getD (h : cfg.obstacleFilteringParam.usePointcloud = false) (fuel : ℕ)
    (pd : PlannerData) (m : ObstacleStopModule B) (d : Option Point × ObstacleStopModule B) :
    plan ops P cfg fuel pd m = some ((plan ops P cfg fuel pd m).getD d) := by
  rw [plan, collectStopObstacles_of_usePointcloud_false P cfg h]
  rfl

/-- With sudden-stop suppression off, `plan_stop` on obstacles of which none is oncoming stops, and
records the stop for the next cycle's hold, wherever the stop point can be inserted. -/
theorem planStop_stops (hsup : cfg.suppressSuddenStop = false) (pd : PlannerData)
    (trajPoints : List TrajectoryPoint) (distToBumper : ℚ) {l : List StopObstacle} (hl : l ≠ [])
    (hv : ∀ s ∈ l, cfg.stopPlanningParam.maxNegativeVelocity ≤ s.velocity)
    (hins : ∀ z, (P.insertStopPoint z trajPoints).isSome) (m : ObstacleStopModule B) :
    (planStop ops P cfg pd trajPoints distToBumper l m).1.isSome ∧
      (planStop ops P cfg pd trajPoints distToBumper l m).2.prevStopDistanceInfo.isSome := by
  have hspec := selectStopObstacle_spec (evalStopObstacle P cfg pd trajPoints distToBumper) l
  cases hs : selectStopObstacle (evalStopObstacle P cfg pd trajPoints distToBumper) l with
  | none =>
    obtain ⟨x, hx⟩ := List.exists_mem_of_ne_nil l hl
    obtain ⟨c, hc, -⟩ := exists_dominating l hx
    rw [hs] at hspec
    have hnone : (evalStopObstacle P cfg pd trajPoints distToBumper c).2 = none := hspec c hc
    simp [evalStopObstacle, calcCandidateZeroVelDist, candidateZeroVelDist, hsup] at hnone
  | some d =>
    rw [hs] at hspec
    obtain ⟨⟨i, out⟩, hi⟩ := Option.isSome_iff_exists.mp (hins (holdPreviousStopIfNecessary P
      cfg.stopPlanningParam pd.currentOdometry.twistLinearX trajPoints m.prevStopDistanceInfo d.zeroVelDist))
    rw [planStop_of_select_some ops P cfg pd trajPoints distToBumper m hs]
    simp only [insertDeterminedStop, if_pos (hv _ (mem_of_mem_getClosestStopObstacles hspec.1)),
      calcStopPoint, hi, Option.isSome_some, and_self]

/-- A cycle with the point cloud and sudden-stop suppression off, whose stop obstacles are not empty
and none oncoming, stops wherever the stop point can be inserted; it records the stop for the next
cycle's hold and keeps the point-cloud history. -/
theorem plan_stops (hpc : cfg.obstacleFilteringParam.usePointcloud = false)
    (hsup : cfg.suppressSuddenStop = false) {fuel : ℕ} {pd : PlannerData}
    {m m' : ObstacleStopModule B} {stopPoint : Option Point}
    (hclosest : (m.prevClosestStopObstacles.map StopObstacle.uuid).Nodup)
    (hne : cycleStopObstacles P cfg pd m ≠ [])
    (hv : ∀ s ∈ cycleStopObstacles P cfg pd m, cfg.stopPlanningParam.maxNegativeVelocity ≤ s.velocity)
    (hins : ∀ z, (P.insertStopPoint z pd.trajectory).isSome)
    (hplan : plan ops P cfg fuel pd m = some (stopPoint, m')) :
    stopPoint.isSome ∧ m'.prevStopDistanceInfo.isSome ∧
      m'.stopPointcloudObstacleHistory = m.stopPointcloudObstacleHistory := by
  obtain ⟨t, ht⟩ := filterStopObstacleForPredictedObject_clear P cfg pd m hclosest
  rw [plan, collectStopObstacles_of_usePointcloud_false P cfg hpc, ht, Option.map_some',
    Option.some.injEq, List.append_nil] at hplan
  obtain ⟨h1, h2⟩ := planStop_stops ops P cfg hsup pd pd.trajectory
    (calcDistToBumper pd.isDrivingForward pd.vehicleInfo) hne hv hins _
  obtain ⟨-, -, h3⟩ := planStop_frame ops P cfg pd pd.trajectory
    (calcDistToBumper pd.isDrivingForward pd.vehicleInfo) (cycleStopObstacles P cfg pd m) _
  rw [hplan] at h1 h2 h3
  exact ⟨h1, h2, h3⟩

end Cycle

section SlowObjectRun

/-! A run of two cycles with the point cloud off. In the first, a slow object (velocity `0`, below
the fixed-stop enter threshold `1`) collides with the trajectory and is stopped for as a fixed stop.
In the second, a tenth of a second later, no collision is found for it; the previous closest
obstacle is re-admitted, since its object is still perceived and slow and the hold time is `1 s`,
and the stop is planned again with ego at rest and the first cycle's stop recorded for the hold. -/

/-- A path length buffer that is never reached. -/
def idleBufferOps : PathLengthBufferOps Unit := ⟨fun b _ _ _ _ _ => b, fun _ => none⟩

/-- Geometry that puts every object on the trajectory, with a collision point at `(5, 0)` at time
`0` and none afterwards; stop points insert at the trajectory's front. -/
def slowRunPrimitives : Primitives :=
  { (default : Primitives) with
    hypot := fun _ _ => 0
    getDistFromEgoLongitudinal := fun _ _ _ => 0
    getDistToTrajLateral := fun _ _ => 0
    getLatVelRelativeToTraj := fun _ _ => 0
    getLonVelRelativeToTraj := fun object _ => object.initialTwistLinearX
    getDistToTrajPoly := fun _ _ => 0
    getPredictedCurrentPose := fun _ _ _ => default
    getCollisionPoint := fun _ _ _ now _ _ => if now = 0 then some (⟨5, 0, 0⟩, 5) else none
    findFirstNearestSegmentIndex := fun _ _ => 0
    calcSignedArcLengthToPointOnSegment := fun _ _ _ _ => 0
    insertStopPoint := fun _ trajPoints => some (0, trajPoints) }

/-- The point cloud and sudden-stop suppression off, fixed stops entered below `1` and left above
`2`, a hold within `1` of the previous stop while ego is below `1`, re-admission for `1 s`, and
stops for objects of label `0` on the trajectory. -/
def slowRunConfig : Config :=
  { (default : Config) with
    stopPlanningParam := { (default : StopPlanningParam) with
      maxNegativeVelocity := 0
      obstacleVelocityThresholdEnterFixedStop := 1, obstacleVelocityThresholdExitFixedStop := 2,
      holdStopVelocityThreshold := 1, holdStopDistanceThreshold := 1 }
    obstacleFilteringParam := { (default : ObstacleFilteringParam) with
      usePointcloud := false, insideStopObjectTypes := [0], outsideStopObjectTypes := [],
      outsideEstimationTimeHorizon := 0, maxLatMargin := 0,
      maxLatMarginAgainstPredictedObjectUnknown := 0, stopObstacleHoldTimeThreshold := 1 }
    ignoreCrossingObstacle := false
    suppressSuddenStop := false }

/-- An object of label `0` at rest. -/
def slowObject : Object := ⟨"slow", ⟨0⟩, default, 0, 0, default, []⟩

/-- The two cycles' inputs, a tenth of a second apart, with ego at rest. -/
def slowRunFirstInput : PlannerData :=
  { (default : PlannerData) with objects := [slowObject], now := 0, predictedObjectsStamp := 0 }

def slowRunSecondInput : PlannerData :=
  { (default : PlannerData) with
    objects := [slowObject], now := 100000000, predictedObjectsStamp := 100000000 }

/-- The fixed stop the first cycle builds for the slow object. -/
def slowObjectRecord : StopObstacle :=
  ⟨"slow", 0, ⟨0⟩, default, default, 0, ⟨5, 0, 0⟩, 5, none⟩

def slowRunFirstCycle : Option Point × ObstacleStopModule Unit :=
  (plan idleBufferOps slowRunPrimitives slowRunConfig 0 slowRunFirstInput
    (ObstacleStopModule.initial ())).getD (none, ObstacleStopModule.initial ())

def slowRunSecondCycle : Option Point × ObstacleStopModule Unit :=
  (plan idleBufferOps slowRunPrimitives slowRunConfig 0 slowRunSecondInput
    slowRunFirstCycle.2).getD (none, ObstacleStopModule.initial ())

/-- The ghosts of the run: the slow object last detected fresh in the first cycle. -/
def slowRunFirstLastFresh : LastFresh := updateLastFresh (fun _ => none) [slowObjectRecord] 0

def slowRunSecondLastFresh : LastFresh := updateLastFresh slowRunFirstLastFresh [] 100000000

theorem cycleFreshStopObstacles_slowRunFirstInput :
    cycleFreshStopObstacles slowRunPrimitives slowRunConfig slowRunFirstInput
      (ObstacleStopModule.initial ()) = [slowObjectRecord] := by
  norm_num [cycleFreshStopObstacles, freshStopObstacle, roughGatesPass, roughLateralGatePasses,
    Utils.calcPossibleMinDistFromObjToTrajPoly, Utils.calcObjectPossibleMaxDistFromCenter,
    getMaxLatMargin, pickStopObstacleFromPredictedObject, pickCollisionPoint, isInVector,
    preciseLateralGatePasses, getTrajectoryPolygon, collisionPointAgainst, stopObstacleOfDecision,
    isObstacleVelocityRequiringFixedStop, getObstacleFromUuid, slowRunPrimitives, slowRunConfig,
    slowRunFirstInput, slowObject, slowObjectRecord, ObstacleStopModule.initial, List.filterMap_cons]

theorem cycleFreshStopObstacles_slowRunSecondInput (m : ObstacleStopModule Unit) :
    cycleFreshStopObstacles slowRunPrimitives slowRunConfig slowRunSecondInput m = [] := by
  norm_num [cycleFreshStopObstacles, freshStopObstacle, roughGatesPass, roughLateralGatePasses,
    Utils.calcPossibleMinDistFromObjToTrajPoly, Utils.calcObjectPossibleMaxDistFromCenter,
    getMaxLatMargin, pickStopObstacleFromPredictedObject, pickCollisionPoint, isInVector,
    preciseLateralGatePasses, getTrajectoryPolygon, collisionPointAgainst,
    slowRunPrimitives, slowRunConfig, slowRunSecondInput, slowObject, List.filterMap_cons]

theorem slowRunFirstCycle_plan :
    plan idleBufferOps slowRunPrimitives slowRunConfig 0 slowRunFirstInput (ObstacleStopModule.initial ()) =
      some (slowRunFirstCycle.1, slowRunFirstCycle.2) :=
  plan_eq_some_getD _ _ _ rfl _ _ _ (none, ObstacleStopModule.initial ())

theorem slowRunSecondCycle_plan :
    plan idleBufferOps slowRunPrimitives slowRunConfig 0 slowRunSecondInput slowRunFirstCycle.2 =
      some (slowRunSecondCycle.1, slowRunSecondCycle.2) :=
  plan_eq_some_getD _ _ _ rfl _ _ _ (none, ObstacleStopModule.initial ())

theorem cycleStopObstacles_slowRunFirstInput :
    cycleStopObstacles slowRunPrimitives slowRunConfig slowRunFirstInput
      (ObstacleStopModule.initial ()) = [slowObjectRecord] := by
  rw [cycleStopObstacles, cycleFreshStopObstacles_slowRunFirstInput]
  rfl

theorem slowRunFirstCycle_prevStopObstacles :
    slowRunFirstCycle.2.prevStopObstacles = [slowObjectRecord] ∧
      slowRunFirstCycle.2.prevClosestStopObstacles = [slowObjectRecord] := by
  obtain ⟨h1, h2⟩ := plan_prevStopObstacles _ _ _ (by exact List.nodup_nil) slowRunFirstCycle_plan
  rw [h1, h2, cycleStopObstacles_slowRunFirstInput,
    @getClosestStopObstacles_of_nodup [slowObjectRecord] (List.nodup_singleton _)]
  exact ⟨rfl, rfl⟩

/-- The second cycle re-admits the first cycle's record. -/
theorem cycleStopObstacles_slowRunSecondInput :
    cycleStopObstacles slowRunPrimitives slowRunConfig slowRunSecondInput slowRunFirstCycle.2 =
      [slowObjectRecord] := by
  rw [cycleStopObstacles, cycleFreshStopObstacles_slowRunSecondInput,
    slowRunFirstCycle_prevStopObstacles.2]
  norm_num [readmitCondition, isNewUuid, seconds, slowRunSecondInput, slowObject, slowObjectRecord,
    slowRunConfig]

theorem slowRunSecondCycle_prevStopObstacles :
    slowRunSecondCycle.2.prevStopObstacles = [slowObjectRecord] ∧
      slowRunSecondCycle.2.prevClosestStopObstacles = [slowObjectRecord] := by
  obtain ⟨h1, h2⟩ := plan_prevStopObstacles _ _ _
    (by rw [slowRunFirstCycle_prevStopObstacles.2]; exact List.nodup_singleton _) slowRunSecondCycle_plan
  rw [h1, h2, cycleStopObstacles_slowRunSecondInput,
    @getClosestStopObstacles_of_nodup [slowObjectRecord] (List.nodup_singleton _)]
  exact ⟨rfl, rfl⟩

theorem reachable_slowRunFirstCycle :
    Reachable idleBufferOps slowRunPrimitives slowRunConfig slowRunFirstCycle.2 slowRunFirstLastFresh := by
  have h := Reachable.step (Reachable.init ()) (by exact List.nodup_singleton _) slowRunFirstCycle_plan
  rwa [cycleFreshStopObstacles_slowRunFirstInput] at h

theorem reachable_slowRunSecondCycle :
    Reachable idleBufferOps slowRunPrimitives slowRunConfig slowRunSecondCycle.2 slowRunSecondLastFresh := by
  have h := reachable_slowRunFirstCycle.step (by exact List.nodup_singleton _) slowRunSecondCycle_plan
  rwa [cycleFreshStopObstacles_slowRunSecondInput] at h

theorem slowObjectRecord_not_oncoming :
    ∀ s ∈ [slowObjectRecord], slowRunConfig.stopPlanningParam.maxNegativeVelocity ≤ s.velocity := by
  simp [slowObjectRecord, slowRunConfig]

/-- Both cycles stop, record their stop and keep the empty point-cloud history. -/
theorem slowRunFirstCycle_stops :
    slowRunFirstCycle.1.isSome ∧ slowRunFirstCycle.2.prevStopDistanceInfo.isSome ∧
      slowRunFirstCycle.2.stopPointcloudObstacleHistory = [] :=
  plan_stops idleBufferOps slowRunPrimitives slowRunConfig rfl rfl (by exact List.nodup_nil)
    (by rw [cycleStopObstacles_slowRunFirstInput]; exact List.cons_ne_nil _ _)
    (by rw [cycleStopObstacles_slowRunFirstInput]; exact slowObjectRecord_not_oncoming)
    (fun _ => rfl) slowRunFirstCycle_plan

theorem slowRunSecondCycle_stops :
    slowRunSecondCycle.1.isSome ∧ slowRunSecondCycle.2.prevStopDistanceInfo.isSome ∧
      slowRunSecondCycle.2.stopPointcloudObstacleHistory = [] := by
  obtain ⟨h1, h2, h3⟩ := plan_stops idleBufferOps slowRunPrimitives slowRunConfig rfl rfl
    (by rw [slowRunFirstCycle_prevStopObstacles.2]; exact List.nodup_singleton _)
    (by rw [cycleStopObstacles_slowRunSecondInput]; exact List.cons_ne_nil _ _)
    (by rw [cycleStopObstacles_slowRunSecondInput]; exact slowObjectRecord_not_oncoming)
    (fun _ => rfl) slowRunSecondCycle_plan
  exact ⟨h1, h2, h3.trans slowRunFirstCycle_stops.2.2⟩

end SlowObjectRun

section Invariant

variable {B : Type} (ops : PathLengthBufferOps B) (P : Primitives) (cfg : Config)

/-- Over every run of `plan()` cycles from the initial module, on predicted objects of pairwise
distinct UUIDs, the module never remembers two stop obstacles of one UUID; its previous closest
obstacles are those `get_closest_stop_obstacles` picks from the previous ones, again of distinct
UUIDs, and each carries the stamp of the last cycle that detected its object fresh. -/
theorem prevStopObstacles_of_reachable {m : ObstacleStopModule B} {g : LastFresh}
    (hr : Reachable ops P cfg m g) :
    (m.prevStopObstacles.map StopObstacle.uuid).Nodup ∧
      m.prevClosestStopObstacles = getClosestStopObstacles m.prevStopObstacles ∧
      (m.prevClosestStopObstacles.map StopObstacle.uuid).Nodup ∧
      ∀ r ∈ m.prevClosestStopObstacles, g r.uuid = some r.stamp :=
  have hinv := moduleInv_of_reachable ops P cfg hr
  ⟨hinv.nodup_uuids, hinv.prevClosest_eq, hinv.nodup_closest_uuids, hinv.lastFresh_stamp⟩

/-- The slow-object run after its second cycle: the remembered obstacle was re-admitted, not
detected fresh, and still carries the first cycle's stamp, the last fresh detection of its object. -/
theorem prevStopObstacles_of_reachable_after_readmission :
    slowRunSecondCycle.2.prevClosestStopObstacles = [slowObjectRecord] ∧
      slowObjectRecord.stamp ≠ slowRunSecondInput.predictedObjectsStamp ∧
      (slowRunSecondCycle.2.prevStopObstacles.map StopObstacle.uuid).Nodup ∧
      slowRunSecondCycle.2.prevClosestStopObstacles =
        getClosestStopObstacles slowRunSecondCycle.2.prevStopObstacles ∧
      (slowRunSecondCycle.2.prevClosestStopObstacles.map StopObstacle.uuid).Nodup ∧
      ∀ r ∈ slowRunSecondCycle.2.prevClosestStopObstacles, slowRunSecondLastFresh r.uuid = some r.stamp :=
  ⟨slowRunSecondCycle_prevStopObstacles.2, by decide,
    prevStopObstacles_of_reachable idleBufferOps slowRunPrimitives slowRunConfig
      reachable_slowRunSecondCycle⟩

end Invariant

section FixedStop

variable (P : Primitives) (cfg : Config)

theorem getObstacleFromUuid_eq_some_iff {xs : List StopObstacle}
    (h : (xs.map StopObstacle.uuid).Nodup) {u : String} {r : StopObstacle} :
    getObstacleFromUuid xs u = some r ↔ r ∈ xs ∧ r.uuid = u := by
  have hfind : ∀ {r'}, getObstacleFromUuid xs u = some r' → r' ∈ xs ∧ r'.uuid = u := fun hg => by
    have hg' : xs.find? (fun o => decide (o.uuid = u)) = some _ := hg
    exact ⟨List.mem_of_find?_eq_some hg', by simpa using List.find?_some hg'⟩
  refine ⟨hfind, fun ⟨hr, hu⟩ => ?_⟩
  cases hg : getObstacleFromUuid xs u with
  | none =>
    have hnone : ∀ x ∈ xs, ¬x.uuid = u := by simpa [getObstacleFromUuid] using hg
    exact absurd hu (hnone r hr)
  | some r' =>
    obtain ⟨hr', hu'⟩ := hfind hg
    rw [List.inj_on_of_nodup_map h hr' hr (hu'.trans hu.symm)]

/-- Over previous candidates of distinct UUIDs, the flag `is_prev_object_requires_fixed_stop`
holds exactly when the object's own record is a fixed stop. -/
theorem isPrevObjectRequiresFixedStop_iff {xs : List StopObstacle}
    (h : (xs.map StopObstacle.uuid).Nodup) (u : String) :
    ((getObstacleFromUuid xs u).isSome && ((getObstacleFromUuid xs u).bind (·.brakingDist)).isNone) =
        true ↔ ∃ r ∈ xs, r.uuid = u ∧ r.brakingDist = none := by
  cases hg : getObstacleFromUuid xs u with
  | none =>
    simp only [Option.isSome_none, Bool.false_and, Bool.false_eq_true, false_iff, not_exists, not_and]
    intro r hr hu _
    rw [(getObstacleFromUuid_eq_some_iff h).mpr ⟨hr, hu⟩] at hg
    cases hg
  | some r =>
    obtain ⟨hr, hu⟩ := (getObstacleFromUuid_eq_some_iff h).mp hg
    simp only [Option.isSome_some, Option.some_bind, Bool.true_and, Option.isNone_iff_eq_none]
    refine ⟨fun hb => ⟨r, hr, hu, hb⟩, fun ⟨r', hr', hu', hb'⟩ => ?_⟩
    rw [(getObstacleFromUuid_eq_some_iff h).mpr ⟨hr', hu'⟩] at hg
    exact Option.some.inj hg ▸ hb'

theorem isObstacleVelocityRequiringFixedStop_iff {xs : List StopObstacle}
    (h : (xs.map StopObstacle.uuid).Nodup) (object : Object) (trajPoints : List TrajectoryPoint) :
    isObstacleVelocityRequiringFixedStop P cfg xs object trajPoints = true ↔
      if ∃ r ∈ xs, r.uuid = object.objectId ∧ r.brakingDist = none then
        P.getLonVelRelativeToTraj object trajPoints ≤
          cfg.stopPlanningParam.obstacleVelocityThresholdExitFixedStop
      else P.getLonVelRelativeToTraj object trajPoints <
        cfg.stopPlanningParam.obstacleVelocityThresholdEnterFixedStop := by
  unfold isObstacleVelocityRequiringFixedStop
  by_cases hf : ∃ r ∈ xs, r.uuid = object.objectId ∧ r.brakingDist = none
  · simp only [(isPrevObjectRequiresFixedStop_iff h _).mpr hf, hf, ↓reduceIte]
    simp
  · simp only [hf, ↓reduceIte]
    rw [if_neg fun h' => hf ((isPrevObjectRequiresFixedStop_iff h _).mp h')]
    simp

theorem stopObstacleOfDecision_brakingDist {xs : List StopObstacle} {pd : PlannerData}
    {object : Object} {collisionPoint : Point × ℚ} {s : StopObstacle}
    (hs : stopObstacleOfDecision P cfg xs pd object collisionPoint = some s) :
    s.brakingDist = none ↔ isObstacleVelocityRequiringFixedStop P cfg xs object pd.trajectory = true := by
  unfold stopObstacleOfDecision at hs
  split_ifs at hs with h1 <;> cases hs <;> simp [h1]

theorem stopObstacleOfDecision_of_fixed {xs : List StopObstacle} {pd : PlannerData}
    {object : Object} (collisionPoint : Point × ℚ)
    (h : isObstacleVelocityRequiringFixedStop P cfg xs object pd.trajectory = true) :
    ∃ s, stopObstacleOfDecision P cfg xs pd object collisionPoint = some s ∧ s.brakingDist = none :=
  by simp only [stopObstacleOfDecision, h, ↓reduceIte]; exact ⟨_, rfl, rfl⟩

end FixedStop

end AutowarePlanning.ObstacleStop
