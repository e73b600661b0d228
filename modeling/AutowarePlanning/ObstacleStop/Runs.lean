import AutowarePlanning.ObstacleStop.Module

/-!
# Properties of runs

What holds in every cycle of a run of `plan()`: the polygon tables serve only the current cycle's
polygons, the predicted-object filter returns this cycle's fresh candidates followed by recent
re-admitted ones, and the fixed-stop decision has the hysteresis of its two velocity thresholds.
-/

namespace AutowarePlanning.ObstacleStop

open AutowarePlanning

section Runs

variable {B : Type} (ops : PathLengthBufferOps B) (P : Primitives) (cfg : Config)

/-- Whatever the module held before, at every point of a cycle's object loop the polygon tables
return the polygons of the current trajectory and pose for the requested margin, and the filter
returns what it would with every polygon computed afresh. -/
theorem plan_polygon_tables_serve_current_cycle (m : ObstacleStopModule B) (pd : PlannerData) (n : ℕ) :
    (∀ latMargin,
      (getTrajectoryPolygon P
        ((pd.objects.take n).foldl
          (filterStep P cfg m.clearPolygonTables.prevStopObstacles pd (planDecimatedTrajPoints P cfg pd)
            (calcDistToBumper pd.isDrivingForward pd.vehicleInfo))
          ([], (m.clearPolygonTables.trajectoryPolygonForInsideMap,
            m.clearPolygonTables.decimatedTrajPolys))).2
        (planDecimatedTrajPoints P cfg pd) pd.vehicleInfo pd.currentOdometry.pose latMargin
        pd.trajectoryPolygonCollisionCheck.enableToConsiderCurrentPose
        pd.trajectoryPolygonCollisionCheck.timeToConvergence
        pd.trajectoryPolygonCollisionCheck.decimateTrajectoryStepLength).1 =
      P.createOneStepPolygons (planDecimatedTrajPoints P cfg pd) pd.vehicleInfo pd.currentOdometry.pose
        latMargin pd.trajectoryPolygonCollisionCheck.enableToConsiderCurrentPose
        pd.trajectoryPolygonCollisionCheck.timeToConvergence
        pd.trajectoryPolygonCollisionCheck.decimateTrajectoryStepLength) ∧
    (getDecimatedTrajPolys P
        ((pd.objects.take n).foldl
          (filterStep P cfg m.clearPolygonTables.prevStopObstacles pd (planDecimatedTrajPoints P cfg pd)
            (calcDistToBumper pd.isDrivingForward pd.vehicleInfo))
          ([], (m.clearPolygonTables.trajectoryPolygonForInsideMap,
            m.clearPolygonTables.decimatedTrajPolys))).2
        pd.trajectory pd.currentOdometry.pose pd.vehicleInfo pd.egoNearestDistThreshold
        pd.egoNearestYawThreshold pd.trajectoryPolygonCollisionCheck).1 = zeroMarginTrajPolys P pd ∧
    (filterStopObstacleForPredictedObject P cfg pd (planDecimatedTrajPoints P cfg pd)
        (calcDistToBumper pd.isDrivingForward pd.vehicleInfo) m.clearPolygonTables).1 =
      (checkConsistency cfg pd.predictedObjectsStamp pd.objects m.prevClosestStopObstacles
        (cycleFreshStopObstacles P cfg pd m)).1 := by
  obtain ⟨t, ht, hv⟩ := foldl_filterStep_of_valid P cfg m.prevStopObstacles pd
    (planDecimatedTrajPoints P cfg pd) (calcDistToBumper pd.isDrivingForward pd.vehicleInfo)
    (pd.objects.take n) [] (tablesValid_empty P pd (planDecimatedTrajPoints P cfg pd))
  obtain ⟨t₁, h₁, -⟩ := getDecimatedTrajPolys_of_valid P pd _ hv
  obtain ⟨t₂, -, h₂⟩ := filterStopObstacleForPredictedObject_of_valid P cfg pd
    (planDecimatedTrajPoints P cfg pd) (calcDistToBumper pd.isDrivingForward pd.vehicleInfo)
    m.clearPolygonTables (tablesValid_empty P pd _)
  refine ⟨fun latMargin => ?_, ?_, by rw [h₂]; rfl⟩
  · obtain ⟨t', h', -⟩ := getTrajectoryPolygon_of_valid P pd _ hv latMargin
    simp only [ObstacleStopModule.clearPolygonTables] at h' ⊢
    rw [ht, h']
    rfl
  · simp only [ObstacleStopModule.clearPolygonTables]
    rw [ht, h₁]

theorem readmitCondition_elapsed {currentTime : Time} {objects : List Object} {r : StopObstacle}
    (h : readmitCondition cfg currentTime objects r = true) :
    seconds (currentTime - r.stamp) < cfg.obstacleFilteringParam.stopObstacleHoldTimeThreshold := by
  unfold readmitCondition at h
  split at h
  · cases h
  · exact (of_decide_eq_true h).2

/-- In every cycle of a run, `filter_stop_obstacle_for_predicted_object` returns, and stores as
`prev_stop_obstacles_`, this cycle's fresh candidates in object order followed by the previous
closest obstacles whose object is still perceived and slow, whose UUID no fresh candidate has and
whose stamp is recent; the UUIDs are pairwise distinct. A re-admitted record keeps the stamp of the
last cycle that freshly detected its UUID, so it is dropped once the hold time has passed since
then, however often it was re-admitted. -/
theorem filterStopObstacleForPredictedObject_in_run {m : ObstacleStopModule B} {g : LastFresh}
    (hr : Reachable ops P cfg m g) {pd : PlannerData} (hadm : Admissible pd) :
    (filterStopObstacleForPredictedObject P cfg pd (planDecimatedTrajPoints P cfg pd)
        (calcDistToBumper pd.isDrivingForward pd.vehicleInfo) m.clearPolygonTables).1 =
      cycleFreshStopObstacles P cfg pd m ++ m.prevClosestStopObstacles.filter (fun r =>
        readmitCondition cfg pd.predictedObjectsStamp pd.objects r &&
          isNewUuid (cycleFreshStopObstacles P cfg pd m) r) ∧
    (∀ fuel stopPoint (m' : ObstacleStopModule B), plan ops P cfg fuel pd m = some (stopPoint, m') →
      m'.prevStopObstacles = cycleStopObstacles P cfg pd m) ∧
    ((cycleStopObstacles P cfg pd m).map StopObstacle.uuid).Nodup ∧
    ∀ r ∈ m.prevClosestStopObstacles.filter (fun r =>
        readmitCondition cfg pd.predictedObjectsStamp pd.objects r &&
          isNewUuid (cycleFreshStopObstacles P cfg pd m) r),
      g r.uuid = some r.stamp ∧
        seconds (pd.predictedObjectsStamp - r.stamp) < cfg.obstacleFilteringParam.stopObstacleHoldTimeThreshold := by
  have hinv := moduleInv_of_reachable ops P cfg hr
  obtain ⟨t, ht⟩ := filterStopObstacleForPredictedObject_clear P cfg pd m hinv.nodup_closest_uuids
  refine ⟨by rw [ht]; rfl, fun _ _ _ h => (plan_prevStopObstacles ops P cfg hinv.nodup_closest_uuids h).1,
    nodup_uuids_cycleStopObstacles P cfg hadm hinv.nodup_closest_uuids, fun r hr => ?_⟩
  obtain ⟨hmem, hcond⟩ := List.mem_filter.mp hr
  exact ⟨hinv.lastFresh_stamp r hmem, readmitCondition_elapsed cfg ((Bool.and_eq_true _ _).mp hcond).1⟩

/-- The second cycle of the slow-object run builds no fresh candidate, and the filter returns the
first cycle's record, re-admitted with its first-cycle stamp a tenth of a second old. -/
theorem filterStopObstacleForPredictedObject_in_run_after_readmission :
    cycleFreshStopObstacles slowRunPrimitives slowRunConfig slowRunSecondInput slowRunFirstCycle.2 = [] ∧
      (filterStopObstacleForPredictedObject slowRunPrimitives slowRunConfig slowRunSecondInput
          (planDecimatedTrajPoints slowRunPrimitives slowRunConfig slowRunSecondInput)
          (calcDistToBumper slowRunSecondInput.isDrivingForward slowRunSecondInput.vehicleInfo)
          slowRunFirstCycle.2.clearPolygonTables).1 = [slowObjectRecord] ∧
      slowRunFirstLastFresh slowObjectRecord.uuid = some slowObjectRecord.stamp ∧
      seconds (slowRunSecondInput.predictedObjectsStamp - slowObjectRecord.stamp) <
        slowRunConfig.obstacleFilteringParam.stopObstacleHoldTimeThreshold := by
  obtain ⟨h1, -, -, h4⟩ := filterStopObstacleForPredictedObject_in_run idleBufferOps slowRunPrimitives
    slowRunConfig reachable_slowRunFirstCycle (show Admissible slowRunSecondInput from List.nodup_singleton _)
  have hre := cycleStopObstacles_slowRunSecondInput
  rw [cycleStopObstacles, cycleFreshStopObstacles_slowRunSecondInput, List.nil_append] at hre
  rw [cycleFreshStopObstacles_slowRunSecondInput, List.nil_append, hre] at h1
  rw [cycleFreshStopObstacles_slowRunSecondInput, hre] at h4
  exact ⟨cycleFreshStopObstacles_slowRunSecondInput _, h1, h4 _ (List.mem_singleton_self _)⟩

/-- In every cycle of a run, an object that reaches the fixed-stop decision is stopped for as a
fixed stop whenever its velocity is at most the exit threshold if last cycle's candidates hold a
fixed stop for it, and only when its velocity is below the enter threshold otherwise. With the
velocity between the two thresholds the kind of stop its record had last cycle is kept. -/
theorem stopObstacleOfDecision_hysteresis_in_run {m : ObstacleStopModule B} {g : LastFresh}
    (hr : Reachable ops P cfg m g) (pd : PlannerData) (object : Object) (collisionPoint : Point × ℚ) :
    ((∃ r ∈ m.prevStopObstacles, r.uuid = object.objectId ∧ r.brakingDist = none) →
      P.getLonVelRelativeToTraj object pd.trajectory ≤
        cfg.stopPlanningParam.obstacleVelocityThresholdExitFixedStop →
      ∃ s, stopObstacleOfDecision P cfg m.prevStopObstacles pd object collisionPoint = some s ∧
        s.brakingDist = none) ∧
    ((¬∃ r ∈ m.prevStopObstacles, r.uuid = object.objectId ∧ r.brakingDist = none) →
      ∀ s, stopObstacleOfDecision P cfg m.prevStopObstacles pd object collisionPoint = some s →
        s.brakingDist = none →
        P.getLonVelRelativeToTraj object pd.trajectory <
          cfg.stopPlanningParam.obstacleVelocityThresholdEnterFixedStop) ∧
    (∀ r ∈ m.prevStopObstacles, r.uuid = object.objectId →
      cfg.stopPlanningParam.obstacleVelocityThresholdEnterFixedStop ≤
        P.getLonVelRelativeToTraj object pd.trajectory →
      P.getLonVelRelativeToTraj object pd.trajectory ≤
        cfg.stopPlanningParam.obstacleVelocityThresholdExitFixedStop →
      ∀ s, stopObstacleOfDecision P cfg m.prevStopObstacles pd object collisionPoint = some s →
        (s.brakingDist = none ↔ r.brakingDist = none)) := by
  have hnodup := (moduleInv_of_reachable ops P cfg hr).nodup_uuids
  have hiff := isObstacleVelocityRequiringFixedStop_iff P cfg hnodup object pd.trajectory
  refine ⟨fun hf hv => stopObstacleOfDecision_of_fixed P cfg collisionPoint
    (hiff.mpr (by simpa [hf] using hv)), fun hf s hs hb => ?_, fun r hr hu henter hexit s hs => ?_⟩
  · simpa [hf] using hiff.mp ((stopObstacleOfDecision_brakingDist P cfg hs).mp hb)
  · rw [stopObstacleOfDecision_brakingDist P cfg hs, hiff]
    by_cases hb : r.brakingDist = none
    · simp [show ∃ r ∈ m.prevStopObstacles, r.uuid = object.objectId ∧ r.brakingDist = none from
        ⟨r, hr, hu, hb⟩, hexit, hb]
    · have hnf : ¬∃ r' ∈ m.prevStopObstacles, r'.uuid = object.objectId ∧ r'.brakingDist = none :=
        fun ⟨r', hr', hu', hb'⟩ => hb (List.inj_on_of_nodup_map hnodup hr' hr (hu'.trans hu.symm) ▸ hb')
      simp [hnf, hb, not_lt.mpr henter]

/-- The slow object of the slow-object run, moving at `1.5` in the second cycle. -/
def acceleratedSlowObject : Object := { slowObject with initialTwistLinearX := 3 / 2 }

/-- After the first cycle of the slow-object run, which stopped for the slow object as a fixed stop,
the object at `1.5`, between the enter threshold `1` and the exit threshold `2`, is still a fixed
stop. -/
theorem stopObstacleOfDecision_hysteresis_in_run_after_fixed_stop :
    slowObjectRecord ∈ slowRunFirstCycle.2.prevStopObstacles ∧ slowObjectRecord.brakingDist = none ∧
      slowRunConfig.stopPlanningParam.obstacleVelocityThresholdEnterFixedStop <
        slowRunPrimitives.getLonVelRelativeToTraj acceleratedSlowObject slowRunSecondInput.trajectory ∧
      slowRunPrimitives.getLonVelRelativeToTraj acceleratedSlowObject slowRunSecondInput.trajectory ≤
        slowRunConfig.stopPlanningParam.obstacleVelocityThresholdExitFixedStop ∧
      ∃ s, stopObstacleOfDecision slowRunPrimitives slowRunConfig slowRunFirstCycle.2.prevStopObstacles
          slowRunSecondInput acceleratedSlowObject (⟨5, 0, 0⟩, 5) = some s ∧ s.brakingDist = none := by
  have hmem : slowObjectRecord ∈ slowRunFirstCycle.2.prevStopObstacles := by
    rw [slowRunFirstCycle_prevStopObstacles.1]
    exact List.mem_singleton_self _
  have hv : slowRunConfig.stopPlanningParam.obstacleVelocityThresholdEnterFixedStop <
        slowRunPrimitives.getLonVelRelativeToTraj acceleratedSlowObject slowRunSecondInput.trajectory ∧
      slowRunPrimitives.getLonVelRelativeToTraj acceleratedSlowObject slowRunSecondInput.trajectory ≤
        slowRunConfig.stopPlanningParam.obstacleVelocityThresholdExitFixedStop := by
    norm_num [slowRunPrimitives, acceleratedSlowObject, slowRunConfig]
  exact ⟨hmem, rfl, hv.1, hv.2, (stopObstacleOfDecision_hysteresis_in_run idleBufferOps slowRunPrimitives
    slowRunConfig reachable_slowRunFirstCycle slowRunSecondInput acceleratedSlowObject (⟨5, 0, 0⟩, 5)).1
      ⟨slowObjectRecord, hmem, rfl, rfl⟩ hv.2⟩

end Runs

end AutowarePlanning.ObstacleStop
