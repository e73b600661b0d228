import AutowarePlanning.ObstacleStop.PolygonCache

/-!
# What `check_consistency` re-admits

The object loop builds at most one stop obstacle per object, named by the object's UUID and
stamped with the predicted objects' stamp. `check_consistency` then appends, in their order, the
previous closest obstacles whose object is still perceived and slow, whose stamp is recent, and
whose UUID the list does not hold yet (`foldl_readmitStep`). With pairwise distinct object UUIDs
the result has pairwise distinct UUIDs.

Re-running the filter on its own output re-admits exactly the records it re-admitted the first
time, and the closest obstacle of each label is then the same (`getClosestStopObstacles_readmit`).
-/

namespace AutowarePlanning.ObstacleStop

open AutowarePlanning

section Readmit

variable (cfg : Config) (currentTime : Time) (objects : List Object)

/-- The part of the re-admission test that does not look at the list being built. -/
def readmitCondition (r : StopObstacle) : Bool :=
  match objects.find? (fun o => o.objectId = r.uuid) with
  | none => false
  | some object =>
    decide (object.initialTwistLinearX < cfg.stopPlanningParam.obstacleVelocityThresholdEnterFixedStop ∧
      seconds (currentTime - r.stamp) < cfg.obstacleFilteringParam.stopObstacleHoldTimeThreshold)

/-- A UUID the list does not hold yet. -/
def isNewUuid (stopObstacles : List StopObstacle) (r : StopObstacle) : Bool :=
  stopObstacles.all fun so => so.uuid ≠ r.uuid

theorem readmitStep_eq (stopObstacles : List StopObstacle) (r : StopObstacle) :
    readmitStep cfg currentTime objects stopObstacles r =
      if readmitCondition cfg currentTime objects r && isNewUuid stopObstacles r then stopObstacles ++ [r]
      else stopObstacles := by
  unfold readmitStep readmitCondition isNewUuid
  cases hf : List.find? (fun o => decide (o.objectId = r.uuid)) objects with
  | none => simp
  | some object =>
    generalize (stopObstacles.all fun so => decide (so.uuid ≠ r.uuid)) = b
    cases b <;> simp

theorem isNewUuid_append_singleton {stopObstacles : List StopObstacle} {x r : StopObstacle}
    (h : x.uuid ≠ r.uuid) : isNewUuid (stopObstacles ++ [x]) r = isNewUuid stopObstacles r := by
  simp [isNewUuid, h]

/-- Over previous obstacles of pairwise distinct UUIDs, `check_consistency` appends exactly those
that pass the test against the list it started from. -/
theorem foldl_readmitStep (xs acc : List StopObstacle) (hxs : (xs.map StopObstacle.uuid).Nodup) :
    xs.foldl (readmitStep cfg currentTime objects) acc =
      acc ++ xs.filter fun r => readmitCondition cfg currentTime objects r && isNewUuid acc r := by
  induction xs generalizing acc with
  | nil => simp
  | cons x xs ih =>
    rw [List.map_cons, List.nodup_cons] at hxs
    have hne : ∀ r ∈ xs, x.uuid ≠ r.uuid := fun r hr h => hxs.1 (h ▸ List.mem_map_of_mem _ hr)
    rw [List.foldl_cons, readmitStep_eq, List.filter_cons]
    split_ifs with hx
    · rw [ih _ hxs.2, List.append_assoc, List.singleton_append]
      congr 2
      exact List.filter_congr fun r hr => by rw [isNewUuid_append_singleton (hne r hr)]
    · exact ih _ hxs.2

end Readmit

section Fresh

variable (P : Primitives) (cfg : Config)

theorem stopObstacleOfDecision_eq_some {prevStopObstacles : List StopObstacle} {pd : PlannerData}
    {object : Object} {collisionPoint : Point × ℚ} {s : StopObstacle}
    (h : stopObstacleOfDecision P cfg prevStopObstacles pd object collisionPoint = some s) :
    s.uuid = object.objectId ∧ s.stamp = pd.predictedObjectsStamp := by
  unfold stopObstacleOfDecision at h
  split_ifs at h <;> cases h <;> exact ⟨rfl, rfl⟩

variable (prevStopObstacles : List StopObstacle) (pd : PlannerData)
  (decimatedTrajPoints : List TrajectoryPoint) (distToBumper : ℚ)

theorem freshStopObstacle_eq_some {object : Object} {s : StopObstacle}
    (h : freshStopObstacle P cfg prevStopObstacles pd decimatedTrajPoints distToBumper object = some s) :
    s.uuid = object.objectId ∧ s.stamp = pd.predictedObjectsStamp := by
  unfold freshStopObstacle pickStopObstacleFromPredictedObject at h
  split_ifs at h
  obtain ⟨_, _, h⟩ := Option.bind_eq_some.mp h
  exact stopObstacleOfDecision_eq_some P cfg h

/-- The fresh candidates carry the UUIDs of their objects, in object order. -/
theorem uuids_filterMap_freshStopObstacle_sublist (objects : List Object) :
    ((objects.filterMap (freshStopObstacle P cfg prevStopObstacles pd decimatedTrajPoints
      distToBumper)).map StopObstacle.uuid).Sublist (objects.map Object.objectId) := by
  induction objects with
  | nil => simp
  | cons o os ih =>
    rw [List.filterMap_cons]
    cases h : freshStopObstacle P cfg prevStopObstacles pd decimatedTrajPoints distToBumper o with
    | none => exact ih.cons _
    | some s =>
      rw [List.map_cons, (freshStopObstacle_eq_some P cfg prevStopObstacles pd decimatedTrajPoints
        distToBumper h).1]
      exact ih.cons₂ _

end Fresh

/-- Obstacles of pairwise distinct UUIDs keep them distinct in their closest-of-each-label list. -/
theorem nodup_uuids_getClosestStopObstacles {xs : List StopObstacle}
    (h : (xs.map StopObstacle.uuid).Nodup) :
    ((getClosestStopObstacles xs).map StopObstacle.uuid).Nodup := by
  have hnodup : (getClosestStopObstacles xs).Nodup :=
    (nodup_labels_getClosestStopObstacles xs).of_map _
  refine hnodup.map_on fun a ha b hb hab => ?_
  exact List.inj_on_of_nodup_map h (mem_of_mem_getClosestStopObstacles ha)
    (mem_of_mem_getClosestStopObstacles hb) hab

/-- The fresh candidates followed by what `check_consistency` re-admits from `prevClosest`. -/
theorem checkConsistency_eq (cfg : Config) (currentTime : Time) (objects : List Object)
    {prevClosest : List StopObstacle} (fresh : List StopObstacle)
    (h : (prevClosest.map StopObstacle.uuid).Nodup) :
    checkConsistency cfg currentTime objects prevClosest fresh =
      let l := fresh ++ prevClosest.filter fun r =>
        readmitCondition cfg currentTime objects r && isNewUuid fresh r
      (l, getClosestStopObstacles l) := by
  simp only [checkConsistency, foldl_readmitStep cfg currentTime objects prevClosest fresh h]

theorem isNewUuid_of_mem {stopObstacles : List StopObstacle} {a : StopObstacle} (h : a ∈ stopObstacles) :
    isNewUuid stopObstacles a = false := by
  simpa [isNewUuid] using ⟨a, h, rfl⟩

/-- Re-admission from the closest list of `fresh ++ R`, where every record of `R` passed the test
against `fresh`, rebuilds that closest list. -/
theorem getClosestStopObstacles_readmit (cfg : Config) (currentTime : Time) (objects : List Object)
    (fresh R : List StopObstacle)
    (hR : ∀ r ∈ R, readmitCondition cfg currentTime objects r = true ∧ isNewUuid fresh r = true) :
    getClosestStopObstacles (fresh ++ (getClosestStopObstacles (fresh ++ R)).filter fun r =>
      readmitCondition cfg currentTime objects r && isNewUuid fresh r) =
      getClosestStopObstacles (fresh ++ R) := by
  simp only [getClosestStopObstacles_append]
  refine foldl_filter_foldl _ (nodup_labels_getClosestStopObstacles fresh) (fun a ha => ?_)
    (fun r hr => by simp [hR r hr])
  simp [isNewUuid_of_mem (mem_of_mem_getClosestStopObstacles ha)]

end AutowarePlanning.ObstacleStop
