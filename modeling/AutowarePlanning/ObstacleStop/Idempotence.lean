import AutowarePlanning.ObstacleStop.Runs

/-!
# Replaying a cycle

A `plan()` cycle that does not reach the path length buffer, replayed on the state it leaves with
the same input and clock reading, stops at the same point.

Three things change between the two calls. The fixed-stop decision reads the candidates of the
first call instead of the earlier ones; with the enter threshold at most the exit threshold it
decides every object as before (`cycleFreshStopObstacles_replay`). `check_consistency` re-admits
from the closest list of the first call, which rebuilds that closest list. The point-cloud history
now also holds the first call's point-cloud obstacles, which all pass the lateral tests and come
out a second time, as duplicates that do not change the closest obstacle of any label. Last, the
hold of the previous stop finds the stop the first call inserted; re-projected onto the same
trajectory it is the distance itself, given three contracts of `motion_utils`: inserting a stop
point keeps the position of the trajectory's front point, the nearest-segment search reads only the
position of a pose, and the arc length from a trajectory's front point to itself is zero.

The slow-object run of `Module` replays its second cycle, which stops for a re-admitted record with
the first cycle's stop recorded for the hold.
-/

namespace AutowarePlanning.ObstacleStop

open AutowarePlanning

section Decision

variable (P : Primitives) (cfg : Config)

/-- The record `pick_stop_obstacle_from_predicted_object` builds depends on the previous candidates
only through the fixed-stop flag. -/
theorem stopObstacleOfDecision_congr {xs ys : List StopObstacle} {pd : PlannerData} {object : Object}
    (h : isObstacleVelocityRequiringFixedStop P cfg xs object pd.trajectory =
      isObstacleVelocityRequiringFixedStop P cfg ys object pd.trajectory) :
    stopObstacleOfDecision P cfg xs pd object = stopObstacleOfDecision P cfg ys pd object := by
  funext collisionPoint
  simp only [stopObstacleOfDecision, h]

/-- The fixed-stop flag is the same against `ys` as against `xs` when `ys` holds a fixed record for
the object only if `xs` did or the object was decided fixed, and holds none only if `xs` held none
or the object was decided not fixed. -/
theorem isObstacleVelocityRequiringFixedStop_stable {xs ys : List StopObstacle}
    (hxs : (xs.map StopObstacle.uuid).Nodup) (hys : (ys.map StopObstacle.uuid).Nodup)
    (hthr : cfg.stopPlanningParam.obstacleVelocityThresholdEnterFixedStop ≤
      cfg.stopPlanningParam.obstacleVelocityThresholdExitFixedStop)
    (object : Object) (trajPoints : List TrajectoryPoint)
    (hfixed : (∃ r ∈ ys, r.uuid = object.objectId ∧ r.brakingDist = none) →
      (∃ r ∈ xs, r.uuid = object.objectId ∧ r.brakingDist = none) ∨
        isObstacleVelocityRequiringFixedStop P cfg xs object trajPoints = true)
    (hnotFixed : (¬∃ r ∈ ys, r.uuid = object.objectId ∧ r.brakingDist = none) →
      (¬∃ r ∈ xs, r.uuid = object.objectId ∧ r.brakingDist = none) ∨
        isObstacleVelocityRequiringFixedStop P cfg xs object trajPoints = false) :
    isObstacleVelocityRequiringFixedStop P cfg ys object trajPoints =
      isObstacleVelocityRequiringFixedStop P cfg xs object trajPoints := by
  have hx := isObstacleVelocityRequiringFixedStop_iff P cfg hxs object trajPoints
  have hy := isObstacleVelocityRequiringFixedStop_iff P cfg hys object trajPoints
  set v := P.getLonVelRelativeToTraj object trajPoints
  apply Bool.eq_iff_iff.mpr
  rw [hx, hy]
  by_cases hfy : ∃ r ∈ ys, r.uuid = object.objectId ∧ r.brakingDist = none <;>
    by_cases hfx : ∃ r ∈ xs, r.uuid = object.objectId ∧ r.brakingDist = none <;>
    simp only [hfy, hfx, ↓reduceIte]
  · rcases hfixed hfy with h | h
    · exact absurd h hfx
    · rw [hx, if_neg hfx] at h
      exact ⟨fun _ => h, fun _ => h.le.trans hthr⟩
  · rcases hnotFixed hfy with h | h
    · exact absurd hfx h
    · rw [← Bool.not_eq_true, hx, if_pos hfx] at h
      exact ⟨fun h' => absurd (h'.le.trans hthr) h, fun h' => absurd h' h⟩

end Decision

section Fresh

variable {B : Type} (P : Primitives) (cfg : Config) {pd : PlannerData} {m : ObstacleStopModule B}
  {g : LastFresh}

/-- Against the candidates of a cycle, the fixed-stop decision of that cycle's input builds every
object's record as it did against the earlier candidates. -/
theorem freshStopObstacle_replay (hinv : ModuleInv m g) (hadm : Admissible pd)
    (hthr : cfg.stopPlanningParam.obstacleVelocityThresholdEnterFixedStop ≤
      cfg.stopPlanningParam.obstacleVelocityThresholdExitFixedStop)
    {o : Object} (ho : o ∈ pd.objects) :
    freshStopObstacle P cfg (cycleStopObstacles P cfg pd m) pd (planDecimatedTrajPoints P cfg pd)
        (calcDistToBumper pd.isDrivingForward pd.vehicleInfo) o =
      freshStopObstacle P cfg m.prevStopObstacles pd (planDecimatedTrajPoints P cfg pd)
        (calcDistToBumper pd.isDrivingForward pd.vehicleInfo) o := by
  have hnL := nodup_uuids_cycleStopObstacles P cfg hadm hinv.nodup_closest_uuids
  by_cases hg : roughGatesPass P cfg pd o = true
  swap
  · simp [freshStopObstacle, hg]
  cases hX : (pickCollisionPoint P cfg pd (planDecimatedTrajPoints P cfg pd) o
      (P.getDistToTrajPoly o (zeroMarginTrajPolys P pd))
      (calcDistToBumper pd.isDrivingForward pd.vehicleInfo) ([], none)).1 with
  | none => simp [freshStopObstacle, pickStopObstacleFromPredictedObject, hg, hX]
  | some cp =>
    have hfresh : ∀ xs, freshStopObstacle P cfg xs pd (planDecimatedTrajPoints P cfg pd)
        (calcDistToBumper pd.isDrivingForward pd.vehicleInfo) o =
        stopObstacleOfDecision P cfg xs pd o cp := fun xs => by
      simp [freshStopObstacle, pickStopObstacleFromPredictedObject, hg, hX]
    -- the record the object's decision builds is among the cycle's candidates
    have hfF : ∀ {f}, stopObstacleOfDecision P cfg m.prevStopObstacles pd o cp = some f →
        f ∈ cycleStopObstacles P cfg pd m := fun hd =>
      List.mem_append_left _ (List.mem_filterMap.mpr ⟨o, ho, (hfresh _).trans hd⟩)
    have hflag : isObstacleVelocityRequiringFixedStop P cfg (cycleStopObstacles P cfg pd m) o
        pd.trajectory = isObstacleVelocityRequiringFixedStop P cfg m.prevStopObstacles o pd.trajectory := by
      apply isObstacleVelocityRequiringFixedStop_stable P cfg hinv.nodup_uuids hnL hthr
      · rintro ⟨r, hr, hu, hb⟩
        rcases hd : stopObstacleOfDecision P cfg m.prevStopObstacles pd o cp with _ | f
        · -- no record was built: a fixed record for the object can only be a re-admitted one
          refine Or.inl ⟨r, ?_, hu, hb⟩
          rcases List.mem_append.mp hr with hF | hR
          · obtain ⟨o', ho', hfo'⟩ := List.mem_filterMap.mp hF
            have ho'o : o' = o := List.inj_on_of_nodup_map hadm ho' ho
              (((freshStopObstacle_eq_some P cfg _ pd _ _ hfo').1).symm.trans hu)
            rw [ho'o, hfresh, hd] at hfo'
            cases hfo'
          · have hc := (List.mem_filter.mp hR).1
            rw [hinv.prevClosest_eq] at hc
            exact mem_of_mem_getClosestStopObstacles hc
        · -- the record built is the object's only record among the candidates
          have hfu := (stopObstacleOfDecision_eq_some P cfg hd).1
          exact Or.inr ((stopObstacleOfDecision_brakingDist P cfg hd).mp
            (List.inj_on_of_nodup_map hnL hr (hfF hd) (hu.trans hfu.symm) ▸ hb))
      · intro hnf
        rcases hd : stopObstacleOfDecision P cfg m.prevStopObstacles pd o cp with _ | f
        · refine Or.inr (Bool.eq_false_iff.mpr fun ht => ?_)
          obtain ⟨s, hs, -⟩ := stopObstacleOfDecision_of_fixed P cfg cp ht
          rw [hd] at hs
          cases hs
        · exact Or.inr (Bool.eq_false_iff.mpr fun ht => hnf ⟨f, hfF hd,
            (stopObstacleOfDecision_eq_some P cfg hd).1, (stopObstacleOfDecision_brakingDist P cfg hd).mpr ht⟩)
    rw [hfresh, hfresh, stopObstacleOfDecision_congr P cfg hflag]

/-- A replayed cycle builds the same fresh candidates. -/
theorem cycleFreshStopObstacles_replay {m₁ : ObstacleStopModule B} (hinv : ModuleInv m g)
    (hadm : Admissible pd)
    (hthr : cfg.stopPlanningParam.obstacleVelocityThresholdEnterFixedStop ≤
      cfg.stopPlanningParam.obstacleVelocityThresholdExitFixedStop)
    (hprev : m₁.prevStopObstacles = cycleStopObstacles P cfg pd m) :
    cycleFreshStopObstacles P cfg pd m₁ = cycleFreshStopObstacles P cfg pd m := by
  unfold cycleFreshStopObstacles
  rw [hprev]
  exact List.filterMap_congr fun o ho => freshStopObstacle_replay P cfg hinv hadm hthr ho

/-- A replayed cycle's candidates have the closest obstacles of the first cycle's. -/
theorem closest_cycleStopObstacles_replay {m₁ : ObstacleStopModule B} (hinv : ModuleInv m g)
    (hadm : Admissible pd)
    (hthr : cfg.stopPlanningParam.obstacleVelocityThresholdEnterFixedStop ≤
      cfg.stopPlanningParam.obstacleVelocityThresholdExitFixedStop)
    (hprev : m₁.prevStopObstacles = cycleStopObstacles P cfg pd m)
    (hclosest : m₁.prevClosestStopObstacles = getClosestStopObstacles (cycleStopObstacles P cfg pd m)) :
    getClosestStopObstacles (cycleStopObstacles P cfg pd m₁) =
      getClosestStopObstacles (cycleStopObstacles P cfg pd m) := by
  have hfresh := cycleFreshStopObstacles_replay P cfg hinv hadm hthr hprev
  unfold cycleStopObstacles
  rw [hfresh, hclosest]
  unfold cycleStopObstacles
  exact getClosestStopObstacles_readmit cfg _ _ _ _ fun r hr => by
    simpa using (List.mem_filter.mp hr).2

end Fresh

/-- The three contracts of `motion_utils` the hold of the previous stop relies on: inserting a stop
point keeps the position of the trajectory's front point; the nearest-segment search with its
default (unbounded) distance and yaw thresholds reads only the position of the pose; and the signed
arc length from a trajectory's front point to its own position is zero. -/
structure StopPointContracts (P : Primitives) : Prop where
  insertStopPoint_front : ∀ z (trajPoints : List TrajectoryPoint) idx out,
    P.insertStopPoint z trajPoints = some (idx, out) →
      (out.headD default).pose.position = (trajPoints.headD default).pose.position
  findFirstNearestSegmentIndex_position : ∀ (trajPoints : List TrajectoryPoint) (pose pose' : Pose),
    pose.position = pose'.position →
      P.findFirstNearestSegmentIndex trajPoints pose = P.findFirstNearestSegmentIndex trajPoints pose'
  arcLength_front : ∀ trajPoints : List TrajectoryPoint,
    P.calcSignedArcLengthToPointOnSegment trajPoints 0 (trajPoints.headD default).pose.position
      (P.findFirstNearestSegmentIndex trajPoints (trajPoints.headD default).pose) = 0

section Hold

variable (P : Primitives) (sp : StopPlanningParam) (vEgo : ℚ) (trajPoints : List TrajectoryPoint)

theorem calcStopPoint_fst (z : ℚ) (prev prev' : Option (List TrajectoryPoint × ℚ)) :
    (calcStopPoint P trajPoints z prev).1 = (calcStopPoint P trajPoints z prev').1 := by
  unfold calcStopPoint
  split <;> rfl

/-- The stop just inserted, re-projected onto the trajectory it was inserted into, is at the
distance it was inserted at. -/
theorem reprojectedPrevZeroVelDist_of_insertStopPoint
    (hP : StopPointContracts P)
    {z : ℚ} {idx : ℕ} {out : List TrajectoryPoint}
    (hins : P.insertStopPoint z trajPoints = some (idx, out)) :
    reprojectedPrevZeroVelDist P trajPoints (out, z) = z := by
  have hfront := hP.insertStopPoint_front _ _ _ _ hins
  simp only [reprojectedPrevZeroVelDist]
  rw [hP.findFirstNearestSegmentIndex_position out _ _ hfront.symm, ← hfront, hP.arcLength_front,
    sub_zero]

/-- Holding against the stop the last call inserted gives back the distance that call used. -/
theorem holdPreviousStopIfNecessary_after_calcStopPoint
    (hP : StopPointContracts P)
    (prev : Option (List TrajectoryPoint × ℚ)) (z : ℚ) :
    holdPreviousStopIfNecessary P sp vEgo trajPoints
        (calcStopPoint P trajPoints (holdPreviousStopIfNecessary P sp vEgo trajPoints prev z) prev).2 z =
      holdPreviousStopIfNecessary P sp vEgo trajPoints prev z := by
  have hcases := holdPreviousStopIfNecessary_cases P sp vEgo trajPoints prev z
  set z₁ := holdPreviousStopIfNecessary P sp vEgo trajPoints prev z
  unfold calcStopPoint
  split
  · rfl
  · rename_i idx out hins
    simp only [holdPreviousStopIfNecessary, reprojectedPrevZeroVelDist_of_insertStopPoint P trajPoints hP hins]
    rcases hcases with h | ⟨hv, info, -, h, hd⟩
    · rw [h]
      split_ifs <;> rfl
    · rw [← h] at hd
      simp [hv, hd]

end Hold

section PointCloudReplay

variable {B : Type} (P : Primitives) (cfg : Config) (pd : PlannerData)
  (decimatedTrajPoints : List TrajectoryPoint) (distToBumper : ℚ) (egoIdx : ℕ)

theorem refreshStopObstacle_createStopObstacleForPointCloud (stamp : Time) (stopPoint : Point) :
    refreshStopObstacle P decimatedTrajPoints distToBumper
        (createStopObstacleForPointCloud P decimatedTrajPoints stamp stopPoint distToBumper) =
      createStopObstacleForPointCloud P decimatedTrajPoints stamp stopPoint distToBumper := rfl

/-- Replayed on the history it left, the point-cloud filter returns, with one pass of fuel per
entry, its first output followed by copies of some of its own obstacles. -/
theorem filterStopObstacleForPointCloud_replay {fuel fuel' : ℕ} {m₀ m₀' M : ObstacleStopModule B}
    {l : List StopObstacle}
    (h : filterStopObstacleForPointCloud P cfg pd decimatedTrajPoints distToBumper egoIdx fuel m₀ =
      some (l, M))
    (hhist : m₀'.stopPointcloudObstacleHistory = M.stopPointcloudObstacleHistory)
    (hfuel : M.stopPointcloudObstacleHistory.length < fuel') :
    ∃ Y H, (∀ y ∈ Y, y ∈ l) ∧
      filterStopObstacleForPointCloud P cfg pd decimatedTrajPoints distToBumper egoIdx fuel' m₀' =
        some (l ++ Y, { m₀' with stopPointcloudObstacleHistory := H }) := by
  cases huse : cfg.obstacleFilteringParam.usePointcloud
  · simp only [filterStopObstacleForPointCloud, huse, Bool.not_false, ↓reduceIte, Option.some.injEq,
      Prod.mk.injEq] at h ⊢
    exact ⟨[], m₀'.stopPointcloudObstacleHistory, by simp, by rw [← h.1]; rfl, rfl⟩
  · obtain ⟨hpass, rfl, rfl⟩ := filterStopObstacleForPointCloud_eq_some P cfg pd decimatedTrajPoints
      distToBumper egoIdx huse h
    have hpass' : ∀ e ∈ m₀'.stopPointcloudObstacleHistory, isYoung cfg pd.currentOdometry e = true →
        isWithinLateralMargin P cfg pd.trajectory (pointCloudTrajPolys P pd decimatedTrajPoints)
          pd.vehicleInfo e.collisionPoint = true := by
      rw [hhist]
      intro e he hy
      rcases List.mem_append.mp he with he | he
      · exact hpass e (List.mem_filter.mp he).1 hy
      · obtain ⟨p, hp, rfl⟩ := List.mem_map.mp he
        exact isWithinLateralMargin_of_mem_convertPointCloudToStopPoints P cfg hp
    rw [filterStopObstacleForPointCloud_of_pass P cfg pd decimatedTrajPoints distToBumper egoIdx huse
      (hhist ▸ hfuel) hpass', hhist]
    refine ⟨((pointCloudStopObstacles P cfg pd decimatedTrajPoints distToBumper egoIdx).filter
      (isYoung cfg pd.currentOdometry)).map (refreshStopObstacle P decimatedTrajPoints distToBumper), _,
      fun y hy => ?_, by simp only [List.filter_append, List.map_append, List.filter_filter,
      Bool.and_self, List.append_assoc]; rfl⟩
    obtain ⟨e, he, rfl⟩ := List.mem_map.mp hy
    obtain ⟨p, hp, rfl⟩ := List.mem_map.mp (List.mem_filter.mp he).1
    rw [refreshStopObstacle_createStopObstacleForPointCloud]
    exact List.mem_append_left _ (List.mem_map_of_mem _ hp)

end PointCloudReplay

section Replay

variable {B : Type} (ops : PathLengthBufferOps B) (P : Primitives) (cfg : Config)

/-- The cycle hands its stop to the path length buffer: the obstacle it selects is slower than
`max_negative_velocity`, an oncoming one. -/
def ReachesUpdateBuffer (fuel : ℕ) (pd : PlannerData) (m : ObstacleStopModule B) : Prop :=
  ∃ l m' d, collectStopObstacles P cfg fuel pd m = some (l, m') ∧
    selectStopObstacle (evalStopObstacle P cfg pd pd.trajectory
      (calcDistToBumper pd.isDrivingForward pd.vehicleInfo)) l = some d ∧
    d.stopObstacle.velocity < cfg.stopPlanningParam.maxNegativeVelocity

/-- With the point cloud off, a cycle none of whose stop obstacles is oncoming does not reach the
path length buffer. -/
theorem not_reachesUpdateBuffer_of_velocity (hpc : cfg.obstacleFilteringParam.usePointcloud = false)
    {fuel : ℕ} {pd : PlannerData} {m : ObstacleStopModule B}
    (hclosest : (m.prevClosestStopObstacles.map StopObstacle.uuid).Nodup)
    (hv : ∀ s ∈ cycleStopObstacles P cfg pd m, cfg.stopPlanningParam.maxNegativeVelocity ≤ s.velocity) :
    ¬ReachesUpdateBuffer P cfg fuel pd m := by
  rintro ⟨l, m', d, hc, hs, hlt⟩
  obtain ⟨t, ht⟩ := filterStopObstacleForPredictedObject_clear P cfg pd m hclosest
  rw [collectStopObstacles_of_usePointcloud_false P cfg hpc, ht] at hc
  obtain ⟨rfl, -⟩ := Prod.mk.inj (Option.some.inj hc)
  have hspec := selectStopObstacle_spec (evalStopObstacle P cfg pd pd.trajectory
    (calcDistToBumper pd.isDrivingForward pd.vehicleInfo)) (cycleStopObstacles P cfg pd m ++ [])
  rw [hs] at hspec
  have hmem := mem_of_mem_getClosestStopObstacles hspec.1
  rw [List.append_nil] at hmem
  exact (hv _ hmem).not_lt hlt

theorem selectStopObstacle_congr (eval : StopObstacle → ℚ × Option ℚ) {l l' : List StopObstacle}
    (h : getClosestStopObstacles l' = getClosestStopObstacles l) :
    selectStopObstacle eval l' = selectStopObstacle eval l := by
  unfold selectStopObstacle
  rw [h]

/-- The obstacles of the predicted objects followed by the point-cloud obstacles and some copies
of them have the closest obstacles of the first cycle's list. -/
theorem getClosestStopObstacles_replay {L L' pc Y : List StopObstacle}
    (h : getClosestStopObstacles L' = getClosestStopObstacles L) (hY : ∀ y ∈ Y, y ∈ pc) :
    getClosestStopObstacles (L' ++ (pc ++ Y)) = getClosestStopObstacles (L ++ pc) := by
  rw [← List.append_assoc, getClosestStopObstacles_append_of_subset fun y hy =>
    List.mem_append_right _ (hY y hy), getClosestStopObstacles_append, h, ← getClosestStopObstacles_append]

variable (pd : PlannerData) (trajPoints : List TrajectoryPoint) (distToBumper : ℚ)

/-- `plan_stop` on a list with the same closest obstacles, from a state holding the previous stop
the first call recorded, stops at the same point when the first call did not reach the buffer. -/
theorem planStop_replay
    (hP : StopPointContracts P)
    {l l' : List StopObstacle} (hclosest : getClosestStopObstacles l' = getClosestStopObstacles l)
    (hbuf : ∀ d, selectStopObstacle (evalStopObstacle P cfg pd trajPoints distToBumper) l = some d →
      cfg.stopPlanningParam.maxNegativeVelocity ≤ d.stopObstacle.velocity)
    (m m' : ObstacleStopModule B)
    (hprev : m'.prevStopDistanceInfo =
      (planStop ops P cfg pd trajPoints distToBumper l m).2.prevStopDistanceInfo) :
    (planStop ops P cfg pd trajPoints distToBumper l' m').1 =
      (planStop ops P cfg pd trajPoints distToBumper l m).1 := by
  have hsel := selectStopObstacle_congr (evalStopObstacle P cfg pd trajPoints distToBumper) hclosest
  cases hs : selectStopObstacle (evalStopObstacle P cfg pd trajPoints distToBumper) l with
  | none =>
    rw [planStop_of_select_none ops P cfg pd trajPoints distToBumper m hs,
      planStop_of_select_none ops P cfg pd trajPoints distToBumper m' (hsel.trans hs)]
  | some d =>
    rw [planStop_of_select_some ops P cfg pd trajPoints distToBumper m hs] at hprev ⊢
    rw [planStop_of_select_some ops P cfg pd trajPoints distToBumper m' (hsel.trans hs)]
    simp only [insertDeterminedStop, if_pos (hbuf d hs)] at hprev ⊢
    rw [hprev, holdPreviousStopIfNecessary_after_calcStopPoint P _ _ _ hP]
    exact calcStopPoint_fst P _ _ _ _

/-- A `plan()` cycle from a reachable state that does not reach the path length buffer, replayed
with the same input and clock reading on the state it leaves, and with one pass of fuel for each
point-cloud history entry, stops at the same point. It assumes the three `motion_utils` contracts of
`StopPointContracts`. -/
theorem plan_replay_same_stop_point {m m₁ : ObstacleStopModule B} {g : LastFresh}
    (hr : Reachable ops P cfg m g) {pd : PlannerData} (hadm : Admissible pd)
    (hthr : cfg.stopPlanningParam.obstacleVelocityThresholdEnterFixedStop ≤
      cfg.stopPlanningParam.obstacleVelocityThresholdExitFixedStop)
    (hP : StopPointContracts P)
    {fuel : ℕ} {stopPoint : Option Point} (hplan : plan ops P cfg fuel pd m = some (stopPoint, m₁))
    (hbuf : ¬ReachesUpdateBuffer P cfg fuel pd m)
    (fuel' : ℕ) (hfuel' : m₁.stopPointcloudObstacleHistory.length < fuel') :
    ∃ m₂, plan ops P cfg fuel' pd m₁ = some (stopPoint, m₂) := by
  have hinv := moduleInv_of_reachable ops P cfg hr
  have hinv₁ := moduleInv_of_reachable ops P cfg (hr.step hadm hplan)
  obtain ⟨hprev, hclosest⟩ := plan_prevStopObstacles ops P cfg hinv.nodup_closest_uuids hplan
  -- the first cycle: the predicted objects' list, then the point cloud's
  obtain ⟨⟨l, M⟩, hcollect, hq⟩ := Option.map_eq_some'.mp hplan
  obtain ⟨t, ht⟩ := filterStopObstacleForPredictedObject_clear P cfg pd m hinv.nodup_closest_uuids
  have hc := hcollect
  simp only [collectStopObstacles, ht] at hc
  obtain ⟨⟨pc, M'⟩, hpc, hlM⟩ := Option.map_eq_some'.mp hc
  obtain ⟨rfl, rfl⟩ := Prod.mk.inj hlM
  have hbuf' : ∀ d, selectStopObstacle (evalStopObstacle P cfg pd pd.trajectory
      (calcDistToBumper pd.isDrivingForward pd.vehicleInfo)) (cycleStopObstacles P cfg pd m ++ pc) = some d →
      cfg.stopPlanningParam.maxNegativeVelocity ≤ d.stopObstacle.velocity :=
    fun d hd => not_lt.mp fun hlt => hbuf ⟨_, _, d, hcollect, hd, hlt⟩
  have hhist : m₁.stopPointcloudObstacleHistory = M'.stopPointcloudObstacleHistory := by
    rw [← (planStop_frame ops P cfg pd pd.trajectory _ _ M').2.2, hq]
  -- the second cycle
  obtain ⟨t₂, ht₂⟩ := filterStopObstacleForPredictedObject_clear P cfg pd m₁ hinv₁.nodup_closest_uuids
  have hhist₂ : (filterStopObstacleForPredictedObject P cfg pd (planDecimatedTrajPoints P cfg pd)
      (calcDistToBumper pd.isDrivingForward pd.vehicleInfo)
      m₁.clearPolygonTables).2.stopPointcloudObstacleHistory = M'.stopPointcloudObstacleHistory := by
    rw [ht₂]
    exact hhist
  obtain ⟨Y, H, hY, hpc₂⟩ := filterStopObstacleForPointCloud_replay P cfg pd _ _ _ hpc hhist₂
    (hhist ▸ hfuel')
  simp only [plan, collectStopObstacles, hpc₂, Option.map_some']
  refine ⟨_, congrArg some (Prod.ext ?_ rfl)⟩
  rw [← congrArg Prod.fst hq]
  refine planStop_replay ops P cfg pd pd.trajectory _ hP ?_ hbuf' _ _ ?_
  · rw [ht₂]
    exact getClosestStopObstacles_replay
      (closest_cycleStopObstacles_replay P cfg hinv hadm hthr hprev hclosest) hY
  · rw [ht₂, hq]
    rfl

/-- The stop-point contracts hold of the slow-object run's geometry, which inserts every stop
point at the front of the trajectory it is given. -/
theorem stopPointContracts_slowRunPrimitives : StopPointContracts slowRunPrimitives where
  insertStopPoint_front _ _ _ _ h := by
    obtain ⟨-, rfl⟩ := Prod.mk.inj (Option.some.inj h)
    rfl
  findFirstNearestSegmentIndex_position _ _ _ _ := rfl
  arcLength_front _ := rfl

/-- The second cycle of the slow-object run stops for the re-admitted record, with ego at rest and
the first cycle's stop recorded for the hold; replayed on the state it leaves, it stops at the same
point. -/
theorem plan_replay_same_stop_point_after_readmission :
    slowRunSecondCycle.1.isSome ∧ slowRunFirstCycle.2.prevStopDistanceInfo.isSome ∧
      |slowRunSecondInput.currentOdometry.twistLinearX| <
        slowRunConfig.stopPlanningParam.holdStopVelocityThreshold ∧
      ¬ReachesUpdateBuffer slowRunPrimitives slowRunConfig 0 slowRunSecondInput slowRunFirstCycle.2 ∧
      ∃ m₂, plan idleBufferOps slowRunPrimitives slowRunConfig 1 slowRunSecondInput slowRunSecondCycle.2 =
        some (slowRunSecondCycle.1, m₂) := by
  have hbuf : ¬ReachesUpdateBuffer slowRunPrimitives slowRunConfig 0 slowRunSecondInput
      slowRunFirstCycle.2 :=
    not_reachesUpdateBuffer_of_velocity slowRunPrimitives slowRunConfig rfl
      (by rw [slowRunFirstCycle_prevStopObstacles.2]; exact List.nodup_singleton _)
      (by rw [cycleStopObstacles_slowRunSecondInput]; exact slowObjectRecord_not_oncoming)
  have hthr : slowRunConfig.stopPlanningParam.obstacleVelocityThresholdEnterFixedStop ≤
      slowRunConfig.stopPlanningParam.obstacleVelocityThresholdExitFixedStop := by
    norm_num [slowRunConfig]
  have hrest : slowRunSecondInput.currentOdometry.twistLinearX = 0 := rfl
  refine ⟨slowRunSecondCycle_stops.1, slowRunFirstCycle_stops.2.1, by norm_num [hrest, slowRunConfig],
    hbuf, plan_replay_same_stop_point idleBufferOps slowRunPrimitives slowRunConfig
      reachable_slowRunFirstCycle (show Admissible slowRunSecondInput from List.nodup_singleton _) hthr stopPointContracts_slowRunPrimitives
      slowRunSecondCycle_plan hbuf 1 ?_⟩
  rw [slowRunSecondCycle_stops.2.2]
  exact Nat.zero_lt_one

end Replay

end AutowarePlanning.ObstacleStop
