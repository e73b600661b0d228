import AutowarePlanning.ObstacleStop.Closest
import AutowarePlanning.ObstacleStop.StopMargin

/-!
# Planning the stop point

`plan_stop` reduces the stop obstacles to the closest one of each label, computes for each a
desired stop margin and a candidate zero-velocity distance, and keeps the obstacle with the least
candidate. The chosen distance may be replaced by the previous cycle's stop distance while ego is
nearly at rest, and is then inserted into the trajectory. An oncoming obstacle's stop goes through
the external path length buffer.

The selection loop is `selectStopObstacle`. Its invariant `SelectionInv` says what the loop has
chosen from the obstacles it has seen; `selectStopObstacle_spec` derives from it that the loop
keeps an obstacle of least candidate, and none exactly when no obstacle has a candidate.
-/

namespace AutowarePlanning.ObstacleStop

open AutowarePlanning

/-- `calc_minimum_distance_to_stop`. -/
def calcMinimumDistanceToStop (initialVel maxAcc minAcc : ℚ) : ℚ :=
  if initialVel < 0 then -initialVel ^ 2 / 2 / maxAcc else -initialVel ^ 2 / 2 / minAcc

section Candidate

variable (cfg : Config)

/-- The `acceptable_stop_acc` lambda of `calc_candidate_zero_vel_dist`; `none` abandons the stop. -/
def acceptableStopAcc (vEgo : ℚ) (classification : ObjectClassification)
    (candidateZeroVelDist : ℚ) : Option ℚ :=
  let sp := cfg.stopPlanningParam
  if sp.getParamType classification = "default" then some cfg.commonParam.limitMinAccel
  else
    let distanceToJudgeSuddenness := min
      (calcMinimumDistanceToStop vEgo cfg.commonParam.limitMaxAccel
        (sp.getParam classification).suddenObjectAccThreshold)
      (sp.getParam classification).suddenObjectDistThreshold
    if distanceToJudgeSuddenness < candidateZeroVelDist then some cfg.commonParam.limitMinAccel
    else if (sp.getParam classification).abandonToStop then none
    else some (sp.getParam classification).limitMinAcc

/-- The body of `calc_candidate_zero_vel_dist`, with ego's arc length from the trajectory's front
point as the argument `egoArcLength`. -/
def candidateZeroVelDist (vEgo : ℚ) (classification : ObjectClassification)
    (egoArcLength distToCollideOnRefTraj desiredStopMargin : ℚ) : Option ℚ :=
  let candidateZeroVelDist := max 0 (distToCollideOnRefTraj - desiredStopMargin)
  if !cfg.suppressSuddenStop then some candidateZeroVelDist
  else
    (acceptableStopAcc cfg vEgo classification candidateZeroVelDist).map fun acc =>
      let acceptableStopPos :=
        egoArcLength + calcMinimumDistanceToStop vEgo cfg.commonParam.limitMaxAccel acc
      if candidateZeroVelDist < acceptableStopPos then acceptableStopPos else candidateZeroVelDist

/-- `calc_candidate_zero_vel_dist`. -/
def calcCandidateZeroVelDist (P : Primitives) (pd : PlannerData) (trajPoints : List TrajectoryPoint)
    (stopObstacle : StopObstacle) (distToCollideOnRefTraj desiredStopMargin : ℚ) : Option ℚ :=
  candidateZeroVelDist cfg pd.currentOdometry.twistLinearX stopObstacle.classification
    (P.calcSignedArcLengthToPoint trajPoints 0 pd.currentOdometry.pose.position)
    distToCollideOnRefTraj desiredStopMargin

/-- With sudden-stop suppression off, or for an obstacle of the "default" parameter type, moving
ego and the collision point the same distance along the trajectory moves the candidate by that
distance. -/
theorem candidateZeroVelDist_shift {vEgo e d m δ : ℚ} {classification : ObjectClassification}
    (hsuppress : cfg.suppressSuddenStop = false ∨
      cfg.stopPlanningParam.getParamType classification = "default")
    (hδ : 0 ≤ δ) (hdm : 0 ≤ d - m) :
    candidateZeroVelDist cfg vEgo classification (e + δ) (d + δ) m =
      (candidateZeroVelDist cfg vEgo classification e d m).map (· + δ) := by
  have hmax : max 0 (d + δ - m) = max 0 (d - m) + δ := by
    rw [max_eq_right hdm, max_eq_right (by linarith)]
    ring
  rcases hsuppress with hoff | hdefault
  · simp [candidateZeroVelDist, hoff, hmax]
  · have hacc : ∀ x, acceptableStopAcc cfg vEgo classification x = some cfg.commonParam.limitMinAccel :=
      fun x => by simp [acceptableStopAcc, hdefault]
    simp only [candidateZeroVelDist, hacc, hmax, Option.map_some']
    split_ifs <;> simp <;> linarith

/-- Ego ten metres along the trajectory and a stop five metres ahead of it, against ego at the
front point and the same stop five metres ahead: the sudden-stop test compares the distance from
the trajectory's front point with a distance from ego, and abandons only the second stop. -/
theorem candidateZeroVelDist_depends_on_trajectory_behind_ego :
    candidateZeroVelDist
        { (default : Config) with
          suppressSuddenStop := true, commonParam := ⟨1, -1⟩,
          stopPlanningParam := { (default : StopPlanningParam) with
            getParamType := fun _ => "pedestrian", getParam := fun _ => ⟨-1, -1, 10, true⟩ } } 10 default 0 5 0 = none ∧
      candidateZeroVelDist
        { (default : Config) with
          suppressSuddenStop := true, commonParam := ⟨1, -1⟩,
          stopPlanningParam := { (default : StopPlanningParam) with
            getParamType := fun _ => "pedestrian", getParam := fun _ => ⟨-1, -1, 10, true⟩ } } 10 default (0 + 10) (5 + 10) 0 = some 60 := by
  have hType : ("pedestrian" : String) ≠ "default" := by decide
  constructor <;> norm_num [candidateZeroVelDist, acceptableStopAcc, calcMinimumDistanceToStop, hType]

end Candidate

/-- The three values the selection loop of `plan_stop` sets together. -/
structure DeterminedStop where
  stopObstacle : StopObstacle
  zeroVelDist : ℚ
  desiredStopMargin : ℚ
  deriving DecidableEq, Repr

section Selection

variable (eval : StopObstacle → ℚ × Option ℚ)

/-- One iteration of the selection loop of `plan_stop`. `eval` gives an obstacle's desired stop
margin and candidate zero-velocity distance. -/
def selectionStep (determined : Option DeterminedStop) (stopObstacle : StopObstacle) :
    Option DeterminedStop :=
  match eval stopObstacle, determined with
  | (_, none), _ => determined
  | (desiredStopMargin, some candidate), none => some ⟨stopObstacle, candidate, desiredStopMargin⟩
  | (desiredStopMargin, some candidate), some d =>
    let isSameParamTypes := stopObstacle.classification.label = d.stopObstacle.classification.label
    if (isSameParamTypes ∧ d.stopObstacle.distToCollideOnDecimatedTraj +
          d.stopObstacle.brakingDist.getD 0 <
          stopObstacle.distToCollideOnDecimatedTraj + stopObstacle.distToCollideOnDecimatedTraj) ∨
        (¬isSameParamTypes ∧ d.zeroVelDist < candidate) then determined
    else some ⟨stopObstacle, candidate, desiredStopMargin⟩

/-- The selection loop over the closest obstacle of each label. -/
def selectStopObstacle (stopObstacles : List StopObstacle) : Option DeterminedStop :=
  (getClosestStopObstacles stopObstacles).foldl (selectionStep eval) none

/-- What the loop has chosen from the obstacles `seen` so far: nothing while none of them has a
candidate, and otherwise one of them whose candidate is least. -/
def SelectionInv (seen : List StopObstacle) : Option DeterminedStop → Prop
  | none => ∀ c ∈ seen, (eval c).2 = none
  | some d => d.stopObstacle ∈ seen ∧ eval d.stopObstacle = (d.desiredStopMargin, some d.zeroVelDist) ∧
      ∀ c ∈ seen, ∀ v, (eval c).2 = some v → d.zeroVelDist ≤ v

theorem selectionInv_snoc_of_none {seen : List StopObstacle} {determined : Option DeterminedStop}
    {so : StopObstacle} (hinv : SelectionInv eval seen determined) (hso : (eval so).2 = none) :
    SelectionInv eval (seen ++ [so]) determined := by
  cases determined with
  | none =>
    exact fun c hc => (List.mem_append.mp hc).elim (hinv c) fun h => List.mem_singleton.mp h ▸ hso
  | some d =>
    obtain ⟨hmem, hd, hmin⟩ := hinv
    refine ⟨List.mem_append_left _ hmem, hd, fun c hc v hv => ?_⟩
    rcases List.mem_append.mp hc with hc | hc
    · exact hmin c hc v hv
    · rw [List.mem_singleton.mp hc, hso] at hv
      cases hv

theorem selectionInv_snoc_new {seen : List StopObstacle} {so : StopObstacle} {desired cand : ℚ}
    (hle : ∀ c ∈ seen, ∀ v, (eval c).2 = some v → cand ≤ v) (hso : eval so = (desired, some cand)) :
    SelectionInv eval (seen ++ [so]) (some ⟨so, cand, desired⟩) := by
  refine ⟨by simp, hso, fun c hc v hv => ?_⟩
  rcases List.mem_append.mp hc with hc | hc
  · exact hle c hc v hv
  · rw [List.mem_singleton.mp hc, hso] at hv
    exact le_of_eq (Option.some.inj hv)

theorem selectionInv_snoc_keep {seen : List StopObstacle} {so : StopObstacle} {d : DeterminedStop}
    {desired cand : ℚ} (hinv : SelectionInv eval seen (some d)) (hso : eval so = (desired, some cand))
    (hle : d.zeroVelDist ≤ cand) : SelectionInv eval (seen ++ [so]) (some d) := by
  obtain ⟨hmem, hd, hmin⟩ := hinv
  refine ⟨List.mem_append_left _ hmem, hd, fun c hc v hv => ?_⟩
  rcases List.mem_append.mp hc with hc | hc
  · exact hmin c hc v hv
  · rw [List.mem_singleton.mp hc, hso] at hv
    exact Option.some.inj hv ▸ hle

/-- One iteration keeps the invariant when the new obstacle's label is not among those seen: the
same-label comparison of the loop, with its doubled distance, is then never made. -/
theorem selectionInv_step {seen : List StopObstacle} {determined : Option DeterminedStop}
    {so : StopObstacle} (hinv : SelectionInv eval seen determined)
    (hfresh : so.label ∉ seen.map StopObstacle.label) :
    SelectionInv eval (seen ++ [so]) (selectionStep eval determined so) := by
  rcases he : eval so with ⟨desired, _ | cand⟩
  · have hstep : selectionStep eval determined so = determined := by
      cases determined <;> simp [selectionStep, he]
    rw [hstep]
    exact selectionInv_snoc_of_none eval hinv (by simp [he])
  · cases determined with
    | none =>
      simp only [selectionStep, he]
      exact selectionInv_snoc_new eval (fun c hc v hv => by simp [hinv c hc] at hv) he
    | some d =>
      have hmem := hinv.1
      have hlabel : so.classification.label ≠ d.stopObstacle.classification.label := fun h =>
        hfresh (by rw [show so.label = d.stopObstacle.label from h]; exact List.mem_map_of_mem _ hmem)
      simp only [selectionStep, he, hlabel, false_and, not_false_eq_true, true_and, false_or]
      split_ifs with hlt
      · exact selectionInv_snoc_keep eval hinv he hlt.le
      · exact selectionInv_snoc_new eval
          (fun c hc v hv => (not_lt.mp hlt).trans (hinv.2.2 c hc v hv)) he

/-- The loop keeps the invariant over obstacles of pairwise distinct labels. -/
theorem selectionInv_foldl (seen xs : List StopObstacle) (determined : Option DeterminedStop)
    (hinv : SelectionInv eval seen determined)
    (hnodup : ((seen ++ xs).map StopObstacle.label).Nodup) :
    SelectionInv eval (seen ++ xs) (xs.foldl (selectionStep eval) determined) := by
  induction xs generalizing seen determined with
  | nil => simpa using hinv
  | cons x xs ih =>
    have hn : (seen.map StopObstacle.label ++ (x :: xs).map StopObstacle.label).Nodup := by
      rwa [List.map_append] at hnodup
    have hfresh : x.label ∉ seen.map StopObstacle.label := fun h =>
      List.disjoint_of_nodup_append hn h (List.mem_cons_self _ _)
    rw [List.foldl_cons, ← List.singleton_append, ← List.append_assoc]
    exact ih _ _ (selectionInv_step eval hinv hfresh) (by simpa using hnodup)

/-- The selection loop chooses, from the closest obstacle of each label, nothing when none has a
candidate and otherwise one whose candidate is least. -/
theorem selectStopObstacle_spec (stopObstacles : List StopObstacle) :
    SelectionInv eval (getClosestStopObstacles stopObstacles) (selectStopObstacle eval stopObstacles) := by
  simpa using selectionInv_foldl eval [] (getClosestStopObstacles stopObstacles) none
    (fun c hc => absurd hc (List.not_mem_nil c))
    (by simpa using nodup_labels_getClosestStopObstacles stopObstacles)

theorem selectStopObstacle_eq_none_iff (stopObstacles : List StopObstacle) :
    selectStopObstacle eval stopObstacles = none ↔
      ∀ c ∈ getClosestStopObstacles stopObstacles, (eval c).2 = none := by
  have hspec := selectStopObstacle_spec eval stopObstacles
  constructor
  · intro h
    rw [h] at hspec
    exact hspec
  · intro hall
    cases hsel : selectStopObstacle eval stopObstacles with
    | none => rfl
    | some d =>
      rw [hsel] at hspec
      have := hall _ hspec.1
      rw [hspec.2.1] at this
      cases this

end Selection

section Hold

variable (P : Primitives) (sp : StopPlanningParam) (vEgo : ℚ) (trajPoints : List TrajectoryPoint)

/-- The previous cycle's stop distance, measured from this trajectory's front point. -/
def reprojectedPrevZeroVelDist (prevStopDistanceInfo : List TrajectoryPoint × ℚ) : ℚ :=
  let trajFrontPose := (trajPoints.headD default).pose
  let trajFrontPointPrevSegIdx := P.findFirstNearestSegmentIndex prevStopDistanceInfo.1 trajFrontPose
  let diffDistFrontPoints := P.calcSignedArcLengthToPointOnSegment prevStopDistanceInfo.1 0
    trajFrontPose.position trajFrontPointPrevSegIdx
  prevStopDistanceInfo.2 - diffDistFrontPoints

/-- `hold_previous_stop_if_necessary`, returning the zero-velocity distance it leaves. -/
def holdPreviousStopIfNecessary (prevStopDistanceInfo : Option (List TrajectoryPoint × ℚ))
    (determinedZeroVelDist : ℚ) : ℚ :=
  match prevStopDistanceInfo with
  | some info =>
    if |vEgo| < sp.holdStopVelocityThreshold then
      let prevZeroVelDist := reprojectedPrevZeroVelDist P trajPoints info
      if |prevZeroVelDist - determinedZeroVelDist| < sp.holdStopDistanceThreshold then prevZeroVelDist
      else determinedZeroVelDist
    else determinedZeroVelDist
  | none => determinedZeroVelDist

/-- The hold keeps the distance, or, with ego nearly at rest and a previous stop recorded, moves it
to the previous stop by less than the hold distance. -/
theorem holdPreviousStopIfNecessary_cases (prevStopDistanceInfo : Option (List TrajectoryPoint × ℚ))
    (z : ℚ) :
    holdPreviousStopIfNecessary P sp vEgo trajPoints prevStopDistanceInfo z = z ∨
      |vEgo| < sp.holdStopVelocityThreshold ∧ ∃ info, prevStopDistanceInfo = some info ∧
        holdPreviousStopIfNecessary P sp vEgo trajPoints prevStopDistanceInfo z =
          reprojectedPrevZeroVelDist P trajPoints info ∧
        |reprojectedPrevZeroVelDist P trajPoints info - z| < sp.holdStopDistanceThreshold := by
  rcases prevStopDistanceInfo with _ | info
  · exact Or.inl rfl
  · simp only [holdPreviousStopIfNecessary]
    split_ifs with hv hd
    · exact Or.inr ⟨hv, info, rfl, rfl, hd⟩
    · exact Or.inl rfl
    · exact Or.inl rfl

end Hold

/-- `calc_stop_point`: the stop position, and `prev_stop_distance_info_` after the call. -/
def calcStopPoint (P : Primitives) (trajPoints : List TrajectoryPoint) (determinedZeroVelDist : ℚ)
    (prevStopDistanceInfo : Option (List TrajectoryPoint × ℚ)) :
    Option Point × Option (List TrajectoryPoint × ℚ) :=
  match P.insertStopPoint determinedZeroVelDist trajPoints with
  | none => (none, prevStopDistanceInfo)
  | some (zeroVelIdx, outputTrajPoints) =>
    (some (outputTrajPoints.getD zeroVelIdx default).pose.position,
      some (outputTrajPoints, determinedZeroVelDist))

section PlanStop

variable {B : Type} (ops : PathLengthBufferOps B) (P : Primitives) (cfg : Config) (pd : PlannerData)
  (trajPoints : List TrajectoryPoint) (distToBumper : ℚ)

/-- The body of the selection loop of `plan_stop` for one obstacle: its desired stop margin and
its candidate zero-velocity distance. -/
def evalStopObstacle (stopObstacle : StopObstacle) : ℚ × Option ℚ :=
  let egoSegmentIdx := P.findSegmentIndex trajPoints pd.currentOdometry.pose
  let distToCollideOnRefTraj := P.calcSignedArcLength trajPoints 0 egoSegmentIdx +
    stopObstacle.distToCollideOnDecimatedTraj + stopObstacle.brakingDist.getD 0
  let desiredStopMargin := calcDesiredStopMargin P cfg pd trajPoints stopObstacle distToBumper
    egoSegmentIdx distToCollideOnRefTraj
  (desiredStopMargin,
    calcCandidateZeroVelDist cfg P pd trajPoints stopObstacle distToCollideOnRefTraj desiredStopMargin)

/-- The end of `plan_stop` once the obstacle and the zero-velocity distance are fixed: insert the
stop, and for an oncoming obstacle report the path length buffer's nearest active stop. -/
def insertDeterminedStop (m : ObstacleStopModule B) (d : DeterminedStop) (zeroVelDist : ℚ) :
    Option Point × ObstacleStopModule B :=
  let r := calcStopPoint P trajPoints zeroVelDist m.prevStopDistanceInfo
  let m := { m with prevStopDistanceInfo := r.2 }
  if cfg.stopPlanningParam.maxNegativeVelocity ≤ d.stopObstacle.velocity then (r.1, m)
  else
    let pathLengthBuffer := ops.updateBuffer m.pathLengthBuffer r.1
      (fun point => P.calcSignedArcLengthToPoint trajPoints 0 point) pd.now d.stopObstacle
      d.desiredStopMargin
    (ops.getNearestActiveItem pathLengthBuffer, { m with pathLengthBuffer := pathLengthBuffer })

/-- `plan_stop`: the stop point, and the module with the previous stop and the buffer updated. -/
def planStop (stopObstacles : List StopObstacle) (m : ObstacleStopModule B) :
    Option Point × ObstacleStopModule B :=
  if stopObstacles.isEmpty then (none, { m with prevStopDistanceInfo := none })
  else
    match selectStopObstacle (evalStopObstacle P cfg pd trajPoints distToBumper) stopObstacles with
    | none => (none, { m with prevStopDistanceInfo := none })
    | some d =>
      insertDeterminedStop ops P cfg pd trajPoints m d
        (holdPreviousStopIfNecessary P cfg.stopPlanningParam pd.currentOdometry.twistLinearX
          trajPoints m.prevStopDistanceInfo d.zeroVelDist)

theorem planStop_of_select_none {stopObstacles : List StopObstacle} (m : ObstacleStopModule B)
    (h : selectStopObstacle (evalStopObstacle P cfg pd trajPoints distToBumper) stopObstacles = none) :
    planStop ops P cfg pd trajPoints distToBumper stopObstacles m =
      (none, { m with prevStopDistanceInfo := none }) := by
  unfold planStop
  split_ifs <;> simp only [h]

theorem planStop_of_select_some {stopObstacles : List StopObstacle} (m : ObstacleStopModule B)
    {d : DeterminedStop}
    (h : selectStopObstacle (evalStopObstacle P cfg pd trajPoints distToBumper) stopObstacles = some d) :
    planStop ops P cfg pd trajPoints distToBumper stopObstacles m =
      insertDeterminedStop ops P cfg pd trajPoints m d
        (holdPreviousStopIfNecessary P cfg.stopPlanningParam pd.currentOdometry.twistLinearX
          trajPoints m.prevStopDistanceInfo d.zeroVelDist) := by
  have hne : stopObstacles ≠ [] := by
    rintro rfl
    cases h
  simp [planStop, hne, h]

/-- `plan_stop` takes its no-stop exit, the `none` branch of the selection, exactly when no
closest obstacle of a label has a candidate zero-velocity distance. Otherwise it stops for a
closest obstacle whose candidate is least, at that candidate, or, with ego nearly at rest and a
previous stop recorded, at the previous stop when that lies within the hold distance of it. -/
theorem planStop_stops_at_least_candidate (m : ObstacleStopModule B) (stopObstacles : List StopObstacle) :
    (selectStopObstacle (evalStopObstacle P cfg pd trajPoints distToBumper) stopObstacles = none ↔
      ∀ c ∈ getClosestStopObstacles stopObstacles,
        (evalStopObstacle P cfg pd trajPoints distToBumper c).2 = none) ∧
    (selectStopObstacle (evalStopObstacle P cfg pd trajPoints distToBumper) stopObstacles = none →
      planStop ops P cfg pd trajPoints distToBumper stopObstacles m =
        (none, { m with prevStopDistanceInfo := none })) ∧
    ∀ d, selectStopObstacle (evalStopObstacle P cfg pd trajPoints distToBumper) stopObstacles = some d →
      d.stopObstacle ∈ getClosestStopObstacles stopObstacles ∧
      (evalStopObstacle P cfg pd trajPoints distToBumper d.stopObstacle).2 = some d.zeroVelDist ∧
      (∀ c ∈ getClosestStopObstacles stopObstacles, ∀ v,
        (evalStopObstacle P cfg pd trajPoints distToBumper c).2 = some v → d.zeroVelDist ≤ v) ∧
      ∃ z, planStop ops P cfg pd trajPoints distToBumper stopObstacles m =
          insertDeterminedStop ops P cfg pd trajPoints m d z ∧
        (z = d.zeroVelDist ∨
          |pd.currentOdometry.twistLinearX| < cfg.stopPlanningParam.holdStopVelocityThreshold ∧
            ∃ info, m.prevStopDistanceInfo = some info ∧ z = reprojectedPrevZeroVelDist P trajPoints info ∧
              |z - d.zeroVelDist| < cfg.stopPlanningParam.holdStopDistanceThreshold) := by
  refine ⟨selectStopObstacle_eq_none_iff _ stopObstacles, planStop_of_select_none ops P cfg pd trajPoints
    distToBumper m, fun d hd => ?_⟩
  have hspec := selectStopObstacle_spec (evalStopObstacle P cfg pd trajPoints distToBumper) stopObstacles
  rw [hd] at hspec
  obtain ⟨hmem, heval, hmin⟩ := hspec
  refine ⟨hmem, by rw [heval], hmin, _, planStop_of_select_some ops P cfg pd trajPoints distToBumper m hd, ?_⟩
  rcases holdPreviousStopIfNecessary_cases P cfg.stopPlanningParam pd.currentOdometry.twistLinearX
    trajPoints m.prevStopDistanceInfo d.zeroVelDist with h | ⟨hv, info, hinfo, h, hlt⟩
  · exact Or.inl h
  · exact Or.inr ⟨hv, info, hinfo, h, h ▸ hlt⟩

end PlanStop

end AutowarePlanning.ObstacleStop
