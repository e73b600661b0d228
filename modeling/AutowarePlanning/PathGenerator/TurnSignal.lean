import AutowarePlanning.Messages
import AutowarePlanning.PathGenerator.ArcLength
import AutowarePlanning.PathGenerator.Route

/-!
# The end point of the turn signal on a lanelet

`get_turn_signal_required_end_point` builds a trajectory from the lanelet's centerline and returns
the start of the first interval whose yaw is within the threshold of the terminal yaw. A
trajectory needs four points, so a shorter centerline is first resampled at the arc lengths
`0, L/4, L/2, 3L/4` below its length `L`, the last replaced by `L` when it is closer to `L` than
the overlap threshold and `L` appended otherwise.

For a positive length the resampling arc lengths start at `0`, increase strictly and end at `L`
(`resampledArclength_of_pos`). For a centerline of length zero the `for` loop never runs, and the
code reads `back()` of the empty vector (`resampledArclength_of_nonpos`). That is undefined
behaviour, not an exception; the model stops there with `TurnSignalFailure.undefinedBehavior`.

`get_turn_signal` walks the lane ids of the path's points, each id once. It skips a lanelet with
no next lanelet within the route, and, until a lanelet ego is inside has been passed, every
lanelet ego is not inside (`LaneSkipped`). A lanelet with a `turn_direction` sets the command: ahead of ego the
command is returned, or `NO_COMMAND` past the lanelet's signal distance; on ego's lanelet it is
returned up to the required end point. Whatever it returns is `NO_COMMAND` or a command a route
lanelet of the path asks for (`getTurnSignal_requested`). Past the required end point the
command set on ego's lanelet is kept, whatever skipped lane ids come before it, and with no later
lanelet of the path asking for another it is the result
(`getTurnSignal_keeps_command_past_required_end_point`). It fails only for a lane id the map does
not hold (`lanelet::NoSuchPrimitiveError`), a `turn_direction` outside the command map
(`std::out_of_range`), or a degenerate centerline (undefined behaviour); without these it returns a
command (`getTurnSignal_returns`).
-/

namespace AutowarePlanning.PathGenerator

open AutowarePlanning

/-- The `autoware::motion_utils` and `autoware::experimental::trajectory` functions
`get_turn_signal_required_end_point` calls, with `Trajectory<Pose>` as `T`. -/
structure TurnSignalOps (T : Type) where
  /-- `autoware::motion_utils::calcArcLength`. -/
  calcArcLength : List Pose → ℚ
  /-- `autoware::motion_utils::overlap_threshold`. -/
  overlapThreshold : ℚ
  /-- `autoware::motion_utils::resamplePoseVector`. -/
  resamplePoseVector : List Pose → List ℚ → List Pose
  /-- `Trajectory<Pose>::Builder{}.build`. -/
  build : List Pose → Option T
  alignOrientationWithTrajectoryDirection : T → T
  length : T → ℚ
  compute : T → ℚ → Pose
  /-- `find_intervals`, each interval by its start and end. -/
  findIntervals : T → (Pose → Bool) → List (ℚ × ℚ)
  /-- `tf2::getYaw`. -/
  getYaw : Quaternion → ℚ
  /-- `autoware_utils::normalize_radian`. -/
  normalizeRadian : ℚ → ℚ

/-- How `get_turn_signal` can fail to return a command: the exceptions of the library calls it
makes, and the undefined behaviour of reading `back()` of an empty vector, after which nothing is
known of the program. -/
inductive TurnSignalFailure
  /-- `lanelet::NoSuchPrimitiveError`, thrown by `laneletLayer.get` for an id the map does not
  hold. -/
  | noSuchPrimitiveError
  /-- `std::out_of_range`, thrown by `unordered_map::at` for a key the map does not hold. -/
  | outOfRange
  /-- `back()` of an empty `std::vector`. -/
  | undefinedBehavior
  deriving DecidableEq, Repr

/-- The `for (double s = 0.0; s < lanelet_length; s += resampling_interval)` loop, at most `n`
iterations. -/
def resampledArclengthLoop (laneletLength resamplingInterval : ℚ) : ℕ → ℚ → List ℚ → List ℚ
  | 0, _, resampledArclength => resampledArclength
  | n + 1, s, resampledArclength =>
    if s < laneletLength then
      resampledArclengthLoop laneletLength resamplingInterval n (s + resamplingInterval)
        (resampledArclength ++ [s])
    else resampledArclength

/-- The resampling arc lengths of a centerline shorter than four points. The loop steps by a
quarter of the length from `0`: four iterations for a positive length, none otherwise, so five
bound it. Reading `back()` of an empty vector is undefined behaviour. -/
def resampledArclength (overlapThreshold laneletLength : ℚ) : Except TurnSignalFailure (List ℚ) :=
  let resamplingInterval := laneletLength / 4
  let resampledArclength := resampledArclengthLoop laneletLength resamplingInterval 5 0 []
  match resampledArclength.getLast? with
  | none => .error .undefinedBehavior
  | some back =>
    if laneletLength - back < overlapThreshold then .ok (resampledArclength.dropLast ++ [laneletLength])
    else .ok (resampledArclength ++ [laneletLength])

section EndPoint

variable {T : Type} (O : TurnSignalOps T)

/-- `autoware_utils::deg2rad`. -/
def deg2rad (deg : ℚ) : ℚ := deg * mPi / 180

/-- `get_turn_signal_required_end_point`, on the lanelet's centerline. -/
def getTurnSignalRequiredEndPoint (centerline : List Point) (angleThresholdDeg : ℚ) :
    Except TurnSignalFailure (Option BasicPoint2d) :=
  let centerlinePoses := centerline.map fun point => ({ (default : Pose) with position := point })
  let resampledPoses : Except TurnSignalFailure (Option (List Pose)) :=
    if centerlinePoses.length < 4 then
      (resampledArclength O.overlapThreshold (O.calcArcLength centerlinePoses)).map fun arclength =>
        let poses := O.resamplePoseVector centerlinePoses arclength
        if poses.length < 4 then none else some poses
    else .ok (some centerlinePoses)
  resampledPoses.map fun
    | none => none
    | some centerlinePoses =>
      match O.build centerlinePoses with
      | none => none
      | some centerline =>
        let centerline := O.alignOrientationWithTrajectoryDirection centerline
        let terminalYaw := O.getYaw (O.compute centerline (O.length centerline)).orientation
        let intervals := O.findIntervals centerline fun point =>
          decide (|O.normalizeRadian (O.getYaw point.orientation - terminalYaw)| <
            deg2rad angleThresholdDeg)
        match intervals with
        | [] => none
        | interval :: _ =>
          let position := (O.compute centerline interval.1).position
          some (position.x, position.y)

end EndPoint

section Resampling

variable {laneletLength : ℚ}

/-- For a length that is not positive the loop never runs and `back()` reads an empty vector. -/
theorem resampledArclength_of_nonpos (overlapThreshold : ℚ) (h : laneletLength ≤ 0) :
    resampledArclength overlapThreshold laneletLength =
      .error .undefinedBehavior := by
  simp [resampledArclength, resampledArclengthLoop, not_lt.mpr h]

end Resampling

section ZeroLength

variable {T : Type} (O : TurnSignalOps T)

/-- A centerline of fewer than four points and of length zero makes
`get_turn_signal_required_end_point` read `back()` of the empty resampling vector, which is
undefined behaviour. -/
theorem getTurnSignalRequiredEndPoint_reads_back_of_empty {centerline : List Point}
    (hshort : centerline.length < 4)
    (hzero : O.calcArcLength (centerline.map fun point => ({ (default : Pose) with position := point })) ≤ 0)
    (angleThresholdDeg : ℚ) :
    getTurnSignalRequiredEndPoint O centerline angleThresholdDeg = .error .undefinedBehavior := by
  simp only [getTurnSignalRequiredEndPoint, List.length_map, if_pos hshort,
    resampledArclength_of_nonpos _ hzero]
  rfl

/-- A lanelet whose centerline is two copies of one point, with `calcArcLength` summing the
segment lengths. -/
theorem getTurnSignalRequiredEndPoint_reads_back_of_empty_on_point_centerline :
    let O₀ : TurnSignalOps Unit :=
      { calcArcLength := fun poses => ((poses.zip poses.tail).map fun p =>
          |p.2.position.x - p.1.position.x| + |p.2.position.y - p.1.position.y|).sum
        overlapThreshold := 1 / 10
        resamplePoseVector := fun poses _ => poses
        build := fun _ => some ()
        alignOrientationWithTrajectoryDirection := id
        length := fun _ => 0
        compute := fun _ _ => default
        findIntervals := fun _ _ => []
        getYaw := fun _ => 0
        normalizeRadian := id }
    let centerline : List Point := [⟨1, 2, 0⟩, ⟨1, 2, 0⟩]
    centerline.length < 4 ∧
      O₀.calcArcLength (centerline.map fun point => ({ (default : Pose) with position := point })) ≤ 0 ∧
      getTurnSignalRequiredEndPoint O₀ centerline 15 = .error .undefinedBehavior := by
  intro O₀ centerline
  have hshort : centerline.length < 4 := by decide
  have hzero : O₀.calcArcLength (centerline.map fun point =>
      ({ (default : Pose) with position := point })) ≤ 0 := by
    simp [O₀, centerline]
  exact ⟨hshort, hzero, getTurnSignalRequiredEndPoint_reads_back_of_empty O₀ hshort hzero 15⟩

end ZeroLength

section TurnSignal

open TurnIndicatorsCommand

/-- A lanelet of the map as `get_turn_signal` reads it: its id, its centerline, and its
`turn_direction` and `turn_signal_distance` attributes (the latter as the double `attributeOr`
reads). -/
structure TurnLanelet where
  id : ℤ
  centerline : List Point
  turnDirection : Option String
  turnSignalDistance : Option ℚ
  deriving DecidableEq

/-- `lanelet.centerline2d()`. -/
def TurnLanelet.centerline2d (lanelet : TurnLanelet) : LineString2d :=
  lanelet.centerline.map fun point => (point.x, point.y)

/-- The lanelet map and the `lanelet::geometry` test `get_turn_signal` reads. -/
structure TurnSignalMap where
  /-- `lanelet_map_ptr->laneletLayer.get`, which throws for an id the map does not hold. -/
  laneletLayer : ℤ → Option TurnLanelet
  /-- `lanelet::geometry::inside`. -/
  inside : TurnLanelet → BasicPoint2d → Bool

/-- `turn_signal_command_map.at`, which throws for any other direction. -/
def turnSignalCommandMap : String → Option UInt8
  | "left" => some ENABLE_LEFT
  | "right" => some ENABLE_RIGHT
  | "straight" => some DISABLE
  | _ => none

/-- What the loops of `get_turn_signal` carry. -/
structure TurnSignalState where
  searchedLaneletIds : List ℤ
  arcLengthFromVehicleFrontToLaneletStart : Option ℚ
  command : UInt8

/-- How an iteration of the lane-id loop ends: `continue`, `break`, or `return turn_signal`. -/
inductive LaneStep
  | cont (s : TurnSignalState)
  | brk (s : TurnSignalState)
  | ret (command : UInt8)

variable {T : Type} (O : TurnSignalOps T) (G : LaneletGeometry) (M : TurnSignalMap)
  (pd : PlannerData TurnLanelet) (currentPoint : BasicPoint2d)
  (baseSearchDistance angleThresholdDeg baseLinkToFront : ℚ)

/-- The `calc_arc_length` lambda. -/
def calcArcLength (lanelet : TurnLanelet) (point : BasicPoint2d) : ℚ :=
  G.toArcCoordinatesLength lanelet.centerline2d point

/-- The end of an iteration that reaches `lanelet_length`: the arc length from the vehicle front to
the next lanelet's start grows by the lanelet's length, or is first set from ego's place on it. -/
def addLaneletLength (s : TurnSignalState) (lanelet : TurnLanelet) : TurnSignalState :=
  { s with
    arcLengthFromVehicleFrontToLaneletStart :=
      match s.arcLengthFromVehicleFrontToLaneletStart with
      | some arcLength => some (arcLength + pd.laneletLength2d lanelet)
      | none =>
        some (pd.laneletLength2d lanelet - calcArcLength G lanelet currentPoint - baseLinkToFront) }

/-- An iteration from `if (lanelet.hasAttribute("turn_direction"))` on. -/
def turnDirectionStep (s : TurnSignalState) (lanelet : TurnLanelet) :
    Except TurnSignalFailure LaneStep :=
  match lanelet.turnDirection with
  | none => .ok (.brk (addLaneletLength G pd currentPoint baseLinkToFront s lanelet))
  | some turnDirection =>
    match turnSignalCommandMap turnDirection with
    | none => .error .outOfRange
    | some command =>
      match s.arcLengthFromVehicleFrontToLaneletStart with
      | some arcLength =>
        .ok (.ret (if lanelet.turnSignalDistance.getD baseSearchDistance < arcLength then NO_COMMAND
          else command))
      | none =>
        match getTurnSignalRequiredEndPoint O lanelet.centerline angleThresholdDeg with
        | .error e => .error e
        | .ok none => .ok (.cont { s with command })
        | .ok (some requiredEndPoint) =>
          if calcArcLength G lanelet currentPoint ≤ calcArcLength G lanelet requiredEndPoint then
            .ok (.ret command)
          else .ok (.brk (addLaneletLength G pd currentPoint baseLinkToFront { s with command } lanelet))

/-- An iteration of the lane-id loop of `get_turn_signal`. -/
def turnSignalLaneStep (s : TurnSignalState) (laneId : ℤ) : Except TurnSignalFailure LaneStep :=
  if laneId ∈ s.searchedLaneletIds then .ok (.cont s)
  else
    let s := { s with searchedLaneletIds := s.searchedLaneletIds ++ [laneId] }
    match M.laneletLayer laneId with
    | none => .error .noSuchPrimitiveError
    | some lanelet =>
      if (getNextLaneletWithinRoute pd lanelet).isNone then .ok (.cont s)
      else if s.arcLengthFromVehicleFrontToLaneletStart.isNone ∧
          M.inside lanelet currentPoint = false then .ok (.cont s)
      else turnDirectionStep O G pd currentPoint baseSearchDistance angleThresholdDeg
        baseLinkToFront s lanelet

/-- The loop over a path point's lane ids: `.inl` goes on to the next point, the loop having run
out or broken, and `.inr` returns the command. -/
def turnSignalLaneLoop (s : TurnSignalState) :
    List ℤ → Except TurnSignalFailure (TurnSignalState ⊕ UInt8)
  | [] => .ok (.inl s)
  | laneId :: laneIds =>
    match turnSignalLaneStep O G M pd currentPoint baseSearchDistance angleThresholdDeg
        baseLinkToFront s laneId with
    | .error e => .error e
    | .ok (.cont s) => turnSignalLaneLoop s laneIds
    | .ok (.brk s) => .ok (.inl s)
    | .ok (.ret command) => .ok (.inr command)

/-- The loop over the path's points. -/
def turnSignalPointLoop (s : TurnSignalState) :
    List PathPointWithLaneId → Except TurnSignalFailure UInt8
  | [] => .ok s.command
  | point :: points =>
    match turnSignalLaneLoop O G M pd currentPoint baseSearchDistance angleThresholdDeg
        baseLinkToFront s point.laneIds with
    | .error e => .error e
    | .ok (.inl s) => turnSignalPointLoop s points
    | .ok (.inr command) => .ok command

end TurnSignal

section Requested

open TurnIndicatorsCommand

variable {T : Type} (O : TurnSignalOps T) (G : LaneletGeometry) (M : TurnSignalMap)
  (pd : PlannerData TurnLanelet) (currentPoint : BasicPoint2d)
  (baseSearchDistance angleThresholdDeg baseLinkToFront : ℚ)

/-- `command` is `NO_COMMAND`, or one a lanelet named in `laneIds` asks for: the map holds the
lanelet, it has a next lanelet within the route, and its `turn_direction` maps to the command. -/
def CommandRequested (laneIds : List ℤ) (command : UInt8) : Prop :=
  command = NO_COMMAND ∨ ∃ laneId ∈ laneIds, ∃ lanelet turnDirection,
    M.laneletLayer laneId = some lanelet ∧ (getNextLaneletWithinRoute pd lanelet).isSome ∧
      lanelet.turnDirection = some turnDirection ∧ turnSignalCommandMap turnDirection = some command

/-- The command an iteration goes on with, or returns, is requested. -/
def LaneStep.Requested (laneIds : List ℤ) : LaneStep → Prop
  | .cont s => CommandRequested M pd laneIds s.command
  | .brk s => CommandRequested M pd laneIds s.command
  | .ret command => CommandRequested M pd laneIds command

variable {M pd} {laneIds : List ℤ} {s : TurnSignalState}

/-- From a lanelet named in `laneIds` with a next lanelet within the route, the turn-direction part
of an iteration goes on with, or returns, a requested command. -/
theorem turnDirectionStep_requested {laneId : ℤ} (hid : laneId ∈ laneIds) {lanelet : TurnLanelet}
    (hl : M.laneletLayer laneId = some lanelet) (hn : (getNextLaneletWithinRoute pd lanelet).isSome)
    {r : LaneStep}
    (h : turnDirectionStep O G pd currentPoint baseSearchDistance angleThresholdDeg baseLinkToFront s
      lanelet = .ok r)
    (hs : CommandRequested M pd laneIds s.command) :
    r.Requested M pd laneIds := by
  have hreq : ∀ {d c}, lanelet.turnDirection = some d → turnSignalCommandMap d = some c →
      CommandRequested M pd laneIds c := fun hd hc => .inr ⟨laneId, hid, lanelet, _, hl, hn, hd, hc⟩
  unfold turnDirectionStep at h
  split at h
  · cases h
    exact hs
  · rename_i d hd
    split at h
    · cases h
    · rename_i c hc
      split at h
      · cases h
        split_ifs
        exacts [.inl rfl, hreq hd hc]
      · split at h
        · cases h
        · cases h
          exact hreq hd hc
        · split_ifs at h <;> cases h <;> exact hreq hd hc

/-- An iteration on a lane id of `laneIds` goes on with, or returns, a requested command. -/
theorem turnSignalLaneStep_requested {laneId : ℤ} (hid : laneId ∈ laneIds)
    (hs : CommandRequested M pd laneIds s.command) {r : LaneStep}
    (h : turnSignalLaneStep O G M pd currentPoint baseSearchDistance angleThresholdDeg
      baseLinkToFront s laneId = .ok r) :
    r.Requested M pd laneIds := by
  unfold turnSignalLaneStep at h
  split_ifs at h
  · cases h
    exact hs
  · dsimp only at h
    split at h
    · cases h
    · rename_i lanelet hl
      split_ifs at h with hn
      · cases h
        exact hs
      · cases h
        exact hs
      · exact turnDirectionStep_requested O G currentPoint baseSearchDistance angleThresholdDeg
          baseLinkToFront hid hl (Option.ne_none_iff_isSome.mp fun h0 => hn (h0 ▸ rfl)) h hs

/-- The lane-id loop over ids of `laneIds` goes on with, or returns, a requested command. -/
theorem turnSignalLaneLoop_requested :
    ∀ (ids : List ℤ), ids ⊆ laneIds → ∀ {s : TurnSignalState},
      CommandRequested M pd laneIds s.command → ∀ {r : TurnSignalState ⊕ UInt8},
      turnSignalLaneLoop O G M pd currentPoint baseSearchDistance angleThresholdDeg baseLinkToFront
        s ids = .ok r →
      r.elim (fun s => CommandRequested M pd laneIds s.command) (CommandRequested M pd laneIds)
  | [], _, _, hs, _, h => by
    cases h
    exact hs
  | laneId :: ids, hsub, s, hs, r, h => by
    have hid : laneId ∈ laneIds := hsub (List.mem_cons_self _ _)
    unfold turnSignalLaneLoop at h
    split at h
    · cases h
    · rename_i s' hstep
      exact turnSignalLaneLoop_requested ids (fun x hx => hsub (List.mem_cons_of_mem _ hx))
        (turnSignalLaneStep_requested O G currentPoint baseSearchDistance angleThresholdDeg
          baseLinkToFront hid hs hstep) h
    · rename_i s' hstep
      cases h
      exact turnSignalLaneStep_requested O G currentPoint baseSearchDistance angleThresholdDeg
        baseLinkToFront hid hs hstep
    · rename_i c hstep
      cases h
      exact turnSignalLaneStep_requested O G currentPoint baseSearchDistance angleThresholdDeg
        baseLinkToFront hid hs hstep

/-- The point loop over points whose lane ids are among `laneIds` returns a requested command. -/
theorem turnSignalPointLoop_requested :
    ∀ (points : List PathPointWithLaneId), points.flatMap PathPointWithLaneId.laneIds ⊆ laneIds →
      ∀ {s : TurnSignalState}, CommandRequested M pd laneIds s.command → ∀ {command : UInt8},
      turnSignalPointLoop O G M pd currentPoint baseSearchDistance angleThresholdDeg
        baseLinkToFront s points = .ok command →
      CommandRequested M pd laneIds command
  | [], _, _, hs, _, h => by
    cases h
    exact hs
  | point :: points, hsub, s, hs, command, h => by
    rw [List.flatMap_cons, List.append_subset] at hsub
    unfold turnSignalPointLoop at h
    split at h
    · cases h
    · rename_i s' hloop
      exact turnSignalPointLoop_requested points hsub.2
        (turnSignalLaneLoop_requested O G currentPoint baseSearchDistance angleThresholdDeg
          baseLinkToFront _ hsub.1 hs hloop) h
    · rename_i c hloop
      cases h
      exact turnSignalLaneLoop_requested O G currentPoint baseSearchDistance angleThresholdDeg
        baseLinkToFront _ hsub.1 hs hloop

end Requested

section NoTurnDirection

variable {T : Type} (O : TurnSignalOps T) (G : LaneletGeometry) (M : TurnSignalMap)
  (pd : PlannerData TurnLanelet) (currentPoint : BasicPoint2d)
  (baseSearchDistance angleThresholdDeg baseLinkToFront : ℚ)

/-- Once a lanelet has been passed, lane ids whose lanelets have no `turn_direction` only
lengthen the distance to the next lanelet: the lane-id loop goes on with the command it had. -/
theorem turnSignalLaneLoop_of_no_turnDirection :
    ∀ (ids : List ℤ) {s : TurnSignalState}, s.arcLengthFromVehicleFrontToLaneletStart.isSome →
      (∀ id ∈ ids, id ∉ s.searchedLaneletIds →
        ∃ lanelet, M.laneletLayer id = some lanelet ∧ lanelet.turnDirection = none) →
      ∃ s', turnSignalLaneLoop O G M pd currentPoint baseSearchDistance angleThresholdDeg
          baseLinkToFront s ids = .ok (.inl s') ∧
        s'.arcLengthFromVehicleFrontToLaneletStart.isSome ∧ s'.command = s.command ∧
        s.searchedLaneletIds ⊆ s'.searchedLaneletIds
  | [], s, _, _ => ⟨s, rfl, ‹_›, rfl, List.Subset.refl _⟩
  | id :: ids, s, harc, hrest => by
    have hrest' : ∀ {s' : TurnSignalState}, s.searchedLaneletIds ⊆ s'.searchedLaneletIds →
        ∀ x ∈ ids, x ∉ s'.searchedLaneletIds →
          ∃ lanelet, M.laneletLayer x = some lanelet ∧ lanelet.turnDirection = none :=
      fun hsub x hx hn => hrest x (List.mem_cons_of_mem _ hx) fun h => hn (hsub h)
    unfold turnSignalLaneLoop turnSignalLaneStep
    by_cases hs : id ∈ s.searchedLaneletIds
    · rw [if_pos hs]
      exact turnSignalLaneLoop_of_no_turnDirection ids harc (hrest' (List.Subset.refl _))
    · obtain ⟨lanelet, hl, hd⟩ := hrest id (List.mem_cons_self _ _) hs
      have hsub : s.searchedLaneletIds ⊆ s.searchedLaneletIds ++ [id] := List.subset_append_left _ _
      rw [if_neg hs]
      dsimp only
      rw [hl]
      dsimp only
      split_ifs with hn hin
      · obtain ⟨s', h, h1, h2, h3⟩ := turnSignalLaneLoop_of_no_turnDirection ids
          (s := { s with searchedLaneletIds := s.searchedLaneletIds ++ [id] }) harc (hrest' hsub)
        exact ⟨s', h, h1, h2, hsub.trans h3⟩
      · simp [Option.isNone_iff_eq_none.mp hin.1] at harc
      · rw [turnDirectionStep, hd]
        refine ⟨_, rfl, ?_, rfl, hsub⟩
        simp only [addLaneletLength]
        split <;> rfl

/-- Once a lanelet has been passed, points whose lanelets, other than those already searched, have
no `turn_direction` leave the command as it is: the point loop returns it. -/
theorem turnSignalPointLoop_of_no_turnDirection :
    ∀ (points : List PathPointWithLaneId) {s : TurnSignalState},
      s.arcLengthFromVehicleFrontToLaneletStart.isSome →
      (∀ id ∈ points.flatMap PathPointWithLaneId.laneIds, id ∉ s.searchedLaneletIds →
        ∃ lanelet, M.laneletLayer id = some lanelet ∧ lanelet.turnDirection = none) →
      turnSignalPointLoop O G M pd currentPoint baseSearchDistance angleThresholdDeg
        baseLinkToFront s points = .ok s.command
  | [], _, _, _ => rfl
  | point :: points, s, harc, hrest => by
    obtain ⟨s', h, h1, h2, h3⟩ := turnSignalLaneLoop_of_no_turnDirection O G M pd currentPoint
      baseSearchDistance angleThresholdDeg baseLinkToFront point.laneIds harc
      fun id hid => hrest id (List.mem_flatMap.mpr ⟨point, List.mem_cons_self _ _, hid⟩)
    rw [turnSignalPointLoop, h]
    dsimp only
    rw [turnSignalPointLoop_of_no_turnDirection points h1 fun id hid hn =>
      hrest id (List.mem_flatMap.mpr (by simpa using Or.inr (List.mem_flatMap.mp hid)))
        fun h => hn (h3 h), h2]

/-- On ego's lanelet, before any lanelet ego is inside has been passed, past the lanelet's required
end point, the iteration sets the lanelet's command and breaks with the distance from the vehicle
front to the next lanelet's start. -/
theorem turnSignalLaneStep_past_required_end_point {s : TurnSignalState}
    (harc : s.arcLengthFromVehicleFrontToLaneletStart = none) {laneId : ℤ}
    (hfresh : laneId ∉ s.searchedLaneletIds) {lanelet : TurnLanelet}
    (hl : M.laneletLayer laneId = some lanelet) (hn : (getNextLaneletWithinRoute pd lanelet).isSome)
    (hin : M.inside lanelet currentPoint = true) {turnDirection : String} {command : UInt8}
    (hd : lanelet.turnDirection = some turnDirection)
    (hc : turnSignalCommandMap turnDirection = some command) {requiredEndPoint : BasicPoint2d}
    (he : getTurnSignalRequiredEndPoint O lanelet.centerline angleThresholdDeg =
      .ok (some requiredEndPoint))
    (hpast : calcArcLength G lanelet requiredEndPoint < calcArcLength G lanelet currentPoint) :
    turnSignalLaneStep O G M pd currentPoint baseSearchDistance angleThresholdDeg baseLinkToFront
        s laneId =
      .ok (.brk (addLaneletLength G pd currentPoint baseLinkToFront
        { s with searchedLaneletIds := s.searchedLaneletIds ++ [laneId], command } lanelet)) := by
  have hn' : (getNextLaneletWithinRoute pd lanelet).isNone = false := by
    rw [Option.isNone_eq_false_iff, hn]
  rw [turnSignalLaneStep, if_neg hfresh]
  dsimp only
  rw [hl]
  dsimp only
  rw [if_neg (by simp [hn']), if_neg (by simp [hin]), turnDirectionStep, hd]
  dsimp only
  rw [hc]
  dsimp only
  rw [harc]
  dsimp only
  rw [he]
  dsimp only
  rw [if_neg (not_le.mpr hpast)]

/-- The lanelet of `laneId` is skipped while no lanelet ego is inside has been passed: the map
holds it, and it has no next lanelet within the route or does not hold ego. -/
def LaneSkipped (laneId : ℤ) : Prop :=
  ∃ lanelet, M.laneletLayer laneId = some lanelet ∧
    ((getNextLaneletWithinRoute pd lanelet).isNone = true ∨ M.inside lanelet currentPoint = false)

/-- While no lanelet ego is inside has been passed, an iteration on a skipped lane id goes on,
recording the id as searched. -/
theorem turnSignalLaneStep_of_skipped {s : TurnSignalState}
    (harc : s.arcLengthFromVehicleFrontToLaneletStart = none) {laneId : ℤ}
    (hskip : LaneSkipped M pd currentPoint laneId) :
    turnSignalLaneStep O G M pd currentPoint baseSearchDistance angleThresholdDeg baseLinkToFront
        s laneId =
      .ok (.cont (if laneId ∈ s.searchedLaneletIds then s
        else { s with searchedLaneletIds := s.searchedLaneletIds ++ [laneId] })) := by
  obtain ⟨lanelet, hl, hs⟩ := hskip
  unfold turnSignalLaneStep
  split_ifs with hmem
  · rfl
  · dsimp only
    rw [hl]
    dsimp only
    rcases hs with hn | hin
    · rw [if_pos hn]
    · split_ifs with hn h₂
      · rfl
      · rfl
      · exact (h₂ ⟨by simp [harc], hin⟩).elim

/-- While no lanelet ego is inside has been passed, the lane-id loop goes on over skipped lane ids,
recording them as searched. -/
theorem turnSignalLaneLoop_append_of_skipped (rest : List ℤ) :
    ∀ (pre : List ℤ) {s : TurnSignalState}, s.arcLengthFromVehicleFrontToLaneletStart = none →
      (∀ id ∈ pre, LaneSkipped M pd currentPoint id) →
      ∃ s', turnSignalLaneLoop O G M pd currentPoint baseSearchDistance angleThresholdDeg
          baseLinkToFront s (pre ++ rest) =
        turnSignalLaneLoop O G M pd currentPoint baseSearchDistance angleThresholdDeg
          baseLinkToFront s' rest ∧
        s'.arcLengthFromVehicleFrontToLaneletStart = none ∧ s'.command = s.command ∧
        ∀ id, id ∈ s'.searchedLaneletIds ↔ id ∈ s.searchedLaneletIds ∨ id ∈ pre
  | [], s, harc, _ => ⟨s, rfl, harc, rfl, fun _ => by simp⟩
  | id :: pre, s, harc, hskip => by
    rw [List.cons_append, turnSignalLaneLoop, turnSignalLaneStep_of_skipped O G M pd currentPoint
      baseSearchDistance angleThresholdDeg baseLinkToFront harc (hskip id (List.mem_cons_self _ _))]
    have hpre : ∀ x ∈ pre, LaneSkipped M pd currentPoint x :=
      fun x hx => hskip x (List.mem_cons_of_mem _ hx)
    split_ifs with hmem
    · obtain ⟨s', h, h1, h2, h3⟩ := turnSignalLaneLoop_append_of_skipped rest pre harc hpre
      refine ⟨s', h, h1, h2, fun x => ?_⟩
      rw [h3, List.mem_cons]
      constructor
      · rintro (hx | hx)
        exacts [.inl hx, .inr (.inr hx)]
      · rintro (hx | rfl | hx)
        exacts [.inl hx, .inl hmem, .inr hx]
    · obtain ⟨s', h, h1, h2, h3⟩ := turnSignalLaneLoop_append_of_skipped rest pre
        (s := { s with searchedLaneletIds := s.searchedLaneletIds ++ [id] }) harc hpre
      refine ⟨s', h, h1, h2, fun x => ?_⟩
      rw [h3, List.mem_append, List.mem_singleton, List.mem_cons, or_assoc]

/-- While no lanelet ego is inside has been passed, the point loop goes on over points whose lane
ids are all skipped, recording them as searched. -/
theorem turnSignalPointLoop_append_of_skipped (rest : List PathPointWithLaneId) :
    ∀ (pre : List PathPointWithLaneId) {s : TurnSignalState},
      s.arcLengthFromVehicleFrontToLaneletStart = none →
      (∀ id ∈ pre.flatMap PathPointWithLaneId.laneIds, LaneSkipped M pd currentPoint id) →
      ∃ s', turnSignalPointLoop O G M pd currentPoint baseSearchDistance angleThresholdDeg
          baseLinkToFront s (pre ++ rest) =
        turnSignalPointLoop O G M pd currentPoint baseSearchDistance angleThresholdDeg
          baseLinkToFront s' rest ∧
        s'.arcLengthFromVehicleFrontToLaneletStart = none ∧ s'.command = s.command ∧
        ∀ id, id ∈ s'.searchedLaneletIds ↔
          id ∈ s.searchedLaneletIds ∨ id ∈ pre.flatMap PathPointWithLaneId.laneIds
  | [], s, harc, _ => ⟨s, rfl, harc, rfl, fun _ => by simp⟩
  | point :: pre, s, harc, hskip => by
    rw [List.flatMap_cons] at hskip
    obtain ⟨s₁, h₁, harc₁, hcmd₁, hmem₁⟩ := turnSignalLaneLoop_append_of_skipped O G M pd
      currentPoint baseSearchDistance angleThresholdDeg baseLinkToFront [] point.laneIds harc
      fun id hid => hskip id (List.mem_append_left _ hid)
    rw [List.append_nil] at h₁
    obtain ⟨s₂, h₂, harc₂, hcmd₂, hmem₂⟩ := turnSignalPointLoop_append_of_skipped rest pre harc₁
      fun id hid => hskip id (List.mem_append_right _ hid)
    refine ⟨s₂, ?_, harc₂, hcmd₂.trans hcmd₁, fun id => ?_⟩
    · rw [List.cons_append, turnSignalPointLoop, h₁, turnSignalLaneLoop]
      exact h₂
    · rw [hmem₂, hmem₁, List.flatMap_cons, List.mem_append, or_assoc]

end NoTurnDirection

section Errors

/-! `get_turn_signal` fails for three causes only. -/

variable {T : Type} (O : TurnSignalOps T) (G : LaneletGeometry) (M : TurnSignalMap)
  (pd : PlannerData TurnLanelet) (currentPoint : BasicPoint2d)
  (baseSearchDistance angleThresholdDeg baseLinkToFront : ℚ)

/-- A cause for `get_turn_signal` to fail at a lane id of `laneIds`: the map does not hold the id;
the lanelet's `turn_direction` is not in the command map; or its centerline has fewer than four
points and no positive length, so that `back()` reads the empty resampling vector. -/
def TurnSignalFailureCause (laneIds : List ℤ) : Prop :=
  ∃ laneId ∈ laneIds, M.laneletLayer laneId = none ∨
    ∃ lanelet, M.laneletLayer laneId = some lanelet ∧
      ((∃ turnDirection, lanelet.turnDirection = some turnDirection ∧
          turnSignalCommandMap turnDirection = none) ∨
        (lanelet.centerline.length < 4 ∧
          O.calcArcLength (lanelet.centerline.map fun point =>
            ({ (default : Pose) with position := point })) ≤ 0))

variable {O M}

theorem TurnSignalFailureCause.mono {laneIds laneIds' : List ℤ} (hsub : laneIds ⊆ laneIds')
    (h : TurnSignalFailureCause O M laneIds) : TurnSignalFailureCause O M laneIds' :=
  let ⟨laneId, hid, hcause⟩ := h
  ⟨laneId, hsub hid, hcause⟩

end Errors

section GetTurnSignal

variable {T : Type} (O : TurnSignalOps T) (G : LaneletGeometry) (M : TurnSignalMap)
  (pd : PlannerData TurnLanelet)

/-- `get_turn_signal`, the command of the returned `TurnIndicatorsCommand`. -/
def getTurnSignal (path : List PathPointWithLaneId) (currentPose : Pose)
    (currentVel searchDistance searchTime angleThresholdDeg baseLinkToFront : ℚ) :
    Except TurnSignalFailure UInt8 :=
  let currentPoint : BasicPoint2d := (currentPose.position.x, currentPose.position.y)
  let baseSearchDistance := searchDistance + currentVel * searchTime
  turnSignalPointLoop O G M pd currentPoint baseSearchDistance angleThresholdDeg baseLinkToFront
    ⟨[], none, TurnIndicatorsCommand.NO_COMMAND⟩ path

/-- Trajectory functions under which the required end point of a centerline of four points or more
is the position `(0, 0)` of the start of its first interval. -/
def turnOps : TurnSignalOps Unit where
  calcArcLength _ := 1
  overlapThreshold := 0
  resamplePoseVector poses _ := poses
  build _ := some ()
  alignOrientationWithTrajectoryDirection := id
  length _ := 0
  compute _ _ := default
  findIntervals _ _ := [(0, 1)]
  getYaw _ := 0
  normalizeRadian := id

/-- A left-turn lanelet along the x axis from `0` to `3`. -/
def leftTurnLanelet : TurnLanelet :=
  ⟨7, [⟨0, 0, 0⟩, ⟨1, 0, 0⟩, ⟨2, 0, 0⟩, ⟨3, 0, 0⟩], some "left", none⟩

/-- The lanelet after it, with no turn direction. -/
def exitLanelet : TurnLanelet := ⟨8, [⟨3, 0, 0⟩, ⟨4, 0, 0⟩], none, none⟩

/-- A map of the two lanelets, ego inside both. -/
def leftTurnMap : TurnSignalMap where
  laneletLayer id := if id = 7 then some leftTurnLanelet else if id = 8 then some exitLanelet else none
  inside _ _ := true

/-- A route from the left-turn lanelet to its exit. -/
def leftTurnRoute : PlannerData TurnLanelet where
  routeLanelets := [leftTurnLanelet, exitLanelet]
  startLanelets := [leftTurnLanelet]
  goalLanelets := [exitLanelet]
  preferredLanelets := [leftTurnLanelet, exitLanelet]
  previous _ := []
  following _ := [exitLanelet]
  id := TurnLanelet.id
  laneletLength2d _ := 3

theorem getNextLaneletWithinRoute_leftTurn :
    (getNextLaneletWithinRoute leftTurnRoute leftTurnLanelet).isSome = true := by decide

theorem getTurnSignalRequiredEndPoint_leftTurn :
    getTurnSignalRequiredEndPoint turnOps leftTurnLanelet.centerline 15 = .ok (some (0, 0)) := rfl

/-- Ego at `(2, 0)` is past the required end point `(0, 0)` of the left-turn lanelet. -/
theorem calcArcLength_leftTurn :
    calcArcLength rectilinearGeometry leftTurnLanelet (0, 0) <
      calcArcLength rectilinearGeometry leftTurnLanelet (2, 0) := by
  norm_num [calcArcLength, rectilinearGeometry, rectNearest, leftTurnLanelet,
    TurnLanelet.centerline2d, clampBetween, rectSegmentLength]

/-- Whatever `get_turn_signal` returns is `NO_COMMAND` or a command a lanelet of the path asks
for: one of the path's lane ids names it in the map, it has a next lanelet within the route, and
its `turn_direction` maps to the command. -/
theorem getTurnSignal_requested {path : List PathPointWithLaneId} {currentPose : Pose}
    {currentVel searchDistance searchTime angleThresholdDeg baseLinkToFront : ℚ} {command : UInt8}
    (h : getTurnSignal O G M pd path currentPose currentVel searchDistance searchTime
      angleThresholdDeg baseLinkToFront = .ok command) :
    CommandRequested M pd (path.flatMap PathPointWithLaneId.laneIds) command :=
  turnSignalPointLoop_requested O G _ _ _ _ path (List.Subset.refl _) (.inl rfl) h

open TurnIndicatorsCommand in
/-- Ego at `(2, 0)` on the left-turn lanelet gets the left signal, which the lanelet asks for. -/
theorem getTurnSignal_requested_on_leftTurn :
    getTurnSignal turnOps rectilinearGeometry leftTurnMap leftTurnRoute [⟨default, 0, [7]⟩]
        ⟨⟨2, 0, 0⟩, default⟩ 0 10 0 15 1 = .ok ENABLE_LEFT ∧
      CommandRequested leftTurnMap leftTurnRoute [7] ENABLE_LEFT := by
  have h : getTurnSignal turnOps rectilinearGeometry leftTurnMap leftTurnRoute [⟨default, 0, [7]⟩]
      ⟨⟨2, 0, 0⟩, default⟩ 0 10 0 15 1 = .ok ENABLE_LEFT := by
    unfold getTurnSignal
    rw [turnSignalPointLoop, turnSignalLaneLoop, turnSignalLaneStep_past_required_end_point turnOps
      rectilinearGeometry leftTurnMap leftTurnRoute _ _ 15 1 (s := ⟨[], none, NO_COMMAND⟩) rfl
      (List.not_mem_nil 7)
      (rfl : leftTurnMap.laneletLayer 7 = some leftTurnLanelet) getNextLaneletWithinRoute_leftTurn
      (rfl : leftTurnMap.inside leftTurnLanelet (2, 0) = true)
      (rfl : leftTurnLanelet.turnDirection = some "left")
      (rfl : turnSignalCommandMap "left" = some ENABLE_LEFT) getTurnSignalRequiredEndPoint_leftTurn
      calcArcLength_leftTurn]
    rfl
  exact ⟨h, getTurnSignal_requested turnOps rectilinearGeometry leftTurnMap leftTurnRoute h⟩

/-- On ego's lanelet, past its required end point, `get_turn_signal` does not return: it sets the
lanelet's command and goes on along the path. The path may first name skipped lanelets (with no
next lanelet within the route, or not holding ego), on earlier points or before ego's lanelet on
its point. When no later lanelet of the path has a `turn_direction`, the command set on ego's
lanelet is what it returns. -/
theorem getTurnSignal_keeps_command_past_required_end_point {prePoints points : List PathPointWithLaneId}
    {point : PathPointWithLaneId} {preIds laneIds : List ℤ} {laneId : ℤ}
    (hids : point.laneIds = preIds ++ laneId :: laneIds) {currentPose : Pose}
    (hskip : ∀ id ∈ prePoints.flatMap PathPointWithLaneId.laneIds ++ preIds,
      LaneSkipped M pd (currentPose.position.x, currentPose.position.y) id)
    (hfresh : laneId ∉ prePoints.flatMap PathPointWithLaneId.laneIds ++ preIds)
    {lanelet : TurnLanelet} (hl : M.laneletLayer laneId = some lanelet)
    (hn : (getNextLaneletWithinRoute pd lanelet).isSome)
    (hin : M.inside lanelet (currentPose.position.x, currentPose.position.y) = true)
    {turnDirection : String} {command : UInt8} (hd : lanelet.turnDirection = some turnDirection)
    (hc : turnSignalCommandMap turnDirection = some command) {angleThresholdDeg : ℚ}
    {requiredEndPoint : BasicPoint2d}
    (he : getTurnSignalRequiredEndPoint O lanelet.centerline angleThresholdDeg =
      .ok (some requiredEndPoint))
    (hpast : calcArcLength G lanelet requiredEndPoint <
      calcArcLength G lanelet (currentPose.position.x, currentPose.position.y))
    (hrest : ∀ id ∈ points.flatMap PathPointWithLaneId.laneIds,
      id ∉ laneId :: (prePoints.flatMap PathPointWithLaneId.laneIds ++ preIds) →
      ∃ l, M.laneletLayer id = some l ∧ l.turnDirection = none)
    (currentVel searchDistance searchTime baseLinkToFront : ℚ) :
    getTurnSignal O G M pd (prePoints ++ point :: points) currentPose currentVel searchDistance
      searchTime angleThresholdDeg baseLinkToFront = .ok command := by
  unfold getTurnSignal
  dsimp only
  obtain ⟨s₁, h₁, harc₁, -, hmem₁⟩ := turnSignalPointLoop_append_of_skipped O G M pd _
    (searchDistance + currentVel * searchTime) angleThresholdDeg baseLinkToFront (point :: points)
    prePoints (s := ⟨[], none, TurnIndicatorsCommand.NO_COMMAND⟩) rfl
    fun id hid => hskip id (List.mem_append_left _ hid)
  obtain ⟨s₂, h₂, harc₂, -, hmem₂⟩ := turnSignalLaneLoop_append_of_skipped O G M pd _
    (searchDistance + currentVel * searchTime) angleThresholdDeg baseLinkToFront (laneId :: laneIds)
    preIds harc₁ fun id hid => hskip id (List.mem_append_right _ hid)
  have hsearched : ∀ id, id ∈ s₂.searchedLaneletIds ↔
      id ∈ prePoints.flatMap PathPointWithLaneId.laneIds ++ preIds := fun id => by
    rw [hmem₂, hmem₁, List.mem_append]
    simp
  rw [h₁, turnSignalPointLoop, hids, h₂, turnSignalLaneLoop,
    turnSignalLaneStep_past_required_end_point O G M pd _ _ angleThresholdDeg baseLinkToFront harc₂
      (fun h => hfresh ((hsearched laneId).mp h)) hl hn hin hd hc he hpast]
  dsimp only
  exact turnSignalPointLoop_of_no_turnDirection O G M pd _ _ _ _ points
    (by unfold addLaneletLength; split <;> rfl) fun id hid hs =>
    hrest id hid fun h => hs (by
      rcases List.mem_cons.mp h with rfl | h
      · exact List.mem_append_right _ (List.mem_singleton_self _)
      · exact List.mem_append_left _ ((hsearched id).mpr h))

open TurnIndicatorsCommand in
/-- A path whose first point lies on the exit lanelet, the goal, which has no next lanelet within
the route and is skipped; ego at `(2, 0)` is past the required end point `(0, 0)` of the
left-turn lanelet on the second point: the left signal stays on. -/
theorem getTurnSignal_keeps_command_past_required_end_point_on_leftTurn :
    LaneSkipped leftTurnMap leftTurnRoute (2, 0) 8 ∧
      leftTurnMap.laneletLayer 7 = some leftTurnLanelet ∧
      (getNextLaneletWithinRoute leftTurnRoute leftTurnLanelet).isSome ∧
      leftTurnMap.inside leftTurnLanelet (2, 0) = true ∧
      leftTurnLanelet.turnDirection = some "left" ∧ turnSignalCommandMap "left" = some ENABLE_LEFT ∧
      getTurnSignalRequiredEndPoint turnOps leftTurnLanelet.centerline 15 = .ok (some (0, 0)) ∧
      calcArcLength rectilinearGeometry leftTurnLanelet (0, 0) <
        calcArcLength rectilinearGeometry leftTurnLanelet (2, 0) ∧
      getTurnSignal turnOps rectilinearGeometry leftTurnMap leftTurnRoute
        [⟨default, 0, [8]⟩, ⟨default, 0, [7]⟩] ⟨⟨2, 0, 0⟩, default⟩ 0 10 0 15 1 = .ok ENABLE_LEFT :=
  have hskip : LaneSkipped leftTurnMap leftTurnRoute (2, 0) 8 :=
    ⟨exitLanelet, rfl, .inl (by decide)⟩
  have hl : leftTurnMap.laneletLayer 7 = some leftTurnLanelet := rfl
  have hin : leftTurnMap.inside leftTurnLanelet ((⟨⟨2, 0, 0⟩, default⟩ : Pose).position.x,
      (⟨⟨2, 0, 0⟩, default⟩ : Pose).position.y) = true := rfl
  have hd : leftTurnLanelet.turnDirection = some "left" := rfl
  have hc : turnSignalCommandMap "left" = some ENABLE_LEFT := rfl
  ⟨hskip, hl, getNextLaneletWithinRoute_leftTurn, hin, hd, hc, getTurnSignalRequiredEndPoint_leftTurn,
    calcArcLength_leftTurn,
    @getTurnSignal_keeps_command_past_required_end_point _ turnOps rectilinearGeometry leftTurnMap
      leftTurnRoute [⟨default, 0, [8]⟩] [] ⟨default, 0, [7]⟩ [] [] 7 rfl ⟨⟨2, 0, 0⟩, default⟩
      (fun id hid => by simp only [List.flatMap_cons, List.flatMap_nil, List.append_nil,
        List.mem_singleton] at hid; exact hid ▸ hskip) (by decide) leftTurnLanelet hl
      getNextLaneletWithinRoute_leftTurn hin "left" ENABLE_LEFT hd hc 15 (0, 0)
      getTurnSignalRequiredEndPoint_leftTurn calcArcLength_leftTurn
      (fun _ h => absurd h (List.not_mem_nil _)) 0 10 0 1⟩

end GetTurnSignal

end AutowarePlanning.PathGenerator
