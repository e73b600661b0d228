import AutowarePlanning.Messages
import AutowarePlanning.PathGenerator.ArcLength
import Mathlib.Data.List.Chain

/-!
# Grouping the waypoints of a lanelet sequence

`get_waypoint_groups` walks the lanelet sequence with the arc length `s` of the current lanelet's
start. A lanelet with a `waypoints` line string contributes an interval: from the arc coordinate
of its first waypoint, pulled back by `connection_gradient_from_centerline` times the waypoint's
lateral offset, to that of its last waypoint, pushed forward the same way. It opens a new group
when its interval starts after the last group's end, and otherwise joins the last group; either
way it sets that group's end and appends its waypoints, tagged with its id.

`Grouping` says what the groups are: the waypoint lanelets cut into consecutive non-empty blocks,
each group built from one block, a lanelet joining its predecessor exactly when its interval
starts no later than the predecessor's ends. `getWaypointGroups_grouping` proves it of every
sequence, from the step lemma `Grouping.step`.
-/

namespace AutowarePlanning.PathGenerator

open AutowarePlanning

/-- `lanelet::ArcCoordinates`. -/
structure ArcCoordinates where
  length : ℚ
  distance : ℚ

/-- The lanelet2 functions `get_waypoint_groups` calls. -/
structure WaypointGeometry where
  /-- `lanelet::geometry::length2d` of a lanelet. -/
  length2d : Lanelet → ℚ
  /-- `lanelet::geometry::toArcCoordinates`. -/
  toArcCoordinates : LineString2d → BasicPoint2d → ArcCoordinates

/-- A lanelet of the sequence with its id and its `waypoints` attribute, resolved in the map's
line string layer. -/
structure MapLanelet where
  lanelet : Lanelet
  id : ℤ
  waypoints : Option (List Point)
  deriving Inhabited

/-- `WaypointGroup::Waypoint`. -/
structure Waypoint where
  point : Point
  laneId : ℤ
  deriving DecidableEq

/-- `WaypointGroup::Interval`. -/
structure Interval where
  start : ℚ
  «end» : ℚ
  deriving DecidableEq, Inhabited

/-- `WaypointGroup`. -/
structure WaypointGroup where
  waypoints : List Waypoint
  interval : Interval
  deriving DecidableEq, Inhabited

variable (W : WaypointGeometry) (connectionGradientFromCenterline : ℚ)

/-- The `get_interval_bound` lambda. -/
def getIntervalBound (point : Point) (lanelet : MapLanelet) (lateralDistanceFactor : ℚ) : ℚ :=
  let arcCoordinates := W.toArcCoordinates lanelet.lanelet.centerline2d (point.x, point.y)
  arcCoordinates.length + lateralDistanceFactor * |arcCoordinates.distance|

/-- One iteration of the loop of `get_waypoint_groups`, on the groups and `s`. -/
def waypointGroupsStep (state : List WaypointGroup × ℚ) (lanelet : MapLanelet) :
    List WaypointGroup × ℚ :=
  match lanelet.waypoints with
  | none => (state.1, state.2 + W.length2d lanelet.lanelet)
  | some waypoints =>
    let s := state.2
    let start := s + getIntervalBound W (waypoints.headD default) lanelet (-connectionGradientFromCenterline)
    let waypointGroups :=
      if state.1.isEmpty ∨ start > (state.1.getLastD default).interval.end then
        state.1 ++ [{ waypoints := [], interval := { start := start, «end» := 0 } }]
      else state.1
    let waypointGroups := waypointGroups.modifyLast fun group =>
      { waypoints := group.waypoints ++ waypoints.map fun waypoint => ⟨waypoint, lanelet.id⟩
        interval := { group.interval with
          «end» := s + getIntervalBound W (waypoints.getLastD default) lanelet
            connectionGradientFromCenterline } }
    (waypointGroups, s + W.length2d lanelet.lanelet)

/-- `get_waypoint_groups`. -/
def getWaypointGroups (laneletSequence : List MapLanelet) : List WaypointGroup :=
  (laneletSequence.foldl (waypointGroupsStep W connectionGradientFromCenterline) ([], 0)).1

/-! The groups in terms of the waypoint lanelets, each with the arc length at its start. -/

/-- Each lanelet with the arc length at its start, as the loop's `s` has it. -/
def laneletOffsets : List MapLanelet → ℚ → List (MapLanelet × ℚ)
  | [], _ => []
  | lanelet :: rest, s => (lanelet, s) :: laneletOffsets rest (s + W.length2d lanelet.lanelet)

/-- A lanelet's waypoints tagged with its id. -/
def taggedWaypoints (lanelet : MapLanelet) : List Waypoint :=
  (lanelet.waypoints.getD []).map fun waypoint => ⟨waypoint, lanelet.id⟩

/-- The start of a waypoint lanelet's interval. -/
def startBound (e : MapLanelet × ℚ) : ℚ :=
  e.2 + getIntervalBound W ((e.1.waypoints.getD []).headD default) e.1 (-connectionGradientFromCenterline)

/-- The end of a waypoint lanelet's interval. -/
def endBound (e : MapLanelet × ℚ) : ℚ :=
  e.2 + getIntervalBound W ((e.1.waypoints.getD []).getLastD default) e.1 connectionGradientFromCenterline

/-- The group a block of consecutive waypoint lanelets makes. -/
def groupOf (block : List (MapLanelet × ℚ)) : WaypointGroup :=
  { waypoints := block.flatMap fun e => taggedWaypoints e.1
    interval := { start := startBound W connectionGradientFromCenterline (block.headD default)
                  «end» := endBound W connectionGradientFromCenterline (block.getLastD default) } }

/-- The groups are those of the waypoint lanelets `entries` cut into consecutive non-empty
blocks, where a lanelet stays in its predecessor's block exactly when its interval starts no
later than the predecessor's ends. -/
def Grouping (groups : List WaypointGroup) (entries : List (MapLanelet × ℚ)) : Prop :=
  ∃ blocks : List (List (MapLanelet × ℚ)),
    blocks.flatten = entries ∧ (∀ b ∈ blocks, b ≠ []) ∧
      groups = blocks.map (groupOf W connectionGradientFromCenterline) ∧
      (∀ b ∈ blocks, b.Chain' fun e e' =>
        startBound W connectionGradientFromCenterline e' ≤ endBound W connectionGradientFromCenterline e) ∧
      blocks.Chain' fun b b' =>
        endBound W connectionGradientFromCenterline (b.getLastD default) <
          startBound W connectionGradientFromCenterline (b'.headD default)

variable {W connectionGradientFromCenterline}

theorem grouping_nil : Grouping W connectionGradientFromCenterline [] [] :=
  ⟨[], rfl, by simp, rfl, by simp, List.chain'_nil⟩

/-- A block grown by one lanelet keeps its first lanelet and ends with the new one. -/
theorem groupOf_append_singleton {b : List (MapLanelet × ℚ)} (hb : b ≠ []) (e : MapLanelet × ℚ) :
    groupOf W connectionGradientFromCenterline (b ++ [e]) =
      { waypoints := (groupOf W connectionGradientFromCenterline b).waypoints ++ taggedWaypoints e.1
        interval := { (groupOf W connectionGradientFromCenterline b).interval with
          «end» := endBound W connectionGradientFromCenterline e } } := by
  obtain ⟨x, xs, rfl⟩ := List.exists_cons_of_ne_nil hb
  unfold groupOf
  rw [List.getLastD_concat, List.flatMap_append, List.flatMap_singleton]
  rfl

/-- A lanelet with waypoints either opens a group or joins the last one, and the groups stay
those of the waypoint lanelets so far. -/
theorem Grouping.step {groups : List WaypointGroup} {entries : List (MapLanelet × ℚ)}
    (h : Grouping W connectionGradientFromCenterline groups entries) (lanelet : MapLanelet)
    {waypoints : List Point} (hw : lanelet.waypoints = some waypoints) (s : ℚ) :
    Grouping W connectionGradientFromCenterline
      (waypointGroupsStep W connectionGradientFromCenterline (groups, s) lanelet).1
      (entries ++ [(lanelet, s)]) := by
  obtain ⟨blocks, hjoin, hne, rfl, hin, hacross⟩ := h
  have hstart : s + getIntervalBound W (waypoints.headD default) lanelet (-connectionGradientFromCenterline) =
      startBound W connectionGradientFromCenterline (lanelet, s) := by simp [startBound, hw]
  have hend : s + getIntervalBound W (waypoints.getLastD default) lanelet connectionGradientFromCenterline =
      endBound W connectionGradientFromCenterline (lanelet, s) := by simp [endBound, hw]
  have htag : waypoints.map (fun waypoint => (⟨waypoint, lanelet.id⟩ : Waypoint)) =
      taggedWaypoints lanelet := by simp [taggedWaypoints, hw]
  simp only [waypointGroupsStep, hw, hstart, hend, htag]
  split_ifs with hnew
  · -- a new group
    refine ⟨blocks ++ [[(lanelet, s)]], by simp [hjoin], ?_, ?_, ?_, ?_⟩
    · simpa [or_imp, forall_and] using hne
    · rw [List.modifyLast_append_one]
      simp [groupOf]
    · simpa [or_imp, forall_and] using hin
    · refine hacross.append (List.chain'_singleton _) fun b hb y hy => ?_
      obtain rfl : y = [(lanelet, s)] := by simpa using hy.symm
      rcases hnew with hempty | hgt
      · simp_all
      · rw [List.getLastD_eq_getLast?, List.getLast?_map, Option.mem_def.mp hb] at hgt
        exact hgt
  · -- the last group grows
    have hnew' : blocks ≠ [] ∧
        startBound W connectionGradientFromCenterline (lanelet, s) ≤
          ((blocks.map (groupOf W connectionGradientFromCenterline)).getLastD default).interval.end := by
      simpa using hnew
    obtain ⟨bs, b, hbs⟩ := (List.eq_nil_or_concat blocks).resolve_left hnew'.1
    rw [List.concat_eq_append] at hbs
    subst hbs
    have hb : b ≠ [] := hne b (by simp)
    have hle : startBound W connectionGradientFromCenterline (lanelet, s) ≤
        endBound W connectionGradientFromCenterline (b.getLastD default) := by
      simpa [List.map_append, List.getLastD_concat, groupOf] using hnew'.2
    obtain ⟨hbs, -, hbsb⟩ := List.chain'_append.mp hacross
    obtain ⟨x, xs, rfl⟩ := List.exists_cons_of_ne_nil hb
    refine ⟨bs ++ [x :: xs ++ [(lanelet, s)]], by simp [← hjoin], ?_, ?_, ?_, ?_⟩
    · simpa [or_imp, forall_and] using hne
    · rw [List.map_append, List.map_singleton, List.modifyLast_append_one,
        List.map_append, List.map_singleton, groupOf_append_singleton hb]
    · simp only [List.mem_append, List.mem_singleton, or_imp, forall_and, forall_eq] at hin ⊢
      refine ⟨hin.1, (hin.2).append (List.chain'_singleton _) fun y hy z hz => ?_⟩
      obtain rfl : z = (lanelet, s) := by simpa using hz.symm
      rw [List.getLastD_eq_getLast?, Option.mem_def.mp hy] at hle
      exact hle
    · exact hbs.append (List.chain'_singleton _) fun y hy z hz => by
        obtain rfl : z = x :: xs ++ [(lanelet, s)] := by simpa using hz.symm
        exact hbsb y hy (x :: xs) rfl

/-- The loop keeps `Grouping` over any stretch of the sequence, lanelets without waypoints adding
nothing. -/
theorem grouping_foldl (laneletSequence : List MapLanelet) {groups : List WaypointGroup}
    {entries : List (MapLanelet × ℚ)} (h : Grouping W connectionGradientFromCenterline groups entries)
    (s : ℚ) :
    Grouping W connectionGradientFromCenterline
      (laneletSequence.foldl (waypointGroupsStep W connectionGradientFromCenterline) (groups, s)).1
      (entries ++ (laneletOffsets W laneletSequence s).filter fun e => e.1.waypoints.isSome) := by
  induction laneletSequence generalizing groups entries s with
  | nil => simpa [laneletOffsets] using h
  | cons lanelet rest ih =>
    rw [List.foldl_cons, laneletOffsets, List.filter_cons]
    cases hw : lanelet.waypoints with
    | none => simpa [waypointGroupsStep, hw] using ih h (s + W.length2d lanelet.lanelet)
    | some waypoints =>
      have hs : waypointGroupsStep W connectionGradientFromCenterline (groups, s) lanelet =
          ((waypointGroupsStep W connectionGradientFromCenterline (groups, s) lanelet).1,
            s + W.length2d lanelet.lanelet) := by
        simp [waypointGroupsStep, hw]
      rw [hs]
      simpa using ih (h.step lanelet hw s) (s + W.length2d lanelet.lanelet)

theorem laneletOffsets_map_fst (laneletSequence : List MapLanelet) (s : ℚ) :
    (laneletOffsets W laneletSequence s).map Prod.fst = laneletSequence := by
  induction laneletSequence generalizing s with
  | nil => rfl
  | cons lanelet rest ih => simp [laneletOffsets, ih]

/-- The groups' waypoints together are those of the blocks' lanelets, in order. -/
theorem flatten_waypoints_map_groupOf (blocks : List (List (MapLanelet × ℚ))) :
    ((blocks.map (groupOf W connectionGradientFromCenterline)).map WaypointGroup.waypoints).flatten =
      blocks.flatten.flatMap fun e => taggedWaypoints e.1 := by
  induction blocks with
  | nil => rfl
  | cons b bs ih =>
    rw [List.map_cons, List.map_cons, List.flatten_cons, ih, List.flatten_cons, List.flatMap_append]
    rfl

/-- A lanelet without waypoints tags none, so dropping it changes nothing. -/
theorem flatMap_taggedWaypoints_filter_isSome (es : List (MapLanelet × ℚ)) :
    (es.filter fun e => e.1.waypoints.isSome).flatMap (fun e => taggedWaypoints e.1) =
      (es.map Prod.fst).flatMap taggedWaypoints := by
  induction es with
  | nil => rfl
  | cons e es ih => cases hw : e.1.waypoints <;> simp_all [List.filter_cons, taggedWaypoints]

/-- `get_waypoint_groups` cuts the waypoint lanelets of the sequence into consecutive blocks, one
group each, a lanelet opening a new group exactly when its interval starts after the end of its
predecessor's; the groups' waypoints are those of all waypoint lanelets, in order, tagged with
their ids; and each group ends before the next starts. -/
theorem getWaypointGroups_grouping (laneletSequence : List MapLanelet) :
    Grouping W connectionGradientFromCenterline
        (getWaypointGroups W connectionGradientFromCenterline laneletSequence)
        ((laneletOffsets W laneletSequence 0).filter fun e => e.1.waypoints.isSome) ∧
      ((getWaypointGroups W connectionGradientFromCenterline laneletSequence).map
        WaypointGroup.waypoints).flatten = laneletSequence.flatMap taggedWaypoints ∧
      (getWaypointGroups W connectionGradientFromCenterline laneletSequence).Chain'
        fun a b => a.interval.end < b.interval.start := by
  have hg := grouping_foldl laneletSequence (@grouping_nil W connectionGradientFromCenterline) 0
  rw [List.nil_append] at hg
  obtain ⟨blocks, hjoin, -, hgroups, -, hacross⟩ := id hg
  refine ⟨hg, ?_, ?_⟩
  · rw [getWaypointGroups, hgroups, flatten_waypoints_map_groupOf, hjoin,
      flatMap_taggedWaypoints_filter_isSome, laneletOffsets_map_fst]
  · rw [getWaypointGroups, hgroups, List.chain'_map]
    exact hacross

end AutowarePlanning.PathGenerator
