import Mathlib.Algebra.Order.BigOperators.Group.List
import Mathlib.Algebra.Order.Field.Rat
import Mathlib.Data.List.Chain
import Mathlib.Data.Rat.Floor
import Mathlib.Tactic.Linarith

/-!
# Walking the route from a lanelet

`get_previous_lanelet_within_route` returns the first predecessor in the routing graph that lies
on the route, unless the lanelet is a start lanelet. `get_next_lanelet_within_route` returns the
first successor on the route, unless the route has no preferred lanelets, the lanelet is a goal
lanelet, or the first successor is the route's first preferred lanelet.

`get_lanelets_within_route_up_to` and `get_lanelets_within_route_after` repeat one of these steps
while the length gathered is below the distance asked for; both run one loop,
`withinRouteLoop`. A run of it gathers a chain of steps from its start, each lanelet gathered
while the length before it was below the distance, and it stops because the distance is reached,
because the step finds nothing, or because `rclcpp::ok()` turned false (`withinRouteLoop_spec`).
With every route lanelet at least `δ > 0` long the loop stops by its own condition within
`⌈distance / δ⌉₊ + 1` iterations, and more iterations change nothing
(`withinRouteLoop_of_ceil_lt`). A walk to a smaller distance gathers a prefix of what a walk to a
larger one gathers (`withinRouteLoop_prefix_of_le`).
-/

namespace AutowarePlanning.PathGenerator

/-- The parts of the path generator's `PlannerData` the route functions read, over lanelets of
type `L`: the route's lanelet lists and its routing graph, with the lanelet id and
`lanelet::utils::getLaneletLength2d` the functions call on its lanelets. -/
structure PlannerData (L : Type) where
  routeLanelets : List L
  startLanelets : List L
  goalLanelets : List L
  preferredLanelets : List L
  /-- `routing_graph_ptr->previous`. -/
  previous : L → List L
  /-- `routing_graph_ptr->following`. -/
  following : L → List L
  /-- `lanelet::ConstLanelet::id`. -/
  id : L → ℤ
  /-- `lanelet::utils::getLaneletLength2d`. -/
  laneletLength2d : L → ℚ

section Step

variable {L : Type} [DecidableEq L] (pd : PlannerData L)

/-- `get_previous_lanelet_within_route`; `exists(vec, item)` is membership, and an empty list of
predecessors has no route lanelet to find. -/
def getPreviousLaneletWithinRoute (lanelet : L) : Option L :=
  if lanelet ∈ pd.startLanelets then none
  else (pd.previous lanelet).find? fun l => l ∈ pd.routeLanelets

/-- `get_next_lanelet_within_route`. -/
def getNextLaneletWithinRoute (lanelet : L) : Option L :=
  match pd.preferredLanelets with
  | [] => none
  | preferred :: _ =>
    if lanelet ∈ pd.goalLanelets then none
    else
      match pd.following lanelet with
      | [] => none
      | next :: rest =>
        if pd.id next = pd.id preferred then none
        else (next :: rest).find? fun l => l ∈ pd.routeLanelets

variable {pd} {lanelet l : L}

/-- The previous lanelet within the route is the first route lanelet among the predecessors of a
lanelet that is not a start lanelet. -/
theorem getPreviousLaneletWithinRoute_eq_some
    (h : getPreviousLaneletWithinRoute pd lanelet = some l) :
    lanelet ∉ pd.startLanelets ∧ l ∈ pd.previous lanelet ∧ l ∈ pd.routeLanelets ∧
      (pd.previous lanelet).find? (fun l => l ∈ pd.routeLanelets) = some l := by
  unfold getPreviousLaneletWithinRoute at h
  split_ifs at h with hs
  exact ⟨hs, List.mem_of_find?_eq_some h, by simpa using List.find?_some h, h⟩

/-- The next lanelet within the route is the first route lanelet among the successors of a
lanelet that is not a goal lanelet, on a route with preferred lanelets whose first one is not the
first successor. -/
theorem getNextLaneletWithinRoute_eq_some (h : getNextLaneletWithinRoute pd lanelet = some l) :
    lanelet ∉ pd.goalLanelets ∧ l ∈ pd.following lanelet ∧ l ∈ pd.routeLanelets ∧
      (pd.following lanelet).head?.map pd.id ≠ pd.preferredLanelets.head?.map pd.id ∧
      (pd.following lanelet).find? (fun l => l ∈ pd.routeLanelets) = some l := by
  unfold getNextLaneletWithinRoute at h
  split at h
  · cases h
  · rename_i preferred _ hp
    split_ifs at h with hg
    split at h
    · cases h
    · rename_i next rest hf
      split_ifs at h with hid
      rw [hf]
      refine ⟨hg, List.mem_of_find?_eq_some h, by simpa using List.find?_some h, ?_, h⟩
      simpa [hp] using hid

end Step

section Walk

variable {L : Type} (step : L → Option L) (laneletLength2d : L → ℚ) (distance : ℚ)

/-- The `while (rclcpp::ok() && length < distance)` loop that `get_lanelets_within_route_up_to`
and `get_lanelets_within_route_after` share, stepping from `currentLanelet` by `step` (to the
previous, or to the next, lanelet within the route) and gathering into `lanelets`, with `length`
gathered so far. `fuel` counts the iterations before `rclcpp::ok()` turns false; the loop then
leaves with what it has gathered. -/
def withinRouteLoop : ℕ → L → ℚ → List L → List L
  | 0, _, _, lanelets => lanelets
  | fuel + 1, currentLanelet, length, lanelets =>
    if length < distance then
      match step currentLanelet with
      | none => lanelets
      | some lanelet =>
        withinRouteLoop fuel lanelet (length + laneletLength2d lanelet) (lanelets ++ [lanelet])
    else lanelets

/-- A run of the loop appends a chain of steps from its start. Each lanelet is gathered while the
length before it is below the distance. With fuel left over, the loop stopped because the
distance was reached or because the step from the last lanelet found nothing. -/
theorem withinRouteLoop_spec (fuel : ℕ) (currentLanelet : L) (length : ℚ) (lanelets : List L) :
    ∃ ws, withinRouteLoop step laneletLength2d distance fuel currentLanelet length lanelets =
        lanelets ++ ws ∧
      (currentLanelet :: ws).Chain' (fun a b => step a = some b) ∧
      (∀ k < ws.length, length + ((ws.take k).map laneletLength2d).sum < distance) ∧
      (ws.length < fuel →
        distance ≤ length + (ws.map laneletLength2d).sum ∨ step (ws.getLastD currentLanelet) = none) := by
  induction fuel generalizing currentLanelet length lanelets with
  | zero => exact ⟨[], (List.append_nil _).symm, List.chain'_singleton _, by simp, by simp⟩
  | succ fuel ih =>
    unfold withinRouteLoop
    split_ifs with hlt
    · cases hs : step currentLanelet with
      | none =>
        exact ⟨[], (List.append_nil _).symm, List.chain'_singleton _, by simp, fun _ => .inr hs⟩
      | some next =>
        obtain ⟨ws, hrun, hchain, hbelow, hexit⟩ :=
          ih next (length + laneletLength2d next) (lanelets ++ [next])
        refine ⟨next :: ws, by simpa using hrun, List.Chain'.cons hs hchain, ?_, fun hfuel => ?_⟩
        · intro k hk
          cases k with
          | zero => simpa using hlt
          | succ k =>
            have := hbelow k (by simpa using hk)
            simp only [List.take_succ_cons, List.map_cons, List.sum_cons]
            linarith
        · rw [List.map_cons, List.sum_cons, ← add_assoc, List.getLastD_cons]
          exact hexit (by simpa using hfuel)
    · exact ⟨[], (List.append_nil _).symm, List.chain'_singleton _, by simp,
        fun _ => .inl (by simpa using not_lt.mp hlt)⟩

/-- A run that gathers fewer lanelets than its fuel stopped by its own condition, so more fuel
gathers the same. -/
theorem withinRouteLoop_of_length_lt {fuel : ℕ} {currentLanelet : L} {length : ℚ}
    {lanelets ws : List L}
    (hrun : withinRouteLoop step laneletLength2d distance fuel currentLanelet length lanelets =
      lanelets ++ ws)
    (hfuel : ws.length < fuel) {fuel' : ℕ} (hle : fuel ≤ fuel') :
    withinRouteLoop step laneletLength2d distance fuel' currentLanelet length lanelets =
      lanelets ++ ws := by
  induction fuel generalizing fuel' currentLanelet length lanelets ws with
  | zero => omega
  | succ fuel ih =>
    obtain ⟨fuel', rfl⟩ : ∃ k, fuel' = k + 1 := ⟨fuel' - 1, by omega⟩
    unfold withinRouteLoop at hrun ⊢
    split_ifs at hrun ⊢
    · cases hs : step currentLanelet with
      | none => simpa only [hs] using hrun
      | some next =>
        simp only [hs] at hrun ⊢
        obtain ⟨ws', hws', -⟩ := withinRouteLoop_spec step laneletLength2d distance fuel next
          (length + laneletLength2d next) (lanelets ++ [next])
        rw [hws', List.append_assoc] at hrun
        obtain rfl := List.append_cancel_left hrun
        rw [ih hws' (by simpa using hfuel) (by omega), List.append_assoc]
    · exact hrun

/-- The lanelets a chain of steps reaches are all lanelets some step returns. -/
theorem mem_of_chain'_step {a : L} {ws : List L} (h : (a :: ws).Chain' (fun a b => step a = some b))
    {b : L} (hb : b ∈ ws) : ∃ x, step x = some b := by
  induction ws generalizing a with
  | nil => cases hb
  | cons c ws ih =>
    rw [List.chain'_cons] at h
    rcases List.mem_cons.mp hb with rfl | hb
    · exact ⟨a, h.1⟩
    · exact ih h.2 hb

/-- Every lanelet of a chain of steps but the last is one a step leaves from. -/
theorem step_isSome_of_mem_dropLast :
    ∀ {ws : List L}, ws.Chain' (fun a b => step a = some b) → ∀ a ∈ ws.dropLast, (step a).isSome
  | [], _, _, ha => by simp at ha
  | [_], _, _, ha => by simp at ha
  | b :: c :: ws, h, a, ha => by
    rw [List.chain'_cons] at h
    rw [List.dropLast_cons₂] at ha
    rcases List.mem_cons.mp ha with rfl | ha
    · simp [h.1]
    · exact step_isSome_of_mem_dropLast h.2 a ha

/-- When every lanelet a step returns is at least `δ > 0` long, a run started at length `0`
gathers at most `⌈distance / δ⌉₊` lanelets, and with more fuel than that it stops by its own
condition: any larger fuel gathers the same. -/
theorem withinRouteLoop_of_ceil_lt {δ : ℚ} (hδ : 0 < δ)
    (hlen : ∀ a b, step a = some b → δ ≤ laneletLength2d b) (currentLanelet : L)
    {fuel : ℕ} (hfuel : ⌈distance / δ⌉₊ < fuel) :
    withinRouteLoop step laneletLength2d distance fuel currentLanelet 0 [] =
      withinRouteLoop step laneletLength2d distance (⌈distance / δ⌉₊ + 1) currentLanelet 0 [] := by
  obtain ⟨ws, hrun, hchain, hbelow, -⟩ := withinRouteLoop_spec step laneletLength2d distance
    (⌈distance / δ⌉₊ + 1) currentLanelet 0 []
  have hcount : ws.length < ⌈distance / δ⌉₊ + 1 := by
    rcases Nat.eq_zero_or_pos ws.length with h0 | hpos
    · omega
    have hb := hbelow (ws.length - 1) (by omega)
    have hge : ((ws.take (ws.length - 1)).length • δ) ≤
        ((ws.take (ws.length - 1)).map laneletLength2d).sum := by
      rw [← List.length_map _ laneletLength2d]
      refine List.card_nsmul_le_sum _ _ fun x hx => ?_
      obtain ⟨y, hy, rfl⟩ := List.mem_map.mp hx
      obtain ⟨a, ha⟩ := mem_of_chain'_step step hchain (List.mem_of_mem_take hy)
      exact hlen a y ha
    rw [List.length_take, min_eq_left (by omega), nsmul_eq_mul] at hge
    have hlt : ((ws.length - 1 : ℕ) : ℚ) < distance / δ := by
      rw [lt_div_iff₀ hδ]
      linarith
    have := Nat.lt_ceil.mpr hlt
    omega
  rw [hrun, withinRouteLoop_of_length_lt step laneletLength2d distance hrun hcount hfuel]

/-- A walk to a smaller distance stops no later: what it gathers begins what a walk to a larger
distance gathers. -/
theorem withinRouteLoop_prefix_of_le {distance₁ distance₂ : ℚ} (hd : distance₁ ≤ distance₂)
    (fuel : ℕ) (currentLanelet : L) (length : ℚ) (lanelets : List L) :
    withinRouteLoop step laneletLength2d distance₁ fuel currentLanelet length lanelets <+:
      withinRouteLoop step laneletLength2d distance₂ fuel currentLanelet length lanelets := by
  induction fuel generalizing currentLanelet length lanelets with
  | zero => exact List.prefix_refl _
  | succ fuel ih =>
    by_cases h₁ : length < distance₁
    · rw [withinRouteLoop, withinRouteLoop, if_pos h₁, if_pos (h₁.trans_le hd)]
      cases step currentLanelet with
      | none => exact List.prefix_refl _
      | some next => exact ih _ _ _
    · obtain ⟨ws, hrun, -⟩ := withinRouteLoop_spec step laneletLength2d distance₂ (fuel + 1)
        currentLanelet length lanelets
      rw [hrun, withinRouteLoop, if_neg h₁]
      exact List.prefix_append _ _

end Walk

section Lanelets

variable {L : Type} [DecidableEq L] (pd : PlannerData L)

/-- `get_lanelets_within_route_up_to`, with `fuel` iterations before `rclcpp::ok()` turns false:
the walk by previous lanelets, reversed. -/
def getLaneletsWithinRouteUpTo (fuel : ℕ) (lanelet : L) (distance : ℚ) : Option (List L) :=
  if lanelet ∈ pd.routeLanelets then
    some (withinRouteLoop (getPreviousLaneletWithinRoute pd) pd.laneletLength2d distance fuel
      lanelet 0 []).reverse
  else none

/-- `get_lanelets_within_route_after`, with `fuel` iterations before `rclcpp::ok()` turns false:
the walk by next lanelets. -/
def getLaneletsWithinRouteAfter (fuel : ℕ) (lanelet : L) (distance : ℚ) : Option (List L) :=
  if lanelet ∈ pd.routeLanelets then
    some (withinRouteLoop (getNextLaneletWithinRoute pd) pd.laneletLength2d distance fuel
      lanelet 0 [])
  else none

/-- A route of three lanelets `0 → 1 → 2`, each one long, from the start lanelet `0` to the goal
lanelet `2`. -/
def lineRoute : PlannerData ℕ where
  routeLanelets := [0, 1, 2]
  startLanelets := [0]
  goalLanelets := [2]
  preferredLanelets := [0, 1, 2]
  previous n := if n = 0 then [] else [n - 1]
  following n := [n + 1]
  id n := n
  laneletLength2d _ := 1

/-- A route of one lanelet, zero long, that is its own predecessor and successor. -/
def zeroLoopRoute : PlannerData ℕ where
  routeLanelets := [0]
  startLanelets := []
  goalLanelets := []
  preferredLanelets := [0]
  previous _ := [0]
  following _ := [0]
  id n := n
  laneletLength2d _ := 0

variable {pd}

/-- For a lanelet on the route, `get_lanelets_within_route_up_to` returns lanelets that, followed by
the target, form a chain of previous-lanelet steps: all on the route, and none but the first a
start lanelet. Each was gathered, walking back from the target, while the length of those gathered
before it was below the distance. With iterations left before `rclcpp::ok()` turns false, the walk
stopped because the distance was reached or because the first lanelet has no previous lanelet
within the route. -/
theorem getLaneletsWithinRouteUpTo_chain (fuel : ℕ) {lanelet : L} (hr : lanelet ∈ pd.routeLanelets)
    (distance : ℚ) :
    ∃ lanelets, getLaneletsWithinRouteUpTo pd fuel lanelet distance = some lanelets ∧
      (lanelets ++ [lanelet]).Chain' (fun a b => getPreviousLaneletWithinRoute pd b = some a) ∧
      (∀ l ∈ lanelets, l ∈ pd.routeLanelets) ∧
      (∀ l ∈ (lanelets ++ [lanelet]).tail, l ∉ pd.startLanelets) ∧
      (∀ k < lanelets.length,
        ((lanelets.reverse.take k).map pd.laneletLength2d).sum < distance) ∧
      (lanelets.length < fuel → distance ≤ (lanelets.map pd.laneletLength2d).sum ∨
        getPreviousLaneletWithinRoute pd (lanelets.headD lanelet) = none) := by
  obtain ⟨ws, hrun, hchain, hbelow, hexit⟩ := withinRouteLoop_spec (getPreviousLaneletWithinRoute pd)
    pd.laneletLength2d distance fuel lanelet 0 []
  have hrev : ws.reverse ++ [lanelet] = (lanelet :: ws).reverse := (List.reverse_cons _ _).symm
  refine ⟨ws.reverse, by rw [getLaneletsWithinRouteUpTo, if_pos hr, hrun, List.nil_append],
    hrev ▸ List.chain'_reverse.mpr hchain, fun l hl => ?_, fun l hl => ?_, ?_, fun hfuel => ?_⟩
  · obtain ⟨a, ha⟩ := mem_of_chain'_step _ hchain (List.mem_reverse.mp hl)
    exact (getPreviousLaneletWithinRoute_eq_some ha).2.2.1
  · rw [hrev, List.tail_reverse, List.mem_reverse] at hl
    obtain ⟨p, hp⟩ := Option.isSome_iff_exists.mp (step_isSome_of_mem_dropLast _ hchain l hl)
    exact (getPreviousLaneletWithinRoute_eq_some hp).1
  · simpa only [List.reverse_reverse, List.length_reverse, zero_add] using hbelow
  · rw [List.map_reverse, List.sum_reverse, List.headD_eq_head?_getD, List.head?_reverse,
      ← List.getLastD_eq_getLast?]
    simpa using hexit (by simpa using hfuel)

example : getLaneletsWithinRouteUpTo lineRoute 3 2 5 = some [0, 1] := by
  norm_num [getLaneletsWithinRouteUpTo, withinRouteLoop, getPreviousLaneletWithinRoute, lineRoute]

theorem getLaneletsWithinRouteUpTo_chain_on_lineRoute :
    (2 : ℕ) ∈ lineRoute.routeLanelets ∧ ∃ lanelets,
      getLaneletsWithinRouteUpTo lineRoute 3 2 5 = some lanelets ∧
        (lanelets ++ [2]).Chain' (fun a b => getPreviousLaneletWithinRoute lineRoute b = some a) :=
  ⟨by decide, (@getLaneletsWithinRouteUpTo_chain ℕ _ lineRoute 3 2 (by decide) 5).imp
    fun _ h => ⟨h.1, h.2.1⟩⟩

/-- For a lanelet on the route, `get_lanelets_within_route_after` returns lanelets that, after the
target, form a chain of next-lanelet steps: all on the route, and none but the last a goal
lanelet, the target included. Each was gathered while the length of those gathered before it was
below the distance. With iterations left before `rclcpp::ok()` turns false, the walk stopped
because the distance was reached or because the last lanelet has no next lanelet within the
route. -/
theorem getLaneletsWithinRouteAfter_chain (fuel : ℕ) {lanelet : L} (hr : lanelet ∈ pd.routeLanelets)
    (distance : ℚ) :
    ∃ lanelets, getLaneletsWithinRouteAfter pd fuel lanelet distance = some lanelets ∧
      (lanelet :: lanelets).Chain' (fun a b => getNextLaneletWithinRoute pd a = some b) ∧
      (∀ l ∈ lanelets, l ∈ pd.routeLanelets) ∧
      (∀ l ∈ (lanelet :: lanelets).dropLast, l ∉ pd.goalLanelets) ∧
      (∀ k < lanelets.length, ((lanelets.take k).map pd.laneletLength2d).sum < distance) ∧
      (lanelets.length < fuel → distance ≤ (lanelets.map pd.laneletLength2d).sum ∨
        getNextLaneletWithinRoute pd (lanelets.getLastD lanelet) = none) := by
  obtain ⟨ws, hrun, hchain, hbelow, hexit⟩ := withinRouteLoop_spec (getNextLaneletWithinRoute pd)
    pd.laneletLength2d distance fuel lanelet 0 []
  refine ⟨ws, by rw [getLaneletsWithinRouteAfter, if_pos hr, hrun, List.nil_append], hchain,
    fun l hl => ?_, fun l hl => ?_, by simpa only [zero_add] using hbelow,
    by simpa only [zero_add] using hexit⟩
  · obtain ⟨a, ha⟩ := mem_of_chain'_step _ hchain hl
    exact (getNextLaneletWithinRoute_eq_some ha).2.2.1
  · obtain ⟨n, hn⟩ := Option.isSome_iff_exists.mp (step_isSome_of_mem_dropLast _ hchain l hl)
    exact (getNextLaneletWithinRoute_eq_some hn).1

example : getLaneletsWithinRouteAfter lineRoute 3 0 5 = some [1, 2] := by
  norm_num [getLaneletsWithinRouteAfter, withinRouteLoop, getNextLaneletWithinRoute, lineRoute]

theorem getLaneletsWithinRouteAfter_chain_on_lineRoute :
    (0 : ℕ) ∈ lineRoute.routeLanelets ∧ ∃ lanelets,
      getLaneletsWithinRouteAfter lineRoute 3 0 5 = some lanelets ∧
        (0 :: lanelets).Chain' (fun a b => getNextLaneletWithinRoute lineRoute a = some b) :=
  ⟨by decide, (@getLaneletsWithinRouteAfter_chain ℕ _ lineRoute 3 0 (by decide) 5).imp
    fun _ h => ⟨h.1, h.2.1⟩⟩

/-- With every route lanelet at least `δ > 0` long, both walks stop by their own condition within
`⌈distance / δ⌉₊ + 1` iterations: whenever `rclcpp::ok()` turns false later, they return the
same lanelets. -/
theorem getLaneletsWithinRoute_of_ceil_lt {δ : ℚ} (hδ : 0 < δ)
    (hlen : ∀ l ∈ pd.routeLanelets, δ ≤ pd.laneletLength2d l) (lanelet : L) (distance : ℚ)
    {fuel : ℕ} (hfuel : ⌈distance / δ⌉₊ < fuel) :
    getLaneletsWithinRouteUpTo pd fuel lanelet distance =
        getLaneletsWithinRouteUpTo pd (⌈distance / δ⌉₊ + 1) lanelet distance ∧
      getLaneletsWithinRouteAfter pd fuel lanelet distance =
        getLaneletsWithinRouteAfter pd (⌈distance / δ⌉₊ + 1) lanelet distance := by
  unfold getLaneletsWithinRouteUpTo getLaneletsWithinRouteAfter
  split_ifs
  · rw [withinRouteLoop_of_ceil_lt _ _ _ hδ (fun _ b h => hlen b
        (getPreviousLaneletWithinRoute_eq_some h).2.2.1) lanelet hfuel,
      withinRouteLoop_of_ceil_lt _ _ _ hδ (fun _ b h => hlen b
        (getNextLaneletWithinRoute_eq_some h).2.2.1) lanelet hfuel]
    exact ⟨rfl, rfl⟩
  · exact ⟨rfl, rfl⟩

theorem getLaneletsWithinRoute_of_ceil_lt_on_lineRoute :
    (0 : ℚ) < 1 ∧ (∀ l ∈ lineRoute.routeLanelets, (1 : ℚ) ≤ lineRoute.laneletLength2d l) ∧
      ⌈(5 : ℚ) / 1⌉₊ < 7 ∧
      getLaneletsWithinRouteUpTo lineRoute 7 2 5 =
        getLaneletsWithinRouteUpTo lineRoute (⌈(5 : ℚ) / 1⌉₊ + 1) 2 5 :=
  have hlen : ∀ l ∈ lineRoute.routeLanelets, (1 : ℚ) ≤ lineRoute.laneletLength2d l :=
    fun _ _ => le_rfl
  have hfuel : ⌈(5 : ℚ) / 1⌉₊ < 7 := by norm_num
  ⟨one_pos, hlen, hfuel,
    (@getLaneletsWithinRoute_of_ceil_lt ℕ _ lineRoute 1 one_pos hlen 2 5 7 hfuel).1⟩

/-- A route lanelet that is not a start lanelet, is its own first predecessor on the route and is
zero long keeps `get_lanelets_within_route_up_to` gathering it until `rclcpp::ok()` turns false,
for any positive distance: the loop does not end by its own condition. -/
theorem getLaneletsWithinRouteUpTo_of_zero_length_cycle {lanelet : L}
    (hr : lanelet ∈ pd.routeLanelets) (hs : lanelet ∉ pd.startLanelets)
    (hprev : (pd.previous lanelet).find? (fun l => l ∈ pd.routeLanelets) = some lanelet)
    (hzero : pd.laneletLength2d lanelet = 0) {distance : ℚ} (hd : 0 < distance) (fuel : ℕ) :
    getLaneletsWithinRouteUpTo pd fuel lanelet distance = some (List.replicate fuel lanelet) := by
  have hstep : getPreviousLaneletWithinRoute pd lanelet = some lanelet := by
    rw [getPreviousLaneletWithinRoute, if_neg hs, hprev]
  have hloop : ∀ n (acc : List L), withinRouteLoop (getPreviousLaneletWithinRoute pd)
      pd.laneletLength2d distance n lanelet 0 acc = acc ++ List.replicate n lanelet := by
    intro n
    induction n with
    | zero => simp [withinRouteLoop]
    | succ n ih =>
      intro acc
      rw [withinRouteLoop, if_pos hd, hstep]
      simp only [hzero, add_zero, ih, List.append_assoc, List.replicate_succ, List.singleton_append]
  rw [getLaneletsWithinRouteUpTo, if_pos hr, hloop, List.nil_append, List.reverse_replicate]

theorem getLaneletsWithinRouteUpTo_of_zero_length_cycle_on_zeroLoopRoute :
    (0 : ℕ) ∈ zeroLoopRoute.routeLanelets ∧ (0 : ℕ) ∉ zeroLoopRoute.startLanelets ∧
      (zeroLoopRoute.previous 0).find? (fun l => l ∈ zeroLoopRoute.routeLanelets) = some 0 ∧
      zeroLoopRoute.laneletLength2d 0 = 0 ∧ (0 : ℚ) < 1 ∧
      getLaneletsWithinRouteUpTo zeroLoopRoute 4 0 1 = some [0, 0, 0, 0] :=
  have hr : (0 : ℕ) ∈ zeroLoopRoute.routeLanelets := by decide
  have hs : (0 : ℕ) ∉ zeroLoopRoute.startLanelets := by decide
  have hprev : (zeroLoopRoute.previous 0).find? (fun l => l ∈ zeroLoopRoute.routeLanelets) =
      some 0 := by decide
  ⟨hr, hs, hprev, rfl, one_pos,
    @getLaneletsWithinRouteUpTo_of_zero_length_cycle ℕ _ zeroLoopRoute 0 hr hs hprev rfl 1 one_pos 4⟩

/-- Asking for a larger distance only extends the walks, at the far end from the target: the
lanelets `get_lanelets_within_route_up_to` returns for a smaller distance end those it returns for
a larger one, and those of `get_lanelets_within_route_after` begin them. -/
theorem getLaneletsWithinRoute_mono_distance {distance₁ distance₂ : ℚ} (hd : distance₁ ≤ distance₂)
    (fuel : ℕ) (lanelet : L) :
    Option.Rel (· <:+ ·) (getLaneletsWithinRouteUpTo pd fuel lanelet distance₁)
        (getLaneletsWithinRouteUpTo pd fuel lanelet distance₂) ∧
      Option.Rel (· <+: ·) (getLaneletsWithinRouteAfter pd fuel lanelet distance₁)
        (getLaneletsWithinRouteAfter pd fuel lanelet distance₂) := by
  unfold getLaneletsWithinRouteUpTo getLaneletsWithinRouteAfter
  split_ifs
  · exact ⟨.some (List.reverse_suffix.mpr (withinRouteLoop_prefix_of_le _ _ hd _ _ _ _)),
      .some (withinRouteLoop_prefix_of_le _ _ hd _ _ _ _)⟩
  · exact ⟨.none, .none⟩

theorem getLaneletsWithinRoute_mono_distance_on_lineRoute :
    (1 : ℚ) ≤ 5 ∧ Option.Rel (· <:+ ·) (getLaneletsWithinRouteUpTo lineRoute 3 2 1)
      (getLaneletsWithinRouteUpTo lineRoute 3 2 5) :=
  ⟨by norm_num, (@getLaneletsWithinRoute_mono_distance ℕ _ lineRoute 1 5 (by norm_num) 3 2).1⟩

end Lanelets

end AutowarePlanning.PathGenerator
