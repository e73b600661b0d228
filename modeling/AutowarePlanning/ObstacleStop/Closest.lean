import AutowarePlanning.ObstacleStop.Types
import Mathlib.Tactic.Linarith
import Mathlib.Data.List.Perm.Subperm

/-!
# `get_closest_stop_obstacles`

The loop keeps one candidate per classification label, in the order the labels first occur, and
replaces a label's candidate by a later obstacle only when that one is strictly closer
(`dist_to_collide_on_decimated_traj + braking_dist.value_or(0)`). The loop body is
`insertClosest`: `std::find_if` for the first candidate of the same label, then replace or append.

The result is pinned down by two projections: its label sequence (`addLabel`, first occurrences)
and, label by label, the first obstacle of least key (`keepCloser`). `eq_of_labels_of_findLabel` says
these two determine a list with distinct labels; every fact below is proved through them.
-/

namespace AutowarePlanning.ObstacleStop

/-- `classification.label`. -/
def StopObstacle.label (o : StopObstacle) : UInt8 := o.classification.label

/-- The comparison key of `get_closest_stop_obstacles`. -/
def closestKey (o : StopObstacle) : ℚ := o.distToCollideOnDecimatedTraj + o.brakingDist.getD 0

/-- One iteration of the loop: the first candidate with the same label is replaced when the new
obstacle is strictly closer; with no such candidate the obstacle is appended. -/
def insertClosest (candidates : List StopObstacle) (s : StopObstacle) : List StopObstacle :=
  match candidates with
  | [] => [s]
  | co :: cs =>
    if co.label = s.label then (if closestKey s < closestKey co then s :: cs else co :: cs)
    else co :: insertClosest cs s

/-- `ObstacleStopModule::get_closest_stop_obstacles`. -/
def getClosestStopObstacles (stopObstacles : List StopObstacle) : List StopObstacle :=
  stopObstacles.foldl insertClosest []

/-- The candidate a label ends with after one more obstacle of that label. -/
def keepCloser (current : Option StopObstacle) (s : StopObstacle) : StopObstacle :=
  match current with
  | none => s
  | some c => if closestKey s < closestKey c then s else c

/-- Appending a label unless it is already present. -/
def addLabel (labels : List UInt8) (l : UInt8) : List UInt8 :=
  if l ∈ labels then labels else labels ++ [l]

/-- The first element of a given label. -/
def findLabel (l : UInt8) (xs : List StopObstacle) : Option StopObstacle :=
  xs.find? (fun c => c.label = l)

/-- The per-label fold: the first obstacle of least key among `xs`, after `init`. -/
def bestOf (init : Option StopObstacle) (xs : List StopObstacle) : Option StopObstacle :=
  xs.foldl (fun o s => some (keepCloser o s)) init

section Step

variable (s : StopObstacle) (acc : List StopObstacle)

@[simp] theorem findLabel_nil (l : UInt8) : findLabel l [] = none := rfl

theorem findLabel_cons (l : UInt8) (c : StopObstacle) (cs : List StopObstacle) :
    findLabel l (c :: cs) = if c.label = l then some c else findLabel l cs := by
  by_cases h : c.label = l <;> simp [findLabel, List.find?, h]

theorem labels_insertClosest :
    (insertClosest acc s).map StopObstacle.label = addLabel (acc.map StopObstacle.label) s.label := by
  induction acc with
  | nil => simp [insertClosest, addLabel]
  | cons co cs ih =>
    by_cases h : co.label = s.label
    · by_cases hk : closestKey s < closestKey co <;> simp [insertClosest, addLabel, h, hk]
    · have h' : s.label ≠ co.label := Ne.symm h
      rw [insertClosest, if_neg h, List.map_cons, ih]
      unfold addLabel
      by_cases hm : s.label ∈ cs.map StopObstacle.label <;> simp [hm, h']

theorem findLabel_insertClosest (l : UInt8) :
    findLabel l (insertClosest acc s) =
      if s.label = l then some (keepCloser (findLabel l acc) s) else findLabel l acc := by
  induction acc with
  | nil => by_cases h : s.label = l <;> simp [insertClosest, findLabel_cons, keepCloser, h]
  | cons co cs ih =>
    by_cases h : co.label = s.label
    · by_cases hk : closestKey s < closestKey co <;> by_cases hl : s.label = l <;>
        simp [insertClosest, findLabel_cons, keepCloser, h, hk, hl]
    · rw [insertClosest, if_neg h, findLabel_cons, findLabel_cons, ih]
      by_cases hl : co.label = l
      · have : s.label ≠ l := fun hs => h (hl.trans hs.symm)
        simp [hl, this]
      · simp [hl]

theorem mem_insertClosest {c : StopObstacle} (h : c ∈ insertClosest acc s) : c = s ∨ c ∈ acc := by
  induction acc with
  | nil => simpa [insertClosest] using h
  | cons co cs ih =>
    unfold insertClosest at h
    split_ifs at h
    · rcases List.mem_cons.mp h with rfl | h <;> simp [h]
    · exact .inr h
    · rcases List.mem_cons.mp h with rfl | h
      · simp
      · rcases ih h with rfl | h <;> simp [h]

/-- A candidate at least as close as `s` with its label makes `s` change nothing. -/
theorem insertClosest_of_dominated (hn : (acc.map StopObstacle.label).Nodup) {c : StopObstacle}
    (hc : c ∈ acc) (hl : c.label = s.label) (hk : closestKey c ≤ closestKey s) :
    insertClosest acc s = acc := by
  induction acc with
  | nil => simp at hc
  | cons co cs ih =>
    simp only [List.map_cons, List.nodup_cons, List.mem_map] at hn
    rcases List.mem_cons.mp hc with rfl | hc
    · simp [insertClosest, hl, not_lt.mpr hk]
    · have hne : co.label ≠ s.label := fun h => hn.1 ⟨c, hc, hl.trans h.symm⟩
      rw [insertClosest, if_neg hne, ih hn.2 hc]

/-- An obstacle of a label not yet present is appended. -/
theorem insertClosest_of_fresh (h : s.label ∉ acc.map StopObstacle.label) :
    insertClosest acc s = acc ++ [s] := by
  induction acc with
  | nil => rfl
  | cons co cs ih =>
    simp only [List.map_cons, List.mem_cons, not_or] at h
    rw [insertClosest, if_neg (Ne.symm h.1), ih h.2, List.cons_append]

end Step

section Fold

theorem labels_foldl (xs acc : List StopObstacle) :
    (xs.foldl insertClosest acc).map StopObstacle.label =
      (xs.map StopObstacle.label).foldl addLabel (acc.map StopObstacle.label) := by
  induction xs generalizing acc with
  | nil => rfl
  | cons x xs ih => simp only [List.foldl_cons, List.map_cons, ih, labels_insertClosest]

theorem findLabel_foldl (l : UInt8) (xs acc : List StopObstacle) :
    findLabel l (xs.foldl insertClosest acc) =
      bestOf (findLabel l acc) (xs.filter (fun c => c.label = l)) := by
  induction xs generalizing acc with
  | nil => rfl
  | cons x xs ih =>
    rw [List.foldl_cons, ih, findLabel_insertClosest, List.filter_cons]
    by_cases h : x.label = l <;> simp [h, bestOf]

theorem mem_foldl {xs acc : List StopObstacle} {c : StopObstacle}
    (h : c ∈ xs.foldl insertClosest acc) : c ∈ xs ∨ c ∈ acc := by
  induction xs generalizing acc with
  | nil => exact .inr h
  | cons x xs ih =>
    rcases ih h with h | h
    · exact .inl (List.mem_cons_of_mem _ h)
    · rcases mem_insertClosest x acc h with rfl | h
      · simp
      · exact .inr h

theorem nodup_addLabel {ls : List UInt8} (h : ls.Nodup) (l : UInt8) : (addLabel ls l).Nodup := by
  unfold addLabel
  split_ifs with hl
  · exact h
  · exact List.nodup_append.mpr ⟨h, List.nodup_singleton l, by simpa using hl⟩

theorem nodup_foldl_addLabel (ms : List UInt8) {ls : List UInt8} (h : ls.Nodup) :
    (ms.foldl addLabel ls).Nodup := by
  induction ms generalizing ls with
  | nil => exact h
  | cons m ms ih => exact ih (nodup_addLabel h m)

/-- The candidate list never holds two obstacles of one label. -/
theorem nodup_labels_foldl (xs : List StopObstacle) {acc : List StopObstacle}
    (h : (acc.map StopObstacle.label).Nodup) :
    ((xs.foldl insertClosest acc).map StopObstacle.label).Nodup := by
  rw [labels_foldl]
  exact nodup_foldl_addLabel _ h

/-- The label fold is the core library's `eraseDups` loop, whose accumulator is reversed. -/
theorem foldl_addLabel_eq_loop (ms ls : List UInt8) :
    ms.foldl addLabel ls = List.eraseDups.loop ms ls.reverse := by
  induction ms generalizing ls with
  | nil => simp [List.eraseDups.loop]
  | cons m ms ih =>
    rw [List.foldl_cons, ih, addLabel]
    by_cases h : m ∈ ls <;> simp [List.eraseDups.loop, h]

/-- Obstacles of labels distinct from each other and from the candidates are all appended. -/
theorem foldl_insertClosest_of_nodup (xs : List StopObstacle) {acc : List StopObstacle}
    (h : ((acc ++ xs).map StopObstacle.label).Nodup) : xs.foldl insertClosest acc = acc ++ xs := by
  induction xs generalizing acc with
  | nil => simp
  | cons x xs ih =>
    have hx : x.label ∉ acc.map StopObstacle.label := by
      simp only [List.map_append, List.map_cons] at h
      exact fun hm => List.disjoint_of_nodup_append h hm (List.mem_cons_self _ _)
    rw [List.foldl_cons, insertClosest_of_fresh x acc hx, ih (by simpa using h)]
    simp

end Fold

section BestOf

theorem bestOf_append (init : Option StopObstacle) (xs ys : List StopObstacle) :
    bestOf init (xs ++ ys) = bestOf (bestOf init xs) ys := List.foldl_append _ _ _ _

theorem bestOf_eq_none {init : Option StopObstacle} {xs : List StopObstacle}
    (h : bestOf init xs = none) : init = none ∧ xs = [] := by
  cases xs with
  | nil => exact ⟨h, rfl⟩
  | cons x xs =>
    have : ∀ (ys : List StopObstacle) o, bestOf (some o) ys ≠ none := by
      intro ys
      induction ys with
      | nil => simp [bestOf]
      | cons y ys ih => intro o; exact ih _
    exact absurd h (this xs _)

theorem bestOf_mem {init : Option StopObstacle} {xs : List StopObstacle} {r : StopObstacle}
    (h : bestOf init xs = some r) : r ∈ xs ∨ init = some r := by
  induction xs generalizing init with
  | nil => exact .inr h
  | cons x xs ih =>
    rcases ih h with h | h
    · exact .inl (List.mem_cons_of_mem _ h)
    · cases init with
      | none => simp_all [keepCloser]
      | some c =>
        simp only [keepCloser, Option.some.injEq] at h
        split_ifs at h
        · simp [← h]
        · exact .inr (congrArg some h)

theorem bestOf_cons (init : Option StopObstacle) (x : StopObstacle) (xs : List StopObstacle) :
    bestOf init (x :: xs) = bestOf (some (keepCloser init x)) xs := rfl

theorem keepCloser_le_self (o : Option StopObstacle) (s : StopObstacle) :
    closestKey (keepCloser o s) ≤ closestKey s := by
  cases o with
  | none => exact le_rfl
  | some c =>
    simp only [keepCloser]
    split_ifs with h
    · exact le_rfl
    · exact not_lt.mp h

theorem keepCloser_le_current (c s : StopObstacle) :
    closestKey (keepCloser (some c) s) ≤ closestKey c := by
  simp only [keepCloser]
  split_ifs with h
  · exact h.le
  · exact le_rfl

/-- The per-label result is at least as close as the start and every obstacle seen. -/
theorem bestOf_le {init : Option StopObstacle} {xs : List StopObstacle} {r : StopObstacle}
    (h : bestOf init xs = some r) :
    (∀ c, init = some c → closestKey r ≤ closestKey c) ∧ ∀ x ∈ xs, closestKey r ≤ closestKey x := by
  induction xs generalizing init with
  | nil => exact ⟨fun c hc => by cases h.symm.trans hc; exact le_rfl, by simp⟩
  | cons x xs ih =>
    rw [bestOf_cons] at h
    obtain ⟨h1, h2⟩ := ih h
    have hk := h1 _ rfl
    refine ⟨fun c hc => ?_, fun y hy => ?_⟩
    · subst hc
      exact hk.trans (keepCloser_le_current c x)
    · rcases List.mem_cons.mp hy with rfl | hy
      · exact hk.trans (keepCloser_le_self init y)
      · exact h2 y hy

/-- A per-label result other than the start is strictly closer than the start. -/
theorem bestOf_lt_of_ne {c : StopObstacle} {xs : List StopObstacle} {r : StopObstacle}
    (h : bestOf (some c) xs = some r) (hne : r ≠ c) : closestKey r < closestKey c := by
  induction xs generalizing c with
  | nil => exact absurd (Option.some.inj h).symm hne
  | cons x xs ih =>
    simp only [bestOf, List.foldl_cons, keepCloser] at h
    split_ifs at h with hlt
    · by_cases hrx : r = x
      · subst hrx; exact hlt
      · exact (ih h hrx).trans hlt
    · exact ih h hne

/-- Where the per-label fold ends: either it keeps its start, which is at least as close as every
obstacle seen, or it ends on an obstacle strictly closer than the start and than every obstacle
before it, and at least as close as every obstacle after it. -/
theorem bestOf_split {init : Option StopObstacle} {xs : List StopObstacle} {r : StopObstacle}
    (h : bestOf init xs = some r) :
    (init = some r ∧ ∀ x ∈ xs, closestKey r ≤ closestKey x) ∨
      ∃ pre post, xs = pre ++ r :: post ∧ (∀ c, init = some c → closestKey r < closestKey c) ∧
        (∀ x ∈ pre, closestKey r < closestKey x) ∧ ∀ x ∈ post, closestKey r ≤ closestKey x := by
  induction xs generalizing init with
  | nil => exact .inl ⟨h, by simp⟩
  | cons y ys ih =>
    rw [bestOf_cons] at h
    rcases ih h with ⟨hk, hys⟩ | ⟨pre, post, rfl, hk, hpre, hpost⟩
    · cases init with
      | none =>
        cases hk
        exact .inr ⟨[], ys, rfl, by simp, by simp, hys⟩
      | some c =>
        simp only [keepCloser, Option.some.injEq] at hk
        split_ifs at hk with hlt
        · subst hk
          exact .inr ⟨[], ys, rfl, fun c' hc' => Option.some.inj hc' ▸ hlt, by simp, hys⟩
        · subst hk
          exact .inl ⟨rfl, by simpa [not_lt.mp hlt] using hys⟩
    · have hr := hk _ rfl
      refine .inr ⟨y :: pre, post, rfl, fun c hc => ?_, ?_, hpost⟩
      · subst hc
        exact hr.trans_le (keepCloser_le_current c y)
      · exact List.forall_mem_cons.mpr ⟨hr.trans_le (keepCloser_le_self init y), hpre⟩

end BestOf

section Ext

theorem findLabel_eq_some_of_nodup {xs : List StopObstacle}
    (hn : (xs.map StopObstacle.label).Nodup) {c : StopObstacle} (hc : c ∈ xs) :
    findLabel c.label xs = some c := by
  induction xs with
  | nil => simp at hc
  | cons x xs ih =>
    simp only [List.map_cons, List.nodup_cons, List.mem_map] at hn
    rw [findLabel_cons]
    rcases List.mem_cons.mp hc with rfl | hc
    · simp
    · have : x.label ≠ c.label := fun h => hn.1 ⟨c, hc, h.symm⟩
      rw [if_neg this, ih hn.2 hc]

/-- A list with distinct labels is determined by its label sequence and its first element of
each label. -/
theorem eq_of_labels_of_findLabel {a b : List StopObstacle}
    (hn : (a.map StopObstacle.label).Nodup)
    (hl : a.map StopObstacle.label = b.map StopObstacle.label)
    (hf : ∀ l, findLabel l a = findLabel l b) : a = b := by
  induction a generalizing b with
  | nil => simpa using hl.symm
  | cons x xs ih =>
    cases b with
    | nil => simp at hl
    | cons y ys =>
      simp only [List.map_cons, List.cons.injEq] at hl
      simp only [List.map_cons, List.nodup_cons, List.mem_map] at hn
      have hxy : x = y := by
        have := hf x.label
        rw [findLabel_cons, findLabel_cons, if_pos rfl, if_pos hl.1.symm] at this
        exact Option.some.inj this
      subst hxy
      refine congrArg _ (ih hn.2 hl.2 fun l => ?_)
      have := hf l
      rw [findLabel_cons, findLabel_cons] at this
      by_cases h : x.label = l
      · subst h
        have hnone : ∀ zs : List StopObstacle, x.label ∉ zs.map StopObstacle.label →
            findLabel x.label zs = none := by
          intro zs hz
          simp only [findLabel, List.find?_eq_none, decide_eq_true_eq]
          exact fun z hz' hzl => hz (List.mem_map.mpr ⟨z, hz', hzl⟩)
        rw [hnone xs (by simpa using hn.1), hnone ys (by rw [← hl.2]; simpa using hn.1)]
      · simpa [h] using this

end Ext

section Closest

theorem labels_getClosestStopObstacles (xs : List StopObstacle) :
    (getClosestStopObstacles xs).map StopObstacle.label = (xs.map StopObstacle.label).foldl addLabel [] :=
  labels_foldl xs []

theorem findLabel_getClosestStopObstacles (l : UInt8) (xs : List StopObstacle) :
    findLabel l (getClosestStopObstacles xs) = bestOf none (xs.filter (fun c => c.label = l)) :=
  findLabel_foldl l xs []

theorem nodup_labels_getClosestStopObstacles (xs : List StopObstacle) :
    ((getClosestStopObstacles xs).map StopObstacle.label).Nodup :=
  nodup_labels_foldl xs List.nodup_nil

theorem mem_of_mem_getClosestStopObstacles {xs : List StopObstacle} {c : StopObstacle}
    (h : c ∈ getClosestStopObstacles xs) : c ∈ xs :=
  (mem_foldl h).resolve_right (List.not_mem_nil c)

theorem labels_getClosestStopObstacles_eq_eraseDups (xs : List StopObstacle) :
    (getClosestStopObstacles xs).map StopObstacle.label = (xs.map StopObstacle.label).eraseDups := by
  rw [labels_getClosestStopObstacles, foldl_addLabel_eq_loop]
  rfl

/-- A list with distinct labels is its own reduction. -/
theorem getClosestStopObstacles_of_nodup {xs : List StopObstacle}
    (h : (xs.map StopObstacle.label).Nodup) : getClosestStopObstacles xs = xs :=
  foldl_insertClosest_of_nodup xs h

/-- The candidate kept for a label is the first obstacle of that label with the least key. -/
theorem getClosestStopObstacles_first_least {xs : List StopObstacle} {c : StopObstacle}
    (hc : c ∈ getClosestStopObstacles xs) :
    ∃ pre post, xs.filter (fun x => x.label = c.label) = pre ++ c :: post ∧
      (∀ x ∈ pre, closestKey c < closestKey x) ∧ ∀ x ∈ post, closestKey c ≤ closestKey x := by
  have hf := findLabel_getClosestStopObstacles c.label xs
  rw [findLabel_eq_some_of_nodup (nodup_labels_getClosestStopObstacles xs) hc] at hf
  rcases bestOf_split hf.symm with ⟨h, -⟩ | ⟨pre, post, hs, -, hpre, hpost⟩
  · cases h
  · exact ⟨pre, post, hs, hpre, hpost⟩

/-- `get_closest_stop_obstacles` keeps one obstacle per label present, in the order the labels
first occur; the one kept is the first of its label with the least key; and the result, whose
labels are distinct, is a fixed point. -/
theorem getClosestStopObstacles_one_first_closest_per_label (xs : List StopObstacle) :
    (getClosestStopObstacles xs).map StopObstacle.label = (xs.map StopObstacle.label).eraseDups ∧
      ((getClosestStopObstacles xs).map StopObstacle.label).Nodup ∧
      (∀ c ∈ getClosestStopObstacles xs, ∃ pre post,
        xs.filter (fun x => x.label = c.label) = pre ++ c :: post ∧
        (∀ x ∈ pre, closestKey c < closestKey x) ∧ ∀ x ∈ post, closestKey c ≤ closestKey x) ∧
      getClosestStopObstacles (getClosestStopObstacles xs) = getClosestStopObstacles xs :=
  ⟨labels_getClosestStopObstacles_eq_eraseDups xs, nodup_labels_getClosestStopObstacles xs,
    fun _ hc => getClosestStopObstacles_first_least hc,
    getClosestStopObstacles_of_nodup (nodup_labels_getClosestStopObstacles xs)⟩

theorem getClosestStopObstacles_append (xs ys : List StopObstacle) :
    getClosestStopObstacles (xs ++ ys) = ys.foldl insertClosest (getClosestStopObstacles xs) :=
  List.foldl_append _ _ _ _

/-- Every obstacle is matched in the result by one of its label that is at least as close. -/
theorem exists_dominating (xs : List StopObstacle) {x : StopObstacle} (hx : x ∈ xs) :
    ∃ c ∈ getClosestStopObstacles xs, c.label = x.label ∧ closestKey c ≤ closestKey x := by
  have hf := findLabel_getClosestStopObstacles x.label xs
  have hx' : x ∈ xs.filter (fun c => c.label = x.label) := List.mem_filter.mpr ⟨hx, by simp⟩
  cases hb : bestOf none (xs.filter (fun c => c.label = x.label)) with
  | none => simp [(bestOf_eq_none hb).2] at hx'
  | some r =>
    rw [hb] at hf
    have hr := List.find?_some hf
    exact ⟨r, List.mem_of_find?_eq_some hf, by simpa using hr, (bestOf_le hb).2 x hx'⟩

/-- Appending obstacles already present changes nothing: the result of the prefix dominates
each of them. -/
theorem getClosestStopObstacles_append_of_subset {xs ds : List StopObstacle}
    (h : ∀ d ∈ ds, d ∈ xs) : getClosestStopObstacles (xs ++ ds) = getClosestStopObstacles xs := by
  rw [getClosestStopObstacles_append]
  induction ds with
  | nil => rfl
  | cons d ds ih =>
    obtain ⟨c, hc, hl, hk⟩ := exists_dominating xs (h d (List.mem_cons_self d ds))
    rw [List.foldl_cons, insertClosest_of_dominated d _ (nodup_labels_getClosestStopObstacles xs)
      hc hl hk]
    exact ih fun e he => h e (List.mem_cons_of_mem d he)

end Closest

section Replay

theorem foldl_addLabel_prefix (ms ls : List UInt8) : ∃ k, ms.foldl addLabel ls = ls ++ k := by
  induction ms generalizing ls with
  | nil => exact ⟨[], by simp⟩
  | cons m ms ih =>
    obtain ⟨k, hk⟩ := ih (addLabel ls m)
    rw [List.foldl_cons, hk]
    by_cases hm : m ∈ ls
    · exact ⟨k, by rw [addLabel, if_pos hm]⟩
    · exact ⟨m :: k, by rw [addLabel, if_neg hm]; simp⟩

theorem foldl_addLabel_of_subset {ms ls : List UInt8} (h : ∀ m ∈ ms, m ∈ ls) :
    ms.foldl addLabel ls = ls := by
  induction ms with
  | nil => rfl
  | cons m ms ih =>
    rw [List.foldl_cons, addLabel, if_pos (h m (List.mem_cons_self m ms))]
    exact ih fun m' hm => h m' (List.mem_cons_of_mem m hm)

theorem foldl_addLabel_of_fresh {ms ls : List UInt8} (hn : ms.Nodup) (h : ∀ m ∈ ms, m ∉ ls) :
    ms.foldl addLabel ls = ls ++ ms := by
  induction ms generalizing ls with
  | nil => simp
  | cons m ms ih =>
    rw [List.nodup_cons] at hn
    rw [List.foldl_cons, addLabel, if_neg (h m (List.mem_cons_self m ms)), ih hn.2]
    · simp
    · intro m' hm hm'
      rcases List.mem_append.mp hm' with hm' | hm'
      · exact h m' (List.mem_cons_of_mem m hm) hm'
      · exact hn.1 (by simpa using (List.mem_singleton.mp hm') ▸ hm)

/-- Replaying a sublist of a label sequence that keeps all its new labels rebuilds it. -/
theorem foldl_addLabel_of_sublist {ls new ms : List UInt8} (hn : (ls ++ new).Nodup)
    (hs : List.Sublist ms (ls ++ new)) (hnew : ∀ m ∈ new, m ∈ ms) : ms.foldl addLabel ls = ls ++ new := by
  obtain ⟨ms1, ms2, rfl, h1, h2⟩ := List.sublist_append_iff.mp hs
  have hd := List.disjoint_of_nodup_append hn
  have hnew' : ∀ m ∈ new, m ∈ ms2 := fun m hm =>
    (List.mem_append.mp (hnew m hm)).resolve_left fun h => hd (h1.subset h) hm
  have hnd : new.Nodup := (List.nodup_append.mp hn).2.1
  have heq : ms2 = new :=
    h2.eq_of_length_le ((hnd.subperm hnew').length_le)
  rw [List.foldl_append, foldl_addLabel_of_subset fun m hm => h1.subset hm, heq,
    foldl_addLabel_of_fresh hnd fun m hm h => hd h hm]

theorem filter_label_of_nodup {xs : List StopObstacle} (hn : (xs.map StopObstacle.label).Nodup)
    {c : StopObstacle} (hc : c ∈ xs) : xs.filter (fun x => x.label = c.label) = [c] := by
  induction xs with
  | nil => simp at hc
  | cons x xs ih =>
    simp only [List.map_cons, List.nodup_cons, List.mem_map] at hn
    rcases List.mem_cons.mp hc with rfl | hc
    · rw [List.filter_cons_of_pos (by simp), List.filter_eq_nil_iff.mpr]
      intro y hy hyl
      exact hn.1 ⟨y, hy, by simpa using hyl⟩
    · have : x.label ≠ c.label := fun h => hn.1 ⟨c, hc, h.symm⟩
      rw [List.filter_cons_of_neg (by simpa using this), ih hn.2 hc]

section Replay

variable {A R : List StopObstacle} (p : StopObstacle → Bool) (hA : (A.map StopObstacle.label).Nodup)
  (hpR : ∀ r ∈ R, p r = true)
include hA hpR

/-- A final candidate whose label the start did not have came from the appended obstacles. -/
theorem passes_of_mem_foldl_of_new_label {c : StopObstacle} (hc : c ∈ R.foldl insertClosest A)
    (hl : c.label ∉ A.map StopObstacle.label) : p c = true := by
  have hf := findLabel_foldl c.label R A
  rw [findLabel_eq_some_of_nodup (nodup_labels_foldl R hA) hc] at hf
  rcases bestOf_mem hf.symm with hm | hm
  · exact hpR c (List.mem_filter.mp hm).1
  · exact absurd (List.mem_map.mpr ⟨c, List.mem_of_find?_eq_some hm, rfl⟩) hl

/-- Replaying the candidates that passed keeps the final labels: the start's, then the new ones,
each of them on a candidate that passed. -/
theorem labels_foldl_filter_foldl :
    (((R.foldl insertClosest A).filter p).foldl insertClosest A).map StopObstacle.label =
      (R.foldl insertClosest A).map StopObstacle.label := by
  set C := R.foldl insertClosest A with hC
  have hCn : (C.map StopObstacle.label).Nodup := nodup_labels_foldl R hA
  obtain ⟨new, hnew⟩ := foldl_addLabel_prefix (R.map StopObstacle.label) (A.map StopObstacle.label)
  have hCl : C.map StopObstacle.label = A.map StopObstacle.label ++ new := by
    rw [hC, labels_foldl, hnew]
  rw [labels_foldl, hCl]
  refine foldl_addLabel_of_sublist (hCl ▸ hCn) (hCl ▸ (List.filter_sublist C).map _) fun m hm => ?_
  obtain ⟨c, hc, rfl⟩ := List.mem_map.mp (hCl ▸ List.mem_append_right _ hm : m ∈ C.map StopObstacle.label)
  have hnot : c.label ∉ A.map StopObstacle.label :=
    fun h => List.disjoint_of_nodup_append (hCl ▸ hCn) h hm
  exact List.mem_map.mpr ⟨c, List.mem_filter.mpr ⟨hc, passes_of_mem_foldl_of_new_label p hA hpR hc hnot⟩, rfl⟩

/-- Replaying the candidates that passed keeps each label's final candidate, when no obstacle of
the start passes. -/
theorem findLabel_foldl_filter_foldl (hpA : ∀ a ∈ A, p a = false) (l : UInt8) :
    findLabel l (((R.foldl insertClosest A).filter p).foldl insertClosest A) =
      findLabel l (R.foldl insertClosest A) := by
  set C := R.foldl insertClosest A with hC
  have hCn : (C.map StopObstacle.label).Nodup := nodup_labels_foldl R hA
  have hb := findLabel_foldl l R A
  rw [← hC] at hb
  rw [findLabel_foldl, List.filter_filter]
  cases hfl : findLabel l C with
  | none =>
    have hnil : C.filter (fun c => decide (c.label = l) && p c) = [] := by
      rw [List.filter_eq_nil_iff]
      intro c hc hcl
      simp only [Bool.and_eq_true, decide_eq_true_eq] at hcl
      have := findLabel_eq_some_of_nodup hCn hc
      rw [hcl.1, hfl] at this
      cases this
    rw [hfl] at hb
    rw [hnil, (bestOf_eq_none hb.symm).1]
    rfl
  | some c =>
    have hc : c ∈ C := List.mem_of_find?_eq_some hfl
    have hcl : c.label = l := by simpa using List.find?_some hfl
    have hsplit : C.filter (fun x => decide (x.label = l) && p x) = [c].filter p := by
      have hcomm : (fun x : StopObstacle => decide (x.label = l) && p x) =
          fun x => p x && decide (x.label = l) := funext fun x => Bool.and_comm _ _
      rw [hcomm, ← List.filter_filter, ← hcl, filter_label_of_nodup hCn hc]
    rw [hfl] at hb
    rw [hsplit]
    cases hpc : p c
    · rcases bestOf_mem hb.symm with hm | hm
      · exact absurd (hpR c (List.mem_filter.mp hm).1) (by simp [hpc])
      · simp [hm, hpc, bestOf]
    · rw [List.filter_cons_of_pos hpc, List.filter_nil]
      cases hA' : findLabel l A with
      | none => rfl
      | some a =>
        have ha : a ∈ A := List.mem_of_find?_eq_some hA'
        have hne : c ≠ a := fun h => by simp [h, hpA a ha] at hpc
        rw [hA'] at hb
        simp [bestOf, keepCloser, bestOf_lt_of_ne hb.symm hne]

end Replay

/-- Replaying, from the same start, only those final candidates that came from the appended
obstacles reproduces the final candidates. This is what a second run of `check_consistency` on
its own output does to the closest-per-label baseline. -/
theorem foldl_filter_foldl {A R : List StopObstacle} (p : StopObstacle → Bool)
    (hA : (A.map StopObstacle.label).Nodup) (hpA : ∀ a ∈ A, p a = false)
    (hpR : ∀ r ∈ R, p r = true) :
    ((R.foldl insertClosest A).filter p).foldl insertClosest A = R.foldl insertClosest A :=
  eq_of_labels_of_findLabel (nodup_labels_foldl _ hA) (labels_foldl_filter_foldl p hA hpR)
    (findLabel_foldl_filter_foldl p hA hpR hpA)

end Replay

end AutowarePlanning.ObstacleStop
