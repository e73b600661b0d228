import AutowarePlanning.PathGenerator.ArcLength
import Mathlib.Data.List.Range

/-!
# The first self-intersection of a line string

`get_first_self_intersection_arc_length` walks the segments of a line string. For each segment it
searches the later segments, adjacent ones skipped, for the first that intersects it, and records
that later segment's index and the distance from its start to the intersection point. When the
walk reaches the recorded index it returns the arc length there plus the recorded distance.

The search finds something exactly when some pair of segments intersects
(`getFirstSelfIntersectionArcLength_eq_none_iff`), and what it returns is the arc length of the
intersection of one such pair (`getFirstSelfIntersectionArcLength_eq_some`). The walk keeps one
pending index, and a later segment's search overwrites it: a crossing found first can be replaced
by one further along the line string before the walk reaches it.
-/

namespace AutowarePlanning.PathGenerator

/-- The geometry `get_first_self_intersection_arc_length` calls. -/
structure SegmentGeometry where
  /-- `lanelet::geometry::length` of a `BasicSegment2d`. -/
  segmentLength : BasicPoint2d → BasicPoint2d → ℚ
  /-- `boost::geometry::intersection` of two segments, into `BasicPoints2d`. -/
  intersection : BasicPoint2d × BasicPoint2d → BasicPoint2d × BasicPoint2d → List BasicPoint2d
  /-- `Eigen::Vector2d::norm`. -/
  norm : BasicPoint2d → ℚ

variable (G : SegmentGeometry) (lineString : LineString2d)

/-- `BasicSegment2d{line_string.at(i), line_string.at(i + 1)}`. -/
def segmentAt (i : ℕ) : BasicPoint2d × BasicPoint2d :=
  (lineString.getD i default, lineString.getD (i + 1) default)

/-- The adjacency rule of the inner loop: the later segment starts where the current one ends,
ends where it starts, or starts where it starts. -/
def isAdjacent (currentSegment segment : BasicPoint2d × BasicPoint2d) : Bool :=
  segment.1 == currentSegment.2 || segment.2 == currentSegment.1 || segment.1 == currentSegment.1

/-- One iteration of the inner loop: the later segment `j` and the distance from its start to its
first intersection point with the current segment `i`, unless it is skipped or misses. -/
def selfIntersectionOnSegment (i j : ℕ) : Option (ℕ × ℚ) :=
  let currentSegment := segmentAt lineString i
  let segment := segmentAt lineString j
  if isAdjacent currentSegment segment then none
  else
    match G.intersection currentSegment segment with
    | [] => none
    | q :: _ => some (j, G.norm (q - segment.1))

/-- The outer loop from segment `i`, `m` iterations left, with the pending index, the pending
distance and the arc length so far. -/
def selfIntersectionLoop : ℕ → ℕ → Option ℕ → Option ℚ → ℚ → Option ℚ
  | 0, _, _, _, _ => none
  | m + 1, i, firstSelfIntersectionIndex, intersectionArcLengthOnLatterSegment, s =>
    if firstSelfIntersectionIndex = some i ∧ intersectionArcLengthOnLatterSegment.isSome then
      some (s + intersectionArcLengthOnLatterSegment.getD 0)
    else
      let s := s + G.segmentLength (lineString.getD i default) (lineString.getD (i + 1) default)
      match (List.range' (i + 1) (lineString.length - 1 - (i + 1))).findSome?
          (selfIntersectionOnSegment G lineString i) with
      | none =>
        selfIntersectionLoop m (i + 1) firstSelfIntersectionIndex intersectionArcLengthOnLatterSegment s
      | some (j, a) => selfIntersectionLoop m (i + 1) (some j) (some a) s

/-- `get_first_self_intersection_arc_length`. -/
def getFirstSelfIntersectionArcLength : Option ℚ :=
  if lineString.length < 3 then none
  else selfIntersectionLoop G lineString (lineString.length - 1) 0 none none 0

/-! What the search is about: pairs of segments, the later not adjacent to the earlier, that
intersect, and the arc length of their first intersection point along the line string. -/

/-- The arc length of point `j`: the summed lengths of the segments before it. -/
def arcLengthAt (j : ℕ) : ℚ :=
  ((List.range j).map fun k => G.segmentLength (lineString.getD k default)
    (lineString.getD (k + 1) default)).sum

/-- Segment `j` comes after segment `i`, is not adjacent to it, and intersects it. -/
def IntersectingPair (i j : ℕ) : Prop :=
  i < j ∧ j + 1 < lineString.length ∧ isAdjacent (segmentAt lineString i) (segmentAt lineString j) = false ∧
    G.intersection (segmentAt lineString i) (segmentAt lineString j) ≠ []

/-- The arc length of the first intersection point of segments `i` and `j`, measured along
segment `j`. -/
def pairArcLength (i j : ℕ) : Option ℚ :=
  match G.intersection (segmentAt lineString i) (segmentAt lineString j) with
  | [] => none
  | q :: _ => some (arcLengthAt G lineString j + G.norm (q - lineString.getD j default))

/-- What the outer loop carries into iteration `i`: no pending index, or a pending index at or
after `i` whose pending distance is that of an intersecting pair ending there. -/
def PendingOK (i : ℕ) (idx : Option ℕ) (arc : Option ℚ) : Prop :=
  (idx = none ∧ arc = none) ∨
    ∃ i' k a, idx = some k ∧ arc = some a ∧ i ≤ k ∧ IntersectingPair G lineString i' k ∧
      ∃ q rest, G.intersection (segmentAt lineString i') (segmentAt lineString k) = q :: rest ∧
        a = G.norm (q - lineString.getD k default)

section Search

variable {G lineString}

theorem arcLengthAt_succ (i : ℕ) :
    arcLengthAt G lineString (i + 1) = arcLengthAt G lineString i +
      G.segmentLength (lineString.getD i default) (lineString.getD (i + 1) default) := by
  simp [arcLengthAt, List.range_succ]

theorem selfIntersectionOnSegment_eq_none_iff {i j : ℕ} :
    selfIntersectionOnSegment G lineString i j = none ↔
      isAdjacent (segmentAt lineString i) (segmentAt lineString j) = true ∨
        G.intersection (segmentAt lineString i) (segmentAt lineString j) = [] := by
  unfold selfIntersectionOnSegment
  dsimp only
  split
  · simp_all
  · split <;> simp_all

theorem selfIntersectionOnSegment_eq_some {i j k : ℕ} {a : ℚ}
    (h : selfIntersectionOnSegment G lineString i j = some (k, a)) :
    k = j ∧ isAdjacent (segmentAt lineString i) (segmentAt lineString j) = false ∧
      ∃ q rest, G.intersection (segmentAt lineString i) (segmentAt lineString j) = q :: rest ∧
        a = G.norm (q - lineString.getD j default) := by
  unfold selfIntersectionOnSegment at h
  dsimp only at h
  split at h
  · cases h
  · rename_i hadj
    split at h
    · cases h
    · rename_i q rest hq
      simp only [Option.some.injEq, Prod.mk.injEq] at h
      exact ⟨h.1.symm, by simpa using hadj, q, rest, hq, h.2.symm⟩

/-- The inner loop finds nothing exactly when no later segment makes an intersecting pair with
the current one. -/
theorem findSome?_selfIntersectionOnSegment_eq_none_iff {i : ℕ} :
    (List.range' (i + 1) (lineString.length - 1 - (i + 1))).findSome?
        (selfIntersectionOnSegment G lineString i) = none ↔
      ∀ j, ¬IntersectingPair G lineString i j := by
  unfold IntersectingPair
  rw [List.findSome?_eq_none_iff]
  constructor
  · rintro h j ⟨hij, hj, hadj, hne⟩
    rcases selfIntersectionOnSegment_eq_none_iff.mp
      (h j (List.mem_range'_1.mpr ⟨hij, by omega⟩)) with h' | h'
    · simp [h'] at hadj
    · exact hne h'
  · intro h j hj
    rw [List.mem_range'_1] at hj
    rw [selfIntersectionOnSegment_eq_none_iff]
    by_cases hadj : isAdjacent (segmentAt lineString i) (segmentAt lineString j) = true
    · exact .inl hadj
    · exact .inr (by_contra fun hne => h j ⟨hj.1, by omega, by simpa using hadj, hne⟩)

/-- What the inner loop finds is an intersecting pair, with the distance along the later
segment to the first intersection point. -/
theorem findSome?_selfIntersectionOnSegment_eq_some {i j : ℕ} {a : ℚ}
    (h : (List.range' (i + 1) (lineString.length - 1 - (i + 1))).findSome?
        (selfIntersectionOnSegment G lineString i) = some (j, a)) :
    IntersectingPair G lineString i j ∧
      ∃ q rest, G.intersection (segmentAt lineString i) (segmentAt lineString j) = q :: rest ∧
        a = G.norm (q - lineString.getD j default) := by
  obtain ⟨j', hj', hs⟩ := List.exists_of_findSome?_eq_some h
  obtain ⟨rfl, hadj, q, rest, hq, ha⟩ := selfIntersectionOnSegment_eq_some hs
  rw [List.mem_range'_1] at hj'
  exact ⟨⟨by omega, by omega, hadj, by simp [hq]⟩, q, rest, hq, ha⟩

end Search

section Loop

variable {G lineString}

/-- The pending state after an iteration that did not return. -/
theorem PendingOK.next {i : ℕ} {idx : Option ℕ} {arc : Option ℚ}
    (hp : PendingOK G lineString i idx arc)
    (hret : ¬(idx = some i ∧ arc.isSome = true)) :
    (List.range' (i + 1) (lineString.length - 1 - (i + 1))).findSome?
        (selfIntersectionOnSegment G lineString i) = none →
      PendingOK G lineString (i + 1) idx arc := by
  intro _
  rcases hp with h | ⟨i', k, a, rfl, rfl, hik, hpair⟩
  · exact .inl h
  · refine .inr ⟨i', k, a, rfl, rfl, ?_, hpair⟩
    rcases hik.lt_or_eq with hik | rfl
    · exact hik
    · exact absurd ⟨rfl, rfl⟩ hret

theorem pendingOK_found {i j : ℕ} {a : ℚ}
    (h : (List.range' (i + 1) (lineString.length - 1 - (i + 1))).findSome?
        (selfIntersectionOnSegment G lineString i) = some (j, a)) :
    PendingOK G lineString (i + 1) (some j) (some a) := by
  obtain ⟨hpair, hq⟩ := findSome?_selfIntersectionOnSegment_eq_some h
  exact .inr ⟨i, j, a, rfl, rfl, hpair.1, hpair, hq⟩

/-- The outer loop returns nothing exactly when nothing is pending and no segment from `i` on
makes an intersecting pair. -/
theorem selfIntersectionLoop_eq_none_iff (m : ℕ) {i : ℕ} (hm : i + m = lineString.length - 1)
    {idx : Option ℕ} {arc : Option ℚ} (hp : PendingOK G lineString i idx arc)
    (s : ℚ) :
    selfIntersectionLoop G lineString m i idx arc s = none ↔
      idx = none ∧ ∀ i' j, i ≤ i' → ¬IntersectingPair G lineString i' j := by
  induction m generalizing i idx arc s with
  | zero =>
    simp only [selfIntersectionLoop, true_iff]
    rcases hp with ⟨rfl, -⟩ | ⟨i', k, a, -, -, hik, hpair, -⟩
    · exact ⟨rfl, fun i' j hi' hpair => by unfold IntersectingPair at hpair; omega⟩
    · unfold IntersectingPair at hpair; omega
  | succ m ih =>
    rw [selfIntersectionLoop]
    by_cases hret : idx = some i ∧ arc.isSome = true
    · rw [if_pos hret]
      simp [hret.1]
    rw [if_neg hret]
    cases hf : (List.range' (i + 1) (lineString.length - 1 - (i + 1))).findSome?
        (selfIntersectionOnSegment G lineString i) with
    | none =>
      have hnone := findSome?_selfIntersectionOnSegment_eq_none_iff.mp hf
      simp only
      rw [ih (by omega) (hp.next hret hf)]
      constructor
      · rintro ⟨hidx, hall⟩
        refine ⟨hidx, fun i' j hi' => ?_⟩
        rcases hi'.lt_or_eq with hi' | rfl
        · exact hall i' j hi'
        · exact hnone j
      · rintro ⟨hidx, hall⟩
        exact ⟨hidx, fun i' j hi' => hall i' j (by omega)⟩
    | some r =>
      obtain ⟨j, a⟩ := r
      simp only
      rw [ih (by omega) (pendingOK_found hf)]
      have hpair := (findSome?_selfIntersectionOnSegment_eq_some hf).1
      simp only [reduceCtorEq, false_and, false_iff, not_and]
      exact fun _ hall => hall i j le_rfl hpair

/-- What the outer loop returns is the arc length of an intersecting pair's first intersection
point, when the arc length it carries is that of its current point. -/
theorem selfIntersectionLoop_eq_some (m : ℕ) {i : ℕ} {idx : Option ℕ} {arc : Option ℚ}
    (hp : PendingOK G lineString i idx arc) {v : ℚ}
    (h : selfIntersectionLoop G lineString m i idx arc (arcLengthAt G lineString i) = some v) :
    ∃ i' j, IntersectingPair G lineString i' j ∧ pairArcLength G lineString i' j = some v := by
  induction m generalizing i idx arc with
  | zero => simp [selfIntersectionLoop] at h
  | succ m ih =>
    rw [selfIntersectionLoop] at h
    by_cases hret : idx = some i ∧ arc.isSome = true
    · rw [if_pos hret] at h
      rcases hp with ⟨rfl, -⟩ | ⟨i', k, a, rfl, rfl, -, hpair, q, rest, hq, rfl⟩
      · simp at hret
      · have hk : k = i := Option.some.inj hret.1
        subst hk
        refine ⟨i', k, hpair, ?_⟩
        simpa [pairArcLength, hq] using h
    rw [if_neg hret, ← arcLengthAt_succ] at h
    cases hf : (List.range' (i + 1) (lineString.length - 1 - (i + 1))).findSome?
        (selfIntersectionOnSegment G lineString i) with
    | none =>
      rw [hf] at h
      exact ih (hp.next hret hf) h
    | some r =>
      obtain ⟨j, a⟩ := r
      rw [hf] at h
      exact ih (pendingOK_found hf) h

end Loop

variable {G lineString}

/-- `get_first_self_intersection_arc_length` finds nothing exactly when no two segments, the
later not adjacent to the earlier, intersect. -/
theorem getFirstSelfIntersectionArcLength_eq_none_iff :
    getFirstSelfIntersectionArcLength G lineString = none ↔
      ∀ i j, ¬IntersectingPair G lineString i j := by
  unfold getFirstSelfIntersectionArcLength
  split_ifs with hlen
  · simp only [true_iff]
    intro i j hpair
    unfold IntersectingPair at hpair
    omega
  · rw [selfIntersectionLoop_eq_none_iff _ (by omega) (.inl ⟨rfl, rfl⟩)]
    simp

/-- What `get_first_self_intersection_arc_length` returns is the arc length of the first
intersection point of some intersecting pair. -/
theorem getFirstSelfIntersectionArcLength_eq_some {v : ℚ}
    (h : getFirstSelfIntersectionArcLength G lineString = some v) :
    ∃ i j, IntersectingPair G lineString i j ∧ pairArcLength G lineString i j = some v := by
  unfold getFirstSelfIntersectionArcLength at h
  split_ifs at h
  exact selfIntersectionLoop_eq_some _ (.inl ⟨rfl, rfl⟩) h

section Rectilinear

/-- `boost::geometry::intersection` of two axis-parallel segments: each is its own bounding box, so
they meet in the intersection of the boxes, a point or a shared piece given by its two ends. -/
def rectIntersection (a b : BasicPoint2d × BasicPoint2d) : List BasicPoint2d :=
  let xLo := max (min a.1.1 a.2.1) (min b.1.1 b.2.1)
  let xHi := min (max a.1.1 a.2.1) (max b.1.1 b.2.1)
  let yLo := max (min a.1.2 a.2.2) (min b.1.2 b.2.2)
  let yHi := min (max a.1.2 a.2.2) (max b.1.2 b.2.2)
  if xLo ≤ xHi ∧ yLo ≤ yHi then
    if (xLo, yLo) = (xHi, yHi) then [(xLo, yLo)] else [(xLo, yLo), (xHi, yHi)]
  else []

/-- The segment geometry on rectilinear line strings, exact in `ℚ`. -/
def rectSegmentGeometry : SegmentGeometry where
  segmentLength := rectSegmentLength
  intersection := rectIntersection
  norm v := |v.1| + |v.2|

/-- A line string that runs out along the x axis, turns back above it, crosses its first segment
at `(5, 0)` (arc length `40 + 5`), turns again below it and crosses its second segment at
`(15, 0)` (arc length `60 + 5`). -/
def loopBackLineString : LineString2d :=
  [(0, 0), (10, 0), (20, 0), (20, 5), (5, 5), (5, -5), (15, -5), (15, 3)]

end Rectilinear

/-- The line string first runs into itself where its fifth segment crosses its first, at arc
length `45`; the search for the first segment records that crossing, the search for the second
overwrites it with the crossing of the seventh, and the function returns `65`. -/
theorem getFirstSelfIntersectionArcLength_overwrites_first_crossing :
    IntersectingPair rectSegmentGeometry loopBackLineString 0 4 ∧
      pairArcLength rectSegmentGeometry loopBackLineString 0 4 = some 45 ∧
      getFirstSelfIntersectionArcLength rectSegmentGeometry loopBackLineString = some 65 := by
  refine ⟨?_, ?_, ?_⟩ <;>
  norm_num [IntersectingPair, pairArcLength, arcLengthAt, getFirstSelfIntersectionArcLength,
    selfIntersectionLoop, loopBackLineString, List.range', List.findSome?, selfIntersectionOnSegment,
    segmentAt, isAdjacent, rectSegmentGeometry, rectIntersection, rectSegmentLength, List.range_succ]

end AutowarePlanning.PathGenerator
