import AutowarePlanning.PathGenerator.PathBounds
import AutowarePlanning.PathGenerator.SelfIntersection
import Mathlib.Algebra.Order.Ring.Abs
import Mathlib.Order.MinMax

/-!
# The first intersection in a lanelet sequence

`get_first_intersection_arc_length` crops the centerline and the two bounds of the sequence
between the two centerline arc lengths (the bounds at their projections), and then compares, in
centerline arc length, four kinds of crossing: the first self-intersection of each cropped bound,
each crossing of the two cropped bounds (counted at the later of its two projections), the
crossings of the start edge (the segment joining the bounds' first points) with each cropped
bound other than at the bound's first point, and the crossings of the start edge with the cropped
centerline at least `vehicle_length` into it. Each kind updates the running result by the
optional minimum `if (s && x) s = min(s, x); else if (x) s = x;`, which is `Option.merge min`.

The result is the least of all these candidates, `none` when there are none
(`getFirstIntersectionArcLength_eq_min?`). A longer vehicle only drops centerline crossings, so
the first intersection never moves earlier as `vehicle_length` grows
(`getFirstIntersectionArcLength_mono_vehicleLength`).
-/

namespace AutowarePlanning.PathGenerator

open AutowarePlanning

/-- `lanelet::LaneletSequence::centerline2d()`, `leftBound2d()` and `rightBound2d()`, converted by
`to_geometry_msgs_points`. -/
structure SequenceLineStrings2d where
  centerline2d : List Lanelet → List Point
  leftBound2d : List Lanelet → List Point
  rightBound2d : List Lanelet → List Point

/-- `lanelet::utils::to2D(to_lanelet_points(points))`. -/
def toLineString2d (points : List Point) : LineString2d :=
  points.map fun point => (point.x, point.y)

section OptionMin

/-! `Option.merge min` is the optional minimum: `none` is its unit, and the least element of a list
is the optional minimum of the least elements of its two parts. -/

@[simp] theorem merge_min_none (a : Option ℚ) : Option.merge min a none = a := by
  cases a <;> rfl

@[simp] theorem none_merge_min (a : Option ℚ) : Option.merge min none a = a := by
  cases a <;> rfl

theorem min?_append (l₁ l₂ : List ℚ) : (l₁ ++ l₂).min? = Option.merge min l₁.min? l₂.min? := by
  induction l₁ with
  | nil =>
    rw [List.nil_append, List.min?_nil]
    cases l₂.min? <;> rfl
  | cons a l₁ ih =>
    rw [List.cons_append, List.min?_cons, List.min?_cons, ih]
    cases l₁.min? <;> cases l₂.min? <;> simp [Option.merge, min_assoc]

theorem min?_toList (a : Option ℚ) : a.toList.min? = a := by
  cases a <;> rfl

/-- `List.min?_eq_some_iff` on `ℚ`, whose order core does not register as antisymmetric. -/
theorem rat_min?_eq_some_iff {xs : List ℚ} {a : ℚ} :
    xs.min? = some a ↔ a ∈ xs ∧ ∀ b ∈ xs, a ≤ b :=
  haveI : Std.Antisymm (fun x y : ℚ => x ≤ y) := ⟨le_antisymm⟩
  List.min?_eq_some_iff le_refl min_choice fun _ _ _ => le_min_iff

/-- Folding the optional minimum of the values `f` gives over a list gives the optional minimum of
the start and the least of the values. -/
theorem foldl_merge_min {α : Type} (f : α → Option ℚ) (xs : List α) (init : Option ℚ) :
    xs.foldl (fun acc x => Option.merge min acc (f x)) init =
      Option.merge min init (xs.filterMap f).min? := by
  induction xs generalizing init with
  | nil => simp
  | cons x xs ih =>
    rw [List.foldl_cons, ih, List.filterMap_cons]
    cases f x with
    | none => simp
    | some v =>
      rw [List.min?_cons]
      cases init <;> cases (xs.filterMap f).min? <;> simp [Option.merge, min_assoc]

/-- The same for a fold that skips the values failing a test. -/
theorem foldl_ite_merge_min {α : Type} (p : α → Prop) [DecidablePred p] (f : α → ℚ) (xs : List α)
    (init : Option ℚ) :
    xs.foldl (fun acc x => if p x then acc else Option.merge min acc (some (f x))) init =
      Option.merge min init (xs.filterMap fun x => if p x then none else some (f x)).min? := by
  rw [← foldl_merge_min]
  congr
  funext acc x
  split_ifs <;> simp

end OptionMin

section Intersection

variable {T : Type} (B : TrajectoryOps T) (G : LaneletGeometry) (SG : SegmentGeometry)
  (S : SequenceLineStrings2d)
  (intersection : LineString2d → LineString2d → List BasicPoint2d)

/-- The `get_start_edge_intersection_arc_length` lambda: the least arc length on a bound of three
points or more of a crossing of the start edge other than the bound's first point;
`boost::geometry::intersection` of two line strings is `intersection`, and
`boost::geometry::equals` of two points is equality. -/
def getStartEdgeIntersectionArcLength (startEdge bound : LineString2d) : Option ℚ :=
  if bound.length ≤ 2 then none
  else
    (intersection startEdge bound).foldl (fun sStartEdge point =>
      if point = bound.headD default then sStartEdge
      else Option.merge min sStartEdge (some (G.toArcCoordinatesLength bound point))) none

/-- `get_first_intersection_arc_length`. -/
def getFirstIntersectionArcLength (laneletSequence : List Lanelet) (sStart sEnd vehicleLength : ℚ) :
    Option ℚ :=
  if laneletSequence.isEmpty then none
  else
    let sStartOnBounds := getArcLengthOnBounds G sStart laneletSequence
    let sEndOnBounds := getArcLengthOnBounds G sEnd laneletSequence
    let croppedCenterline :=
      toLineString2d (cropLineString B (S.centerline2d laneletSequence) sStart sEnd)
    let croppedLeftBound := toLineString2d (cropLineString B (S.leftBound2d laneletSequence)
      sStartOnBounds.left sEndOnBounds.left)
    let croppedRightBound := toLineString2d (cropLineString B (S.rightBound2d laneletSequence)
      sStartOnBounds.right sEndOnBounds.right)
    if croppedCenterline.isEmpty ∨ croppedLeftBound.isEmpty ∨ croppedRightBound.isEmpty then none
    else
      let startEdge : LineString2d := [croppedLeftBound.headD default, croppedRightBound.headD default]
      -- self intersection
      let sSelf := getArcLengthOnCenterline G laneletSequence
        ((getFirstSelfIntersectionArcLength SG croppedLeftBound).map (· + sStartOnBounds.left))
        ((getFirstSelfIntersectionArcLength SG croppedRightBound).map (· + sStartOnBounds.right))
      let sIntersection := Option.merge min sSelf.left sSelf.right
      -- intersection between left and right bounds
      let sIntersection := (intersection croppedLeftBound croppedRightBound).foldl
        (fun sIntersection point =>
          let sOnCenterline := getArcLengthOnCenterline G laneletSequence
            (some (sStartOnBounds.left + G.toArcCoordinatesLength croppedLeftBound point))
            (some (sStartOnBounds.right + G.toArcCoordinatesLength croppedRightBound point))
          Option.merge min sIntersection (Option.merge max sOnCenterline.left sOnCenterline.right))
        sIntersection
      -- intersection between start edge of drivable area and left / right bound
      let sOnCenterline := getArcLengthOnCenterline G laneletSequence
        ((getStartEdgeIntersectionArcLength G intersection startEdge croppedLeftBound).map
          (· + sStartOnBounds.left))
        ((getStartEdgeIntersectionArcLength G intersection startEdge croppedRightBound).map
          (· + sStartOnBounds.right))
      let sIntersection :=
        Option.merge min sIntersection (Option.merge min sOnCenterline.left sOnCenterline.right)
      -- intersection between start edge of drivable area and center line
      let sStartEdge := (intersection startEdge croppedCenterline).foldl (fun sStartEdge point =>
        let s := G.toArcCoordinatesLength croppedCenterline point
        if s < vehicleLength then sStartEdge else Option.merge min sStartEdge (some (s + sStart)))
        none
      Option.merge min sIntersection sStartEdge

/-- The centerline arc lengths `get_first_intersection_arc_length` compares, kind by kind, as a
list: the two sides' self-intersections; each crossing of the bounds at the later of its two
projections; the two sides' first crossings of the start edge; and each crossing of the start
edge and the centerline at least `vehicleLength` into the cropped centerline. -/
def firstIntersectionCandidates (laneletSequence : List Lanelet) (sStart sEnd vehicleLength : ℚ) :
    List ℚ :=
  if laneletSequence.isEmpty then []
  else
    let sStartOnBounds := getArcLengthOnBounds G sStart laneletSequence
    let sEndOnBounds := getArcLengthOnBounds G sEnd laneletSequence
    let croppedCenterline :=
      toLineString2d (cropLineString B (S.centerline2d laneletSequence) sStart sEnd)
    let croppedLeftBound := toLineString2d (cropLineString B (S.leftBound2d laneletSequence)
      sStartOnBounds.left sEndOnBounds.left)
    let croppedRightBound := toLineString2d (cropLineString B (S.rightBound2d laneletSequence)
      sStartOnBounds.right sEndOnBounds.right)
    if croppedCenterline.isEmpty ∨ croppedLeftBound.isEmpty ∨ croppedRightBound.isEmpty then []
    else
      let startEdge : LineString2d := [croppedLeftBound.headD default, croppedRightBound.headD default]
      let sSelf := getArcLengthOnCenterline G laneletSequence
        ((getFirstSelfIntersectionArcLength SG croppedLeftBound).map (· + sStartOnBounds.left))
        ((getFirstSelfIntersectionArcLength SG croppedRightBound).map (· + sStartOnBounds.right))
      let sOnCenterline := getArcLengthOnCenterline G laneletSequence
        ((getStartEdgeIntersectionArcLength G intersection startEdge croppedLeftBound).map
          (· + sStartOnBounds.left))
        ((getStartEdgeIntersectionArcLength G intersection startEdge croppedRightBound).map
          (· + sStartOnBounds.right))
      sSelf.left.toList ++ sSelf.right.toList ++
        (intersection croppedLeftBound croppedRightBound).filterMap (fun point =>
          let sOnCenterline := getArcLengthOnCenterline G laneletSequence
            (some (sStartOnBounds.left + G.toArcCoordinatesLength croppedLeftBound point))
            (some (sStartOnBounds.right + G.toArcCoordinatesLength croppedRightBound point))
          Option.merge max sOnCenterline.left sOnCenterline.right) ++
        (sOnCenterline.left.toList ++ sOnCenterline.right.toList) ++
        (intersection startEdge croppedCenterline).filterMap (fun point =>
          let s := G.toArcCoordinatesLength croppedCenterline point
          if s < vehicleLength then none else some (s + sStart))

/-- `get_first_intersection_arc_length` returns the least of the centerline arc lengths it
compares, and `none` when there is none: the running optional minimum over the four kinds of
crossing is the minimum over all of them. -/
theorem getFirstIntersectionArcLength_eq_min? (laneletSequence : List Lanelet)
    (sStart sEnd vehicleLength : ℚ) :
    getFirstIntersectionArcLength B G SG S intersection laneletSequence sStart sEnd vehicleLength =
      (firstIntersectionCandidates B G SG S intersection laneletSequence sStart sEnd
        vehicleLength).min? := by
  unfold getFirstIntersectionArcLength firstIntersectionCandidates
  split_ifs
  · rfl
  dsimp only
  split_ifs
  · rfl
  · rw [foldl_merge_min, foldl_ite_merge_min]
    simp only [min?_append, min?_toList, none_merge_min]

/-- `get_first_intersection_arc_length` finds nothing exactly when it has no candidate, and what it
finds is a candidate no later than any other: the first of all the crossings it compares. -/
theorem getFirstIntersectionArcLength_first (laneletSequence : List Lanelet)
    (sStart sEnd vehicleLength : ℚ) :
    (getFirstIntersectionArcLength B G SG S intersection laneletSequence sStart sEnd vehicleLength =
        none ↔
      firstIntersectionCandidates B G SG S intersection laneletSequence sStart sEnd vehicleLength =
        []) ∧
    ∀ v, getFirstIntersectionArcLength B G SG S intersection laneletSequence sStart sEnd
        vehicleLength = some v ↔
      v ∈ firstIntersectionCandidates B G SG S intersection laneletSequence sStart sEnd
          vehicleLength ∧
        ∀ c ∈ firstIntersectionCandidates B G SG S intersection laneletSequence sStart sEnd
          vehicleLength, v ≤ c := by
  rw [getFirstIntersectionArcLength_eq_min?]
  exact ⟨List.min?_eq_none_iff, fun _ => rat_min?_eq_some_iff⟩

/-- A longer vehicle has no candidate the shorter one lacks: it only drops crossings of the start
edge and the centerline. -/
theorem mem_firstIntersectionCandidates_of_le {vehicleLength₁ vehicleLength₂ : ℚ}
    (hle : vehicleLength₁ ≤ vehicleLength₂) (laneletSequence : List Lanelet) (sStart sEnd : ℚ)
    {v : ℚ}
    (hv : v ∈ firstIntersectionCandidates B G SG S intersection laneletSequence sStart sEnd
      vehicleLength₂) :
    v ∈ firstIntersectionCandidates B G SG S intersection laneletSequence sStart sEnd
      vehicleLength₁ := by
  unfold firstIntersectionCandidates at hv ⊢
  split_ifs at hv ⊢
  · exact hv
  dsimp only at hv ⊢
  split_ifs at hv ⊢
  · exact hv
  rw [List.mem_append] at hv ⊢
  refine hv.imp id fun hc => ?_
  obtain ⟨p, hp, hpv⟩ := List.mem_filterMap.mp hc
  refine List.mem_filterMap.mpr ⟨p, hp, ?_⟩
  split_ifs at hpv with h₂
  exact (if_neg (not_lt.mpr (hle.trans (not_lt.mp h₂)))).trans hpv

/-- A longer vehicle never moves the first intersection earlier: whatever
`get_first_intersection_arc_length` finds for it, it finds no later for a shorter one. -/
theorem getFirstIntersectionArcLength_mono_vehicleLength {vehicleLength₁ vehicleLength₂ : ℚ}
    (hle : vehicleLength₁ ≤ vehicleLength₂) (laneletSequence : List Lanelet) (sStart sEnd : ℚ)
    {v : ℚ}
    (h : getFirstIntersectionArcLength B G SG S intersection laneletSequence sStart sEnd
      vehicleLength₂ = some v) :
    ∃ u, getFirstIntersectionArcLength B G SG S intersection laneletSequence sStart sEnd
      vehicleLength₁ = some u ∧ u ≤ v := by
  rw [getFirstIntersectionArcLength_eq_min?] at h ⊢
  have hv := mem_firstIntersectionCandidates_of_le B G SG S intersection hle laneletSequence sStart
    sEnd (List.min?_mem min_choice h)
  obtain ⟨u, hu⟩ := Option.isSome_iff_exists.mp (List.isSome_min?_of_mem hv)
  exact ⟨u, hu, (rat_min?_eq_some_iff.mp hu).2 v hv⟩

end Intersection

section Straight

/-! A straight lanelet along the x axis, one wide on each side, whose start edge meets the
centerline only at its end. -/

/-- The crop that keeps the whole line string. -/
def wholeLineOps : TrajectoryOps (List Point) where
  build := some
  crop trajectory _ _ := trajectory
  restore := id

def straightLanelet : Lanelet := ⟨[(0, 0), (1, 0)], [(0, 1), (1, 1)], [(0, -1), (1, -1)]⟩

/-- The line strings of a sequence: its lanelets' joined, at height `0`. -/
def joinedLineStrings : SequenceLineStrings2d where
  centerline2d seq := seq.flatMap fun l => l.centerline2d.map fun p => ⟨p.1, p.2, 0⟩
  leftBound2d seq := seq.flatMap fun l => l.leftBound2d.map fun p => ⟨p.1, p.2, 0⟩
  rightBound2d seq := seq.flatMap fun l => l.rightBound2d.map fun p => ⟨p.1, p.2, 0⟩

def crossingAtCenterlineEnd (_ lineString : LineString2d) : List BasicPoint2d :=
  if lineString = straightLanelet.centerline2d then [(1, 0)] else []

theorem cropLineString_wholeLineOps (lineString : List Point) (sStart sEnd : ℚ) :
    cropLineString wholeLineOps lineString sStart sEnd = lineString := by
  unfold cropLineString
  split_ifs <;> rfl

/-- Without bound arc lengths `get_arc_length_on_centerline` finds nothing. -/
theorem getArcLengthOnCenterline_none_none (G : LaneletGeometry) (laneletSequence : List Lanelet) :
    getArcLengthOnCenterline G laneletSequence none none = ⟨none, none⟩ := by
  cases laneletSequence <;> rfl

theorem getFirstIntersectionArcLength_straight :
    getFirstIntersectionArcLength wholeLineOps rectilinearGeometry rectSegmentGeometry
      joinedLineStrings crossingAtCenterlineEnd [straightLanelet] 0 0 1 = some 1 := by
  simp [getFirstIntersectionArcLength, cropLineString_wholeLineOps,
    getArcLengthOnCenterline_none_none, joinedLineStrings, toLineString2d, straightLanelet,
    getFirstSelfIntersectionArcLength, getStartEdgeIntersectionArcLength, crossingAtCenterlineEnd]
  norm_num [rectilinearGeometry, rectNearest, clampBetween, rectSegmentLength]

/-- For a vehicle no longer than the crossing's arc length, the crossing is found; a shorter
vehicle finds it too. -/
theorem getFirstIntersectionArcLength_mono_vehicleLength_on_straight :
    (0 : ℚ) ≤ 1 ∧ ∃ u, getFirstIntersectionArcLength wholeLineOps rectilinearGeometry
      rectSegmentGeometry joinedLineStrings crossingAtCenterlineEnd [straightLanelet] 0 0 0 =
        some u ∧ u ≤ 1 :=
  ⟨zero_le_one, getFirstIntersectionArcLength_mono_vehicleLength wholeLineOps rectilinearGeometry
    rectSegmentGeometry joinedLineStrings crossingAtCenterlineEnd zero_le_one [straightLanelet] 0 0
    getFirstIntersectionArcLength_straight⟩

end Straight

end AutowarePlanning.PathGenerator
