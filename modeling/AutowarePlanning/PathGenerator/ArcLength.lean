import Mathlib.Algebra.Order.Field.Rat
import Mathlib.Algebra.Order.BigOperators.Group.List
import Mathlib.Tactic.Linarith
import Mathlib.Tactic.Ring

/-!
# Arc lengths between the centerline and the bounds of a lanelet sequence

`get_arc_length_on_bounds` walks the sequence until the lanelet whose centerline holds the given
arc length, end included, and projects that centerline point onto both bounds.
`get_arc_length_on_centerline` walks it until the lanelet whose bound holds the given bound arc
length, end excluded, and projects back; a bound arc length no lanelet holds is returned as it is.

Both loops run the two sides in lockstep; each side's value is that of a loop over the side alone
(`arcLengthOnBoundsLoop_eq`, `arcLengthOnCenterlineLoop_eq`). Inside the sequence the round trip
gives back the centerline arc length when the projections of every lanelet are mutually inverse
(`getArcLengthOnCenterline_round_trip`). At the end of the sequence the forward projection lands on
the end of each bound, which the backward loop does not hold, and the round trip returns the bound
lengths (`getArcLengthOnCenterline_at_sequence_end`).
-/

namespace AutowarePlanning.PathGenerator

/-- `PathRange<T>`: one value for the left bound and one for the right. -/
structure PathRange (α : Type) where
  left : α
  right : α
  deriving DecidableEq, Repr

/-- `lanelet::BasicPoint2d`. -/
abbrev BasicPoint2d := ℚ × ℚ

/-- `lanelet::ConstLineString2d`, by its points. -/
abbrev LineString2d := List BasicPoint2d

/-- The three line strings of a lanelet the conversions read. -/
structure Lanelet where
  centerline2d : LineString2d
  leftBound2d : LineString2d
  rightBound2d : LineString2d
  deriving DecidableEq, Repr, Inhabited

/-- The `lanelet::geometry` functions the conversions call. -/
structure LaneletGeometry where
  length : LineString2d → ℚ
  interpolatedPointAtDistance : LineString2d → ℚ → BasicPoint2d
  /-- `toArcCoordinates(line_string, point).length`. -/
  toArcCoordinatesLength : LineString2d → BasicPoint2d → ℚ

variable (G : LaneletGeometry)

/-- `lanelet::utils::getLaneletLength2d`: the 2d length of the centerline. -/
def getLaneletLength2d (lanelet : Lanelet) : ℚ := G.length lanelet.centerline2d

/-- The arc length on `bound` of the centerline point at arc length `t`. -/
def centerlineToBound (lanelet : Lanelet) (bound : LineString2d) (t : ℚ) : ℚ :=
  G.toArcCoordinatesLength bound (G.interpolatedPointAtDistance lanelet.centerline2d t)

/-- The arc length on the centerline of the point of `bound` at arc length `u`. -/
def boundToCenterline (lanelet : Lanelet) (bound : LineString2d) (u : ℚ) : ℚ :=
  G.toArcCoordinatesLength lanelet.centerline2d (G.interpolatedPointAtDistance bound u)

section Bounds

variable (sCenterline : ℚ)

/-- The loop of `get_arc_length_on_bounds` from a lanelet on, with its three running sums. -/
def arcLengthOnBoundsLoop : List Lanelet → ℚ → ℚ → ℚ → PathRange ℚ
  | [], _, _, _ => ⟨sCenterline, sCenterline⟩
  | it :: rest, s, sLeft, sRight =>
    let centerlineLength := G.length it.centerline2d
    if s + centerlineLength < sCenterline then
      arcLengthOnBoundsLoop rest (s + centerlineLength) (sLeft + G.length it.leftBound2d)
        (sRight + G.length it.rightBound2d)
    else
      ⟨sLeft + centerlineToBound G it it.leftBound2d (sCenterline - s),
        sRight + centerlineToBound G it it.rightBound2d (sCenterline - s)⟩

/-- `get_arc_length_on_bounds`. -/
def getArcLengthOnBounds (laneletSequence : List Lanelet) : PathRange ℚ :=
  if sCenterline < 0 then ⟨0, 0⟩ else arcLengthOnBoundsLoop G sCenterline laneletSequence 0 0 0

/-- One side of `arcLengthOnBoundsLoop`. -/
def boundsSideLoop (bound : Lanelet → LineString2d) : List Lanelet → ℚ → ℚ → ℚ
  | [], _, _ => sCenterline
  | it :: rest, s, sSide =>
    if s + G.length it.centerline2d < sCenterline then
      boundsSideLoop bound rest (s + G.length it.centerline2d) (sSide + G.length (bound it))
    else sSide + centerlineToBound G it (bound it) (sCenterline - s)

theorem arcLengthOnBoundsLoop_eq (laneletSequence : List Lanelet) (s sLeft sRight : ℚ) :
    arcLengthOnBoundsLoop G sCenterline laneletSequence s sLeft sRight =
      ⟨boundsSideLoop G sCenterline Lanelet.leftBound2d laneletSequence s sLeft,
        boundsSideLoop G sCenterline Lanelet.rightBound2d laneletSequence s sRight⟩ := by
  induction laneletSequence generalizing s sLeft sRight with
  | nil => rfl
  | cons it rest ih =>
    simp only [arcLengthOnBoundsLoop, boundsSideLoop]
    split_ifs
    · exact ih _ _ _
    · rfl

end Bounds

section Centerline

/-- One side of the loop body of `get_arc_length_on_centerline`. The side is still open
(`!is_done`) when its bound arc length is given and nothing is found yet; it is found on the
lanelet whose bound, end excluded, holds the bound arc length. -/
def centerlineSideStep (it : Lanelet) (bound : LineString2d) (sBound : Option ℚ) (s sSide : ℚ)
    (sSideCenterline : Option ℚ) : Option ℚ :=
  match sBound, sSideCenterline with
  | some b, none =>
    if sSide + G.length bound > b then some (s + boundToCenterline G it bound (b - sSide)) else none
  | _, found => found

/-- `is_left_done`, `is_right_done`. -/
def isSideDone (sBound sSideCenterline : Option ℚ) : Bool := sBound.isNone || sSideCenterline.isSome

/-- The loop of `get_arc_length_on_centerline` from a lanelet on, with its three running sums and
the values found so far. -/
def arcLengthOnCenterlineLoop (sLeftBound sRightBound : Option ℚ) :
    List Lanelet → ℚ → ℚ → ℚ → PathRange (Option ℚ) → PathRange (Option ℚ)
  | [], _, _, _, found => found
  | it :: rest, s, sLeft, sRight, found =>
    if isSideDone sLeftBound found.left && isSideDone sRightBound found.right then found
    else
      arcLengthOnCenterlineLoop sLeftBound sRightBound rest (s + getLaneletLength2d G it)
        (sLeft + G.length it.leftBound2d) (sRight + G.length it.rightBound2d)
        ⟨centerlineSideStep G it it.leftBound2d sLeftBound s sLeft found.left,
          centerlineSideStep G it it.rightBound2d sRightBound s sRight found.right⟩

/-- A negative input bound arc length is found at `0` before the loop. -/
def initialSideCenterline (sBound : Option ℚ) : Option ℚ :=
  match sBound with
  | some b => if b < 0 then some 0 else none
  | none => none

/-- `get_arc_length_on_centerline`: a side found nowhere keeps its bound arc length. -/
def getArcLengthOnCenterline (laneletSequence : List Lanelet) (sLeftBound sRightBound : Option ℚ) :
    PathRange (Option ℚ) :=
  let found := arcLengthOnCenterlineLoop G sLeftBound sRightBound laneletSequence 0 0 0
    ⟨initialSideCenterline sLeftBound, initialSideCenterline sRightBound⟩
  ⟨found.left.or sLeftBound, found.right.or sRightBound⟩

/-- One side of `arcLengthOnCenterlineLoop`, run to the end of the sequence. -/
def centerlineSideLoop (bound : Lanelet → LineString2d) (sBound : Option ℚ) :
    List Lanelet → ℚ → ℚ → Option ℚ → Option ℚ
  | [], _, _, found => found
  | it :: rest, s, sSide, found =>
    centerlineSideLoop bound sBound rest (s + G.length it.centerline2d) (sSide + G.length (bound it))
      (centerlineSideStep G it (bound it) sBound s sSide found)

@[simp]
theorem centerlineSideStep_of_done (it : Lanelet) (bound : LineString2d) {sBound found : Option ℚ}
    (h : isSideDone sBound found = true) (s sSide : ℚ) :
    centerlineSideStep G it bound sBound s sSide found = found := by
  rcases sBound with _ | b <;> rcases found with _ | x <;> simp_all [isSideDone, centerlineSideStep]

theorem centerlineSideLoop_of_done (bound : Lanelet → LineString2d) {sBound found : Option ℚ}
    (h : isSideDone sBound found = true) (laneletSequence : List Lanelet) (s sSide : ℚ) :
    centerlineSideLoop G bound sBound laneletSequence s sSide found = found := by
  induction laneletSequence generalizing s sSide with
  | nil => rfl
  | cons it rest ih => simp only [centerlineSideLoop, centerlineSideStep_of_done G it _ h, ih]

/-- Once a side is done the other side runs alone, so the lockstep loop is the two side loops. -/
theorem arcLengthOnCenterlineLoop_eq (sLeftBound sRightBound : Option ℚ)
    (laneletSequence : List Lanelet) (s sLeft sRight : ℚ) (found : PathRange (Option ℚ)) :
    arcLengthOnCenterlineLoop G sLeftBound sRightBound laneletSequence s sLeft sRight found =
      ⟨centerlineSideLoop G Lanelet.leftBound2d sLeftBound laneletSequence s sLeft found.left,
        centerlineSideLoop G Lanelet.rightBound2d sRightBound laneletSequence s sRight found.right⟩ := by
  induction laneletSequence generalizing s sLeft sRight found with
  | nil => rfl
  | cons it rest ih =>
    simp only [arcLengthOnCenterlineLoop, Bool.and_eq_true]
    split_ifs with h
    · rw [centerlineSideLoop_of_done G _ h.1, centerlineSideLoop_of_done G _ h.2]
    · exact ih _ _ _ _

end Centerline

section Sides

variable (bound : Lanelet → LineString2d)

/-- The summed length of one line string of every lanelet of a sequence. -/
def sequenceLength (line : Lanelet → LineString2d) (laneletSequence : List Lanelet) : ℚ :=
  (laneletSequence.map fun it => G.length (line it)).sum

@[simp]
theorem sequenceLength_nil (line : Lanelet → LineString2d) : sequenceLength G line [] = 0 := rfl

@[simp]
theorem sequenceLength_cons (line : Lanelet → LineString2d) (it : Lanelet) (rest : List Lanelet) :
    sequenceLength G line (it :: rest) = G.length (line it) + sequenceLength G line rest := rfl

theorem sequenceLength_nonneg (line : Lanelet → LineString2d) {laneletSequence : List Lanelet}
    (h : ∀ it ∈ laneletSequence, 0 ≤ G.length (line it)) : 0 ≤ sequenceLength G line laneletSequence :=
  List.sum_nonneg fun _ hx => by
    obtain ⟨it, hit, rfl⟩ := List.mem_map.mp hx
    exact h it hit

/-- What the round trip asks of the projections between a lanelet's centerline and one of its
bounds: both are long, the projections start at the start and end at the end, and the way back
undoes the way out. -/
structure ProjectionsInverse (it : Lanelet) : Prop where
  centerline_pos : 0 < G.length it.centerline2d
  bound_pos : 0 < G.length (bound it)
  start : centerlineToBound G it (bound it) 0 = 0
  finish : centerlineToBound G it (bound it) (G.length it.centerline2d) = G.length (bound it)
  inverse : ∀ t, 0 ≤ t → t ≤ G.length it.centerline2d →
    boundToCenterline G it (bound it) (centerlineToBound G it (bound it) t) = t

/-- `toArcCoordinates` lands on the bound: a centerline point projects between the bound's ends. -/
def ProjectsOntoBound (it : Lanelet) : Prop :=
  ∀ t, 0 ≤ t → t ≤ G.length it.centerline2d →
    0 ≤ centerlineToBound G it (bound it) t ∧ centerlineToBound G it (bound it) t ≤ G.length (bound it)

/-- Only the end of the centerline projects onto the end of the bound. -/
theorem ProjectionsInverse.lt_of_lt {it : Lanelet} (h : ProjectionsInverse G bound it)
    (hon : ProjectsOntoBound G bound it) {t : ℚ} (ht : 0 ≤ t) (htc : t < G.length it.centerline2d) :
    centerlineToBound G it (bound it) t < G.length (bound it) := by
  refine lt_of_le_of_ne (hon t ht htc.le).2 fun heq => htc.ne ?_
  rw [← h.inverse t ht htc.le, heq, ← h.finish, h.inverse _ h.centerline_pos.le le_rfl]

theorem boundsSideLoop_of_le {sCenterline s : ℚ} {it : Lanelet}
    (h : ¬s + G.length it.centerline2d < sCenterline) (rest : List Lanelet) (sSide : ℚ) :
    boundsSideLoop G sCenterline bound (it :: rest) s sSide =
      sSide + centerlineToBound G it (bound it) (sCenterline - s) := by
  simp only [boundsSideLoop, if_neg h]

theorem boundsSideLoop_of_lt {sCenterline s : ℚ} {it : Lanelet}
    (h : s + G.length it.centerline2d < sCenterline) (rest : List Lanelet) (sSide : ℚ) :
    boundsSideLoop G sCenterline bound (it :: rest) s sSide =
      boundsSideLoop G sCenterline bound rest (s + G.length it.centerline2d) (sSide + G.length (bound it)) := by
  simp only [boundsSideLoop, if_pos h]

theorem centerlineSideLoop_cons_skip {b s sSide : ℚ} {it : Lanelet}
    (h : sSide + G.length (bound it) ≤ b) (rest : List Lanelet) :
    centerlineSideLoop G bound (some b) (it :: rest) s sSide none =
      centerlineSideLoop G bound (some b) rest (s + G.length it.centerline2d)
        (sSide + G.length (bound it)) none := by
  simp only [centerlineSideLoop, centerlineSideStep, gt_iff_lt, if_neg (not_lt.mpr h)]

theorem centerlineSideLoop_cons_found {b s sSide : ℚ} {it : Lanelet}
    (h : b < sSide + G.length (bound it)) (rest : List Lanelet) :
    centerlineSideLoop G bound (some b) (it :: rest) s sSide none =
      some (s + boundToCenterline G it (bound it) (b - sSide)) := by
  simp only [centerlineSideLoop, centerlineSideStep, gt_iff_lt, if_pos h]
  exact centerlineSideLoop_of_done G bound (by simp [isSideDone]) _ _ _

/-- A bound arc length past every lanelet's bound is found nowhere. -/
theorem centerlineSideLoop_of_ge {laneletSequence : List Lanelet}
    (hl : ∀ it ∈ laneletSequence, 0 ≤ G.length (bound it)) {b s sSide : ℚ}
    (h : sSide + sequenceLength G bound laneletSequence ≤ b) :
    centerlineSideLoop G bound (some b) laneletSequence s sSide none = none := by
  induction laneletSequence generalizing s sSide with
  | nil => rfl
  | cons it rest ih =>
    simp only [List.mem_cons, forall_eq_or_imp] at hl
    rw [sequenceLength_cons] at h
    have hrest := sequenceLength_nonneg G bound hl.2
    rw [centerlineSideLoop_cons_skip G bound (by linarith)]
    exact ih hl.2 (by linarith)

/-- The forward loop finds a point inside the sequence on or after its own start. -/
theorem le_boundsSideLoop {laneletSequence : List Lanelet}
    (hl : ∀ it ∈ laneletSequence, 0 ≤ G.length (bound it))
    (hon : ∀ it ∈ laneletSequence, ProjectsOntoBound G bound it) {sCenterline s : ℚ}
    (hs : s ≤ sCenterline) (hlt : sCenterline < s + sequenceLength G Lanelet.centerline2d laneletSequence)
    (sSide : ℚ) : sSide ≤ boundsSideLoop G sCenterline bound laneletSequence s sSide := by
  induction laneletSequence generalizing s sSide with
  | nil => simp only [sequenceLength_nil, add_zero] at hlt; linarith
  | cons it rest ih =>
    simp only [List.mem_cons, forall_eq_or_imp] at hl hon
    rw [sequenceLength_cons] at hlt
    by_cases hA : s + G.length it.centerline2d < sCenterline
    · rw [boundsSideLoop_of_lt G bound hA]
      have := ih hl.2 hon.2 hA.le (by linarith) (sSide + G.length (bound it))
      linarith [hl.1]
    · rw [boundsSideLoop_of_le G bound hA]
      linarith [(hon.1 (sCenterline - s) (by linarith) (by linarith)).1]

/-- On a lanelet that follows its predecessor's end, the forward loop starts at the bound's start. -/
theorem boundsSideLoop_at_start {it : Lanelet} (h : ProjectionsInverse G bound it) (rest : List Lanelet)
    (s sSide : ℚ) : boundsSideLoop G s bound (it :: rest) s sSide = sSide := by
  rw [boundsSideLoop_of_le G bound (by linarith [h.centerline_pos]), sub_self, h.start, add_zero]

/-- One side of the round trip: a centerline arc length inside the sequence, end excluded,
projected onto the bound and back, is itself. -/
theorem centerlineSideLoop_round_trip {laneletSequence : List Lanelet}
    (hinv : ∀ it ∈ laneletSequence, ProjectionsInverse G bound it)
    (hon : ∀ it ∈ laneletSequence, ProjectsOntoBound G bound it) {sCenterline s : ℚ}
    (hs : s ≤ sCenterline) (hlt : sCenterline < s + sequenceLength G Lanelet.centerline2d laneletSequence)
    (sSide : ℚ) :
    centerlineSideLoop G bound (some (boundsSideLoop G sCenterline bound laneletSequence s sSide))
      laneletSequence s sSide none = some sCenterline := by
  induction laneletSequence generalizing s sSide with
  | nil => simp only [sequenceLength_nil, add_zero] at hlt; linarith
  | cons it rest ih =>
    simp only [List.mem_cons, forall_eq_or_imp] at hinv hon
    have hl : ∀ it ∈ rest, 0 ≤ G.length (bound it) := fun it hit => (hinv.2 it hit).bound_pos.le
    rw [sequenceLength_cons] at hlt
    by_cases hA : s + G.length it.centerline2d < sCenterline
    · -- a later lanelet holds the point
      have hb := le_boundsSideLoop G bound hl hon.2 hA.le (by linarith) (sSide + G.length (bound it))
      rw [boundsSideLoop_of_lt G bound hA, centerlineSideLoop_cons_skip G bound hb]
      exact ih hinv.2 hon.2 hA.le (by linarith) _
    rcases (not_lt.mp hA).lt_or_eq with hB | hB
    · -- this lanelet holds the point, short of its end
      have hf := hinv.1.lt_of_lt G bound hon.1 (sub_nonneg.mpr hs) (by linarith)
      rw [boundsSideLoop_of_le G bound hA, centerlineSideLoop_cons_found G bound (by linarith),
        add_sub_cancel_left, hinv.1.inverse _ (sub_nonneg.mpr hs) (by linarith), add_sub_cancel]
    · -- the point is this lanelet's end, which the next lanelet's start holds
      obtain ⟨it', rest', rfl⟩ := List.exists_cons_of_ne_nil fun hnil : rest = [] => by
        simp only [hnil, sequenceLength_nil, add_zero] at hlt
        linarith
      subst hB
      have hstart := boundsSideLoop_at_start G bound (hinv.2 it' (List.mem_cons_self _ _)) rest'
        (s + G.length it.centerline2d) (sSide + G.length (bound it))
      rw [boundsSideLoop_of_le G bound hA, add_sub_cancel_left, hinv.1.finish, ← hstart,
        centerlineSideLoop_cons_skip G bound hstart.ge]
      exact ih hinv.2 hon.2 le_rfl (by linarith) _

/-- At the end of the sequence the forward loop lands on the end of the last lanelet's bound. -/
theorem boundsSideLoop_at_end {laneletSequence : List Lanelet} (hne : laneletSequence ≠ [])
    (hpos : ∀ it ∈ laneletSequence, 0 < G.length it.centerline2d)
    (hfinish : ∀ it ∈ laneletSequence,
      centerlineToBound G it (bound it) (G.length it.centerline2d) = G.length (bound it))
    {sCenterline s : ℚ} (hs : sCenterline = s + sequenceLength G Lanelet.centerline2d laneletSequence)
    (sSide : ℚ) :
    boundsSideLoop G sCenterline bound laneletSequence s sSide =
      sSide + sequenceLength G bound laneletSequence := by
  induction laneletSequence generalizing s sSide with
  | nil => exact absurd rfl hne
  | cons it rest ih =>
    simp only [List.mem_cons, forall_eq_or_imp] at hpos hfinish
    rw [sequenceLength_cons] at hs ⊢
    rcases rest with _ | ⟨it', rest'⟩
    · rw [boundsSideLoop_of_le G bound (by simp [hs]), hs]
      simp [hfinish.1]
    · have hrest : 0 < sequenceLength G Lanelet.centerline2d (it' :: rest') := by
        have := sequenceLength_nonneg G Lanelet.centerline2d fun x hx =>
          (hpos.2 x (List.mem_cons_of_mem _ hx)).le
        rw [sequenceLength_cons]
        linarith [hpos.2 it' (List.mem_cons_self _ _)]
      rw [boundsSideLoop_of_lt G bound (by linarith), ih (List.cons_ne_nil _ _) hpos.2 hfinish.2 (by linarith), add_assoc]

end Sides

section Sequence

variable {laneletSequence : List Lanelet}

theorem getArcLengthOnBounds_of_nonneg {sCenterline : ℚ} (hs : 0 ≤ sCenterline) :
    getArcLengthOnBounds G sCenterline laneletSequence =
      ⟨boundsSideLoop G sCenterline Lanelet.leftBound2d laneletSequence 0 0,
        boundsSideLoop G sCenterline Lanelet.rightBound2d laneletSequence 0 0⟩ := by
  rw [getArcLengthOnBounds, if_neg (not_lt.mpr hs), arcLengthOnBoundsLoop_eq]

theorem getArcLengthOnCenterline_of_nonneg {sLeftBound sRightBound : ℚ} (hl : 0 ≤ sLeftBound)
    (hr : 0 ≤ sRightBound) :
    getArcLengthOnCenterline G laneletSequence (some sLeftBound) (some sRightBound) =
      ⟨(centerlineSideLoop G Lanelet.leftBound2d (some sLeftBound) laneletSequence 0 0 none).or
          (some sLeftBound),
        (centerlineSideLoop G Lanelet.rightBound2d (some sRightBound) laneletSequence 0 0 none).or
          (some sRightBound)⟩ := by
  simp only [getArcLengthOnCenterline, arcLengthOnCenterlineLoop_eq, initialSideCenterline,
    if_neg (not_lt.mpr hl), if_neg (not_lt.mpr hr)]

/-- The round trip through the bounds gives back every centerline arc length from the start of
the sequence up to, not including, its end, when every lanelet's projections are mutually inverse
on both sides and land on the bounds. -/
theorem getArcLengthOnCenterline_round_trip
    (hleft : ∀ it ∈ laneletSequence,
      ProjectionsInverse G Lanelet.leftBound2d it ∧ ProjectsOntoBound G Lanelet.leftBound2d it)
    (hright : ∀ it ∈ laneletSequence,
      ProjectionsInverse G Lanelet.rightBound2d it ∧ ProjectsOntoBound G Lanelet.rightBound2d it)
    {sCenterline : ℚ} (hs : 0 ≤ sCenterline)
    (hlt : sCenterline < sequenceLength G Lanelet.centerline2d laneletSequence) :
    getArcLengthOnCenterline G laneletSequence (some (getArcLengthOnBounds G sCenterline laneletSequence).left)
        (some (getArcLengthOnBounds G sCenterline laneletSequence).right) =
      ⟨some sCenterline, some sCenterline⟩ := by
  have hlt' : sCenterline < 0 + sequenceLength G Lanelet.centerline2d laneletSequence := by
    rwa [zero_add]
  have side := fun (bound : Lanelet → LineString2d)
      (h : ∀ it ∈ laneletSequence, ProjectionsInverse G bound it ∧ ProjectsOntoBound G bound it) =>
    And.intro (le_boundsSideLoop G bound (fun it hit => (h it hit).1.bound_pos.le)
      (fun it hit => (h it hit).2) hs hlt' 0)
      (centerlineSideLoop_round_trip G bound (fun it hit => (h it hit).1) (fun it hit => (h it hit).2)
        hs hlt' 0)
  obtain ⟨hl₀, hl⟩ := side _ hleft
  obtain ⟨hr₀, hr⟩ := side _ hright
  rw [getArcLengthOnBounds_of_nonneg G hs, getArcLengthOnCenterline_of_nonneg G hl₀ hr₀, hl, hr]
  rfl

/-- At the end of the sequence the round trip returns the summed lengths of the bounds. -/
theorem getArcLengthOnCenterline_at_sequence_end (hne : laneletSequence ≠ [])
    (hpos : ∀ it ∈ laneletSequence, 0 < G.length it.centerline2d)
    (hbounds : ∀ it ∈ laneletSequence, 0 ≤ G.length it.leftBound2d ∧ 0 ≤ G.length it.rightBound2d)
    (hfinish : ∀ it ∈ laneletSequence,
      centerlineToBound G it it.leftBound2d (G.length it.centerline2d) = G.length it.leftBound2d ∧
        centerlineToBound G it it.rightBound2d (G.length it.centerline2d) = G.length it.rightBound2d) :
    let sEnd := sequenceLength G Lanelet.centerline2d laneletSequence
    getArcLengthOnCenterline G laneletSequence (some (getArcLengthOnBounds G sEnd laneletSequence).left)
        (some (getArcLengthOnBounds G sEnd laneletSequence).right) =
      ⟨some (sequenceLength G Lanelet.leftBound2d laneletSequence),
        some (sequenceLength G Lanelet.rightBound2d laneletSequence)⟩ := by
  intro sEnd
  have hend : sEnd = 0 + sequenceLength G Lanelet.centerline2d laneletSequence := (zero_add _).symm
  have side := fun (bound : Lanelet → LineString2d) (hb : ∀ it ∈ laneletSequence, 0 ≤ G.length (bound it))
      (hf : ∀ it ∈ laneletSequence,
        centerlineToBound G it (bound it) (G.length it.centerline2d) = G.length (bound it)) =>
    (boundsSideLoop_at_end G bound hne hpos hf hend 0).trans (zero_add _)
  have hl := side _ (fun it hit => (hbounds it hit).1) fun it hit => (hfinish it hit).1
  have hr := side _ (fun it hit => (hbounds it hit).2) fun it hit => (hfinish it hit).2
  have hl₀ := sequenceLength_nonneg G _ fun it hit => (hbounds it hit).1
  have hr₀ := sequenceLength_nonneg G _ fun it hit => (hbounds it hit).2
  rw [getArcLengthOnBounds_of_nonneg G (sequenceLength_nonneg G _ fun it hit => (hpos it hit).le)]
  simp only [hl, hr, getArcLengthOnCenterline_of_nonneg G hl₀ hr₀,
    centerlineSideLoop_of_ge G _ (fun it hit => (hbounds it hit).1) (le_of_eq (zero_add _)),
    centerlineSideLoop_of_ge G _ (fun it hit => (hbounds it hit).2) (le_of_eq (zero_add _))]
  rfl

end Sequence

section Rectilinear

/-! `lanelet::geometry` on rectilinear line strings, whose segments are parallel to an axis: there
a segment's length is `|Δx| + |Δy|`, the foot of a point on a segment clamps its coordinates, and
all of it is exact in `ℚ`. -/

def rectSegmentLength (p q : BasicPoint2d) : ℚ := |q.1 - p.1| + |q.2 - p.2|

def rectLength : LineString2d → ℚ
  | p :: q :: rest => rectSegmentLength p q + rectLength (q :: rest)
  | _ => 0

/-- The point at a distance from the start, for distances from `0` on; past the end, the end. -/
def rectInterpolatedPointAtDistance : LineString2d → ℚ → BasicPoint2d
  | [], _ => (0, 0)
  | [p], _ => p
  | p :: q :: rest, d =>
    let l := rectSegmentLength p q
    if d ≤ l then (p.1 + d / l * (q.1 - p.1), p.2 + d / l * (q.2 - p.2))
    else rectInterpolatedPointAtDistance (q :: rest) (d - l)

def clampBetween (a b x : ℚ) : ℚ := max (min a b) (min (max a b) x)

/-! Between its ends a coordinate clamps to itself, and past one end to that end, in whichever
order the ends come. -/

theorem clampBetween_of_le_of_le {a b x : ℚ} (hax : a ≤ x) (hxb : x ≤ b) :
    clampBetween a b x = x := by
  unfold clampBetween
  rw [min_eq_left (hax.trans hxb), max_eq_right (hax.trans hxb), min_eq_right hxb, max_eq_right hax]

theorem clampBetween_of_ge_of_ge {a b x : ℚ} (hbx : b ≤ x) (hxa : x ≤ a) :
    clampBetween a b x = x := by
  unfold clampBetween
  rw [min_eq_right (hbx.trans hxa), max_eq_left (hbx.trans hxa), min_eq_right hxa, max_eq_right hbx]

theorem clampBetween_eq_right {a b x : ℚ} (hab : a ≤ b) (hbx : b ≤ x) :
    clampBetween a b x = b := by
  unfold clampBetween
  rw [min_eq_left hab, max_eq_right hab, min_eq_left hbx, max_eq_right hab]

theorem clampBetween_eq_left {a b x : ℚ} (hba : b ≤ a) (hax : a ≤ x) :
    clampBetween a b x = a := by
  unfold clampBetween
  rw [min_eq_right hba, max_eq_left hba, min_eq_left hax, max_eq_right hba]

theorem clampBetween_self (a x : ℚ) : clampBetween a a x = a := by
  unfold clampBetween
  rw [min_self, max_self]
  exact max_eq_left (min_le_left a x)

/-- The squared distance to the nearest segment and the arc length of the foot on it; of equally
near segments the first. -/
def rectNearest : LineString2d → ℚ → BasicPoint2d → Option (ℚ × ℚ)
  | p :: q :: rest, offset, x =>
    let foot := (clampBetween p.1 q.1 x.1, clampBetween p.2 q.2 x.2)
    let here := ((x.1 - foot.1) ^ 2 + (x.2 - foot.2) ^ 2, offset + rectSegmentLength p foot)
    match rectNearest (q :: rest) (offset + rectSegmentLength p q) x with
    | some best => if best.1 < here.1 then some best else some here
    | none => some here
  | _, _, _ => none

def rectilinearGeometry : LaneletGeometry where
  length := rectLength
  interpolatedPointAtDistance := rectInterpolatedPointAtDistance
  toArcCoordinatesLength ls x := ((rectNearest ls 0 x).map Prod.snd).getD 0

/-- A lanelet turning right through a quarter: its left bound runs outside, `1/2` off the
centerline, and its right bound is the centerline itself. -/
def rightTurnLanelet : Lanelet where
  centerline2d := [(0, 0), (1, 0), (1, -1)]
  leftBound2d := [(0, 1 / 2), (3 / 2, 1 / 2), (3 / 2, -1)]
  rightBound2d := [(0, 0), (1, 0), (1, -1)]

end Rectilinear

section RightTurn

/-! The projections of `rightTurnLanelet` in closed form. Its left bound skips the corner: the
centerline up to the corner projects onto the first leg at the same arc length, and past it onto
the second leg one further. Its right bound is the centerline, projected onto itself. -/

variable {t : ℚ}

theorem rightTurn_centerline_point_of_le (h1 : t ≤ 1) :
    rectilinearGeometry.interpolatedPointAtDistance rightTurnLanelet.centerline2d t = (t, 0) := by
  norm_num [rectilinearGeometry, rightTurnLanelet, rectInterpolatedPointAtDistance, rectSegmentLength,
    abs_of_pos, h1]

theorem rightTurn_centerline_point_of_gt (h1 : 1 < t) (h2 : t ≤ 2) :
    rectilinearGeometry.interpolatedPointAtDistance rightTurnLanelet.centerline2d t = (1, 1 - t) := by
  norm_num [rectilinearGeometry, rightTurnLanelet, rectInterpolatedPointAtDistance, rectSegmentLength,
    abs_of_pos, not_le.mpr h1, h2]

theorem rightTurn_left_point_of_le (h1 : t ≤ 3 / 2) :
    rectilinearGeometry.interpolatedPointAtDistance rightTurnLanelet.leftBound2d t = (t, 1 / 2) := by
  norm_num [rectilinearGeometry, rightTurnLanelet, rectInterpolatedPointAtDistance, rectSegmentLength,
    abs_of_pos, h1]

theorem rightTurn_left_point_of_gt (h1 : 3 / 2 < t) (h2 : t ≤ 3) :
    rectilinearGeometry.interpolatedPointAtDistance rightTurnLanelet.leftBound2d t = (3 / 2, 2 - t) := by
  norm_num [rectilinearGeometry, rightTurnLanelet, rectInterpolatedPointAtDistance, rectSegmentLength,
    abs_of_pos, not_le.mpr h1, h2]
  ring

theorem rightTurn_arc_left_of_le (h0 : 0 ≤ t) (h1 : t ≤ 1) :
    rectilinearGeometry.toArcCoordinatesLength rightTurnLanelet.leftBound2d (t, 0) = t := by
  have hfar : (t - t) ^ 2 + (0 - 1 / 2) ^ 2 ≤ (t - 3 / 2) ^ 2 + (0 - 0) ^ 2 := by
    rw [← sub_nonneg, show (t - 3 / 2) ^ 2 + (0 - 0) ^ 2 - ((t - t) ^ 2 + (0 - 1 / 2) ^ 2) =
      (1 - t) * (2 - t) by ring]
    exact mul_nonneg (sub_nonneg.mpr h1) (by linarith only [h1])
  simp only [rectilinearGeometry, rightTurnLanelet, rectNearest, rectSegmentLength, clampBetween_self,
    clampBetween_of_le_of_le h0 (h1.trans (by norm_num : (1 : ℚ) ≤ 3 / 2)),
    clampBetween_of_ge_of_ge (by norm_num : (-1 : ℚ) ≤ 0) (by norm_num : (0 : ℚ) ≤ 1 / 2)]
  rw [if_neg (not_lt.mpr hfar)]
  simp only [Option.map_some', Option.getD_some, sub_zero, sub_self, abs_zero, add_zero, zero_add,
    abs_of_nonneg h0]

theorem rightTurn_arc_left_of_gt (h1 : 1 < t) (h2 : t ≤ 2) :
    rectilinearGeometry.toArcCoordinatesLength rightTurnLanelet.leftBound2d (1, 1 - t) = t + 1 := by
  have hnear : (1 - 3 / 2) ^ 2 + (1 - t - (1 - t)) ^ 2 < (1 - 1) ^ 2 + (1 - t - 1 / 2) ^ 2 := by
    rw [← sub_pos, show (1 - 1) ^ 2 + (1 - t - 1 / 2) ^ 2 - ((1 - 3 / 2) ^ 2 + (1 - t - (1 - t)) ^ 2) =
      (t - 1) * t by ring]
    exact mul_pos (sub_pos.mpr h1) (by linarith only [h1])
  simp only [rectilinearGeometry, rightTurnLanelet, rectNearest, rectSegmentLength, clampBetween_self,
    clampBetween_of_le_of_le (by norm_num : (0 : ℚ) ≤ 1) (by norm_num : (1 : ℚ) ≤ 3 / 2),
    clampBetween_of_ge_of_ge (by linarith only [h2] : (-1 : ℚ) ≤ 1 - t) (by linarith only [h1] : 1 - t ≤ 1 / 2)]
  rw [if_pos hnear]
  simp only [Option.map_some', Option.getD_some, sub_self, abs_zero, add_zero, sub_zero,
    abs_of_pos (by norm_num : (0 : ℚ) < 3 / 2), abs_of_neg (by linarith only [h1] : 1 - t - 1 / 2 < 0)]
  ring

theorem rightTurn_arc_centerline_of_le (h0 : 0 ≤ t) (h1 : t ≤ 1) {y : ℚ} (hy : 0 ≤ y) :
    rectilinearGeometry.toArcCoordinatesLength rightTurnLanelet.centerline2d (t, y) = t := by
  have hfar : (t - t) ^ 2 + (y - 0) ^ 2 ≤ (t - 1) ^ 2 + (y - 0) ^ 2 := by
    rw [sub_self, zero_pow two_ne_zero]
    exact add_le_add_right (sq_nonneg _) _
  simp only [rectilinearGeometry, rightTurnLanelet, rectNearest, rectSegmentLength, clampBetween_self,
    clampBetween_of_le_of_le h0 h1, clampBetween_eq_left (by norm_num : (-1 : ℚ) ≤ 0) hy]
  rw [if_neg (not_lt.mpr hfar)]
  simp only [Option.map_some', Option.getD_some, sub_zero, abs_zero, add_zero, zero_add,
    abs_of_nonneg h0]

theorem rightTurn_arc_centerline_of_gt (h1 : 1 < t) (h2 : t ≤ 2) {x : ℚ} (hx : 1 ≤ x) :
    rectilinearGeometry.toArcCoordinatesLength rightTurnLanelet.centerline2d (x, 1 - t) = t := by
  have hnear : (x - 1) ^ 2 + (1 - t - (1 - t)) ^ 2 < (x - 1) ^ 2 + (1 - t - 0) ^ 2 := by
    rw [sub_self, sub_zero, add_lt_add_iff_left, zero_pow two_ne_zero]
    exact sq_pos_of_neg (by linarith only [h1])
  simp only [rectilinearGeometry, rightTurnLanelet, rectNearest, rectSegmentLength, clampBetween_self,
    clampBetween_of_ge_of_ge (by linarith only [h2] : (-1 : ℚ) ≤ 1 - t) (by linarith only [h1] : 1 - t ≤ 0),
    clampBetween_eq_right (by norm_num : (0 : ℚ) ≤ 1) hx]
  rw [if_pos hnear]
  simp only [Option.map_some', Option.getD_some, sub_self, abs_zero, add_zero, sub_zero,
    abs_of_neg (by linarith only [h1] : 1 - t < 0), abs_of_pos (zero_lt_one : (0 : ℚ) < 1)]
  ring

theorem rightTurn_left_projection (h0 : 0 ≤ t) (h2 : t ≤ 2) :
    centerlineToBound rectilinearGeometry rightTurnLanelet rightTurnLanelet.leftBound2d t =
      if t ≤ 1 then t else t + 1 := by
  unfold centerlineToBound
  split_ifs with h1
  · rw [rightTurn_centerline_point_of_le h1, rightTurn_arc_left_of_le h0 h1]
  · rw [rightTurn_centerline_point_of_gt (not_le.mp h1) h2,
      rightTurn_arc_left_of_gt (not_le.mp h1) h2]

/-- The right bound is the centerline: both projections are the identity. -/
theorem rightTurn_right_projection (h0 : 0 ≤ t) (h2 : t ≤ 2) :
    rectilinearGeometry.toArcCoordinatesLength rightTurnLanelet.centerline2d
      (rectilinearGeometry.interpolatedPointAtDistance rightTurnLanelet.centerline2d t) = t := by
  rcases le_or_lt t 1 with h1 | h1
  · rw [rightTurn_centerline_point_of_le h1, rightTurn_arc_centerline_of_le h0 h1 le_rfl]
  · rw [rightTurn_centerline_point_of_gt h1 h2, rightTurn_arc_centerline_of_gt h1 h2 le_rfl]

theorem rightTurn_centerline_length :
    rectilinearGeometry.length rightTurnLanelet.centerline2d = 2 := by
  norm_num [rectilinearGeometry, rightTurnLanelet, rectLength, rectSegmentLength, abs_of_pos]

theorem rightTurn_left_length : rectilinearGeometry.length rightTurnLanelet.leftBound2d = 3 := by
  norm_num [rectilinearGeometry, rightTurnLanelet, rectLength, rectSegmentLength, abs_of_pos]

theorem projectionsInverse_rightTurn_left :
    ProjectionsInverse rectilinearGeometry Lanelet.leftBound2d rightTurnLanelet where
  centerline_pos := by rw [rightTurn_centerline_length]; norm_num
  bound_pos := by rw [rightTurn_left_length]; norm_num
  start := by rw [rightTurn_left_projection le_rfl (by norm_num), if_pos (by norm_num)]
  finish := by
    rw [rightTurn_centerline_length, rightTurn_left_length, rightTurn_left_projection (by norm_num) le_rfl,
      if_neg (by norm_num)]
    norm_num
  inverse t h0 h2 := by
    rw [rightTurn_centerline_length] at h2
    rw [rightTurn_left_projection h0 h2]
    unfold boundToCenterline
    split_ifs with h1
    · rw [rightTurn_left_point_of_le (by linarith), rightTurn_arc_centerline_of_le h0 h1 (by norm_num)]
    · rw [rightTurn_left_point_of_gt (by linarith) (by linarith), show 2 - (t + 1) = 1 - t by ring,
        rightTurn_arc_centerline_of_gt (not_le.mp h1) h2 (by norm_num)]

theorem projectionsInverse_rightTurn_right :
    ProjectionsInverse rectilinearGeometry Lanelet.rightBound2d rightTurnLanelet where
  centerline_pos := by rw [rightTurn_centerline_length]; norm_num
  bound_pos := by show 0 < rectilinearGeometry.length rightTurnLanelet.centerline2d
                  rw [rightTurn_centerline_length]; norm_num
  start := rightTurn_right_projection le_rfl (by norm_num)
  finish := by
    show _ = rectilinearGeometry.length rightTurnLanelet.centerline2d
    rw [rightTurn_centerline_length]
    exact rightTurn_right_projection (by norm_num) le_rfl
  inverse t h0 h2 := by
    rw [rightTurn_centerline_length] at h2
    show rectilinearGeometry.toArcCoordinatesLength rightTurnLanelet.centerline2d
      (rectilinearGeometry.interpolatedPointAtDistance rightTurnLanelet.centerline2d
        (rectilinearGeometry.toArcCoordinatesLength rightTurnLanelet.centerline2d
          (rectilinearGeometry.interpolatedPointAtDistance rightTurnLanelet.centerline2d t))) = t
    rw [rightTurn_right_projection h0 h2, rightTurn_right_projection h0 h2]

theorem projectsOntoBound_rightTurn_left :
    ProjectsOntoBound rectilinearGeometry Lanelet.leftBound2d rightTurnLanelet := fun t h0 h2 => by
  rw [rightTurn_centerline_length] at h2
  show 0 ≤ centerlineToBound rectilinearGeometry rightTurnLanelet rightTurnLanelet.leftBound2d t ∧ _
  rw [rightTurn_left_projection h0 h2, show Lanelet.leftBound2d rightTurnLanelet =
    rightTurnLanelet.leftBound2d from rfl, rightTurn_left_length]
  split_ifs <;> constructor <;> linarith

theorem projectsOntoBound_rightTurn_right :
    ProjectsOntoBound rectilinearGeometry Lanelet.rightBound2d rightTurnLanelet := fun t h0 h2 => by
  rw [rightTurn_centerline_length] at h2
  have hid := rightTurn_right_projection h0 h2
  show 0 ≤ rectilinearGeometry.toArcCoordinatesLength rightTurnLanelet.centerline2d
      (rectilinearGeometry.interpolatedPointAtDistance rightTurnLanelet.centerline2d t) ∧
    rectilinearGeometry.toArcCoordinatesLength rightTurnLanelet.centerline2d
      (rectilinearGeometry.interpolatedPointAtDistance rightTurnLanelet.centerline2d t) ≤
        rectilinearGeometry.length rightTurnLanelet.centerline2d
  rw [hid, rightTurn_centerline_length]
  exact ⟨h0, h2⟩

/-- Short of the end the round trip on this lanelet gives the arc length back. -/
example : getArcLengthOnCenterline rectilinearGeometry [rightTurnLanelet]
    (some (getArcLengthOnBounds rectilinearGeometry (3 / 2) [rightTurnLanelet]).left)
    (some (getArcLengthOnBounds rectilinearGeometry (3 / 2) [rightTurnLanelet]).right) =
      ⟨some (3 / 2), some (3 / 2)⟩ := by
  refine getArcLengthOnCenterline_round_trip rectilinearGeometry ?_ ?_ (by norm_num) ?_
  · simpa using ⟨projectionsInverse_rightTurn_left, projectsOntoBound_rightTurn_left⟩
  · simpa using ⟨projectionsInverse_rightTurn_right, projectsOntoBound_rightTurn_right⟩
  · simp [rightTurn_centerline_length]
    norm_num

end RightTurn

/-- The end of a one-lanelet sequence of centerline length `2` whose projections are mutually
inverse on both sides, projected onto the bounds and back, comes out as the bound lengths `3`
and `2`. -/
theorem getArcLengthOnCenterline_round_trip_misses_sequence_end :
    ProjectionsInverse rectilinearGeometry Lanelet.leftBound2d rightTurnLanelet ∧
      ProjectionsInverse rectilinearGeometry Lanelet.rightBound2d rightTurnLanelet ∧
      sequenceLength rectilinearGeometry Lanelet.centerline2d [rightTurnLanelet] = 2 ∧
      getArcLengthOnCenterline rectilinearGeometry [rightTurnLanelet]
          (some (getArcLengthOnBounds rectilinearGeometry 2 [rightTurnLanelet]).left)
          (some (getArcLengthOnBounds rectilinearGeometry 2 [rightTurnLanelet]).right) =
        ⟨some 3, some 2⟩ := by
  have hl := projectionsInverse_rightTurn_left
  have hr := projectionsInverse_rightTurn_right
  have hsum : sequenceLength rectilinearGeometry Lanelet.centerline2d [rightTurnLanelet] = 2 := by
    simp [rightTurn_centerline_length]
  have hend := getArcLengthOnCenterline_at_sequence_end rectilinearGeometry
    (List.cons_ne_nil rightTurnLanelet []) (by simpa using hl.centerline_pos)
    (by simpa using ⟨hl.bound_pos.le, hr.bound_pos.le⟩) (by simpa using ⟨hl.finish, hr.finish⟩)
  simp only [hsum, sequenceLength_cons, sequenceLength_nil, add_zero] at hend
  refine ⟨hl, hr, hsum, hend.trans ?_⟩
  show (⟨some (rectilinearGeometry.length rightTurnLanelet.leftBound2d),
    some (rectilinearGeometry.length rightTurnLanelet.centerline2d)⟩ : PathRange (Option ℚ)) = _
  rw [rightTurn_left_length, rightTurn_centerline_length]

end AutowarePlanning.PathGenerator
