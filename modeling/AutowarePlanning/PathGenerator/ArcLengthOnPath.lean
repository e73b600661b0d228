import AutowarePlanning.Messages
import AutowarePlanning.PathGenerator.ArcLength

/-!
# The arc length on the path of a centerline arc length

`get_arc_length_on_path` first walks the lanelet sequence to the lanelet whose centerline holds
the given arc length, and takes that lanelet's id and the centerline point there. It then walks
the path: up to the first point carrying the id it sums the distances between consecutive points,
from there it collects the run of points carrying the id, and it adds the arc length of the
centerline point projected on that run. An empty input or a negative arc length gives `0`, and a
sequence too short for the arc length gives the arc length as it is.

Both loops are given by plain list functions: the lanelets before the target are those that end
before the arc length (`targetOnCenterline_of_eq_append`), and the path splits at its first point
carrying the id (`targetPathSegmentLoop_nil`). Together they give the value of the function
(`getArcLengthOnPath_of_target`) and its pass-through on a short sequence
(`getArcLengthOnPath_of_sequence_too_short`).
-/

namespace AutowarePlanning.PathGenerator

open AutowarePlanning

/-- `lanelet::utils::conversion::toLaneletPoint(point.pose.position).basicPoint2d()`. -/
def basicPoint2dOf (point : PathPointWithLaneId) : BasicPoint2d :=
  (point.pose.position.x, point.pose.position.y)

section ArcLengthOnPath

variable (G : LaneletGeometry) (id : Lanelet → ℤ)
  (calcDistance2d : PathPointWithLaneId → PathPointWithLaneId → ℚ)

/-- The first loop of `get_arc_length_on_path`, from the running sum `s` on: the id of the lanelet
whose centerline holds `sCenterline`, and the centerline point there. -/
def targetOnCenterline (sCenterline : ℚ) : List Lanelet → ℚ → Option (ℤ × BasicPoint2d)
  | [], _ => none
  | it :: rest, s =>
    let centerlineLength := G.length it.centerline2d
    if s + centerlineLength < sCenterline then
      targetOnCenterline sCenterline rest (s + centerlineLength)
    else some (id it, G.interpolatedPointAtDistance it.centerline2d (sCenterline - s))

/-- The second loop of `get_arc_length_on_path`, from a point on, with the running `s_path` and the
target path segment. A point without the id adds the distance to the next point while the
segment is empty and a next point exists, and ends the walk otherwise. -/
def targetPathSegmentLoop (targetLaneletId : ℤ) :
    List PathPointWithLaneId → ℚ → LineString2d → ℚ × LineString2d
  | [], sPath, targetPathSegment => (sPath, targetPathSegment)
  | point :: rest, sPath, targetPathSegment =>
    if targetLaneletId ∉ point.laneIds then
      match targetPathSegment, rest with
      | [], next :: _ =>
        targetPathSegmentLoop targetLaneletId rest (sPath + calcDistance2d point next) []
      | _, _ => (sPath, targetPathSegment)
    else
      targetPathSegmentLoop targetLaneletId rest sPath (targetPathSegment ++ [basicPoint2dOf point])

/-- `get_arc_length_on_path`. -/
def getArcLengthOnPath (laneletSequence : List Lanelet) (path : List PathPointWithLaneId)
    (sCenterline : ℚ) : ℚ :=
  if laneletSequence.isEmpty ∨ path.isEmpty then 0
  else if sCenterline < 0 then 0
  else
    match targetOnCenterline G id sCenterline laneletSequence 0 with
    | none => sCenterline
    | some (targetLaneletId, pointOnCenterline) =>
      let (sPath, targetPathSegment) :=
        targetPathSegmentLoop calcDistance2d targetLaneletId path 0 []
      sPath + G.toArcCoordinatesLength targetPathSegment pointOnCenterline

/-- The summed distances between consecutive points of a path. -/
def pathLength : List PathPointWithLaneId → ℚ
  | point :: next :: rest => calcDistance2d point next + pathLength (next :: rest)
  | _ => 0

/-! The first loop: the lanelets before the target all end before the arc length, and the target
ends at or after it. -/

theorem targetOnCenterline_of_eq_append {sCenterline : ℚ} {pre post : List Lanelet} {it : Lanelet}
    (s : ℚ)
    (hbefore : ∀ k < pre.length,
      s + sequenceLength G Lanelet.centerline2d (pre.take (k + 1)) < sCenterline)
    (hit : sCenterline ≤ s + sequenceLength G Lanelet.centerline2d pre + G.length it.centerline2d) :
    targetOnCenterline G id sCenterline (pre ++ it :: post) s =
      some (id it, G.interpolatedPointAtDistance it.centerline2d
        (sCenterline - (s + sequenceLength G Lanelet.centerline2d pre))) := by
  induction pre generalizing s with
  | nil =>
    rw [List.nil_append, targetOnCenterline, if_neg (by simpa using hit), sequenceLength_nil,
      add_zero]
  | cons a pre ih =>
    have ha : s + G.length a.centerline2d < sCenterline := by
      simpa using hbefore 0 (Nat.succ_pos _)
    rw [List.cons_append, targetOnCenterline, if_pos ha, ih]
    · simp only [sequenceLength_cons, add_assoc]
    · intro k hk
      simpa only [List.take_succ_cons, sequenceLength_cons, add_assoc] using
        hbefore (k + 1) (Nat.succ_lt_succ hk)
    · simpa only [sequenceLength_cons, add_assoc] using hit

theorem targetOnCenterline_eq_none {sCenterline : ℚ} {laneletSequence : List Lanelet} (s : ℚ)
    (hlen : ∀ it ∈ laneletSequence, 0 ≤ G.length it.centerline2d)
    (h : s + sequenceLength G Lanelet.centerline2d laneletSequence < sCenterline) :
    targetOnCenterline G id sCenterline laneletSequence s = none := by
  induction laneletSequence generalizing s with
  | nil => rfl
  | cons it rest ih =>
    have hrest := sequenceLength_nonneg G Lanelet.centerline2d fun l hl => hlen l (.tail _ hl)
    rw [sequenceLength_cons] at h
    rw [targetOnCenterline, if_pos (by linarith only [h, hrest]),
      ih _ (fun l hl => hlen l (.tail _ hl)) (by linarith only [h])]

/-! The second loop, one step at a time: a point carrying the id joins the segment; a point without
it moves on to the next point while the segment is empty, and ends the walk otherwise. -/

section Step

variable {targetLaneletId : ℤ} {point : PathPointWithLaneId} (sPath : ℚ)

theorem targetPathSegmentLoop_cons_of_mem (h : targetLaneletId ∈ point.laneIds)
    (rest : List PathPointWithLaneId) (targetPathSegment : LineString2d) :
    targetPathSegmentLoop calcDistance2d targetLaneletId (point :: rest) sPath targetPathSegment =
      targetPathSegmentLoop calcDistance2d targetLaneletId rest sPath
        (targetPathSegment ++ [basicPoint2dOf point]) := by
  simp [targetPathSegmentLoop, h]

theorem targetPathSegmentLoop_cons_cons_of_not_mem (h : targetLaneletId ∉ point.laneIds)
    (next : PathPointWithLaneId) (rest : List PathPointWithLaneId) :
    targetPathSegmentLoop calcDistance2d targetLaneletId (point :: next :: rest) sPath [] =
      targetPathSegmentLoop calcDistance2d targetLaneletId (next :: rest)
        (sPath + calcDistance2d point next) [] := by
  simp [targetPathSegmentLoop, h]

theorem targetPathSegmentLoop_singleton_of_not_mem (h : targetLaneletId ∉ point.laneIds)
    (targetPathSegment : LineString2d) :
    targetPathSegmentLoop calcDistance2d targetLaneletId [point] sPath targetPathSegment =
      (sPath, targetPathSegment) := by
  cases targetPathSegment <;> simp [targetPathSegmentLoop, h]

theorem targetPathSegmentLoop_cons_of_not_mem_of_ne_nil (h : targetLaneletId ∉ point.laneIds)
    (rest : List PathPointWithLaneId) {targetPathSegment : LineString2d}
    (hs : targetPathSegment ≠ []) :
    targetPathSegmentLoop calcDistance2d targetLaneletId (point :: rest) sPath targetPathSegment =
      (sPath, targetPathSegment) := by
  obtain ⟨a, l, rfl⟩ := List.exists_cons_of_ne_nil hs
  simp [targetPathSegmentLoop, h]

end Step

/-! The second loop, run: once the segment is started it takes the run of points carrying the id;
before that it sums the distances up to the first point carrying the id. -/

theorem targetPathSegmentLoop_of_ne_nil (targetLaneletId : ℤ) (path : List PathPointWithLaneId)
    (sPath : ℚ) {targetPathSegment : LineString2d} (h : targetPathSegment ≠ []) :
    targetPathSegmentLoop calcDistance2d targetLaneletId path sPath targetPathSegment =
      (sPath, targetPathSegment ++
        (path.takeWhile fun point => targetLaneletId ∈ point.laneIds).map basicPoint2dOf) := by
  induction path generalizing targetPathSegment with
  | nil => simp [targetPathSegmentLoop]
  | cons point rest ih =>
    by_cases hp : targetLaneletId ∈ point.laneIds
    · rw [targetPathSegmentLoop_cons_of_mem _ _ hp, ih (by simp)]
      simp [hp]
    · rw [targetPathSegmentLoop_cons_of_not_mem_of_ne_nil _ _ hp _ h]
      simp [hp]

theorem targetPathSegmentLoop_nil (targetLaneletId : ℤ) (path : List PathPointWithLaneId)
    (sPath : ℚ) :
    targetPathSegmentLoop calcDistance2d targetLaneletId path sPath [] =
      (sPath + pathLength calcDistance2d (path.take
          ((path.takeWhile fun point => targetLaneletId ∉ point.laneIds).length + 1)),
        ((path.dropWhile fun point => targetLaneletId ∉ point.laneIds).takeWhile
          fun point => targetLaneletId ∈ point.laneIds).map basicPoint2dOf) := by
  induction path generalizing sPath with
  | nil => simp [targetPathSegmentLoop, pathLength]
  | cons point rest ih =>
    by_cases hp : targetLaneletId ∈ point.laneIds
    · rw [targetPathSegmentLoop_cons_of_mem _ _ hp, targetPathSegmentLoop_of_ne_nil _ _ _ _ (by simp)]
      simp [hp, pathLength]
    · cases rest with
      | nil => simp [targetPathSegmentLoop_singleton_of_not_mem _ _ hp, hp, pathLength]
      | cons next rest =>
        rw [targetPathSegmentLoop_cons_cons_of_not_mem _ _ hp, ih]
        simp [hp, pathLength, add_assoc]

/-- On a lanelet sequence whose lanelets before `it` all end before `sCenterline` and whose lanelet
`it` ends at or after it, `get_arc_length_on_path` returns the length of the path up to its first
point carrying `it`'s id (the whole path when none does), plus the arc length of the centerline
point at `sCenterline` projected on the run of points carrying the id from there. -/
theorem getArcLengthOnPath_of_target {laneletSequence pre post : List Lanelet} {it : Lanelet}
    (hseq : laneletSequence = pre ++ it :: post) {path : List PathPointWithLaneId}
    (hpath : path ≠ []) {sCenterline : ℚ} (hs : 0 ≤ sCenterline)
    (hbefore : ∀ k < pre.length,
      sequenceLength G Lanelet.centerline2d (pre.take (k + 1)) < sCenterline)
    (hit : sCenterline ≤ sequenceLength G Lanelet.centerline2d pre + G.length it.centerline2d) :
    getArcLengthOnPath G id calcDistance2d laneletSequence path sCenterline =
      pathLength calcDistance2d
          (path.take ((path.takeWhile fun point => id it ∉ point.laneIds).length + 1)) +
        G.toArcCoordinatesLength
          (((path.dropWhile fun point => id it ∉ point.laneIds).takeWhile
            fun point => id it ∈ point.laneIds).map basicPoint2dOf)
          (G.interpolatedPointAtDistance it.centerline2d
            (sCenterline - sequenceLength G Lanelet.centerline2d pre)) := by
  have htarget := @targetOnCenterline_of_eq_append G id sCenterline pre post it 0
    (by simpa only [zero_add] using hbefore) (by rwa [zero_add])
  rw [zero_add] at htarget
  rw [getArcLengthOnPath, if_neg (by simp [hseq, hpath]), if_neg (not_lt.mpr hs), hseq, htarget]
  simp only [targetPathSegmentLoop_nil, zero_add]

/-- A lanelet sequence whose centerlines are shorter in all than `sCenterline` leaves it as it is:
`get_arc_length_on_path` returns `sCenterline` whatever the path. -/
theorem getArcLengthOnPath_of_sequence_too_short {laneletSequence : List Lanelet}
    (hseq : laneletSequence ≠ []) {path : List PathPointWithLaneId} (hpath : path ≠ [])
    {sCenterline : ℚ} (hs : 0 ≤ sCenterline)
    (hlen : ∀ it ∈ laneletSequence, 0 ≤ G.length it.centerline2d)
    (hshort : sequenceLength G Lanelet.centerline2d laneletSequence < sCenterline) :
    getArcLengthOnPath G id calcDistance2d laneletSequence path sCenterline = sCenterline := by
  rw [getArcLengthOnPath, if_neg (by simp [hseq, hpath]), if_neg (not_lt.mpr hs),
    targetOnCenterline_eq_none G id 0 hlen (by rwa [zero_add])]

end ArcLengthOnPath

section Sample

/-! Path points along the x axis beside `rightTurnLanelet`, whose centerline is `2` long. -/

/-- Points at `x = -1, 0, 1`: the first on lanelet `6`, the second on lanelets `6` and `7`, the
last on lanelet `7`. -/
def samplePath : List PathPointWithLaneId :=
  [⟨⟨⟨-1, 0, 0⟩, default⟩, 1, [6]⟩, ⟨⟨⟨0, 0, 0⟩, default⟩, 1, [6, 7]⟩,
    ⟨⟨⟨1, 0, 0⟩, default⟩, 1, [7]⟩]

/-- `autoware_utils::calc_distance2d` on axis-parallel steps. -/
def rectDistance2d (a b : PathPointWithLaneId) : ℚ :=
  |b.pose.position.x - a.pose.position.x| + |b.pose.position.y - a.pose.position.y|

/-- The centerline point at arc length `1` is `(1, 0)`; the path reaches lanelet `7` after one
step, and the run on lanelet `7` projects it at `1` more. -/
theorem getArcLengthOnPath_of_target_on_samplePath :
    getArcLengthOnPath rectilinearGeometry (fun _ => 7) rectDistance2d [rightTurnLanelet]
      samplePath 1 = 2 := by
  rw [getArcLengthOnPath_of_target rectilinearGeometry (fun _ => 7) rectDistance2d
    (rfl : [rightTurnLanelet] = [] ++ rightTurnLanelet :: []) (by simp [samplePath]) zero_le_one
    (fun k (hk : k < ([] : List Lanelet).length) => absurd hk (Nat.not_lt_zero k))
    (by rw [sequenceLength_nil, zero_add, rightTurn_centerline_length]; norm_num),
    sequenceLength_nil, sub_zero, rightTurn_centerline_point_of_le le_rfl]
  simp [samplePath, pathLength, basicPoint2dOf, rectDistance2d]
  norm_num [rectilinearGeometry, rectNearest, clampBetween, rectSegmentLength, abs_of_pos]

theorem getArcLengthOnPath_of_sequence_too_short_on_samplePath :
    getArcLengthOnPath rectilinearGeometry (fun _ => 7) rectDistance2d [rightTurnLanelet]
      samplePath 3 = 3 :=
  getArcLengthOnPath_of_sequence_too_short rectilinearGeometry (fun _ => 7) rectDistance2d
    (List.cons_ne_nil _ _) (List.cons_ne_nil _ _) (by norm_num)
    (by simp [rightTurn_centerline_length]) (by norm_num [rightTurn_centerline_length])

end Sample

end AutowarePlanning.PathGenerator
