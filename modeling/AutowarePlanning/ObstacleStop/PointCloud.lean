import AutowarePlanning.ObstacleStop.Filter

/-!
# Point-cloud stop obstacles and their history

`filter_stop_obstacle_for_point_cloud` turns clusters into stop obstacles and keeps a history of
them so that a stationary obstacle survives a few cycles of clustering noise. The history is
walked by an iterator loop: an entry older than the hold time is erased (the iterator moves to the
next entry); an entry still laterally close is copied out with its distance recomputed (`++itr`);
an entry that fails a lateral test hits `continue` with the iterator where it was.

The loop is `historyLoop`, with the vector and its iterator as a `HistoryCursor` and a fuel bound:
`none` is a loop still running when the fuel is spent. `historyLoop_eq_none_of_stuck` says that an
entry younger than the hold time that fails a lateral test stops the loop from ever ending;
`historyLoop_of_pass` gives the loop's result when every young entry passes.
-/

namespace AutowarePlanning.ObstacleStop

open AutowarePlanning

section Tests

variable (P : Primitives) (cfg : Config)

/-- The rough and the precise lateral test shared by `convert_point_cloud_to_stop_points` and the
history loop: the point lies within `max_lat_margin` of the trajectory polygons. -/
def isWithinLateralMargin (trajPoints : List TrajectoryPoint) (decimatedTrajPolys : List Polygon2d)
    (vehicleInfo : VehicleInfo) (point : Point) : Bool :=
  let p := cfg.obstacleFilteringParam
  let latDistFromObstacleToTraj := P.calcLateralOffset trajPoints point
  let minLatDistToTrajPoly := |latDistFromObstacleToTraj| -
    P.hypot vehicleInfo.maxLongitudinalOffsetM (vehicleInfo.vehicleWidthM / 2)
  !(p.maxLatMargin ≤ minLatDistToTrajPoly) &&
    !((p.maxLatMargin : WithTop ℚ) ≤ Utils.getDistToTrajPoly P point decimatedTrajPolys)

/-- One iteration of the loop over a cluster's points in `convert_point_cloud_to_stop_points`:
keep the laterally close point nearest to ego along the trajectory. -/
def clusterStep (filteredPoints : List Point) (trajPoints : List TrajectoryPoint)
    (decimatedTrajPolys : List Polygon2d) (vehicleInfo : VehicleInfo) (egoIdx : ℕ)
    (best : Option (ℚ × Point)) (index : ℕ) : Option (ℚ × Point) :=
  let obstaclePoint := filteredPoints.getD index default
  if !isWithinLateralMargin P cfg trajPoints decimatedTrajPolys vehicleInfo obstaclePoint then best
  else
    match Utils.calcDistanceToFrontObject P trajPoints egoIdx obstaclePoint, best with
    | none, _ => best
    | some d, none => some (d, obstaclePoint)
    | some d, some (bestDist, _) => if d < bestDist then some (d, obstaclePoint) else best

/-- The loop over one cluster: its stop collision point, if any of its points is close. -/
def clusterStopCollisionPoint (filteredPoints : List Point) (trajPoints : List TrajectoryPoint)
    (decimatedTrajPolys : List Polygon2d) (vehicleInfo : VehicleInfo) (egoIdx : ℕ)
    (clusterIndices : List ℕ) : Option Point :=
  (clusterIndices.foldl
    (clusterStep P cfg filteredPoints trajPoints decimatedTrajPolys vehicleInfo egoIdx) none).map (·.2)

/-- `convert_point_cloud_to_stop_points`. -/
def convertPointCloudToStopPoints (pointcloud : Pointcloud) (trajPoints : List TrajectoryPoint)
    (decimatedTrajPolys : List Polygon2d) (vehicleInfo : VehicleInfo)
    (tp : TrajectoryPolygonCollisionCheck) (egoIdx : ℕ) : List Point :=
  if pointcloud.points.isEmpty then []
  else
    let extendedTrajPointsFromEgo := Utils.getExtendedTrajectoryPoints P trajPoints
      tp.goalExtendedTrajectoryLength tp.decimateTrajectoryStepLength
    let filteredPoints := P.getFilteredPointcloud pointcloud extendedTrajPointsFromEgo vehicleInfo
    let clusters := P.getClusterIndices pointcloud extendedTrajPointsFromEgo vehicleInfo
    clusters.filterMap
      (clusterStopCollisionPoint P cfg filteredPoints trajPoints decimatedTrajPolys vehicleInfo egoIdx)

/-- `to_hex_string` of a default-constructed UUID. -/
def emptyUuidHexString : String := "00000000000000000000000000000000"

/-- `create_stop_obstacle_for_point_cloud`. -/
def createStopObstacleForPointCloud (trajPoints : List TrajectoryPoint) (stamp : Time)
    (stopPoint : Point) (distToBumper : ℚ) : StopObstacle :=
  { uuid := emptyUuidHexString
    stamp := stamp
    classification := default
    pose := default
    shape := ⟨.boundingBox, [], default⟩
    velocity := 0
    collisionPoint := stopPoint
    distToCollideOnDecimatedTraj := P.calcSignedArcLengthToPoint trajPoints 0 stopPoint - distToBumper }

theorem isWithinLateralMargin_of_clusterStep {filteredPoints : List Point}
    {trajPoints : List TrajectoryPoint} {decimatedTrajPolys : List Polygon2d}
    {vehicleInfo : VehicleInfo} {egoIdx : ℕ} {best : Option (ℚ × Point)} (index : ℕ)
    (hbest : ∀ b ∈ best, isWithinLateralMargin P cfg trajPoints decimatedTrajPolys vehicleInfo b.2 = true) :
    ∀ b ∈ clusterStep P cfg filteredPoints trajPoints decimatedTrajPolys vehicleInfo egoIdx best index,
      isWithinLateralMargin P cfg trajPoints decimatedTrajPolys vehicleInfo b.2 = true := by
  dsimp only [clusterStep]
  split_ifs with hw
  · exact hbest
  · simp only [Bool.not_eq_true', Bool.not_eq_false] at hw
    split
    · exact hbest
    · intro b hb
      cases Option.mem_def.mp hb
      exact hw
    · split_ifs
      · intro b hb
        cases Option.mem_def.mp hb
        exact hw
      · exact hbest

theorem isWithinLateralMargin_of_foldl_clusterStep {filteredPoints : List Point}
    {trajPoints : List TrajectoryPoint} {decimatedTrajPolys : List Polygon2d}
    {vehicleInfo : VehicleInfo} {egoIdx : ℕ} (xs : List ℕ) {init : Option (ℚ × Point)}
    (hinit : ∀ b ∈ init, isWithinLateralMargin P cfg trajPoints decimatedTrajPolys vehicleInfo b.2 = true) :
    ∀ b ∈ xs.foldl (clusterStep P cfg filteredPoints trajPoints decimatedTrajPolys vehicleInfo egoIdx) init,
      isWithinLateralMargin P cfg trajPoints decimatedTrajPolys vehicleInfo b.2 = true := by
  induction xs generalizing init with
  | nil => exact hinit
  | cons i is ih => exact ih (isWithinLateralMargin_of_clusterStep P cfg i hinit)

/-- Every stop point of the point cloud passed the lateral tests. -/
theorem isWithinLateralMargin_of_mem_convertPointCloudToStopPoints {pointcloud : Pointcloud}
    {trajPoints : List TrajectoryPoint} {decimatedTrajPolys : List Polygon2d}
    {vehicleInfo : VehicleInfo} {tp : TrajectoryPolygonCollisionCheck} {egoIdx : ℕ} {p : Point}
    (hp : p ∈ convertPointCloudToStopPoints P cfg pointcloud trajPoints decimatedTrajPolys vehicleInfo
      tp egoIdx) :
    isWithinLateralMargin P cfg trajPoints decimatedTrajPolys vehicleInfo p = true := by
  unfold convertPointCloudToStopPoints at hp
  split_ifs at hp
  · cases hp
  · obtain ⟨idxs, -, hc⟩ := List.mem_filterMap.mp hp
    obtain ⟨⟨d, q⟩, hb, rfl⟩ := Option.map_eq_some'.mp hc
    exact isWithinLateralMargin_of_foldl_clusterStep P cfg idxs (fun _ h => Option.noConfusion h) _ hb

end Tests

/-- The history vector split at the loop's iterator, and the entries copied out so far. -/
structure HistoryCursor where
  kept : List StopObstacle
  rest : List StopObstacle
  pastStopObstacles : List StopObstacle
  deriving DecidableEq, Repr

section History

variable (P : Primitives) (cfg : Config) (odometry : Odometry)
  (trajPoints decimatedTrajPoints : List TrajectoryPoint) (decimatedTrajPolys : List Polygon2d)
  (vehicleInfo : VehicleInfo) (distToBumper : ℚ)

/-- An entry the hold time has not yet expired. -/
def isYoung (entry : StopObstacle) : Bool :=
  !(cfg.obstacleFilteringParam.stopObstacleHoldTimeThreshold ≤ seconds (odometry.stamp - entry.stamp))

/-- A history entry with its distance recomputed on this cycle's decimated trajectory. -/
def refreshStopObstacle (entry : StopObstacle) : StopObstacle :=
  { entry with distToCollideOnDecimatedTraj :=
      P.calcSignedArcLengthToPoint decimatedTrajPoints 0 entry.collisionPoint - distToBumper }

/-- One pass of the body of the history loop. -/
def historyStep (c : HistoryCursor) : HistoryCursor :=
  match c.rest with
  | [] => c
  | entry :: rest =>
    if !isYoung cfg odometry entry then { c with rest := rest }
    else if !isWithinLateralMargin P cfg trajPoints decimatedTrajPolys vehicleInfo entry.collisionPoint then c
    else ⟨c.kept ++ [entry], rest,
      c.pastStopObstacles ++ [refreshStopObstacle P decimatedTrajPoints distToBumper entry]⟩

/-- The history loop with `fuel` passes of its body; `none` when it has not ended by then. -/
def historyLoop : ℕ → HistoryCursor → Option HistoryCursor
  | 0, _ => none
  | n + 1, c =>
    match c.rest with
    | [] => some c
    | _ :: _ => historyLoop n (historyStep P cfg odometry trajPoints decimatedTrajPoints
        decimatedTrajPolys vehicleInfo distToBumper c)

/-- A young entry that fails a lateral test. -/
def IsStuck (entry : StopObstacle) : Prop :=
  isYoung cfg odometry entry = true ∧
    isWithinLateralMargin P cfg trajPoints decimatedTrajPolys vehicleInfo entry.collisionPoint = false

theorem historyStep_old {c : HistoryCursor} {entry : StopObstacle} {rest : List StopObstacle}
    (hc : c.rest = entry :: rest) (hy : isYoung cfg odometry entry = false) :
    historyStep P cfg odometry trajPoints decimatedTrajPoints decimatedTrajPolys vehicleInfo
      distToBumper c = { c with rest := rest } := by
  simp [historyStep, hc, hy]

theorem historyStep_pass {c : HistoryCursor} {entry : StopObstacle} {rest : List StopObstacle}
    (hc : c.rest = entry :: rest) (hy : isYoung cfg odometry entry = true)
    (hw : isWithinLateralMargin P cfg trajPoints decimatedTrajPolys vehicleInfo entry.collisionPoint = true) :
    historyStep P cfg odometry trajPoints decimatedTrajPoints decimatedTrajPolys vehicleInfo
      distToBumper c = ⟨c.kept ++ [entry], rest,
        c.pastStopObstacles ++ [refreshStopObstacle P decimatedTrajPoints distToBumper entry]⟩ := by
  simp [historyStep, hc, hy, hw]

theorem historyStep_stuck {c : HistoryCursor} {entry : StopObstacle} {rest : List StopObstacle}
    (hc : c.rest = entry :: rest)
    (h : IsStuck P cfg odometry trajPoints decimatedTrajPolys vehicleInfo entry) :
    historyStep P cfg odometry trajPoints decimatedTrajPoints decimatedTrajPolys vehicleInfo
      distToBumper c = c := by
  simp [historyStep, hc, h.1, h.2]

/-- A stuck entry ahead of the iterator stays ahead of it after one pass. -/
theorem historyStep_keeps_stuck {c : HistoryCursor} {e : StopObstacle} (he : e ∈ c.rest)
    (h : IsStuck P cfg odometry trajPoints decimatedTrajPolys vehicleInfo e) :
    e ∈ (historyStep P cfg odometry trajPoints decimatedTrajPoints decimatedTrajPolys vehicleInfo
      distToBumper c).rest := by
  obtain ⟨kept, rest, past⟩ := c
  cases rest with
  | nil => simp at he
  | cons entry rest =>
    rcases List.mem_cons.mp he with rfl | he
    · rw [historyStep_stuck P cfg odometry trajPoints decimatedTrajPoints decimatedTrajPolys
        vehicleInfo distToBumper rfl h]
      exact List.mem_cons_self _ _
    · simp only [historyStep]
      split_ifs <;> simp [he]

/-- An entry younger than the hold time that fails a lateral test is never erased and never
passed: the loop does not end, whatever the fuel. -/
theorem historyLoop_eq_none_of_stuck (fuel : ℕ) {c : HistoryCursor} {e : StopObstacle}
    (he : e ∈ c.rest) (h : IsStuck P cfg odometry trajPoints decimatedTrajPolys vehicleInfo e) :
    historyLoop P cfg odometry trajPoints decimatedTrajPoints decimatedTrajPolys vehicleInfo
      distToBumper fuel c = none := by
  induction fuel generalizing c with
  | zero => rfl
  | succ n ih =>
    obtain ⟨kept, rest, past⟩ := c
    cases rest with
    | nil => simp at he
    | cons entry rest =>
      exact ih (historyStep_keeps_stuck P cfg odometry trajPoints decimatedTrajPoints
        decimatedTrajPolys vehicleInfo distToBumper he h)

/-- With every young entry within the lateral margin, the loop ends once it has had one pass per
entry: the young entries stay in order and are copied out refreshed. -/
theorem historyLoop_of_pass (c : HistoryCursor) (fuel : ℕ) (hfuel : c.rest.length < fuel)
    (hpass : ∀ e ∈ c.rest, isYoung cfg odometry e = true →
      isWithinLateralMargin P cfg trajPoints decimatedTrajPolys vehicleInfo e.collisionPoint = true) :
    historyLoop P cfg odometry trajPoints decimatedTrajPoints decimatedTrajPolys vehicleInfo
      distToBumper fuel c =
      some ⟨c.kept ++ c.rest.filter (isYoung cfg odometry), [],
        c.pastStopObstacles ++ (c.rest.filter (isYoung cfg odometry)).map
          (refreshStopObstacle P decimatedTrajPoints distToBumper)⟩ := by
  obtain ⟨kept, rest, past⟩ := c
  induction rest generalizing kept past fuel with
  | nil =>
    cases fuel with
    | zero => simp at hfuel
    | succ n => simp [historyLoop]
  | cons entry rest ih =>
    cases fuel with
    | zero => simp at hfuel
    | succ n =>
      have hfuel' : rest.length < n := by simpa using hfuel
      have hrest := fun e he => hpass e (List.mem_cons_of_mem entry he)
      simp only [historyLoop]
      cases hy : isYoung cfg odometry entry
      · rw [historyStep_old P cfg odometry trajPoints decimatedTrajPoints decimatedTrajPolys
          vehicleInfo distToBumper rfl hy, ih n kept past hfuel' hrest]
        simp [List.filter_cons, hy]
      · rw [historyStep_pass P cfg odometry trajPoints decimatedTrajPoints decimatedTrajPolys
          vehicleInfo distToBumper rfl hy (hpass entry (List.mem_cons_self _ _) hy),
          ih n _ _ hfuel' hrest]
        simp [List.filter_cons, hy]

/-- A loop that ends has found every young entry within the lateral margin, erased the old ones
and copied the young ones out refreshed. -/
theorem historyLoop_eq_some {fuel : ℕ} {c c' : HistoryCursor}
    (h : historyLoop P cfg odometry trajPoints decimatedTrajPoints decimatedTrajPolys vehicleInfo
      distToBumper fuel c = some c') :
    (∀ e ∈ c.rest, isYoung cfg odometry e = true →
      isWithinLateralMargin P cfg trajPoints decimatedTrajPolys vehicleInfo e.collisionPoint = true) ∧
    c' = ⟨c.kept ++ c.rest.filter (isYoung cfg odometry), [],
      c.pastStopObstacles ++ (c.rest.filter (isYoung cfg odometry)).map
        (refreshStopObstacle P decimatedTrajPoints distToBumper)⟩ := by
  induction fuel generalizing c with
  | zero => cases h
  | succ n ih =>
    obtain ⟨kept, rest, past⟩ := c
    cases rest with
    | nil =>
      cases h
      simp
    | cons entry rest =>
      obtain ⟨hpass, rfl⟩ := ih h
      cases hy : isYoung cfg odometry entry
      · rw [historyStep_old P cfg odometry trajPoints decimatedTrajPoints decimatedTrajPolys
          vehicleInfo distToBumper rfl hy] at hpass ⊢
        refine ⟨fun e he => (List.mem_cons.mp he).elim (fun h => by simp_all) (hpass e), ?_⟩
        simp [List.filter_cons, hy]
      · cases hw : isWithinLateralMargin P cfg trajPoints decimatedTrajPolys vehicleInfo
            entry.collisionPoint
        · rw [historyStep_stuck P cfg odometry trajPoints decimatedTrajPoints decimatedTrajPolys
            vehicleInfo distToBumper rfl ⟨hy, hw⟩] at hpass
          exact absurd (hpass entry (List.mem_cons_self _ _) hy) (by simp [hw])
        · rw [historyStep_pass P cfg odometry trajPoints decimatedTrajPoints decimatedTrajPolys
            vehicleInfo distToBumper rfl hy hw] at hpass ⊢
          refine ⟨fun e he => (List.mem_cons.mp he).elim (fun h => h ▸ fun _ => hw) (hpass e), ?_⟩
          simp [List.filter_cons, hy]

end History

section Filter

variable {B : Type} (P : Primitives) (cfg : Config) (pd : PlannerData)
  (decimatedTrajPoints : List TrajectoryPoint) (distToBumper : ℚ) (egoIdx : ℕ)

/-- The zero-margin polygons of the decimated trajectory that the point-cloud filter tests against. -/
def pointCloudTrajPolys : List Polygon2d :=
  let tp := pd.trajectoryPolygonCollisionCheck
  P.createOneStepPolygons decimatedTrajPoints pd.vehicleInfo pd.currentOdometry.pose 0
    tp.enableToConsiderCurrentPose tp.timeToConvergence tp.decimateTrajectoryStepLength

/-- This cycle's stop obstacles of the point cloud. -/
def pointCloudStopObstacles : List StopObstacle :=
  (convertPointCloudToStopPoints P cfg pd.noGroundPointcloud pd.trajectory
      (pointCloudTrajPolys P pd decimatedTrajPoints) pd.vehicleInfo pd.trajectoryPolygonCollisionCheck
      egoIdx).map fun stopPoint =>
    createStopObstacleForPointCloud P decimatedTrajPoints pd.noGroundPointcloud.stamp stopPoint distToBumper

/-- `filter_stop_obstacle_for_point_cloud`: this cycle's point-cloud stop obstacles followed by
the retained history, and the module with the history updated; `none` while the history loop
has not ended within `fuel` passes. -/
def filterStopObstacleForPointCloud (fuel : ℕ) (m : ObstacleStopModule B) :
    Option (List StopObstacle × ObstacleStopModule B) :=
  if !cfg.obstacleFilteringParam.usePointcloud then some ([], m)
  else
    let stopObstacles := pointCloudStopObstacles P cfg pd decimatedTrajPoints distToBumper egoIdx
    match historyLoop P cfg pd.currentOdometry pd.trajectory decimatedTrajPoints
        (pointCloudTrajPolys P pd decimatedTrajPoints) pd.vehicleInfo distToBumper fuel
        ⟨[], m.stopPointcloudObstacleHistory, []⟩ with
    | none => none
    | some c => some (stopObstacles ++ c.pastStopObstacles,
        { m with stopPointcloudObstacleHistory := c.kept ++ c.rest ++ stopObstacles })

/-- A stuck history entry makes the whole point-cloud filter run forever. -/
theorem filterStopObstacleForPointCloud_eq_none_of_stuck (fuel : ℕ) {m : ObstacleStopModule B}
    {e : StopObstacle} (huse : cfg.obstacleFilteringParam.usePointcloud = true)
    (he : e ∈ m.stopPointcloudObstacleHistory)
    (h : IsStuck P cfg pd.currentOdometry pd.trajectory (pointCloudTrajPolys P pd decimatedTrajPoints)
      pd.vehicleInfo e) :
    filterStopObstacleForPointCloud P cfg pd decimatedTrajPoints distToBumper egoIdx fuel m = none := by
  simp only [filterStopObstacleForPointCloud, huse, Bool.not_true, Bool.false_eq_true, ↓reduceIte]
  rw [historyLoop_eq_none_of_stuck P cfg _ _ _ _ _ _ fuel he h]

/-- When the filter returns, every young history entry passed; the history keeps the young entries
followed by this cycle's obstacles, and the output is those obstacles followed by the young entries
refreshed. -/
theorem filterStopObstacleForPointCloud_eq_some {fuel : ℕ} {m m' : ObstacleStopModule B}
    {l : List StopObstacle} (huse : cfg.obstacleFilteringParam.usePointcloud = true)
    (h : filterStopObstacleForPointCloud P cfg pd decimatedTrajPoints distToBumper egoIdx fuel m =
      some (l, m')) :
    (∀ e ∈ m.stopPointcloudObstacleHistory, isYoung cfg pd.currentOdometry e = true →
      isWithinLateralMargin P cfg pd.trajectory (pointCloudTrajPolys P pd decimatedTrajPoints)
        pd.vehicleInfo e.collisionPoint = true) ∧
    l = pointCloudStopObstacles P cfg pd decimatedTrajPoints distToBumper egoIdx ++
      (m.stopPointcloudObstacleHistory.filter (isYoung cfg pd.currentOdometry)).map
        (refreshStopObstacle P decimatedTrajPoints distToBumper) ∧
    m' = { m with stopPointcloudObstacleHistory :=
      m.stopPointcloudObstacleHistory.filter (isYoung cfg pd.currentOdometry) ++
        pointCloudStopObstacles P cfg pd decimatedTrajPoints distToBumper egoIdx } := by
  simp only [filterStopObstacleForPointCloud, huse, Bool.not_true, Bool.false_eq_true, ↓reduceIte] at h
  split at h
  · cases h
  · rename_i c hc
    obtain ⟨hpass, rfl⟩ := historyLoop_eq_some P cfg _ _ _ _ _ _ hc
    cases h
    exact ⟨hpass, by simp, by simp⟩

/-- With every young history entry within the lateral margin and one pass of fuel per entry, the
filter returns. -/
theorem filterStopObstacleForPointCloud_of_pass {fuel : ℕ} {m : ObstacleStopModule B}
    (huse : cfg.obstacleFilteringParam.usePointcloud = true)
    (hfuel : m.stopPointcloudObstacleHistory.length < fuel)
    (hpass : ∀ e ∈ m.stopPointcloudObstacleHistory, isYoung cfg pd.currentOdometry e = true →
      isWithinLateralMargin P cfg pd.trajectory (pointCloudTrajPolys P pd decimatedTrajPoints)
        pd.vehicleInfo e.collisionPoint = true) :
    filterStopObstacleForPointCloud P cfg pd decimatedTrajPoints distToBumper egoIdx fuel m =
      some (pointCloudStopObstacles P cfg pd decimatedTrajPoints distToBumper egoIdx ++
        (m.stopPointcloudObstacleHistory.filter (isYoung cfg pd.currentOdometry)).map
          (refreshStopObstacle P decimatedTrajPoints distToBumper),
        { m with stopPointcloudObstacleHistory :=
          m.stopPointcloudObstacleHistory.filter (isYoung cfg pd.currentOdometry) ++
            pointCloudStopObstacles P cfg pd decimatedTrajPoints distToBumper egoIdx }) := by
  simp only [filterStopObstacleForPointCloud, huse, Bool.not_true, Bool.false_eq_true, ↓reduceIte]
  rw [historyLoop_of_pass P cfg _ _ _ _ _ _ _ fuel hfuel hpass]
  simp

end Filter

/-- A history entry five metres beside the trajectory, with a half-metre margin and a one-second
hold time, on the cycle it was recorded: no amount of fuel lets the filter return. -/
theorem filterStopObstacleForPointCloud_diverges_on_far_entry (fuel : ℕ) :
    @filterStopObstacleForPointCloud Unit
      { (default : Primitives) with calcLateralOffset := fun _ _ => 5 }
      { (default : Config) with obstacleFilteringParam :=
          { (default : ObstacleFilteringParam) with
            usePointcloud := true, maxLatMargin := 1 / 2, stopObstacleHoldTimeThreshold := 1 } }
      default [] 0 0 fuel { ObstacleStopModule.initial () with stopPointcloudObstacleHistory := [default] } =
      none := by
  refine filterStopObstacleForPointCloud_eq_none_of_stuck _ _ _ _ _ _ fuel rfl
    (List.mem_singleton_self _) ⟨?_, ?_⟩
  · show (!decide ((1 : ℚ) ≤ seconds (0 - 0))) = true
    simp [seconds]
  · show (!decide ((1 / 2 : ℚ) ≤ |5| - 0) && _) = false
    norm_num

end AutowarePlanning.ObstacleStop
