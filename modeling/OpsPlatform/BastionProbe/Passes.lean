/-
Passes of the probe loop (`RunOnce` and `probeTarget` in `internal/bastionprobe/service.go`, with
`ListBastionProbeTargets` and `UpsertAssetProbeSnapshot` in `internal/cmdb/repository.go`).

A pass lists the assets that were updated last, and a probe updates its asset.  What one pass has
probed is therefore what the next one lists: the window of a batch does not move.

The goroutines of a pass write to the rows of different assets, so that it does not matter in which
order their statements are executed.
-/
import OpsPlatform.BastionProbe.RunOnce
import OpsPlatform.Cmdb.ProbeSnapshot
import OpsPlatform.Lib.Run

namespace OpsPlatform.BastionProbe

open Lib Lib.Run Lib.Table Lib.Text Cmdb SshProxy

/-- What a pass meets. -/
structure Pass where
  /-- what the service runs on; the database is that of the pass -/
  env : Env
  /-- what the commands or the queries on an open connection return -/
  collect : BastionProbeTarget → Except String UpsertAssetProbeSnapshotRequest
  ctxErr : ℕ → Option String
  /-- the order in which the goroutines come to an end -/
  finished : List BastionProbeTarget → List BastionProbeTarget
  finished_perm : ∀ targets, (finished targets).Perm targets
  marshalTime : Time → String
  writes : BastionProbeTarget → SnapshotWrites
  /-- when the status of the connection is written -/
  statusAt : BastionProbeTarget → Time

namespace Pass

variable (p : Pass)

/-- The call of `UpsertAssetProbeSnapshot`. -/
def persist (db : Db) (t : BastionProbeTarget) (snapshot : UpsertAssetProbeSnapshotRequest) :
    Except String (Db × ProbeSnapshotRow) :=
  upsertAssetProbeSnapshot db p.marshalTime (p.writes t) t.assetID
    { snapshot with collectedBy := "bastion-probe-v1" }

/-- What a probe does on an open connection. -/
def collectAndPersist (db : Db) (t : BastionProbeTarget) : Except String Unit := do
  let snapshot ← p.collect t
  let _ ← p.persist db t snapshot
  .ok ()

/-- `RunOnce`. -/
def runOnce (limit : Int) (db : Db) : ProbeRun :=
  BastionProbe.runOnce { p.env with db } (p.collectAndPersist db) p.finished p.ctxErr limit

/-- `probeTarget`, for what it writes; the pass has begun with the database `start`. -/
def write (start db : Db) (t : BastionProbeTarget) : Db :=
  match (probeTarget { p.env with db := start } (p.collectAndPersist start) t).result with
  | .error e => updateConnectionProbeStatus db (p.statusAt t) t.assetID "failed" e
  | .ok () =>
    match (p.collect t).bind (p.persist db t) with
    | .error e => updateConnectionProbeStatus db (p.statusAt t) t.assetID "failed" e
    | .ok (db', _) => updateConnectionProbeStatus db' (p.statusAt t) t.assetID "success" ""

/-- The database after the pass. -/
def step (limit : Int) (db : Db) : Db :=
  (p.finished (p.runOnce limit db).started).foldl (p.write db) db

/-- Every listed probe succeeds, and the clock of the server goes forward. -/
structure Succeeds (limit : Int) (db : Db) : Prop where
  result : (p.runOnce limit db).result = .ok ()
  clock : ∀ t ∈ (p.runOnce limit db).started, ∀ a ∈ db.cmdbAsset,
    a.updatedAt < (p.writes t).summarizedAt

end Pass

/-- The assets that the passes have probed. -/
def probedIn (limit : Int) : Db → List Pass → List String
  | _, [] => []
  | db, p :: passes =>
    (p.runOnce limit db).started.map (·.assetID) ++ probedIn limit (p.step limit db) passes

/-! ### The window of a pass -/

/-- The live assets with a bastion-enabled connection, in the order of the tables. -/
def enabledPairs (db : Db) : List (AssetRow × ConnectionRow) :=
  db.cmdbAssetConnection.flatMap fun c =>
    (db.cmdbAsset.filter fun a => a.id == c.assetId && a.live && c.bastionEnabled).map
      fun a => (a, c)

/-- The order of `ListBastionProbeTargets`. -/
def latestFirst (x y : AssetRow × ConnectionRow) : Prop := y.1.updatedAt ≤ x.1.updatedAt

instance : DecidableRel latestFirst := fun x y =>
  inferInstanceAs (Decidable (y.1.updatedAt ≤ x.1.updatedAt))

instance : Std.Total latestFirst := ⟨fun x y => le_total y.1.updatedAt x.1.updatedAt⟩

instance : IsTrans _ latestFirst := ⟨fun _ _ _ hxy hyz => le_trans hyz hxy⟩

lemma enabledConnections_eq (db : Db) :
    enabledConnections db = (enabledPairs db).insertionSort latestFirst := rfl

/-- The assets that a pass lists. -/
def window (limit : Int) (db : Db) : List Uuid :=
  ((enabledConnections db).take (batchLimit limit)).map (·.1.id)

lemma assetID_targetOfRow {db : Db} {decrypt : String → Except String String} {a : AssetRow}
    {c : ConnectionRow} {t : BastionProbeTarget} (h : targetOfRow db decrypt a c = .ok t) :
    t.assetID = a.id.toText := by
  obtain ⟨proxy, password, privateKey, passphrase, -, -, -, -, rfl⟩ := targetOfRow_eq_ok h
  rfl

lemma assetID_of_listed {db : Db} {decrypt : String → Except String String} {limit : Int}
    {targets : List BastionProbeTarget}
    (h : listBastionProbeTargets db decrypt limit = .ok targets) :
    targets.map (·.assetID) = (window limit db).map Uuid.toText := by
  rw [listBastionProbeTargets_eq] at h
  rw [window]
  generalize (enabledConnections db).take (batchLimit limit) = rows at h ⊢
  have hrows := Except.map_eq_of_mapM h
  clear h
  induction rows generalizing targets with
  | nil =>
    obtain rfl : targets = [] := by simpa using hrows.symm
    rfl
  | cons x rows ih =>
    rcases targets with _ | ⟨t, targets⟩
    · cases hrows
    · rw [List.map_cons, List.map_cons, List.cons.injEq] at hrows
      rw [List.map_cons, List.map_cons, List.map_cons, assetID_targetOfRow hrows.1, ih hrows.2]

/-- A loop that no context has stopped has started all. -/
lemma startProbes_of_ok {ctxErr : ℕ → Option String} {i : ℕ}
    {targets started : List BastionProbeTarget}
    (h : startProbes ctxErr i targets = (started, .ok ())) : started = targets := by
  induction targets generalizing i started with
  | nil => exact (Prod.mk.inj h).1.symm
  | cons t targets ih =>
    rw [startProbes] at h
    split at h
    · cases h
    · obtain ⟨hstarted, hok⟩ := Prod.mk.inj h
      have hrest : (startProbes ctxErr (i + 1) targets).1 = targets := ih (Prod.ext rfl hok)
      exact hstarted.symm.trans (congrArg (t :: ·) hrest)

/-- A run that returns no error has started the probes of all that it has listed. -/
lemma started_of_result {env : Env} {collect : BastionProbeTarget → Except String Unit}
    {finished : List BastionProbeTarget → List BastionProbeTarget} {ctxErr : ℕ → Option String}
    {limit : Int} (h : (runOnce env collect finished ctxErr limit).result = .ok ()) :
    listBastionProbeTargets env.db env.decrypt limit =
      .ok (runOnce env collect finished ctxErr limit).started := by
  rw [runOnce] at h ⊢
  cases hlist : listBastionProbeTargets env.db env.decrypt limit with
  | error e =>
    rw [hlist] at h
    cases h
  | ok targets =>
    rw [hlist] at h
    dsimp only at h ⊢
    split
    · next hempty => rw [List.length_eq_zero_iff.mp hempty]
    · next hnonempty =>
      rw [if_neg hnonempty] at h
      rcases hstart : startProbes ctxErr 0 targets with ⟨started, e | u⟩
      · rw [hstart] at h
        cases h
      · rw [startProbes_of_ok hstart]

/-- A pass in which every probe succeeds has probed its window. -/
lemma Pass.assetID_started {p : Pass} {limit : Int} {db : Db}
    (h : (p.runOnce limit db).result = .ok ()) :
    (p.runOnce limit db).started.map (·.assetID) = (window limit db).map Uuid.toText :=
  assetID_of_listed (started_of_result h)

/-! ### What a pass writes -/

/-- Rows are kept under their keys, and only the assets of `ids` get a new time, one of `times`. -/
structure Touches (ids : List Uuid) (times : Time → Prop) (db db' : Db) : Prop where
  assets : ∃ g : AssetRow → AssetRow, db'.cmdbAsset = db.cmdbAsset.map g ∧
    ∀ a, (g a).id = a.id ∧ (g a).live = a.live ∧
      ((g a).updatedAt = a.updatedAt ∨ a.id ∈ ids ∧ times (g a).updatedAt)
  connections : ∃ h : ConnectionRow → ConnectionRow,
    db'.cmdbAssetConnection = db.cmdbAssetConnection.map h ∧
      ∀ c, (h c).assetId = c.assetId ∧ (h c).bastionEnabled = c.bastionEnabled

section

variable {ids : List Uuid} {times : Time → Prop} {db db' db'' : Db}

lemma Touches.refl (db : Db) : Touches ids times db db where
  assets := ⟨id, (List.map_id _).symm, fun _ => ⟨rfl, rfl, Or.inl rfl⟩⟩
  connections := ⟨id, (List.map_id _).symm, fun _ => ⟨rfl, rfl⟩⟩

lemma Touches.trans (h : Touches ids times db db') (h' : Touches ids times db' db'') :
    Touches ids times db db'' := by
  obtain ⟨⟨g, hassets, hg⟩, k, hconnections, hk⟩ := h
  obtain ⟨⟨g', hassets', hg'⟩, k', hconnections', hk'⟩ := h'
  refine ⟨⟨g' ∘ g, by rw [hassets', hassets, List.map_map], fun a => ⟨?_, ?_, ?_⟩⟩,
    k' ∘ k, by rw [hconnections', hconnections, List.map_map], fun c => ⟨?_, ?_⟩⟩
  · exact (hg' (g a)).1.trans (hg a).1
  · exact (hg' (g a)).2.1.trans (hg a).2.1
  · rcases (hg' (g a)).2.2 with hsame | ⟨hid, htime⟩
    · rcases (hg a).2.2 with hsame' | ⟨hid, htime⟩
      · exact Or.inl (hsame.trans hsame')
      · refine Or.inr ⟨hid, ?_⟩
        show times (g' (g a)).updatedAt
        rw [hsame]
        exact htime
    · rw [(hg a).1] at hid
      exact Or.inr ⟨hid, htime⟩
  · exact (hk' (k c)).1.trans (hk c).1
  · exact (hk' (k c)).2.trans (hk c).2

lemma touches_updateConnectionProbeStatus (db : Db) (now : Time)
    (assetID status message : String) :
    Touches ids times db (updateConnectionProbeStatus db now assetID status message) := by
  rw [updateConnectionProbeStatus]
  split
  · exact Touches.refl db
  · refine ⟨⟨id, (List.map_id _).symm, fun _ => ⟨rfl, rfl, Or.inl rfl⟩⟩, _, rfl, ?_⟩
    intro c
    split <;> exact ⟨rfl, rfl⟩

lemma touches_upsertAssetProbeSnapshot {marshalTime : Time → String} {w : SnapshotWrites}
    {assetID : String} {req : UpsertAssetProbeSnapshotRequest} {snapshot : ProbeSnapshotRow}
    (h : upsertAssetProbeSnapshot db marshalTime w assetID req = .ok (db', snapshot))
    (hid : ∀ id, Uuid.parse assetID = some id → id ∈ ids) (htime : times w.summarizedAt) :
    Touches ids times db db' := by
  obtain ⟨id, hparse, -, -, hdb'⟩ := upsertAssetProbeSnapshot_eq_ok h
  have hsame : Touches ids times db db := Touches.refl db
  rw [hdb']
  cases hsummarized : w.summarized with
  | false => exact ⟨hsame.assets, hsame.connections⟩
  | true =>
    refine ⟨⟨_, rfl, ?_⟩, hsame.connections⟩
    intro a
    split
    · next hhit =>
      refine ⟨rfl, rfl, Or.inr ⟨?_, htime⟩⟩
      rw [eq_of_beq hhit]
      exact hid id hparse
    · exact ⟨rfl, rfl, Or.inl rfl⟩

/-- The writes of one probe. -/
lemma Pass.touches_write (p : Pass) (start : Db) {t : BastionProbeTarget}
    (hid : ∀ id, Uuid.parse t.assetID = some id → id ∈ ids)
    (htime : times (p.writes t).summarizedAt) : Touches ids times db (p.write start db t) := by
  rw [Pass.write]
  split
  · exact touches_updateConnectionProbeStatus _ _ _ _ _
  · split
    · exact touches_updateConnectionProbeStatus _ _ _ _ _
    · next hok =>
      obtain ⟨snapshot, -, hpersist⟩ := Except.bind_eq_ok.mp hok
      exact (touches_upsertAssetProbeSnapshot hpersist hid htime).trans
        (touches_updateConnectionProbeStatus _ _ _ _ _)

lemma Pass.touches_foldl_write (p : Pass) (start : Db) {targets : List BastionProbeTarget}
    (hids : ∀ t ∈ targets, ∀ id, Uuid.parse t.assetID = some id → id ∈ ids)
    (htimes : ∀ t ∈ targets, times (p.writes t).summarizedAt) :
    Touches ids times db (targets.foldl (p.write start) db) := by
  induction targets generalizing db with
  | nil => exact Touches.refl db
  | cons t targets ih =>
    rw [List.forall_mem_cons] at hids htimes
    rw [List.foldl_cons]
    exact (p.touches_write start hids.1 htimes.1).trans (ih hids.2 htimes.2)

/-- The writes of a pass. -/
lemma Pass.touches_step {p : Pass} {limit : Int} (h : p.Succeeds limit db) :
    Touches (window limit db) (fun time => ∀ a ∈ db.cmdbAsset, a.updatedAt < time) db
      (p.step limit db) := by
  have hperm := p.finished_perm (p.runOnce limit db).started
  have hids := Pass.assetID_started h.result
  have hclock := h.clock
  rw [Pass.step]
  generalize (p.runOnce limit db).started = started at hperm hids hclock ⊢
  refine p.touches_foldl_write db ?_ fun t ht => hclock t (hperm.mem_iff.mp ht)
  intro t ht id hparse
  have hlisted : t.assetID ∈ (window limit db).map Uuid.toText := by
    rw [← hids]
    exact List.mem_map_of_mem (hperm.mem_iff.mp ht)
  obtain ⟨id', hid', htext⟩ := List.mem_map.mp hlisted
  rw [← htext, Uuid.parse_toText] at hparse
  rw [← Option.some.inj hparse]
  exact hid'

/-- The enabled connections after such a change. -/
lemma Touches.enabledPairs (h : Touches ids times db db') :
    ∃ f : AssetRow × ConnectionRow → AssetRow × ConnectionRow,
      enabledPairs db' = (enabledPairs db).map f ∧ ∀ x, (f x).1.id = x.1.id ∧
        ((f x).1.updatedAt = x.1.updatedAt ∨ x.1.id ∈ ids ∧ times (f x).1.updatedAt) := by
  obtain ⟨⟨g, hassets, hg⟩, k, hconnections, hk⟩ := h
  refine ⟨fun x => (g x.1, k x.2), ?_, fun x => ⟨(hg x.1).1, (hg x.1).2.2⟩⟩
  rw [BastionProbe.enabledPairs, BastionProbe.enabledPairs, hassets, hconnections,
    List.flatMap_map, List.map_flatMap]
  refine List.flatMap_congr fun c _ => ?_
  rw [List.filter_map, List.map_map, List.map_map]
  have hfilter : ((fun a => a.id == (k c).assetId && a.live && (k c).bastionEnabled) ∘ g) =
      fun a : AssetRow => a.id == c.assetId && a.live && c.bastionEnabled := by
    funext a
    simp only [Function.comp_apply, (hg a).1, (hg a).2.1, (hk c).1, (hk c).2]
  rw [hfilter]
  rfl

end

/-! ### The window does not move -/

/-- The enabled connections are those of the assets `enabled`, and those of `ids` were updated
after all the others. -/
structure Above (ids enabled : List Uuid) (db : Db) : Prop where
  enabled : (enabledPairs db).map (·.1.id) = enabled
  above : ∀ x ∈ enabledPairs db, ∀ y ∈ enabledPairs db, x.1.id ∈ ids → y.1.id ∉ ids →
    y.1.updatedAt < x.1.updatedAt

section

variable {ids enabled : List Uuid} {limit : Int} {db : Db}

/-- A batch for as many assets lists these. -/
lemma Above.mem_of_window (h : Above ids enabled db)
    (hcount : enabled.countP (fun id => decide (id ∈ ids)) = batchLimit limit) :
    ∀ id ∈ window limit db, id ∈ ids := by
  intro id hid
  obtain ⟨x, hx, rfl⟩ := List.mem_map.mp hid
  have hcount' : (enabledPairs db).countP (fun x => decide (x.1.id ∈ ids)) = batchLimit limit := by
    rw [← hcount, ← h.enabled, List.countP_map]
    rfl
  rw [enabledConnections_eq, ← hcount', mem_take_insertionSort] at hx
  · exact of_decide_eq_true hx.2
  · intro x hx y hy hin hout hle
    have hlt := h.above x hx y hy (of_decide_eq_true hin) (of_decide_eq_false hout)
    exact absurd hle (not_le.mpr hlt)

/-- A pass leaves the assets of its window above all others. -/
lemma Above.step {p : Pass} (h : Above ids enabled db)
    (hcount : enabled.countP (fun id => decide (id ∈ ids)) = batchLimit limit)
    (hp : p.Succeeds limit db) : Above ids enabled (p.step limit db) := by
  obtain ⟨f, hpairs, hf⟩ := (Pass.touches_step hp).enabledPairs
  have hwindow := h.mem_of_window hcount
  refine ⟨?_, ?_⟩
  · rw [hpairs, List.map_map, ← h.enabled]
    exact List.map_congr_left fun x _ => (hf x).1
  · intro x' hx' y' hy' hin hout
    rw [hpairs] at hx' hy'
    obtain ⟨x, hx, rfl⟩ := List.mem_map.mp hx'
    obtain ⟨y, hy, rfl⟩ := List.mem_map.mp hy'
    rw [(hf x).1] at hin
    rw [(hf y).1] at hout
    -- an asset outside has kept its time, and one inside has got a later one or kept its own
    have hy : (f y).1.updatedAt = y.1.updatedAt ∧ y ∈ enabledPairs db := by
      rcases (hf y).2 with hsame | ⟨hid, -⟩
      · exact ⟨hsame, hy⟩
      · exact absurd (hwindow _ hid) hout
    rw [hy.1]
    rcases (hf x).2 with hsame | ⟨-, hlater⟩
    · rw [hsame]
      exact h.above x hx y hy.2 hin hout
    · refine hlater y.1 ?_
      obtain ⟨c, -, hc⟩ := List.mem_flatMap.mp hy.2
      obtain ⟨a, ha, hpair⟩ := List.mem_map.mp hc
      rw [← hpair]
      exact List.mem_of_mem_filter ha

/-- The passes probe no other assets. -/
lemma Above.mem_of_probedIn (h : Above ids enabled db)
    (hcount : enabled.countP (fun id => decide (id ∈ ids)) = batchLimit limit)
    {passes : List Pass}
    (hpasses : Along (fun db p => p.step limit db) (fun db p => p.Succeeds limit db) db passes) :
    ∀ id, id.toText ∈ probedIn limit db passes → id ∈ ids := by
  induction passes generalizing db with
  | nil =>
    intro id hid
    cases hid
  | cons p passes ih =>
    intro id hid
    rw [probedIn, List.mem_append, Pass.assetID_started hpasses.1.result] at hid
    rcases hid with hid | hid
    · obtain ⟨id', hid', htext⟩ := List.mem_map.mp hid
      rw [← Uuid.toText_inj.mp htext]
      exact h.mem_of_window hcount id' hid'
    · exact ih (h.step hcount hpasses.1) hpasses.2 id hid

/-- As many elements of a list as stand among its first. -/
lemma countP_mem_take {α : Type*} [DecidableEq α] {l : List α} (h : l.Nodup) {n : ℕ}
    (hn : n ≤ l.length) : l.countP (fun a => decide (a ∈ l.take n)) = n := by
  have hsplit := List.take_append_drop n l
  have hdisjoint := List.disjoint_of_nodup_append (hsplit.symm ▸ h)
  have hfirst : (l.take n).countP (fun a => decide (a ∈ l.take n)) = n := by
    rw [List.countP_eq_length.mpr fun a ha => decide_eq_true ha, List.length_take,
      Nat.min_eq_left hn]
  have hrest : (l.drop n).countP (fun a => decide (a ∈ l.take n)) = 0 := by
    rw [List.countP_eq_zero]
    intro a ha hmem
    exact hdisjoint (of_decide_eq_true hmem) ha
  calc l.countP (fun a => decide (a ∈ l.take n))
      = (l.take n ++ l.drop n).countP (fun a => decide (a ∈ l.take n)) := by rw [hsplit]
    _ = n := by rw [List.countP_append, hfirst, hrest, Nat.add_zero]

/-- An asset has one connection. -/
lemma nodup_enabledConnections_id (hassets : (db.cmdbAsset.map (·.id)).Nodup)
    (hconnections : (db.cmdbAssetConnection.map (·.assetId)).Nodup) :
    ((enabledConnections db).map (·.1.id)).Nodup := by
  have hperm : ((enabledConnections db).map (·.1.id)).Perm ((enabledPairs db).map (·.1.id)) :=
    (List.perm_insertionSort latestFirst (enabledPairs db)).map _
  rw [hperm.nodup_iff, enabledPairs, List.map_flatMap, List.nodup_flatMap]
  constructor
  · intro c _
    rw [List.map_map]
    exact hassets.sublist (List.filter_sublist.map _)
  · rw [List.nodup_iff_pairwise_ne, List.pairwise_map] at hconnections
    refine hconnections.imp fun {c c'} hne => ?_
    intro id hid hid'
    dsimp only at hid hid'
    rw [List.map_map] at hid hid'
    obtain ⟨a, ha, rfl⟩ := List.mem_map.mp hid
    obtain ⟨a', ha', hsame⟩ := List.mem_map.mp hid'
    -- the asset of each connection is the one that the connection names
    have hkey : a.id = c.assetId := by
      have := (List.mem_filter.mp ha).2
      simp only [Bool.and_eq_true, beq_iff_eq] at this
      exact this.1.1
    have hkey' : a'.id = c'.assetId := by
      have := (List.mem_filter.mp ha').2
      simp only [Bool.and_eq_true, beq_iff_eq] at this
      exact this.1.1
    exact hne (hkey.symm.trans (hsame.symm.trans hkey'))

/-- Assets with different times: those of the first window stand above the others. -/
lemma above_window (hids : ((enabledConnections db).map (·.1.id)).Nodup)
    (hdistinct : ((enabledConnections db).map (·.1.updatedAt)).Nodup) :
    Above (window limit db) ((enabledPairs db).map (·.1.id)) db := by
  refine ⟨rfl, ?_⟩
  intro x hx y hy hin hout
  have hsorted := List.pairwise_insertionSort latestFirst (enabledPairs db)
  have hperm := List.perm_insertionSort latestFirst (enabledPairs db)
  rw [← enabledConnections_eq] at hsorted hperm
  have hx' := hperm.mem_iff.mpr hx
  have hy' := hperm.mem_iff.mpr hy
  have hne : x ≠ y := by
    rintro rfl
    exact hout hin
  have hxtake : x ∈ (enabledConnections db).take (batchLimit limit) := by
    obtain ⟨z, hz, hid⟩ := List.mem_map.mp hin
    rw [← List.inj_on_of_nodup_map hids (List.mem_of_mem_take hz) hx' hid]
    exact hz
  have hydrop : y ∈ (enabledConnections db).drop (batchLimit limit) := by
    rw [← List.take_append_drop (batchLimit limit) (enabledConnections db), List.mem_append] at hy'
    exact hy'.resolve_left fun hy' => hout (List.mem_map_of_mem hy')
  rw [← List.take_append_drop (batchLimit limit) (enabledConnections db),
    List.pairwise_append] at hsorted
  have hle : y.1.updatedAt ≤ x.1.updatedAt := hsorted.2.2 x hxtake y hydrop
  refine lt_of_le_of_ne hle fun htime => hne ?_
  exact (List.inj_on_of_nodup_map hdistinct hy' hx' htime).symm

end

/-- **Every target gets probed when one batch holds them all.**  Let the `n` enabled connections of
live assets have assets with different times of their last update, and let `limit` be a size that is
taken as it is.  Along any sequence of at least `⌈n / limit⌉` passes in which every listed probe
succeeds and the clock of the server goes forward, all `n` assets are probed if and only if
`n ≤ limit`. -/
theorem all_probed_iff {db : Db} (hassets : (db.cmdbAsset.map (·.id)).Nodup)
    (hconnections : (db.cmdbAssetConnection.map (·.assetId)).Nodup)
    (hdistinct : ((enabledConnections db).map (·.1.updatedAt)).Nodup) {limit : Int}
    (hlimit : 1 ≤ limit ∧ limit ≤ 1000) {passes : List Pass}
    (hcount : (enabledConnections db).length ≤ passes.length * limit.toNat)
    (hpasses : Along (fun db p => p.step limit db) (fun db p => p.Succeeds limit db) db passes) :
    (∀ x ∈ enabledConnections db, x.1.id.toText ∈ probedIn limit db passes) ↔
      (enabledConnections db).length ≤ limit.toNat := by
  have hids := nodup_enabledConnections_id hassets hconnections
  have hbatch : batchLimit limit = limit.toNat := if_pos hlimit
  constructor
  · intro hall
    by_contra hmany
    push Not at hmany
    have hperm : ((enabledConnections db).map (·.1.id)).Perm ((enabledPairs db).map (·.1.id)) :=
      (List.perm_insertionSort latestFirst (enabledPairs db)).map _
    have hwindow : window limit db =
        ((enabledConnections db).map (·.1.id)).take (batchLimit limit) := List.map_take ..
    have hfull : ((enabledPairs db).map (·.1.id)).countP
        (fun id => decide (id ∈ window limit db)) = batchLimit limit := by
      rw [← hperm.countP_eq, hwindow]
      refine countP_mem_take hids ?_
      rw [List.length_map, hbatch]
      exact hmany.le
    -- an asset that the window has no room for is not in it, and no pass gets to it
    have hprobed := (above_window hids hdistinct).mem_of_probedIn hfull hpasses
    obtain ⟨id, hid⟩ : ∃ id, id ∈
        ((enabledConnections db).map (·.1.id)).drop (batchLimit limit) := by
      refine List.exists_mem_of_length_pos ?_
      rw [List.length_drop, List.length_map, hbatch]
      omega
    obtain ⟨x, hx, rfl⟩ := List.mem_map.mp (List.mem_of_mem_drop hid)
    have hin := hprobed _ (hall x hx)
    rw [hwindow] at hin
    rw [← List.take_append_drop (batchLimit limit) ((enabledConnections db).map (·.1.id))] at hids
    exact List.disjoint_of_nodup_append hids hin hid
  · intro hfew x hx
    rcases passes with _ | ⟨p, passes⟩
    · have hempty : (enabledConnections db).length = 0 := by simpa using hcount
      rw [List.length_eq_zero_iff.mp hempty] at hx
      cases hx
    · rw [probedIn, List.mem_append, Pass.assetID_started hpasses.1.result, window, hbatch,
        List.take_of_length_le hfew, List.map_map]
      exact Or.inl (List.mem_map_of_mem hx)

/-- Two servers, the second of which was updated last. -/
def fleet : Db where
  cmdbAsset := [{ id := Uuid.replicate 1, type := "vm", name := "web-1", updatedAt := 1 },
    { id := Uuid.replicate 2, type := "vm", name := "web-2", updatedAt := 2 }]
  cmdbAssetConnection := [
    { id := Uuid.replicate 3, assetId := Uuid.replicate 1, host := "10.0.0.1", username := "root"
      passwordEncrypted := "x" },
    { id := Uuid.replicate 4, assetId := Uuid.replicate 2, host := "10.0.0.2", username := "root"
      passwordEncrypted := "y" }]

/-- A pass in which every probe succeeds, with all its writes at one time. -/
def passAt (now : Time) : Pass where
  env := sampleEnv
  collect _ := .ok { osName := "Linux" }
  ctxErr _ := none
  finished := id
  finished_perm _ := .refl _
  marshalTime _ := "2026-01-01T12:00:00Z"
  writes _ := { newId := Uuid.replicate 5, insertedAt := now, summarizedAt := now }
  statusAt _ := now

lemma succeeds_passAt {now : Time} {limit : Int} {db : Db} {times : List Time}
    (hresult : ((passAt now).runOnce limit db).result = .ok ())
    (htimes : db.cmdbAsset.map (·.updatedAt) = times) (hlater : ∀ time ∈ times, time < now) :
    (passAt now).Succeeds limit db := by
  refine ⟨hresult, fun t _ a ha => hlater a.updatedAt ?_⟩
  rw [← htimes]
  exact List.mem_map_of_mem ha

/-- Two passes for one target each: both of them probe `web-2`. -/
theorem window_does_not_move :
    ((enabledConnections fleet).map (·.1.updatedAt)).Nodup ∧
      Along (fun db p => p.step 1 db) (fun db p => p.Succeeds 1 db) fleet [passAt 10, passAt 20] ∧
      (enabledConnections fleet).length ≤ [passAt 10, passAt 20].length * (1 : Int).toNat ∧
      ¬ ∀ x ∈ enabledConnections fleet,
        x.1.id.toText ∈ probedIn 1 fleet [passAt 10, passAt 20] := by
  have hids : (enabledConnections fleet).map (·.1.id) = [Uuid.replicate 2, Uuid.replicate 1] := by
    rfl
  have hprobed : probedIn 1 fleet [passAt 10, passAt 20] =
      [(Uuid.replicate 2).toText, (Uuid.replicate 2).toText] := by rfl
  refine ⟨by decide, ⟨?_, ?_, trivial⟩, by decide, ?_⟩
  · exact succeeds_passAt (by rfl) (by rfl) (by decide)
  · exact succeeds_passAt (by rfl) (by rfl) (by decide)
  · intro hall
    obtain ⟨x, hx, hid⟩ : ∃ x ∈ enabledConnections fleet, x.1.id = Uuid.replicate 1 := by
      have hmem : Uuid.replicate 1 ∈ (enabledConnections fleet).map (·.1.id) := by
        rw [hids]
        decide
      simpa using hmem
    have hin := hall x hx
    rw [hprobed, hid] at hin
    revert hin
    decide

/-- With room for both, one pass is enough. -/
theorem all_probed_iff_fleet :
    (enabledConnections fleet).length = 2 ∧
      ∀ x ∈ enabledConnections fleet, x.1.id.toText ∈ probedIn 2 fleet [passAt 10] := by
  refine ⟨by decide, (all_probed_iff (by decide) (by decide) (by decide) (by decide) (by decide)
    ?_).mpr (by decide)⟩
  exact ⟨succeeds_passAt (by rfl) (by rfl) (by decide), trivial⟩

end OpsPlatform.BastionProbe
