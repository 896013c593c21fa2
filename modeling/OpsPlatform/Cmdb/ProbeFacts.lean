/-
What a sync leaves of a probe (`UpsertAssetProbeSnapshot` in `internal/cmdb/repository.go` next to
`UpsertAsset` in `internal/cmdb/aws_writer.go`).

Both write the column `system_tags` of an asset.  A probe merges the keys of its summary into it,
and `UpsertAsset` assigns it: what the probe found stays until an item with the key of the asset is
stored.
-/
import OpsPlatform.Cmdb.AwsCuration
import OpsPlatform.Cmdb.ProbeSnapshot

namespace OpsPlatform.Cmdb

open Lib Lib.Run Lib.Table Lib.Text SshProxy

/-- A call of `UpsertAsset`. -/
structure SyncCall where
  now : Time
  newId : Uuid
  item : AssetUpsert

/-- The row of the item. -/
def SyncCall.observed (c : SyncCall) : AssetRow := observedAsset c.now c.newId c.item.withDefaults

/-- A call that fails changes nothing. -/
def syncStep (db : Db) (c : SyncCall) : Db :=
  match upsertAsset db c.now c.newId c.item with
  | .ok db' => db'
  | .error _ => db

/-- The item is stored in the row `r`: it is accepted, it has the key of the row, and the indexes
admit the row when it is refreshed. -/
def storedIn (db : Db) (c : SyncCall) (r : AssetRow) : Bool :=
  trimSpace c.item.externalID != "" && trimSpace c.item.assetType != "" &&
    r.cloudKey == c.observed.cloudKey &&
    !violatesIndex db.cmdbAsset (refreshAsset c.now c.observed r)

/-- The items that the calls store in the row of an id. -/
def storedItems (id : Uuid) : Db → List SyncCall → List AssetUpsert
  | _, [] => []
  | db, c :: calls =>
    let rest := storedItems id (syncStep db c) calls
    if db.cmdbAsset.any fun r => r.id == id && storedIn db c r then c.item :: rest else rest

/-- The tags have the keys of the summary, with its values. -/
def HasFacts (summary : JsonMap) (tags : Json) : Prop :=
  ∀ e ∈ summary, tags.field e.1 = some e.2

/-- The asset of an id has the facts of the summary. -/
def FactsKept (id : Uuid) (summary : JsonMap) (db : Db) : Prop :=
  ∃ r ∈ db.cmdbAsset, r.id = id ∧ HasFacts summary r.systemTags

/-! ### One call -/

section

variable {db : Db} {c : SyncCall} {r : AssetRow}

/-- An item with the key of a row is stored in it, when the indexes admit this. -/
lemma storeObserved_of_key (h : Stored db.cmdbAsset) (hr : r ∈ db.cmdbAsset) (now : Time)
    {new : AssetRow} (hsome : new.cloudKey.isSome = true) (hkey : r.cloudKey = new.cloudKey) :
    storeObserved db now new =
      if violatesIndex db.cmdbAsset (refreshAsset now new r) then .error errDuplicateAsset
      else .ok { db with
                 cmdbAsset := updateWhere (fun a => a.cloudKey == new.cloudKey)
                   (refreshAsset now new) db.cmdbAsset } := by
  have hfind : db.cmdbAsset.find? (fun a => a.cloudKey == new.cloudKey) = some r := by
    refine find?_eq_of_nodup h.ids hr (by simp [hkey]) ?_
    intro r' hr' hhit
    have hkey' : r'.cloudKey = new.cloudKey := eq_of_beq hhit
    rw [h.index r' hr' r hr (hkey' ▸ hsome) (hkey'.trans hkey.symm)]
  rw [storeObserved, hfind]

/-- A row without the key of an item stays as it is. -/
lemma mem_storeObserved {now : Time} {new : AssetRow} {db' : Db} (hr : r ∈ db.cmdbAsset)
    (hkey : r.cloudKey ≠ new.cloudKey) (h : storeObserved db now new = .ok db') :
    r ∈ db'.cmdbAsset := by
  rcases storeObserved_eq_ok h with ⟨-, rfl⟩ | ⟨-, rfl⟩
  · exact List.mem_append_left _ hr
  · exact mem_updateWhere.mpr ⟨r, hr, Or.inr ⟨beq_eq_false_iff_ne.mpr hkey, rfl⟩⟩

/-- What a call leaves in the tags of a row: those of the item when it is stored there, and what
was there otherwise. -/
lemma syncStep_row (h : Stored db.cmdbAsset) (hr : r ∈ db.cmdbAsset) :
    ∃ r' ∈ (syncStep db c).cmdbAsset, r'.id = r.id ∧
      r'.systemTags =
        if storedIn db c r then .obj (c.item.systemTags.getD []) else r.systemTags := by
  have hsame : storedIn db c r = false → r ∈ (syncStep db c).cmdbAsset →
      ∃ r' ∈ (syncStep db c).cmdbAsset, r'.id = r.id ∧
        r'.systemTags =
          if storedIn db c r then .obj (c.item.systemTags.getD []) else r.systemTags :=
    fun hnot hmem => ⟨r, hmem, rfl, by rw [hnot]; rfl⟩
  by_cases hext : trimSpace c.item.externalID = ""
  · refine hsame (by simp [storedIn, hext]) ?_
    rw [syncStep, upsertAsset, if_pos hext]
    exact hr
  by_cases htype : trimSpace c.item.assetType = ""
  · refine hsame (by simp [storedIn, htype]) ?_
    rw [syncStep, upsertAsset, if_neg hext, if_pos htype]
    exact hr
  have hcall : upsertAsset db c.now c.newId c.item = storeObserved db c.now c.observed := by
    rw [upsertAsset, if_neg hext, if_neg htype]
    rfl
  -- the item goes to this row, to another one, or to none
  by_cases hkey : r.cloudKey = c.observed.cloudKey
  · have hsome : c.observed.cloudKey.isSome = true := by
      rw [SyncCall.observed, cloudKey_observedAsset c.now c.newId hext]
      rfl
    have hstore := storeObserved_of_key h hr c.now hsome hkey
    cases hindex : violatesIndex db.cmdbAsset (refreshAsset c.now c.observed r) with
    | true =>
      refine hsame (by simp [storedIn, hindex]) ?_
      rw [syncStep, hcall, hstore, hindex]
      exact hr
    | false =>
      have hstored : storedIn db c r = true := by simp [storedIn, hext, htype, hkey, hindex]
      refine ⟨refreshAsset c.now c.observed r, ?_, rfl, ?_⟩
      · rw [syncStep, hcall, hstore, hindex]
        exact mem_updateWhere.mpr ⟨r, hr, Or.inl ⟨beq_iff_eq.mpr hkey, rfl⟩⟩
      · rw [hstored]
        rfl
  · refine hsame (by simp [storedIn, hkey]) ?_
    rw [syncStep, hcall]
    split
    · next db' hok => exact mem_storeObserved hr hkey hok
    · exact hr

/-- A call keeps the rows as the program stores them. -/
lemma Stored.syncStep (h : Stored db.cmdbAsset) (c : SyncCall) :
    Stored (syncStep db c).cmdbAsset := by
  rw [Cmdb.syncStep]
  split
  · next db' hok =>
    have hattempt : (CurationOp.upsertAsset c.now c.newId c.item).attempt db =
        .ok (db', [observe db c.observed]) := by
      rw [CurationOp.attempt, hok]
      rfl
    rcases upsertAsset_cases h hattempt with ⟨e, new, hnew, hdb', -⟩ | ⟨e, a, a', hreplaces, -⟩
    · rw [hdb']
      exact h.insert hnew
    · exact h.replace hreplaces
  · exact h

/-- The calls leave the tags of the last item that they store in the row. -/
lemma run_syncStep_row (h : Stored db.cmdbAsset) (hr : r ∈ db.cmdbAsset) (calls : List SyncCall) :
    ∃ r' ∈ (run syncStep db calls).cmdbAsset, r'.id = r.id ∧
      r'.systemTags = (((storedItems r.id db calls).getLast?).map fun item =>
        Json.obj (item.systemTags.getD [])).getD r.systemTags := by
  induction calls generalizing db r with
  | nil => exact ⟨r, hr, rfl, rfl⟩
  | cons c calls ih =>
    obtain ⟨r₁, hr₁, hid, htags⟩ := syncStep_row (c := c) h hr
    obtain ⟨r', hr', hid', htags'⟩ := ih (h.syncStep c) hr₁
    refine ⟨r', hr', hid'.trans hid, ?_⟩
    -- only the row itself has its id, so that its own call decides
    have hany : (db.cmdbAsset.any fun r' => r'.id == r.id && storedIn db c r') =
        storedIn db c r := by
      rw [Bool.eq_iff_iff, List.any_eq_true]
      constructor
      · rintro ⟨r₂, hr₂, hhit⟩
        rw [Bool.and_eq_true, beq_iff_eq] at hhit
        rw [← List.inj_on_of_nodup_map h.ids hr₂ hr hhit.1]
        exact hhit.2
      · intro hstored
        exact ⟨r, hr, by simp [hstored]⟩
    rw [htags', htags, hid, storedItems, hany]
    cases hstored : storedIn db c r with
    | false => rfl
    | true =>
      rw [if_pos rfl, if_pos rfl, List.getLast?_cons]
      cases (storedItems r.id (syncStep db c) calls).getLast? with
      | none => rfl
      | some item => rfl

end

/-! ### A probe, and the calls after it -/

/-- An update that keeps the keys and the trimmed texts keeps the rows as the program stores
them. -/
lemma Stored.map {assets : List AssetRow} (h : Stored assets) {g : AssetRow → AssetRow}
    (hid : ∀ a, (g a).id = a.id) (hkey : ∀ a, (g a).cloudKey = a.cloudKey)
    (htrimmed : ∀ a, Trimmed a → Trimmed (g a)) : Stored (assets.map g) where
  ids := by
    rw [List.map_map]
    refine (List.map_congr_left fun a _ => ?_) ▸ h.ids
    exact (hid a).symm
  index := by
    intro a ha b hb hsome heq
    obtain ⟨a₀, ha₀, rfl⟩ := List.mem_map.mp ha
    obtain ⟨b₀, hb₀, rfl⟩ := List.mem_map.mp hb
    rw [hkey] at hsome heq
    rw [hkey] at heq
    rw [h.index a₀ ha₀ b₀ hb₀ hsome heq]
  trimmed := by
    intro a ha
    obtain ⟨a₀, ha₀, rfl⟩ := List.mem_map.mp ha
    exact htrimmed a₀ (h.trimmed a₀ ha₀)

lemma Stored.updateWhere_mergeSummary {assets : List AssetRow} (h : Stored assets) (id : Uuid)
    (now : Time) (summary : JsonMap) :
    Stored (updateWhere (·.id == id) (mergeSummary now summary) assets) := by
  refine h.map ?_ ?_ ?_
  · intro a
    split <;> rfl
  · intro a
    split <;> rfl
  · intro a ha
    split
    · exact ⟨ha.owner, ha.businessUnit, ha.criticality⟩
    · exact ha

/-- A summary is merged with all its keys. -/
lemma hasFacts_concat {summary fields : JsonMap} (h : (summary.map Prod.fst).Nodup) :
    HasFacts summary (Json.concat (.obj fields) (.obj summary)) := by
  intro e he
  show (Assoc.merge fields summary).lookup e.1 = some e.2
  rw [Assoc.lookup_merge h, (Assoc.lookup_eq_some_iff h).mpr he]
  rfl

/-- **What the probe found stays until a sync stores the asset again.**  A probe has merged its
summary into the tags of an asset, which are an object as every writer stores them.  After any
sequence of calls of `UpsertAsset` the keys of the summary have the values of the probe if and only
if none of the calls is stored in the row, or the last one that is has them among its own
`SystemTags`. -/
theorem probe_facts_kept_iff {db db' : Db} (hstored : Stored db.cmdbAsset) {a : AssetRow}
    (ha : a ∈ db.cmdbAsset) (htags : ∃ fields, a.systemTags = .obj fields) {assetID : String}
    (hid : Uuid.parse assetID = some a.id) {marshalTime : Time → String} {w : SnapshotWrites}
    {req : UpsertAssetProbeSnapshotRequest} {snapshot : ProbeSnapshotRow}
    (hprobe : upsertAssetProbeSnapshot db marshalTime w assetID req = .ok (db', snapshot))
    (hsummarized : w.summarized = true) (calls : List SyncCall) :
    FactsKept a.id (probeSummary marshalTime snapshot) (run syncStep db' calls) ↔
      ∀ item ∈ (storedItems a.id db' calls).getLast?,
        HasFacts (probeSummary marshalTime snapshot) (.obj (item.systemTags.getD [])) := by
  obtain ⟨id, hid', -, -, hdb'⟩ := upsertAssetProbeSnapshot_eq_ok hprobe
  obtain rfl : a.id = id := Option.some.inj (hid.symm.trans hid')
  obtain ⟨fields, hfields⟩ := htags
  have hassets : db'.cmdbAsset = updateWhere (·.id == a.id)
      (mergeSummary w.summarizedAt (probeSummary marshalTime snapshot)) db.cmdbAsset := by
    rw [hdb', hsummarized]
    rfl
  have hstored' : Stored db'.cmdbAsset := by
    rw [hassets]
    exact hstored.updateWhere_mergeSummary _ _ _
  -- the row after the probe, and the row after the calls
  obtain ⟨probed, hprobed, hprobedId, hfacts⟩ : ∃ probed ∈ db'.cmdbAsset, probed.id = a.id ∧
      HasFacts (probeSummary marshalTime snapshot) probed.systemTags := by
    refine ⟨mergeSummary w.summarizedAt (probeSummary marshalTime snapshot) a, ?_, rfl, ?_⟩
    · rw [hassets]
      exact mem_updateWhere.mpr ⟨a, ha, Or.inl ⟨by simp, rfl⟩⟩
    · show HasFacts _ (a.systemTags.concat _)
      rw [hfields]
      exact hasFacts_concat (nodup_probeSummary marshalTime snapshot)
  obtain ⟨r, hr, hrid, hrtags⟩ := run_syncStep_row hstored' hprobed calls
  rw [hprobedId] at hrid hrtags
  have hids : ((run syncStep db' calls).cmdbAsset.map (·.id)).Nodup :=
    (invariant (I := fun db : Db => Stored db.cmdbAsset) (fun _ c h => h.syncStep c) hstored'
      calls).ids
  have hkept : FactsKept a.id (probeSummary marshalTime snapshot) (run syncStep db' calls) ↔
      HasFacts (probeSummary marshalTime snapshot) r.systemTags := by
    constructor
    · rintro ⟨r', hr', hid', hfacts'⟩
      rw [List.inj_on_of_nodup_map hids hr hr' (hrid.trans hid'.symm)]
      exact hfacts'
    · exact fun hfacts' => ⟨r, hr, hrid, hfacts'⟩
  rw [hkept, hrtags]
  cases (storedItems a.id db' calls).getLast? with
  | none => simpa using hfacts
  | some item => simp

/-- An instance as a sync has stored it, with a tag of its own. -/
def probedInstance : AssetRow :=
  { id := Uuid.replicate 1, type := "aws_ec2_instance", name := "web-1", source := "aws"
    externalId := some "i-1", accountId := "111", region := "eu-west-1"
    systemTags := .obj [("engine", .str "xen")] }

/-- The probe of `probedInstance`. -/
def instanceProbe : UpsertAssetProbeSnapshotRequest := { osName := "Linux", kernel := "6.1" }

/-- What the sync sees of `externalID`. -/
def resync (externalID : String) : SyncCall :=
  { now := 3, newId := Uuid.replicate 2
    item := { assetType := "aws_ec2_instance", externalID, accountID := "111"
              region := "eu-west-1", systemTags := some [("engine", .str "xen")] } }

/-- A clock that shows one time. -/
def noonClock (_ : Time) : String := "2026-01-01T12:00:00Z"

/-- The writes of `instanceProbe`. -/
def instanceWrites : SnapshotWrites :=
  { newId := Uuid.replicate 3, insertedAt := 1, summarizedAt := 2 }

/-- The next sync that sees the instance takes the facts away. -/
theorem sync_drops_probe_facts :
    ∃ db' snapshot,
      upsertAssetProbeSnapshot { cmdbAsset := [probedInstance] } noonClock instanceWrites
          (Uuid.replicate 1).toText instanceProbe = .ok (db', snapshot) ∧
        FactsKept (Uuid.replicate 1) (probeSummary noonClock snapshot) db' ∧
        ¬ FactsKept (Uuid.replicate 1) (probeSummary noonClock snapshot)
            (run syncStep db' [resync "i-1"]) := by
  refine ⟨_, _, rfl, ⟨_, List.mem_singleton.mpr rfl, rfl, ?_⟩, ?_⟩
  · exact hasFacts_concat (nodup_probeSummary _ _)
  · rintro ⟨r, hr, -, hfacts⟩
    rw [List.mem_singleton.mp hr] at hfacts
    cases hfacts ("os_name", _) (List.mem_cons_self ..)

/-- A sync that sees another instance leaves the facts alone. -/
theorem probe_facts_kept_iff_other_instance :
    ∃ db' snapshot,
      upsertAssetProbeSnapshot { cmdbAsset := [probedInstance] } noonClock instanceWrites
          (Uuid.replicate 1).toText instanceProbe = .ok (db', snapshot) ∧
        (run syncStep db' [resync "i-2"]).cmdbAsset.length = 2 ∧
        FactsKept (Uuid.replicate 1) (probeSummary noonClock snapshot)
          (run syncStep db' [resync "i-2"]) := by
  have hstored : Stored ({ cmdbAsset := [probedInstance] } : Db).cmdbAsset := by
    refine ⟨by simp, ?_, ?_⟩
    · intro a ha b hb _ _
      rw [List.mem_singleton.mp ha, List.mem_singleton.mp hb]
    · intro a ha
      rw [List.mem_singleton.mp ha]
      exact ⟨by decide, by decide, by decide⟩
  have hprobe : ∀ db' snapshot, upsertAssetProbeSnapshot { cmdbAsset := [probedInstance] }
      noonClock instanceWrites (Uuid.replicate 1).toText instanceProbe = .ok (db', snapshot) →
      storedItems (Uuid.replicate 1) db' [resync "i-2"] = [] →
      FactsKept (Uuid.replicate 1) (probeSummary noonClock snapshot)
        (run syncStep db' [resync "i-2"]) := by
    intro db' snapshot hok hnone
    refine (probe_facts_kept_iff hstored (List.mem_singleton_self _) ⟨_, rfl⟩ (Uuid.parse_toText _)
      hok (by rfl) _).mpr fun item hitem => ?_
    change item ∈ (storedItems (Uuid.replicate 1) db' [resync "i-2"]).getLast? at hitem
    rw [hnone] at hitem
    cases hitem
  exact ⟨_, _, rfl, rfl, hprobe _ _ rfl rfl⟩

end OpsPlatform.Cmdb
