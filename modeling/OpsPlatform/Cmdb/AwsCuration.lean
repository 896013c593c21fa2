/-
What a sync may and may not change (`UpsertAsset` in `internal/cmdb/aws_writer.go` next to
`CreateAsset`, `UpdateAsset`, `DeleteAsset`, `Promote` and `Demote`).

A sync finds the row of an item by the key of `idx_cmdb_asset_cloud_unique` and refreshes what AWS
knows about.  The columns that people maintain are set when the row is inserted, and from then on
by people only.  A run keeps a log of what was written to which row, the latest first.
-/
import OpsPlatform.Cmdb.AwsWriter
import OpsPlatform.Cmdb.VpcIdentity
import OpsPlatform.Lib.Run

namespace OpsPlatform.Cmdb

open Lib Lib.Run Lib.Table Lib.Text SshProxy

/-- The columns of the key of `idx_cmdb_asset_cloud_unique`. -/
def AssetRow.keyColumns (a : AssetRow) : List String :=
  [a.source, a.accountId, a.region, a.type, a.externalId.getD ""]

/-- What happens to a row of `cmdb_asset`. -/
inductive AssetEvent where
  /-- the row was there at the start, or a user created it -/
  | created (row : AssetRow)
  /-- an item was observed for the first time -/
  | inserted (row : AssetRow)
  /-- an item with the key was observed again -/
  | refreshed (id : Uuid) (key : List String)
  | updated (id : Uuid) (req : UpdateAssetRequest)
  | promotion (id : Uuid) (isVpcProxy : Bool)
  | deleted (id : Uuid)

/-- The row that an item went to, and the key of the item. -/
def AssetEvent.observation : AssetEvent → Option (Uuid × List String)
  | inserted row => some (row.id, row.keyColumns)
  | refreshed id key => some (id, key)
  | _ => none

/-- A request that touches neither the region nor the account. -/
structure CurationRequest where
  req : UpdateAssetRequest
  region : req.region = none
  accountID : req.accountID = none

inductive CurationOp where
  | upsertAsset (now : Time) (newId : Uuid) (item : AssetUpsert)
  | createAsset (now : Time) (newId : Uuid) (req : CreateAssetRequest)
  | updateAsset (now : Time) (assetID : String) (req : CurationRequest)
  | promote (now : Time) (newProxyId : Uuid) (newId : Uuid → Uuid) (assetID : String)
      (opts : PromoteOptions)
  | demote (now : Time) (assetID : String)
  | deleteAsset (now : Time) (assetID : String)

/-- What `UpsertAsset` does with a new row. -/
def observe (db : Db) (new : AssetRow) : AssetEvent :=
  match db.cmdbAsset.find? fun a => a.cloudKey == new.cloudKey with
  | none => .inserted new
  | some a => .refreshed a.id new.keyColumns

/-- The operations, with what they do to the rows of `cmdb_asset`. -/
def CurationOp.attempt (db : Db) : CurationOp → Except String (Db × List AssetEvent)
  | upsertAsset now newId item => do
    let db' ← Cmdb.upsertAsset db now newId item
    .ok (db', [observe db (observedAsset now newId item.withDefaults)])
  | createAsset now newId req => do
    let db' ← Cmdb.createAsset db now newId req
    .ok (db', [.created (assetOfRequest now newId req)])
  | updateAsset now assetID r => do
    let a ← getAsset db assetID
    let db' ← Cmdb.updateAsset db now assetID r.req
    .ok (db', [.updated a.id r.req])
  | promote now newProxyId newId assetID opts => do
    let a ← getAsset db assetID
    let db' ← Cmdb.promote db now newProxyId newId assetID opts
    .ok (db', [.promotion a.id true])
  | demote now assetID => do
    let a ← getAsset db assetID
    let db' ← Cmdb.demote db now assetID
    .ok (db', if a.isVpcProxy then [.promotion a.id false] else [])
  | deleteAsset now assetID => do
    let a ← getAsset db assetID
    let db' ← Cmdb.deleteAsset db now assetID
    .ok (db', [.deleted a.id])

/-- The database, with the log. -/
structure Curation where
  db : Db
  log : List AssetEvent

def Curation.init (db : Db) : Curation := { db, log := db.cmdbAsset.map .created }

/-- An operation that fails does nothing. -/
def Curation.step (s : Curation) (op : CurationOp) : Curation :=
  match op.attempt s.db with
  | .ok (db', events) => { db := db', log := events ++ s.log }
  | .error _ => s

/-! ### Columns that people maintain -/

/-- The texts that people maintain are trimmed, as the program stores them. -/
structure Trimmed (a : AssetRow) : Prop where
  owner : trimSpace a.owner = a.owner
  businessUnit : trimSpace a.businessUnit = a.businessUnit
  criticality : trimSpace a.criticality = a.criticality

/-- A column that a sync does not refresh, with what requests and promotions write to it. -/
structure Column (β : Type) where
  get : AssetRow → β
  request : UpdateAssetRequest → Option β
  promotion : Bool → Option β
  get_refresh : ∀ now excluded row, get (refreshAsset now excluded row) = get row
  get_assign : ∀ now req current, Trimmed current →
    get (assignAsset now (req.applyTo current) current) = (request req).getD (get current)
  get_flag : ∀ now isVpcProxy row,
    get { row with isVpcProxy := isVpcProxy, updatedAt := now } =
      (promotion isVpcProxy).getD (get row)
  get_delete : ∀ now row, get { row with deletedAt := some now } = get row

/-- What the event writes to the column of the row. -/
def Column.written {β : Type} (c : Column β) (id : Uuid) : AssetEvent → Option β
  | .created row => if row.id = id then some (c.get row) else none
  | .inserted row => if row.id = id then some (c.get row) else none
  | .refreshed _ _ => none
  | .updated id' req => if id' = id then c.request req else none
  | .promotion id' isVpcProxy => if id' = id then c.promotion isVpcProxy else none
  | .deleted _ => none

/-- Every row has in the column what was written to it last. -/
def Column.Logged {β : Type} (c : Column β) (s : Curation) : Prop :=
  ∀ a ∈ s.db.cmdbAsset, s.log.findSome? (c.written a.id) = some (c.get a)

/-- A text that is trimmed when it is stored. -/
lemma trimSpace_getD {current : String} (h : trimSpace current = current) (text : Option String) :
    trimSpace (text.getD current) = (text.map trimSpace).getD current := by
  cases text with
  | none => exact h
  | some text => rfl

def labelsColumn : Column Json where
  get := AssetRow.labels
  request req := (req.labels.or req.tags).map .obj
  promotion _ := none
  get_refresh _ _ _ := rfl
  get_assign now req current _ := by
    show applyLabelsUpdate current.labels req = _
    rw [applyLabelsUpdate]
    cases req.labels with
    | some labels => rfl
    | none =>
      cases req.tags with
      | some tags => rfl
      | none => rfl
  get_flag _ _ _ := rfl
  get_delete _ _ := rfl

def ownerColumn : Column String where
  get := AssetRow.owner
  request req := req.owner.map trimSpace
  promotion _ := none
  get_refresh _ _ _ := rfl
  get_assign _ req _ h := trimSpace_getD h.owner req.owner
  get_flag _ _ _ := rfl
  get_delete _ _ := rfl

def businessUnitColumn : Column String where
  get := AssetRow.businessUnit
  request req := req.businessUnit.map trimSpace
  promotion _ := none
  get_refresh _ _ _ := rfl
  get_assign _ req _ h := trimSpace_getD h.businessUnit req.businessUnit
  get_flag _ _ _ := rfl
  get_delete _ _ := rfl

def criticalityColumn : Column String where
  get := AssetRow.criticality
  request req := req.criticality.map trimSpace
  promotion _ := none
  get_refresh _ _ _ := rfl
  get_assign _ req _ h := trimSpace_getD h.criticality req.criticality
  get_flag _ _ _ := rfl
  get_delete _ _ := rfl

def expiresAtColumn : Column (Option Time) where
  get := AssetRow.expiresAt
  request req := req.expiresAt.map some
  promotion _ := none
  get_refresh _ _ _ := rfl
  get_assign _ req current _ := by
    show req.expiresAt.or current.expiresAt = _
    cases req.expiresAt with
    | none => rfl
    | some expiresAt => rfl
  get_flag _ _ _ := rfl
  get_delete _ _ := rfl

def isVpcProxyColumn : Column Bool where
  get := AssetRow.isVpcProxy
  request _ := none
  promotion := some
  get_refresh _ _ _ := rfl
  get_assign _ _ _ _ := rfl
  get_flag _ _ _ := rfl
  get_delete _ _ := rfl

/-! ### The rows -/

/-- The rows as the program stores them: under the keys of the table, with trimmed texts. -/
structure Stored (assets : List AssetRow) : Prop where
  ids : (assets.map (·.id)).Nodup
  index : ∀ a ∈ assets, ∀ b ∈ assets, a.cloudKey.isSome = true → a.cloudKey = b.cloudKey → a = b
  trimmed : ∀ a ∈ assets, Trimmed a

/-- The live row of an id is one row. -/
lemma Stored.eq_of_hit {assets : List AssetRow} {a : AssetRow} (h : Stored assets)
    (ha : a ∈ assets) : ∀ b ∈ assets, (b.id == a.id && b.live) = true → b = a := by
  intro b hb hhit
  rw [Bool.and_eq_true, beq_iff_eq] at hhit
  exact List.inj_on_of_nodup_map h.ids hb ha hhit.1

/-- The columns of the key that an update writes are trimmed. -/
structure KeyTrimmed (a : AssetRow) : Prop where
  accountId : trimSpace a.accountId = a.accountId
  region : trimSpace a.region = a.region

/-- The index covers a live row that is not manual and has an external id. -/
lemma cloudKey_eq_keyColumns {a : AssetRow} (hlive : a.live = true) (hsource : a.source ≠ "manual")
    (hext : a.externalId.getD "" ≠ "") : a.cloudKey = some a.keyColumns := by
  rw [AssetRow.cloudKey, AssetRow.keyColumns]
  cases hid : a.externalId with
  | none =>
    rw [hid] at hext
    exact absurd rfl hext
  | some externalId =>
    rw [hid] at hext
    exact if_pos ⟨hsource, hlive, hext⟩

lemma cloudKey_eq_some {a : AssetRow} {k : List String} (h : a.cloudKey = some k) :
    k = a.keyColumns ∧ a.live = true := by
  rw [AssetRow.cloudKey] at h
  cases hext : a.externalId with
  | none =>
    rw [hext] at h
    cases h
  | some externalId =>
    rw [hext] at h
    dsimp only at h
    split at h
    · next hcovered =>
      rw [AssetRow.keyColumns, hext]
      exact ⟨(Option.some.inj h).symm, hcovered.2.1⟩
    · cases h

/-- The row `a` is replaced by `a'`, which the event `e` is about. -/
structure Replaces (assets assets' : List AssetRow) (e : AssetEvent) (a a' : AssetRow) : Prop where
  mem : a ∈ assets
  mem_iff : ∀ r, r ∈ assets' ↔ r = a' ∨ (r ∈ assets ∧ r ≠ a)
  ids : assets'.map (·.id) = assets.map (·.id)
  id_eq : a'.id = a.id
  /-- the index admits the new row -/
  fits : a'.cloudKey.isSome = true → ∀ b ∈ assets, b ≠ a → b.cloudKey ≠ a'.cloudKey
  trimmed : Trimmed a'
  key : KeyTrimmed a → a'.keyColumns = a.keyColumns ∧ KeyTrimmed a'
  column : ∀ {β : Type} (c : Column β), c.get a' = (c.written a.id e).getD (c.get a)
  other : ∀ {β : Type} (c : Column β) (id : Uuid), id ≠ a.id → c.written id e = none
  observation : ∀ id k, e.observation = some (id, k) → id = a.id ∧ k = a.keyColumns ∧ KeyTrimmed a

/-- The row `new`, which the event `e` is about, is inserted under keys that are not there. -/
structure Inserts (assets : List AssetRow) (e : AssetEvent) (new : AssetRow) : Prop where
  id_fresh : ∀ a ∈ assets, a.id ≠ new.id
  key_fresh : new.cloudKey.isSome = true → ∀ a ∈ assets, a.cloudKey ≠ new.cloudKey
  trimmed : Trimmed new
  key : KeyTrimmed new
  column : ∀ {β : Type} (c : Column β), c.written new.id e = some (c.get new)
  other : ∀ {β : Type} (c : Column β) (id : Uuid), id ≠ new.id → c.written id e = none
  observation : ∀ id k, e.observation = some (id, k) → id = new.id ∧ k = new.keyColumns

section

variable {db db' : Db} {now : Time} {events : List AssetEvent}

lemma trimmed_observedAsset (now : Time) (newId : Uuid) (item : AssetUpsert) :
    Trimmed (observedAsset now newId item) :=
  ⟨trimSpace_trimSpace _, trimSpace_trimSpace _, show trimSpace "" = "" by decide⟩

lemma keyTrimmed_observedAsset (now : Time) (newId : Uuid) (item : AssetUpsert) :
    KeyTrimmed (observedAsset now newId item) :=
  ⟨trimSpace_trimSpace _, trimSpace_trimSpace _⟩

/-- The index covers the row of every item that is accepted. -/
lemma cloudKey_observedAsset (now : Time) (newId : Uuid) {item : AssetUpsert}
    (h : trimSpace item.externalID ≠ "") :
    (observedAsset now newId item.withDefaults).cloudKey =
      some (observedAsset now newId item.withDefaults).keyColumns := by
  have hext : item.externalID ≠ "" := by
    rintro hempty
    rw [hempty] at h
    exact h (by decide)
  have hsource : sourceID ≠ "manual" := by decide
  exact cloudKey_eq_keyColumns rfl hsource hext

/-- A row whose account and region an item has stored. -/
lemma keyTrimmed_of_keyColumns {a b : AssetRow} (hb : KeyTrimmed b)
    (h : a.keyColumns = b.keyColumns) : KeyTrimmed a := by
  simp only [AssetRow.keyColumns, List.cons.injEq] at h
  obtain ⟨-, haccount, hregion, -⟩ := h
  exact ⟨haccount ▸ hb.accountId, hregion ▸ hb.region⟩

lemma id_refreshAsset (now : Time) (new a : AssetRow) : (refreshAsset now new a).id = a.id := by
  simp only [refreshAsset]

/-- A refreshed row keeps its key. -/
lemma cloudKey_refreshAsset (now : Time) (new : AssetRow) {a : AssetRow} (h : a.live = true) :
    (refreshAsset now new a).cloudKey = a.cloudKey := by
  rw [AssetRow.cloudKey, AssetRow.cloudKey, h]
  rfl

/-- `UpsertAsset` inserts a row or refreshes the one with the key. -/
lemma upsertAsset_cases (h : Stored db.cmdbAsset) {newId : Uuid} {item : AssetUpsert}
    (hok : (CurationOp.upsertAsset now newId item).attempt db = .ok (db', events)) :
    (∃ e new, Inserts db.cmdbAsset e new ∧ db'.cmdbAsset = db.cmdbAsset ++ [new] ∧
        events = [e]) ∨
      ∃ e a a', Replaces db.cmdbAsset db'.cmdbAsset e a a' ∧ events = [e] := by
  rw [CurationOp.attempt, Except.bind_eq_ok] at hok
  obtain ⟨db₁, hupsert, hok⟩ := hok
  obtain ⟨rfl, rfl⟩ := Prod.mk.inj (Except.ok.inj hok)
  obtain ⟨hext, hstore⟩ := upsertAsset_eq_ok hupsert
  have hkey := cloudKey_observedAsset now newId hext
  have hnewTrimmed := trimmed_observedAsset now newId item.withDefaults
  have hnewKey := keyTrimmed_observedAsset now newId item.withDefaults
  generalize observedAsset now newId item.withDefaults = new at *
  rw [observe]
  rcases storeObserved_eq_ok hstore with ⟨hfresh, rfl⟩ | ⟨⟨b, hb, hconflict⟩, rfl⟩
  · have hnone : db.cmdbAsset.find? (fun a => a.cloudKey == new.cloudKey) = none := by
      rw [List.find?_eq_none]
      intro a ha
      simpa using (hfresh a ha).1
    rw [hnone]
    -- no row has the key: the item is inserted
    refine Or.inl ⟨_, new, ?_, rfl, rfl⟩
    exact
      { id_fresh := fun a ha => (hfresh a ha).2
        key_fresh := fun _ a ha => (hfresh a ha).1
        trimmed := hnewTrimmed
        key := hnewKey
        column := fun c => if_pos rfl
        other := fun c id hne => if_neg (Ne.symm hne)
        observation := by
          rintro id k ⟨⟩
          exact ⟨rfl, rfl⟩ }
  · refine Or.inr ?_
    -- the index makes the row in conflict the only one
    have hone : ∀ r ∈ db.cmdbAsset, (r.cloudKey == new.cloudKey) = true → r = b := by
      intro r hr hhit
      have hrkey := eq_of_beq hhit
      exact h.index r hr b hb (by rw [hrkey, hkey]; rfl) (hrkey.trans hconflict.symm)
    obtain ⟨hcolumns, hlive⟩ := cloudKey_eq_some (hconflict.trans hkey)
    have hkeep := cloudKey_refreshAsset now new hlive
    have hfind : db.cmdbAsset.find? (fun a => a.cloudKey == new.cloudKey) = some b :=
      find?_eq_of_nodup h.ids hb (by simp [hconflict]) fun r hr hhit => by rw [hone r hr hhit]
    rw [hfind]
    refine ⟨_, b, refreshAsset now new b, ?_, rfl⟩
    exact
      { mem := hb
        mem_iff := fun r => mem_updateWhere_of_unique hb (by simp [hconflict]) hone
        ids := map_updateWhere (f := refreshAsset now new) (g := AssetRow.id)
          (fun b _ => id_refreshAsset now new b) _
        id_eq := id_refreshAsset now new b
        fits := by
          intro hsome r hr hne heq
          rw [hkeep] at hsome heq
          exact hne (h.index r hr b hb (by rw [heq]; exact hsome) heq)
        trimmed := ⟨(h.trimmed b hb).owner, (h.trimmed b hb).businessUnit,
          (h.trimmed b hb).criticality⟩
        key := fun hb' => ⟨rfl, hb'.accountId, hb'.region⟩
        column := fun c => c.get_refresh now new b
        other := fun c id hne => rfl
        observation := by
          rintro id k ⟨⟩
          exact ⟨rfl, hcolumns, keyTrimmed_of_keyColumns hnewKey hcolumns.symm⟩ }

lemma createAsset_cases {newId : Uuid} {req : CreateAssetRequest}
    (hok : (CurationOp.createAsset now newId req).attempt db = .ok (db', events)) :
    ∃ e new, Inserts db.cmdbAsset e new ∧ db'.cmdbAsset = db.cmdbAsset ++ [new] ∧
      events = [e] := by
  rw [CurationOp.attempt, Except.bind_eq_ok] at hok
  obtain ⟨db₁, hcreate, hok⟩ := hok
  obtain ⟨rfl, rfl⟩ := Prod.mk.inj (Except.ok.inj hok)
  have hfits := fitsIndex_createAsset hcreate
  obtain ⟨hfresh, rfl⟩ := createAsset_eq_ok hcreate
  refine ⟨_, _, ?_, rfl, rfl⟩
  exact
    { id_fresh := hfresh
      key_fresh := fun hsome a ha => hfits.cloud hsome a ha (hfresh a ha)
      trimmed := ⟨trimSpace_trimSpace _, trimSpace_trimSpace _, trimSpace_trimSpace _⟩
      key := ⟨trimSpace_trimSpace _, trimSpace_trimSpace _⟩
      column := fun c => if_pos rfl
      other := fun c id hne => if_neg (Ne.symm hne)
      observation := by
        rintro id k ⟨⟩ }

/-- An operation that names an asset reads it, and logs what it has done to it. -/
lemma written_of_attempt {assetID : String} {written : Except String Db}
    {log : AssetRow → List AssetEvent}
    (hok : (do
        let a ← getAsset db assetID
        let db' ← written
        .ok (db', log a)) = .ok (db', events)) :
    ∃ a, getAsset db assetID = .ok a ∧ written = .ok db' ∧ events = log a := by
  rw [Except.bind_eq_ok] at hok
  obtain ⟨a, hget, hok⟩ := hok
  rw [Except.bind_eq_ok] at hok
  obtain ⟨db₁, hwritten, hok⟩ := hok
  obtain ⟨rfl, rfl⟩ := Prod.mk.inj (Except.ok.inj hok)
  exact ⟨a, hget, hwritten, rfl⟩

/-- `UpdateAsset` replaces the live row of the id. -/
lemma updateAsset_cases (h : Stored db.cmdbAsset) {assetID : String} {r : CurationRequest}
    (hok : (CurationOp.updateAsset now assetID r).attempt db = .ok (db', events)) :
    ∃ e a a', Replaces db.cmdbAsset db'.cmdbAsset e a a' ∧ events = [e] := by
  rw [CurationOp.attempt] at hok
  obtain ⟨a, hget, hupdate, rfl⟩ := written_of_attempt hok
  obtain ⟨-, hmem, hlive⟩ := getAsset_eq_ok hget
  obtain ⟨hfits, rfl⟩ := updateAsset_of_getAsset hget hupdate
  refine ⟨_, a, assignAsset now (r.req.applyTo a) a, ?_, rfl⟩
  exact
    { mem := hmem
      mem_iff := fun q => mem_updateWhere_of_unique hmem (by simp [hlive]) (h.eq_of_hit hmem)
      ids := map_updateWhere (f := assignAsset now (r.req.applyTo a)) (g := AssetRow.id)
        (fun _ _ => rfl) _
      id_eq := rfl
      fits := by
        intro hsome b hb hne
        exact hfits.cloud hsome b hb fun hid => hne (List.inj_on_of_nodup_map h.ids hb hmem hid)
      trimmed := ⟨trimSpace_trimSpace _, trimSpace_trimSpace _, trimSpace_trimSpace _⟩
      key := by
        intro hkey
        -- the request gives neither, so that the trimmed columns are written back
        have haccount : (assignAsset now (r.req.applyTo a) a).accountId = a.accountId := by
          show trimSpace (r.req.accountID.getD a.accountId) = _
          rw [r.accountID]
          exact hkey.accountId
        have hregion : (assignAsset now (r.req.applyTo a) a).region = a.region := by
          show trimSpace (r.req.region.getD a.region) = _
          rw [r.region]
          exact hkey.region
        refine ⟨?_, trimSpace_trimSpace _, trimSpace_trimSpace _⟩
        rw [AssetRow.keyColumns, haccount, hregion]
        rfl
      column := by
        intro β c
        rw [Column.written, if_pos rfl]
        exact c.get_assign now r.req a (h.trimmed a hmem)
      other := fun c id hne => if_neg (Ne.symm hne)
      observation := by
        rintro id k ⟨⟩ }

lemma replaces_setVpcProxy (h : Stored db.cmdbAsset) {a : AssetRow} (hmem : a ∈ db.cmdbAsset)
    (now : Time) (isVpcProxy : Bool) :
    Replaces db.cmdbAsset (setVpcProxy now a.id isVpcProxy db.cmdbAsset)
      (.promotion a.id isVpcProxy) a { a with isVpcProxy := isVpcProxy, updatedAt := now } where
  mem := hmem
  mem_iff q := mem_updateWhere_of_unique hmem (by simp) fun b hb hid =>
    List.inj_on_of_nodup_map h.ids hb hmem (eq_of_beq hid)
  ids := by
    refine map_updateWhere ?_ _
    intro _ _
    rfl
  id_eq := rfl
  fits hsome b hb hne heq := hne (h.index b hb a hmem (by rw [heq]; exact hsome) heq)
  trimmed := ⟨(h.trimmed a hmem).owner, (h.trimmed a hmem).businessUnit,
    (h.trimmed a hmem).criticality⟩
  key hkey := ⟨rfl, hkey.accountId, hkey.region⟩
  column c := by
    rw [Column.written, if_pos rfl]
    exact c.get_flag now isVpcProxy a
  other c id hne := if_neg (Ne.symm hne)
  observation := by
    rintro id k ⟨⟩

lemma promote_cases (h : Stored db.cmdbAsset) {newProxyId : Uuid} {newId : Uuid → Uuid}
    {assetID : String} {opts : PromoteOptions}
    (hok : (CurationOp.promote now newProxyId newId assetID opts).attempt db = .ok (db', events)) :
    ∃ e a a', Replaces db.cmdbAsset db'.cmdbAsset e a a' ∧ events = [e] := by
  rw [CurationOp.attempt] at hok
  obtain ⟨a, hget, hpromote, rfl⟩ := written_of_attempt hok
  rw [promote_eq_returning] at hpromote
  obtain ⟨⟨a', written⟩, hreturning⟩ := Except.map_fst_eq_ok hpromote
  obtain ⟨hget', -, login, -, -, db₂, p, hupsert, rfl, -⟩ :=
    promoteReturning_eq_ok_iff.mp hreturning
  obtain rfl : a = a' := Except.ok.inj (hget.symm.trans hget')
  have hassets : db₂.cmdbAsset = setVpcProxy now a.id true db.cmdbAsset := by
    rw [upsertProxyForAsset_frame hupsert]
  have hreplaces := replaces_setVpcProxy h (getAsset_eq_ok hget).2.1 now true
  rw [← hassets] at hreplaces
  exact ⟨_, a, _, hreplaces, rfl⟩

/-- A demotion of an asset that is not promoted does nothing. -/
lemma demote_cases (h : Stored db.cmdbAsset) {assetID : String}
    (hok : (CurationOp.demote now assetID).attempt db = .ok (db', events)) :
    (db'.cmdbAsset = db.cmdbAsset ∧ events = []) ∨
      ∃ e a a', Replaces db.cmdbAsset db'.cmdbAsset e a a' ∧ events = [e] := by
  rw [CurationOp.attempt] at hok
  obtain ⟨a, hget, hdemote, rfl⟩ := written_of_attempt hok
  obtain ⟨a', hget', hcases⟩ := demote_eq_ok hdemote
  obtain rfl : a = a' := Except.ok.inj (hget.symm.trans hget')
  rcases hcases with ⟨hproxy, rfl⟩ | ⟨hproxy, rfl⟩
  · exact Or.inr ⟨.promotion a.id false, a, { a with isVpcProxy := false, updatedAt := now },
      replaces_setVpcProxy h (getAsset_eq_ok hget).2.1 now false, if_pos hproxy⟩
  · exact Or.inl ⟨rfl, if_neg (by simp [hproxy])⟩

/-- A deleted row has left the index. -/
lemma deleteAsset_cases (h : Stored db.cmdbAsset) {assetID : String}
    (hok : (CurationOp.deleteAsset now assetID).attempt db = .ok (db', events)) :
    ∃ e a a', Replaces db.cmdbAsset db'.cmdbAsset e a a' ∧ events = [e] := by
  rw [CurationOp.attempt] at hok
  obtain ⟨a, hget, hdelete, rfl⟩ := written_of_attempt hok
  obtain ⟨hid, hmem, hlive⟩ := getAsset_eq_ok hget
  rw [deleteAsset_of_live hid hmem hlive] at hdelete
  obtain rfl := Except.ok.inj hdelete
  refine ⟨_, a, { a with deletedAt := some now }, ?_, rfl⟩
  exact
    { mem := hmem
      mem_iff := fun q => mem_updateWhere_of_unique hmem (by simp [hlive]) (h.eq_of_hit hmem)
      ids := by
        refine map_updateWhere ?_ _
        intro _ _
        rfl
      id_eq := rfl
      fits := by
        -- a deleted row is not covered by the index
        intro hsome
        obtain ⟨k, hk⟩ := Option.isSome_iff_exists.mp hsome
        cases (cloudKey_eq_some hk).2
      trimmed := ⟨(h.trimmed a hmem).owner, (h.trimmed a hmem).businessUnit,
        (h.trimmed a hmem).criticality⟩
      key := fun hkey => ⟨rfl, hkey.accountId, hkey.region⟩
      column := fun c => c.get_delete now a
      other := fun c id hne => rfl
      observation := by
        rintro id k ⟨⟩ }

/-- All that an operation does to the rows. -/
lemma attempt_cases (h : Stored db.cmdbAsset) {op : CurationOp}
    (hok : op.attempt db = .ok (db', events)) :
    (db'.cmdbAsset = db.cmdbAsset ∧ events = []) ∨
      (∃ e new, Inserts db.cmdbAsset e new ∧ db'.cmdbAsset = db.cmdbAsset ++ [new] ∧
        events = [e]) ∨
      ∃ e a a', Replaces db.cmdbAsset db'.cmdbAsset e a a' ∧ events = [e] := by
  cases op with
  | upsertAsset now newId item => exact Or.inr (upsertAsset_cases h hok)
  | createAsset now newId req => exact Or.inr (Or.inl (createAsset_cases hok))
  | updateAsset now assetID r => exact Or.inr (Or.inr (updateAsset_cases h hok))
  | promote now newProxyId newId assetID opts => exact Or.inr (Or.inr (promote_cases h hok))
  | demote now assetID =>
    rcases demote_cases h hok with hsame | hreplaces
    · exact Or.inl hsame
    · exact Or.inr (Or.inr hreplaces)
  | deleteAsset now assetID => exact Or.inr (Or.inr (deleteAsset_cases h hok))

/-! ### What a run keeps -/

/-- An insertion under new keys keeps the rows as the program stores them. -/
lemma Stored.insert {assets : List AssetRow} {e : AssetEvent} {new : AssetRow} (h : Stored assets)
    (hnew : Inserts assets e new) : Stored (assets ++ [new]) where
  ids := nodup_map_append h.ids hnew.id_fresh
  index := by
    intro a ha b hb hsome heq
    rcases List.mem_append.mp ha with ha | ha
    · rcases List.mem_append.mp hb with hb | hb
      · exact h.index a ha b hb hsome heq
      · rw [List.mem_singleton.mp hb] at heq
        exact absurd heq (hnew.key_fresh (heq ▸ hsome) a ha)
    · rw [List.mem_singleton.mp ha] at hsome heq ⊢
      rcases List.mem_append.mp hb with hb | hb
      · exact absurd heq.symm (hnew.key_fresh hsome b hb)
      · exact (List.mem_singleton.mp hb).symm
  trimmed := by
    intro a ha
    rcases List.mem_append.mp ha with ha | ha
    · exact h.trimmed a ha
    · rw [List.mem_singleton.mp ha]
      exact hnew.trimmed

lemma Stored.replace {assets assets' : List AssetRow} {e : AssetEvent} {a a' : AssetRow}
    (h : Stored assets) (hr : Replaces assets assets' e a a') : Stored assets' where
  ids := hr.ids ▸ h.ids
  index := by
    intro b hb c hc hsome heq
    rcases (hr.mem_iff b).mp hb with rfl | ⟨hb, hne⟩
    · rcases (hr.mem_iff c).mp hc with rfl | ⟨hc, hne⟩
      · rfl
      · exact absurd heq.symm (hr.fits hsome c hc hne)
    · rcases (hr.mem_iff c).mp hc with rfl | ⟨hc, -⟩
      · exact absurd heq (hr.fits (heq ▸ hsome) b hb hne)
      · exact h.index b hb c hc hsome heq
  trimmed := by
    intro b hb
    rcases (hr.mem_iff b).mp hb with rfl | ⟨hb, -⟩
    · exact hr.trimmed
    · exact h.trimmed b hb

/-- Every item went to a row that has its key still. -/
def Tracked (s : Curation) : Prop :=
  ∀ e ∈ s.log, ∀ id k, e.observation = some (id, k) →
    ∃ a ∈ s.db.cmdbAsset, a.id = id ∧ a.keyColumns = k ∧ KeyTrimmed a

variable {s : Curation}

lemma Tracked.insert (h : Tracked s) {e : AssetEvent} {new : AssetRow}
    (hnew : Inserts s.db.cmdbAsset e new) (hdb' : db'.cmdbAsset = s.db.cmdbAsset ++ [new]) :
    Tracked { db := db', log := [e] ++ s.log } := by
  intro e' he' id k hobs
  rw [hdb']
  rcases List.mem_cons.mp he' with rfl | he'
  · obtain ⟨hid, hk⟩ := hnew.observation id k hobs
    exact ⟨new, List.mem_append_right _ (List.mem_singleton_self new), hid.symm, hk.symm, hnew.key⟩
  · obtain ⟨a, ha, hrest⟩ := h e' he' id k hobs
    exact ⟨a, List.mem_append_left _ ha, hrest⟩

lemma Tracked.replace (h : Tracked s) {e : AssetEvent} {a a' : AssetRow}
    (hr : Replaces s.db.cmdbAsset db'.cmdbAsset e a a') :
    Tracked { db := db', log := [e] ++ s.log } := by
  -- a row with a trimmed key is replaced by one with the same key
  have hkept : ∀ b ∈ s.db.cmdbAsset, KeyTrimmed b → ∃ b' ∈ db'.cmdbAsset, b'.id = b.id ∧
      b'.keyColumns = b.keyColumns ∧ KeyTrimmed b' := by
    intro b hb hkey
    by_cases hba : b = a
    · subst hba
      exact ⟨a', (hr.mem_iff a').mpr (Or.inl rfl), hr.id_eq, hr.key hkey⟩
    · exact ⟨b, (hr.mem_iff b).mpr (Or.inr ⟨hb, hba⟩), rfl, rfl, hkey⟩
  intro e' he' id k hobs
  obtain ⟨b, hb, hid, hk, hkey⟩ :
      ∃ b ∈ s.db.cmdbAsset, b.id = id ∧ b.keyColumns = k ∧ KeyTrimmed b := by
    rcases List.mem_cons.mp he' with rfl | he'
    · obtain ⟨hid, hk, hkey⟩ := hr.observation id k hobs
      exact ⟨a, hr.mem, hid.symm, hk.symm, hkey⟩
    · exact h e' he' id k hobs
  obtain ⟨b', hb', hid', hk', hkey'⟩ := hkept b hb hkey
  exact ⟨b', hb', hid'.trans hid, hk'.trans hk, hkey'⟩

lemma Column.Logged.insert {β : Type} {c : Column β} (h : c.Logged s) {e : AssetEvent}
    {new : AssetRow} (hnew : Inserts s.db.cmdbAsset e new)
    (hdb' : db'.cmdbAsset = s.db.cmdbAsset ++ [new]) :
    c.Logged { db := db', log := [e] ++ s.log } := by
  intro a ha
  rw [hdb'] at ha
  rw [List.singleton_append, List.findSome?_cons]
  rcases List.mem_append.mp ha with ha | ha
  · rw [hnew.other c a.id (hnew.id_fresh a ha)]
    exact h a ha
  · rw [List.mem_singleton.mp ha, hnew.column c]

lemma Column.Logged.replace {β : Type} {c : Column β} (h : c.Logged s) (hs : Stored s.db.cmdbAsset)
    {e : AssetEvent} {a a' : AssetRow} (hr : Replaces s.db.cmdbAsset db'.cmdbAsset e a a') :
    c.Logged { db := db', log := [e] ++ s.log } := by
  intro b hb
  rw [List.singleton_append, List.findSome?_cons]
  rcases (hr.mem_iff b).mp hb with rfl | ⟨hb, hne⟩
  · rw [hr.column c, hr.id_eq]
    cases hw : c.written a.id e with
    | some value => rfl
    | none => exact h a hr.mem
  · have hid : b.id ≠ a.id := fun hid => hne (List.inj_on_of_nodup_map hs.ids hb hr.mem hid)
    rw [hr.other c b.id hid]
    exact h b hb

/-- What holds along a run. -/
structure CurationInv (s : Curation) : Prop where
  stored : Stored s.db.cmdbAsset
  tracked : Tracked s
  logged : ∀ {β : Type} (c : Column β), c.Logged s

lemma curationInv_init (h : Stored db.cmdbAsset) : CurationInv (.init db) where
  stored := h
  tracked := by
    intro e he id k hobs
    obtain ⟨a, -, rfl⟩ := List.mem_map.mp he
    cases hobs
  logged := by
    intro β c a ha
    have hlog : ∀ rows : List AssetRow, (rows.map (·.id)).Nodup → a ∈ rows →
        (rows.map AssetEvent.created).findSome? (c.written a.id) = some (c.get a) := by
      intro rows hids hmem
      induction rows with
      | nil => cases hmem
      | cons b rows ih =>
        rw [List.map_cons, List.findSome?_cons]
        rw [List.map_cons, List.nodup_cons] at hids
        rcases List.mem_cons.mp hmem with rfl | hmem
        · have hown : c.written a.id (.created a) = some (c.get a) := if_pos rfl
          rw [hown]
        · have hother : c.written a.id (.created b) = none := by
            refine if_neg fun hid => hids.1 ?_
            rw [hid]
            exact List.mem_map_of_mem hmem
          rw [hother]
          exact ih hids.2 hmem
    exact hlog db.cmdbAsset h.ids ha

lemma CurationInv.step (h : CurationInv s) (op : CurationOp) : CurationInv (s.step op) := by
  rw [Curation.step]
  split
  · next db' events hok =>
    rcases attempt_cases h.stored hok with
      ⟨hsame, rfl⟩ | ⟨e, new, hnew, hdb', rfl⟩ | ⟨e, a, a', hr, rfl⟩
    · refine ⟨?_, ?_, ?_⟩
      · rw [hsame]
        exact h.stored
      · intro e he id k hobs
        rw [hsame]
        exact h.tracked e he id k hobs
      · intro β c b hb
        rw [hsame] at hb
        exact h.logged c b hb
    · refine ⟨?_, h.tracked.insert hnew hdb', fun c => (h.logged c).insert hnew hdb'⟩
      rw [hdb']
      exact h.stored.insert hnew
    · exact ⟨h.stored.replace hr, h.tracked.replace hr, fun c => (h.logged c).replace h.stored hr⟩
  · exact h

end

/-- What a sync keeps: there is one live row for each key, items with different keys do not go to
one row, and every column that people maintain has what was written to it last. -/
structure Kept (s : Curation) : Prop where
  one_row : ∀ a ∈ s.db.cmdbAsset, ∀ b ∈ s.db.cmdbAsset, a.live = true → b.live = true →
    a.source ≠ "manual" → a.externalId.getD "" ≠ "" → a.keyColumns = b.keyColumns → a = b
  apart : ∀ e ∈ s.log, ∀ e' ∈ s.log, ∀ id k k', e.observation = some (id, k) →
    e'.observation = some (id, k') → k = k'
  labels : labelsColumn.Logged s
  owner : ownerColumn.Logged s
  businessUnit : businessUnitColumn.Logged s
  criticality : criticalityColumn.Logged s
  expiresAt : expiresAtColumn.Logged s
  isVpcProxy : isVpcProxyColumn.Logged s

/-- **A sync keeps identity and curation.**  From rows as the program stores them, along every
interleaving of `UpsertAsset` with `CreateAsset`, `UpdateAsset` without region and account,
`DeleteAsset`, `Promote` and `Demote`: there is at most one live row for each source, account,
region, type and external id; two items that are stored under different keys never go to one row;
and the columns that people maintain have what a request or a promotion wrote last, or what the
row was seeded with. -/
theorem sync_keeps_curation {db : Db} (h : Stored db.cmdbAsset) (ops : List CurationOp) :
    Kept (run Curation.step (.init db) ops) := by
  have hinv : CurationInv (run Curation.step (.init db) ops) :=
    invariant (fun s op h => h.step op) (curationInv_init h) ops
  refine ⟨?_, ?_, hinv.logged _, hinv.logged _, hinv.logged _, hinv.logged _, hinv.logged _,
    hinv.logged _⟩
  · intro a ha b hb hlive hlive' hsource hext hcolumns
    have hsame := hcolumns
    simp only [AssetRow.keyColumns, List.cons.injEq, and_true] at hsame
    obtain ⟨hs, -, -, -, he⟩ := hsame
    have hakey := cloudKey_eq_keyColumns hlive hsource hext
    have hbkey := cloudKey_eq_keyColumns hlive' (hs ▸ hsource) (he ▸ hext)
    exact hinv.stored.index a ha b hb (by rw [hakey]; rfl) (by rw [hakey, hbkey, hcolumns])
  · intro e he e' he' id k k' hobs hobs'
    obtain ⟨a, ha, hid, rfl, -⟩ := hinv.tracked e he id k hobs
    obtain ⟨a', ha', hid', rfl, -⟩ := hinv.tracked e' he' id k' hobs'
    rw [List.inj_on_of_nodup_map hinv.stored.ids ha ha' (hid.trans hid'.symm)]

/-- An instance that a sync sees twice, with another owner the second time; in between a user has
given it to the platform team. -/
def curatedOps : List CurationOp :=
  [.upsertAsset 1 (Uuid.replicate 1)
      { assetType := "aws_ec2_instance", externalID := "i-1", accountID := "111", owner := "a" },
    .updateAsset 2 (Uuid.replicate 1).toText ⟨{ owner := some "platform" }, rfl, rfl⟩,
    .upsertAsset 3 (Uuid.replicate 2)
      { assetType := "aws_ec2_instance", externalID := "i-1", accountID := "111", owner := "b" }]

theorem sync_keeps_curation_curatedOps :
    (run Curation.step (.init {}) curatedOps).db.cmdbAsset.map (fun a => (a.owner, a.updatedAt)) =
        [("platform", 3)] ∧
      Kept (run Curation.step (.init {}) curatedOps) := by
  have hempty : Stored ({} : Db).cmdbAsset := by
    refine ⟨List.nodup_nil, ?_, ?_⟩
    · intro a ha
      cases ha
    · intro a ha
      cases ha
  exact ⟨by rfl, sync_keeps_curation hempty _⟩

end OpsPlatform.Cmdb
