/-
Connections that a user has edited.

`Promote`, `Demote` and `ReapplyPropagation` write the connections of many assets at once, each
statement with a condition of its own on the row that it finds: that it is managed by the program,
or that its host is empty.  A row that `UpsertAssetConnectionProfile` wrote meets neither.
-/
import OpsPlatform.Cmdb.AwsWriter
import OpsPlatform.Cmdb.VpcIdentity
import OpsPlatform.Lib.Run

namespace OpsPlatform.Cmdb

open Lib Lib.Run Lib.Table SshProxy

/-- The operations that write the configuration of connections, assets and relations. -/
inductive ConfigOp where
  /-- `UpsertAssetConnectionProfile` -/
  | edit (vault : Vault) (now : Time) (newId : Uuid) (assetID : String)
      (req : UpsertAssetConnectionProfileRequest)
  | promote (now : Time) (newProxyId : Uuid) (newId : Uuid → Uuid) (assetID : String)
      (opts : PromoteOptions)
  | demote (now : Time) (assetID : String)
  | reapplyPropagation (now : Time) (newId : Uuid → Uuid) (committed : ℕ)
  | upsertAsset (now : Time) (newId : Uuid) (item : AssetUpsert)
  | linkAWSRelations (now : Time) (newId : Uuid → Uuid → String → Uuid)
      (failed : List (Uuid × String))

def ConfigOp.attempt (db : Db) : ConfigOp → Except String Db
  | edit vault now newId assetID req => upsertAssetConnectionProfile db vault now newId assetID req
  | promote now newProxyId newId assetID opts => Cmdb.promote db now newProxyId newId assetID opts
  | demote now assetID => Cmdb.demote db now assetID
  | reapplyPropagation now newId committed =>
    .ok (Cmdb.reapplyPropagation db now newId committed)
  | upsertAsset now newId item => Cmdb.upsertAsset db now newId item
  | linkAWSRelations now newId failed => .ok (Cmdb.linkAWSRelations db now newId failed)

/-- An operation that fails leaves the database as it was. -/
def ConfigOp.apply (db : Db) (op : ConfigOp) : Db :=
  match op.attempt db with
  | .ok db' => db'
  | .error _ => db

/-- The operation is a successful edit of the connection of the asset. -/
def ConfigOp.Edits (x : Uuid) (db : Db) : ConfigOp → Prop
  | edit vault now newId assetID req => Uuid.parse assetID = some x ∧
      ∃ db', upsertAssetConnectionProfile db vault now newId assetID req = .ok db'
  | _ => False

/-! ### The connections of one asset -/

/-- There is a connection of the asset, and it is as a user has edited it. -/
structure Edited (x : Uuid) (connections : List ConnectionRow) : Prop where
  exists_row : ∃ c ∈ connections, c.assetId = x
  unmanaged : ∀ c ∈ connections, c.assetId = x → c.autoManaged = false ∧ c.host ≠ ""

/-- The connections of the asset are the same, in all their columns. -/
def SameRows (x : Uuid) (connections connections' : List ConnectionRow) : Prop :=
  ∀ c : ConnectionRow, c.assetId = x → (c ∈ connections' ↔ c ∈ connections)

section

variable {x : Uuid} {cs cs' cs'' : List ConnectionRow}

lemma SameRows.refl (x : Uuid) (cs : List ConnectionRow) : SameRows x cs cs := fun _ _ => Iff.rfl

lemma SameRows.trans (h : SameRows x cs cs') (h' : SameRows x cs' cs'') : SameRows x cs cs'' :=
  fun c hc => (h' c hc).trans (h c hc)

lemma Edited.congr (h : Edited x cs) (hsame : SameRows x cs cs') : Edited x cs' where
  exists_row := by
    obtain ⟨c, hc, hid⟩ := h.exists_row
    exact ⟨c, (hsame c hid).mpr hc, hid⟩
  unmanaged c hc hid := h.unmanaged c ((hsame c hid).mp hc) hid

/-- A loop of statements each of which leaves an edited connection alone. -/
lemma sameRows_foldl {ι : Type*} {f : List ConnectionRow → ι → List ConnectionRow}
    (hf : ∀ cs i, Edited x cs → SameRows x cs (f cs i)) (h : Edited x cs) (is : List ι) :
    SameRows x cs (is.foldl f cs) := by
  induction is generalizing cs with
  | nil => exact SameRows.refl x cs
  | cons i is ih =>
    have hfirst := hf cs i h
    exact hfirst.trans (ih (h.congr hfirst))

/-! ### The statements -/

variable {now : Time} {newId : Uuid → Uuid}

/-- A statement whose guard asks for a managed row or an empty host. -/
lemma sameRows_manageConnection {assetId : Uuid} {host username authType : String}
    {proxyId : Option Uuid} {guard : ConnectionRow → Bool}
    (hguard : ∀ c, guard c = true → c.autoManaged = true ∨ c.host = "") (h : Edited x cs) :
    SameRows x cs (manageConnection now newId assetId host username authType proxyId guard cs) := by
  intro c hc
  by_cases hid : assetId = x
  · subst hid
    have hblocked : ∀ c ∈ cs, c.assetId = assetId → guard c = false := by
      intro c hc hid
      obtain ⟨hauto, hhost⟩ := h.unmanaged c hc hid
      by_contra hpass
      rcases hguard c (Bool.not_eq_false _ ▸ hpass) with hmanaged | hempty
      · rw [hauto] at hmanaged
        cases hmanaged
      · exact hhost hempty
    have hnone : ¬ ∃ r, r ∈ manageConnectionReturning now newId assetId host username authType
        proxyId guard cs := by
      rw [manageConnectionReturning, exists_mem_upsertReturning]
      rintro (hfree | ⟨r, hr, hconflict, hpass⟩)
      · obtain ⟨r, hr, hrid⟩ := h.exists_row
        exact absurd (hfree r hr) (by simp [hrid])
      · rw [hblocked r hr (eq_of_beq hconflict)] at hpass
        cases hpass
    rw [manageConnection, mem_upsert_iff]
    refine (or_iff_right fun hwritten => hnone ⟨c, hwritten⟩).trans ?_
    refine and_iff_left_of_imp fun hmem => ?_
    rw [hblocked c hmem hc, Bool.and_false]
  · exact mem_manageConnection_other hid hc

lemma sameRows_propagate {assets : List AssetRow} {vpcID : String} {sourceAssetId proxyId : Uuid}
    (h : Edited x cs) :
    SameRows x cs (propagateProxyToVPCPeers now newId assets vpcID sourceAssetId proxyId cs) :=
  sameRows_foldl (fun _ _ h => sameRows_manageConnection (fun _ hauto => Or.inl hauto) h) h _

lemma sameRows_ensure {a : AssetRow} {username authType : String} (h : Edited x cs) :
    SameRows x cs (ensureProxyAssetConnection now newId a username authType cs) := by
  refine sameRows_manageConnection (fun c hpass => ?_) h
  rw [Bool.or_eq_true, beq_iff_eq] at hpass
  exact hpass

lemma sameRows_retireProxy {db : Db} (h : Edited x db.cmdbAssetConnection)
    (found : Option SshProxyRow) :
    SameRows x db.cmdbAssetConnection (retireProxy db now found).cmdbAssetConnection := by
  cases found with
  | none => exact SameRows.refl x _
  | some p =>
    intro c hc
    constructor
    · intro hmem
      obtain ⟨c₀, hc₀, ⟨hhit, rfl⟩ | ⟨-, rfl⟩⟩ := mem_updateWhere.mp hmem
      · rw [(h.unmanaged c₀ hc₀ hc).1, Bool.and_false] at hhit
        cases hhit
      · exact hc₀
    · intro hmem
      refine mem_updateWhere.mpr ⟨c, hmem, Or.inr ⟨?_, rfl⟩⟩
      rw [(h.unmanaged c hmem hc).1, Bool.and_false]

/-! ### The operations -/

variable {db db' : Db}

/-- An edit leaves the connection of its asset edited, and those of the others alone. -/
lemma edited_of_edit {vault : Vault} {newId : Uuid} {assetID : String}
    {req : UpsertAssetConnectionProfileRequest} {assetId : Uuid}
    (hid : Uuid.parse assetID = some assetId)
    (h : upsertAssetConnectionProfile db vault now newId assetID req = .ok db') :
    Edited assetId db'.cmdbAssetConnection ∧ ∀ x, x ≠ assetId →
      SameRows x db.cmdbAssetConnection db'.cmdbAssetConnection := by
  obtain ⟨assetId', edit, new, hid', hedit, hnew, rfl⟩ := upsertAssetConnectionProfile_upserts h
  obtain rfl : assetId' = assetId := Option.some.inj (hid'.symm.trans hid)
  have hwritten : ∀ c ∈ upsertReturning (·.assetId == assetId') (fun _ => true) edit new
      db.cmdbAssetConnection, c.assetId = assetId' ∧ c.autoManaged = false ∧ c.host ≠ "" := by
    intro c hc
    rcases mem_upsertReturning hc with rfl | ⟨c₀, -, hconflict, -, rfl⟩
    · exact hnew
    · obtain ⟨hasset, hrest⟩ := hedit c₀
      exact ⟨hasset.trans (eq_of_beq hconflict), hrest⟩
  -- a row is there, every row of the asset is a user's, the other rows stay
  refine ⟨⟨?_, ?_⟩, ?_⟩
  · have hsome : ∃ c, c ∈ upsertReturning (·.assetId == assetId') (fun _ => true) edit new
        db.cmdbAssetConnection := by
      rw [exists_mem_upsertReturning]
      by_cases hfree : ∀ c ∈ db.cmdbAssetConnection, (c.assetId == assetId') = false
      · exact Or.inl hfree
      · push Not at hfree
        obtain ⟨c, hc, hconflict⟩ := hfree
        exact Or.inr ⟨c, hc, by simpa using hconflict, rfl⟩
    obtain ⟨c, hc⟩ := hsome
    exact ⟨c, mem_upsert_iff.mpr (Or.inl hc), (hwritten c hc).1⟩
  · intro c hc hcid
    rcases mem_upsert_iff.mp hc with hc | ⟨-, hmiss⟩
    · exact (hwritten c hc).2
    · simp [hcid] at hmiss
  · intro x hx c hc
    rw [mem_upsert_iff]
    constructor
    · rintro (hw | ⟨hold, -⟩)
      · exact absurd (hc.symm.trans (hwritten c hw).1) hx
      · exact hold
    · intro hold
      exact Or.inr ⟨hold, by simp [hc, hx]⟩

lemma sameRows_promote (h : Edited x db.cmdbAssetConnection) {newProxyId : Uuid} {assetID : String}
    {opts : PromoteOptions} (hok : promote db now newProxyId newId assetID opts = .ok db') :
    SameRows x db.cmdbAssetConnection db'.cmdbAssetConnection := by
  obtain ⟨a, -, -, username, authType, db₁, p, hupsert, rfl⟩ := promote_eq_ok hok
  have hconnections : db₁.cmdbAssetConnection = db.cmdbAssetConnection := by
    rw [upsertProxyForAsset_frame hupsert]
  rw [hconnections]
  have hensure : SameRows x db.cmdbAssetConnection
      (ensureProxyAssetConnection now newId a username authType db.cmdbAssetConnection) :=
    sameRows_ensure h
  exact hensure.trans (sameRows_propagate (h.congr hensure))

lemma sameRows_demote (h : Edited x db.cmdbAssetConnection) {assetID : String}
    (hok : demote db now assetID = .ok db') :
    SameRows x db.cmdbAssetConnection db'.cmdbAssetConnection := by
  obtain ⟨a, -, ⟨-, rfl⟩ | ⟨-, rfl⟩⟩ := demote_eq_ok hok
  · exact sameRows_retireProxy h _
  · exact SameRows.refl x _

/-- The sync does not write connections. -/
lemma connections_upsertAsset {newId : Uuid} {item : AssetUpsert}
    (hok : upsertAsset db now newId item = .ok db') :
    db'.cmdbAssetConnection = db.cmdbAssetConnection := by
  obtain ⟨-, hstore⟩ := upsertAsset_eq_ok hok
  rcases storeObserved_eq_ok hstore with ⟨-, rfl⟩ | ⟨-, rfl⟩
  · rfl
  · rfl

lemma sameRows_attempt (h : Edited x db.cmdbAssetConnection) {op : ConfigOp}
    (hop : ¬ op.Edits x db) (hok : op.attempt db = .ok db') :
    SameRows x db.cmdbAssetConnection db'.cmdbAssetConnection := by
  cases op with
  | edit vault now newId assetID req =>
    obtain ⟨assetId, -, -, hid, -⟩ := upsertAssetConnectionProfile_upserts hok
    refine (edited_of_edit hid hok).2 x ?_
    rintro rfl
    exact hop ⟨hid, db', hok⟩
  | promote now newProxyId newId assetID opts => exact sameRows_promote h hok
  | demote now assetID => exact sameRows_demote h hok
  | reapplyPropagation now newId committed =>
    obtain rfl := Except.ok.inj hok
    exact sameRows_foldl (fun _ _ h => sameRows_propagate h) h _
  | upsertAsset now newId item =>
    rw [connections_upsertAsset hok]
    exact SameRows.refl x _
  | linkAWSRelations now newId failed =>
    obtain rfl := Except.ok.inj hok
    exact SameRows.refl x _

/-- One operation leaves an edited connection alone, unless it edits it. -/
lemma sameRows_apply (h : Edited x db.cmdbAssetConnection) {op : ConfigOp}
    (hop : ¬ op.Edits x db) :
    SameRows x db.cmdbAssetConnection (op.apply db).cmdbAssetConnection := by
  rw [ConfigOp.apply]
  split
  · next db' hok => exact sameRows_attempt h hop hok
  · exact SameRows.refl x _

lemma sameRows_run (h : Edited x db.cmdbAssetConnection) {ops : List ConfigOp}
    (hno : Along ConfigOp.apply (fun db op => ¬ op.Edits x db) db ops) :
    SameRows x db.cmdbAssetConnection (run ConfigOp.apply db ops).cmdbAssetConnection := by
  induction ops generalizing db with
  | nil => exact SameRows.refl x _
  | cons op ops ih =>
    have hfirst := sameRows_apply h hno.1
    exact hfirst.trans (ih (h.congr hfirst) hno.2)

end

/-- **Edited connections are left alone.**  After a successful `UpsertAssetConnectionProfile` for
an asset, and any run of `Promote`, `Demote`, `ReapplyPropagation`, `UpsertAsset`,
`LinkAWSRelations` and edits of other assets, the asset has a connection, and its connections are
in every column those that the edit left. -/
theorem user_edits_kept {db db' : Db} {vault : Vault} {now : Time} {newId : Uuid}
    {assetID : String} {req : UpsertAssetConnectionProfileRequest} {assetId : Uuid}
    (hid : Uuid.parse assetID = some assetId)
    (hedit : upsertAssetConnectionProfile db vault now newId assetID req = .ok db')
    {ops : List ConfigOp}
    (hno : Along ConfigOp.apply (fun db op => ¬ op.Edits assetId db) db' ops) :
    (∃ c ∈ (run ConfigOp.apply db' ops).cmdbAssetConnection, c.assetId = assetId) ∧
      ∀ c : ConnectionRow, c.assetId = assetId →
        (c ∈ (run ConfigOp.apply db' ops).cmdbAssetConnection ↔ c ∈ db'.cmdbAssetConnection) := by
  have hedited := (edited_of_edit hid hedit).1
  have hsame := sameRows_run hedited hno
  exact ⟨(hedited.congr hsame).exists_row, hsame⟩

/-- The connection that a user gives to the instance of `gatewayAnd`. -/
def appProfile : ConnectionRow :=
  { id := Uuid.replicate 5, assetId := Uuid.replicate 2, host := "app.internal", port := 2222
    username := "deploy", createdAt := 3, updatedAt := 3 }

/-- The gateway is promoted, seen by a sync and demoted. -/
def gatewayOps : List ConfigOp :=
  [.promote 4 (Uuid.replicate 3) id (Uuid.replicate 1).toText {}, .reapplyPropagation 5 id 1,
    .upsertAsset 6 (Uuid.replicate 6) { externalID := "i-1", assetType := "aws_ec2_instance" },
    .linkAWSRelations 7 (fun x _ _ => x) [], .demote 8 (Uuid.replicate 1).toText]

theorem user_edits_kept_gatewayOps :
    upsertAssetConnectionProfile (gatewayAnd "111" false) ⟨.ok, .ok⟩ 3 (Uuid.replicate 5)
        (Uuid.replicate 2).toText { host := "app.internal", port := 2222, username := "deploy" } =
      .ok { gatewayAnd "111" false with cmdbAssetConnection := [appProfile] } ∧
    ∀ c : ConnectionRow, c.assetId = Uuid.replicate 2 →
      (c ∈ (run ConfigOp.apply { gatewayAnd "111" false with cmdbAssetConnection := [appProfile] }
        gatewayOps).cmdbAssetConnection ↔ c ∈ [appProfile]) := by
  have hedit : upsertAssetConnectionProfile (gatewayAnd "111" false) ⟨.ok, .ok⟩ 3 (Uuid.replicate 5)
        (Uuid.replicate 2).toText { host := "app.internal", port := 2222, username := "deploy" } =
      .ok { gatewayAnd "111" false with cmdbAssetConnection := [appProfile] } := by rfl
  refine ⟨hedit, (user_edits_kept (Uuid.parse_toText _) hedit ?_).2⟩
  exact ⟨not_false, not_false, not_false, not_false, not_false, trivial⟩

end OpsPlatform.Cmdb
