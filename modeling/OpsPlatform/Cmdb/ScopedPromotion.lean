/-
`POST /cmdb/assets/{id}/promote-vpc-proxy` and `/demote-vpc-proxy` (`internal/cmdb/handler.go`)
under a scoped `cmdb.asset:write`.

The gate looks at the env and source of the asset in the path.  A promotion then writes the
connections of the other instances of the VPC, and a demotion those that go through its proxy;
their env and source are not looked at.
-/
import OpsPlatform.Cmdb.ScopedWrite
import OpsPlatform.Cmdb.VpcIdentity

namespace OpsPlatform.Cmdb

open Lib Lib.Table Lib.Text SshProxy Iam

/-- The body of a promotion; without one the options are zero. -/
inductive PromoteBody where
  | absent
  | invalid
  | opts (opts : PromoteOptions)

/-- The response to an error of `Promote`. -/
def promoteError (message : String) : HttpError :=
  if message = errAssetNotFound then ⟨404, message, none⟩
  else if message = errAssetMissingNetwork ∨ message = errAssetUsernameUnresolved ∨
      errVPCProxyAlreadyExists.toList <+: message.toList then ⟨400, message, none⟩
  else ⟨500, message, none⟩

/-- The connections that `Demote` writes for the proxy that was found. -/
def retireReturning (db : Db) (now : Time) : Option SshProxyRow → List ConnectionRow
  | none => []
  | some p =>
    (db.cmdbAssetConnection.filter fun c => c.proxyId == some p.id && c.autoManaged).map
      fun c => { c with proxyId := none, updatedAt := now }

/-- `Demote`, with the connections that it writes. -/
def demoteReturning (db : Db) (now : Time) (assetID : String) :
    Except String (Db × List ConnectionRow) := do
  let a ← getAsset db assetID
  if a.isVpcProxy then
    let found := db.cmdbSshProxy.find? fun p => p.sourceAssetId == some a.id && p.live
    let db' := retireProxy db now found
    .ok ({ db' with cmdbAsset := setVpcProxy now a.id false db'.cmdbAsset },
      retireReturning db now found)
  else .ok (db, [])

/-- It is `Demote` with one more result. -/
lemma demote_eq_returning (db : Db) (now : Time) (assetID : String) :
    demote db now assetID = (demoteReturning db now assetID).map Prod.fst := by
  rw [demote, demoteReturning]
  rcases getAsset db assetID with e | a
  · rfl
  · simp only [bind, Except.bind]
    split
    · rfl
    · rfl

namespace Handler

/-- `PromoteVPCProxy`, with the connections that are routed through the proxy. -/
def promoteVPCProxy (db : Db) (now : Time) (newProxyId : Uuid) (newId : Uuid → Uuid)
    (assetID : String) : PromoteBody → Except HttpError (Db × List ConnectionRow)
  | .invalid => .error ⟨400, "invalid json body", none⟩
  | .absent => promoted {}
  | .opts opts => promoted opts
where
  promoted (opts : PromoteOptions) : Except HttpError (Db × List ConnectionRow) := do
    let (db, _, written) ←
      (promoteReturning now newId db newProxyId assetID opts).mapError promoteError
    .ok (db, written)

/-- `DemoteVPCProxy`, with the connections that are written. -/
def demoteVPCProxy (db : Db) (now : Time) (assetID : String) :
    Except HttpError (Db × List ConnectionRow) :=
  (demoteReturning db now assetID).mapError repoError

end Handler

/-- A request to one of the two routes. -/
inductive ProxyRoleWrite where
  | promote (newProxyId : Uuid) (newId : Uuid → Uuid) (body : PromoteBody)
  | demote

/-- `Routes`: the gate of the route, then the handler. -/
def serveProxyRole (db : Db) (now : Time) (ctx : Option UserIdentity) (assetID : String)
    (req : ProxyRoleWrite) : Except HttpError (Db × List ConnectionRow) := do
  withScopedAssetWrite db assetID ctx
  match req with
  | .promote newProxyId newId body => Handler.promoteVPCProxy db now newProxyId newId assetID body
  | .demote => Handler.demoteVPCProxy db now assetID

/-! ### The property and the condition -/

/-- The row is there only before or only after. -/
def ConnectionRow.Changed (db db' : Db) (c : ConnectionRow) : Prop :=
  ¬ (c ∈ db.cmdbAssetConnection ↔ c ∈ db'.cmdbAssetConnection)

/-- The connection belongs to an asset that is in one of the scopes. -/
def ConnectionRow.InScope (rows : List PermissionRow) (db : Db) (c : ConnectionRow) : Prop :=
  ∀ b ∈ db.cmdbAsset, b.id = c.assetId → WriteScope rows b.env b.source

/-- Every connection that was written, and every one that differs, is in one of the scopes. -/
def WritesInScope (rows : List PermissionRow) (db db' : Db) (written : List ConnectionRow) :
    Prop :=
  ∀ c : ConnectionRow, c ∈ written ∨ c.Changed db db' → c.InScope rows db

/-- For a promotion, the peers whose connection it may write are in the scopes; for a demotion,
the connections that the program manages and that go through the proxy are. -/
def ProxyRoleWrite.KeepsScope (rows : List PermissionRow) (db : Db) (assetID : String) :
    ProxyRoleWrite → Prop
  | .promote _ _ _ => ∀ a, getAsset db assetID = .ok a →
      ∀ b ∈ peers db.cmdbAsset a.vpcId a.id, Writable db.cmdbAssetConnection b.id →
        WriteScope rows b.env b.source
  | .demote => ∀ a, getAsset db assetID = .ok a → a.isVpcProxy = true →
      ∀ p, db.cmdbSshProxy.find? (fun p => p.sourceAssetId == some a.id && p.live) = some p →
        ∀ c ∈ db.cmdbAssetConnection, c.proxyId = some p.id → c.autoManaged = true →
          c.InScope rows db

/-! ### What a promotion writes -/

section

variable {now : Time} {newId : Uuid → Uuid} {connections : List ConnectionRow} {c : ConnectionRow}

/-- A connection that may not be written stays. -/
lemma mem_routePeer_of_not_writable {proxyId : Uuid} {b : AssetRow}
    (h : ¬ Writable connections b.id) :
    c ∈ routePeer now newId proxyId connections b ↔ c ∈ connections := by
  have hnone : ¬ c ∈ routePeerReturning now newId proxyId connections b :=
    fun hc => h (exists_routePeerReturning.mp ⟨c, hc⟩)
  rw [routePeer, manageConnection, mem_upsert_iff]
  refine (or_iff_right hnone).trans (and_iff_left_of_imp fun hc => ?_)
  rw [Bool.and_eq_false_iff]
  by_contra hhit
  rw [not_or, Bool.not_eq_false, Bool.not_eq_false, beq_iff_eq] at hhit
  exact h (Or.inr ⟨c, hc, hhit⟩)

/-- The connections of an asset after a propagation that writes none of them. -/
lemma mem_foldl_routePeer {proxyId : Uuid} {ps : List AssetRow}
    (h : ∀ b ∈ ps, b.id = c.assetId → ¬ Writable connections c.assetId) :
    c ∈ ps.foldl (routePeer now newId proxyId) connections ↔ c ∈ connections := by
  induction ps generalizing connections with
  | nil => rfl
  | cons b ps ih =>
    have hfirst : c ∈ routePeer now newId proxyId connections b ↔ c ∈ connections := by
      by_cases hb : b.id = c.assetId
      · have hnot := h b List.mem_cons_self hb
        rw [← hb] at hnot
        exact mem_routePeer_of_not_writable hnot
      · exact mem_manageConnection_other hb rfl
    rw [List.foldl_cons, ih, hfirst]
    intro b' hb' hid
    rw [writable_routePeer]
    exact h b' (List.mem_cons_of_mem _ hb') hid

variable {db db' : Db} {a : AssetRow} {newProxyId : Uuid} {assetID : String}
  {opts : PromoteOptions} {written : List ConnectionRow}

/-- The connections that differ are that of the promoted asset and those that are routed. -/
lemma changed_of_promoteReturning
    (h : promoteReturning now newId db newProxyId assetID opts = .ok (db', a, written))
    (hc : c.Changed db db') : c.assetId = a.id ∨ ∃ w ∈ written, w.assetId = c.assetId := by
  obtain ⟨-, -, login, -, -, db₁, p, hupsert, rfl, rfl⟩ := promoteReturning_eq_ok_iff.mp h
  have hconnections : db₁.cmdbAssetConnection = db.cmdbAssetConnection := by
    rw [upsertProxyForAsset_frame hupsert]
  by_contra hother
  rw [not_or] at hother
  obtain ⟨hne, hnone⟩ := hother
  rw [exists_propagateReturning] at hnone
  refine hc (Iff.symm ?_)
  calc c ∈ propagateProxyToVPCPeers now newId db₁.cmdbAsset a.vpcId a.id p.id
          (ensureProxyAssetConnection now newId a login.1 login.2 db₁.cmdbAssetConnection)
      ↔ c ∈ ensureProxyAssetConnection now newId a login.1 login.2 db₁.cmdbAssetConnection :=
        mem_foldl_routePeer fun b hb hid hwritable => hnone ⟨b, hb, hid, hwritable⟩
    _ ↔ c ∈ db₁.cmdbAssetConnection := mem_manageConnection_other (Ne.symm hne) rfl
    _ ↔ c ∈ db.cmdbAssetConnection := by rw [hconnections]

variable {rows : List PermissionRow}

lemma writesInScope_promote_iff (hkeys : (db.cmdbAsset.map (·.id)).Nodup)
    (h : promoteReturning now newId db newProxyId assetID opts = .ok (db', a, written))
    (hscope : WriteScope rows a.env a.source) :
    WritesInScope rows db db' written ↔
      ∀ b ∈ peers db.cmdbAsset a.vpcId a.id, Writable db.cmdbAssetConnection b.id →
        WriteScope rows b.env b.source := by
  obtain ⟨hget, -, login, -, -, db₁, p, hupsert, -, hwritten⟩ := promoteReturning_eq_ok_iff.mp h
  obtain ⟨-, hmem, -⟩ := getAsset_eq_ok hget
  have hroutes : (∀ w ∈ written, w.InScope rows db) ↔
      ∀ b ∈ peers db.cmdbAsset a.vpcId a.id, Writable db.cmdbAssetConnection b.id →
        WriteScope rows b.env b.source := by
    rw [hwritten]
    exact promote_routes_iff (P := fun b => WriteScope rows b.env b.source) hkeys hupsert
  rw [← hroutes]
  constructor
  · intro hall w hw
    exact hall w (Or.inl hw)
  · intro hall c hc
    rcases hc with hc | hc
    · exact hall c hc
    · rcases changed_of_promoteReturning h hc with hown | ⟨w, hw, hid⟩
      · intro b hb hid
        obtain rfl : b = a := List.inj_on_of_nodup_map hkeys hb hmem (hid.trans hown)
        exact hscope
      · intro b hb hid'
        exact hall w hw b hb (hid'.trans hid.symm)

/-! ### What a demotion writes -/

/-- A demotion writes the connections that the program manages and that go through the proxy. -/
lemma retire_iff {found : Option SshProxyRow} (hdb' : db'.cmdbAssetConnection =
      (retireProxy db now found).cmdbAssetConnection) :
    WritesInScope rows db db' (retireReturning db now found) ↔
      ∀ p, found = some p → ∀ c ∈ db.cmdbAssetConnection, c.proxyId = some p.id →
        c.autoManaged = true → c.InScope rows db := by
  cases found with
  | none =>
    refine iff_of_true ?_ ?_
    · rintro c (hc | hc)
      · cases hc
      · exact absurd (by rw [hdb']; rfl) hc
    · intro p hp
      cases hp
  | some p =>
    constructor
    · rintro hall p' hp' c hc hproxy hauto
      obtain rfl := Option.some.inj hp'
      refine hall { c with proxyId := none, updatedAt := now } (Or.inl ?_)
      exact List.mem_map_of_mem (List.mem_filter.mpr ⟨hc, by simp [hproxy, hauto]⟩)
    · intro hall
      have hhit : ∀ c ∈ db.cmdbAssetConnection,
          (c.proxyId == some p.id && c.autoManaged) = true → c.InScope rows db := by
        intro c hc hcond
        simp only [Bool.and_eq_true, beq_iff_eq] at hcond
        exact hall p rfl c hc hcond.1 hcond.2
      rintro c (hc | hc)
      · obtain ⟨c₀, hc₀, rfl⟩ := List.mem_map.mp hc
        obtain ⟨hc₀, hcond⟩ := List.mem_filter.mp hc₀
        exact hhit c₀ hc₀ hcond
      · by_contra hout
        rw [ConnectionRow.Changed, hdb'] at hc
        refine hc ⟨fun hold => ?_, fun hnew => ?_⟩
        · refine mem_updateWhere.mpr ⟨c, hold, Or.inr ⟨?_, rfl⟩⟩
          exact Bool.eq_false_iff.mpr fun hcond => hout (hhit c hold hcond)
        · obtain ⟨c₀, hc₀, ⟨hcond, rfl⟩ | ⟨-, rfl⟩⟩ := mem_updateWhere.mp hnew
          · exact absurd (hhit c₀ hc₀ hcond) hout
          · exact hc₀

lemma writesInScope_demote_iff (hget : getAsset db assetID = .ok a)
    (h : demoteReturning db now assetID = .ok (db', written)) :
    WritesInScope rows db db' written ↔ ProxyRoleWrite.demote.KeepsScope rows db assetID := by
  rw [demoteReturning, hget] at h
  simp only [ProxyRoleWrite.KeepsScope, hget, Except.ok.injEq, forall_eq']
  change (if a.isVpcProxy = true then _ else _) = _ at h
  split at h
  · next hproxy =>
    obtain ⟨rfl, rfl⟩ := Prod.mk.inj (Except.ok.inj h)
    refine (retire_iff rfl).trans ?_
    simp [hproxy]
  · next hproxy =>
    obtain ⟨rfl, rfl⟩ := Prod.mk.inj (Except.ok.inj h)
    refine iff_of_true ?_ fun hpromoted => absurd hpromoted hproxy
    rintro c (hc | hc)
    · cases hc
    · exact absurd Iff.rfl hc

/-! ### The routes -/

lemma promoted_eq_ok
    (h : Handler.promoteVPCProxy.promoted db now newProxyId newId assetID opts =
      .ok (db', written)) :
    ∃ a, promoteReturning now newId db newProxyId assetID opts = .ok (db', a, written) := by
  rw [Handler.promoteVPCProxy.promoted, Except.bind_eq_ok] at h
  obtain ⟨⟨db₁, a, written₁⟩, hpromote, h⟩ := h
  obtain ⟨rfl, rfl⟩ := Prod.mk.inj (Except.ok.inj h)
  exact ⟨a, Except.mapError_eq_ok.mp hpromote⟩

lemma promoteVPCProxy_eq_ok {body : PromoteBody}
    (h : Handler.promoteVPCProxy db now newProxyId newId assetID body = .ok (db', written)) :
    ∃ opts a, promoteReturning now newId db newProxyId assetID opts = .ok (db', a, written) := by
  cases body with
  | invalid => cases h
  | absent => exact ⟨{}, promoted_eq_ok h⟩
  | opts opts => exact ⟨opts, promoted_eq_ok h⟩

end

/-- **Promotions under a scope.**  For a user who is no admin, every connection that a served
promotion or demotion writes belongs to an asset in one of their `cmdb.asset:write` scopes exactly
when the peers that a promotion routes, or the connections that go through the proxy of a
demotion, are in the scopes.  An unscoped row of the permission is a scope that everything is
in. -/
theorem promotion_scoped_iff {user : User} {rows : List PermissionRow} {id : UserIdentity}
    (hid : identityOfRows user rows = .ok id) (ha : isAdmin id = false) {db db' : Db}
    (hkeys : (db.cmdbAsset.map (·.id)).Nodup) {now : Time} {assetID : String}
    {req : ProxyRoleWrite} {written : List ConnectionRow}
    (h : serveProxyRole db now (some id) assetID req = .ok (db', written)) :
    WritesInScope rows db db' written ↔ req.KeepsScope rows db assetID := by
  obtain ⟨hbuilt, -⟩ := builtFrom_of_identityOfRows hid
  unfold serveProxyRole at h
  rw [Except.bind_eq_ok] at h
  obtain ⟨_, hgate, h⟩ := h
  obtain ⟨a, hget, hscope⟩ := withScopedAssetWrite_eq_ok hbuilt ha hgate
  cases req with
  | promote newProxyId newId body =>
    obtain ⟨opts, a', hpromote⟩ := promoteVPCProxy_eq_ok h
    obtain rfl : a = a' :=
      Except.ok.inj (hget.symm.trans (promoteReturning_eq_ok_iff.mp hpromote).1)
    rw [writesInScope_promote_iff hkeys hpromote hscope]
    simp [ProxyRoleWrite.KeepsScope, hget]
  | demote => exact writesInScope_demote_iff hget (Except.mapError_eq_ok.mp h)

/-- A gateway in development, and an instance of the same VPC in the env. -/
def devGatewayAnd (env : String) : Db :=
  { cmdbAsset :=
      [{ id := Uuid.replicate 2, type := "aws_ec2_instance", name := "gw", env := "dev"
         source := "aws", publicIp := "3.3.3.3", privateIp := "10.0.0.1", osFamily := "ubuntu"
         vpcId := "vpc-1" },
       { id := Uuid.replicate 3, type := "aws_ec2_instance", name := "app", env := env
         source := "aws", privateIp := "10.0.0.2", osFamily := "ubuntu", vpcId := "vpc-1" }] }

/-- The promotion of the gateway. -/
def promoteGateway (env : String) : Except HttpError (Db × List ConnectionRow) :=
  serveProxyRole (devGatewayAnd env) 7 (some devWriter) "22222222-2222-2222-2222-222222222222"
    (.promote (Uuid.replicate 4) id .absent)

/-- The route of the instance through the gateway. -/
def appRoute : ConnectionRow :=
  { id := Uuid.replicate 3, assetId := Uuid.replicate 3, host := "10.0.0.2", username := "ubuntu"
    authType := "key", proxyId := some (Uuid.replicate 4), autoManaged := true, createdAt := 7
    updatedAt := 7 }

theorem promotion_scoped_iff_staging :
    ∃ db', promoteGateway "staging" = .ok (db', [appRoute]) ∧
      WritesInScope sampleRows (devGatewayAnd "staging") db' [appRoute] := by
  have hserve : promoteGateway "staging" = .ok (_, [appRoute]) := rfl
  refine ⟨_, hserve,
    (promotion_scoped_iff identityOfRows_devWriter (by decide) (by decide) hserve).mpr ?_⟩
  intro a _ b hb _
  rcases List.mem_pair.mp (List.mem_of_mem_filter hb) with rfl | rfl
  · exact writeScope_devWriter.mpr (by decide)
  · exact writeScope_devWriter.mpr (by decide)

/-- The same user routes an instance in production, where they may write nothing. -/
theorem promotion_writes_outside_scope :
    identityOfRows { id := Uuid.replicate 1 } sampleRows = .ok devWriter ∧
      isAdmin devWriter = false ∧ AllScoped sampleRows "cmdb.asset:write" ∧
      ∃ db', promoteGateway "prod" = .ok (db', [appRoute]) ∧
        ¬ WritesInScope sampleRows (devGatewayAnd "prod") db' [appRoute] := by
  have hserve : promoteGateway "prod" = .ok (_, [appRoute]) := rfl
  refine ⟨identityOfRows_devWriter, by decide, allScoped_sampleRows, _, hserve, ?_⟩
  intro hall
  have hprod := hall appRoute (Or.inl List.mem_cons_self) _
    (List.mem_cons_of_mem _ List.mem_cons_self) rfl
  exact absurd (writeScope_devWriter.mp hprod) (by decide)

end OpsPlatform.Cmdb
