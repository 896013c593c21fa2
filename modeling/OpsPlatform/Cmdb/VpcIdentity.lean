/-
Which VPC an asset is in.

The id of a VPC is unique within an account and a region only, as the comment of
`LinkAWSRelations` (`internal/cmdb/aws_writer.go`) says, and relations are resolved by the
three of them.  `VPCProxyService` goes by the id alone: in its check for another promoted
asset, in the unique index that backs it, and in the selection of the peers.  The name of a
proxy, unique among the live ones, is made of the id alone as well.
-/
import OpsPlatform.Cmdb.VpcProxy

namespace OpsPlatform.Cmdb

open Lib Lib.Table Lib.Text SshProxy

/-- Both assets are in one region of one account. -/
structure SameRegion (a b : AssetRow) : Prop where
  account : b.accountId = a.accountId
  region : b.region = a.region

/-- Both assets are in one VPC. -/
structure SameVpc (a b : AssetRow) : Prop extends SameRegion a b where
  vpc : b.vpcId = a.vpcId

/-! ### The routes that are set -/

/-- The rows that the statement of `manageConnection` writes. -/
def manageConnectionReturning (now : Time) (newId : Uuid → Uuid) (assetId : Uuid)
    (host username authType : String) (proxyId : Option Uuid) (guard : ConnectionRow → Bool)
    (connections : List ConnectionRow) : List ConnectionRow :=
  let set := manage now host username authType proxyId
  upsertReturning (·.assetId == assetId) guard set
    (set { id := newId assetId, assetId, host, username, createdAt := now }) connections

section Propagation

variable (now : Time) (newId : Uuid → Uuid)

/-- The statement of the loop of `propagateProxyToVPCPeers`. -/
def routePeer (proxyId : Uuid) (connections : List ConnectionRow) (a : AssetRow) :
    List ConnectionRow :=
  manageConnection now newId a.id a.privateIp (defaultUsernameForOSFamily a.osFamily) "key"
    (some proxyId) (·.autoManaged) connections

/-- The row that it writes, if any. -/
def routePeerReturning (proxyId : Uuid) (connections : List ConnectionRow) (a : AssetRow) :
    List ConnectionRow :=
  manageConnectionReturning now newId a.id a.privateIp (defaultUsernameForOSFamily a.osFamily)
    "key" (some proxyId) (·.autoManaged) connections

/-- The rows that `propagateProxyToVPCPeers` writes: those whose `proxy_id` it sets. -/
def propagateReturning (assets : List AssetRow) (vpcID : String) (sourceAssetId proxyId : Uuid)
    (connections : List ConnectionRow) : List ConnectionRow :=
  loopReturning (routePeerReturning now newId proxyId) (routePeer now newId proxyId) connections
    (peers assets vpcID sourceAssetId)

/-- `Promote`, with the promoted asset and the connections whose `proxy_id` was set. -/
def promoteReturning (db : Db) (newProxyId : Uuid) (assetID : String) (opts : PromoteOptions) :
    Except String (Db × AssetRow × List ConnectionRow) := do
  let a ← getAsset db assetID
  if a.publicIp = "" ∨ a.vpcId = "" then .error errAssetMissingNetwork
  else do
    let login ← promoteLogin opts a
    promotable db a
    let db := { db with cmdbAsset := setVpcProxy now a.id true db.cmdbAsset }
    let (db, p) ← upsertProxyForAsset db now newProxyId a login.1 login.2
    let connections := ensureProxyAssetConnection now newId a login.1 login.2
      db.cmdbAssetConnection
    .ok ({ db with
           cmdbAssetConnection := propagateProxyToVPCPeers now newId db.cmdbAsset a.vpcId a.id p.id
             connections }, a,
      propagateReturning now newId db.cmdbAsset a.vpcId a.id p.id connections)

/-- The connections whose `proxy_id` is set by `ReapplyPropagation`, each with the promoted asset
it is routed through. -/
def reapplyReturning (db : Db) (committed : ℕ) : List (AssetRow × ConnectionRow) :=
  loopReturning
    (fun connections t => (propagateReturning now newId db.cmdbAsset t.1.vpcId t.1.id t.2.id
      connections).map fun c => (t.1, c))
    (fun connections t =>
      propagateProxyToVPCPeers now newId db.cmdbAsset t.1.vpcId t.1.id t.2.id connections)
    db.cmdbAssetConnection ((propagationTargets db).take committed)

/-- It is `Promote` with one more result. -/
lemma promote_eq_returning (db : Db) (newProxyId : Uuid) (assetID : String)
    (opts : PromoteOptions) :
    promote db now newProxyId newId assetID opts =
      (promoteReturning now newId db newProxyId assetID opts).map Prod.fst := by
  rw [promote, promoteReturning]
  rcases getAsset db assetID with e | a
  · rfl
  · simp only [bind, Except.bind]
    split
    · rfl
    · rcases promoteLogin opts a with e | login
      · rfl
      · rcases promotable db a with e | _
        · rfl
        · dsimp only
          rcases upsertProxyForAsset _ now newProxyId a login.1 login.2 with e | ⟨db₁, p⟩ <;> rfl

end Propagation

/-! ### The property -/

/-- The name of the proxy of an asset. -/
def proxyName (a : AssetRow) : String :=
  if a.name ≠ "" then a.vpcId ++ "-" ++ a.name else a.vpcId ++ "-proxy"

/-- The id of the row that `upsertProxyForAsset` writes. -/
def proxyRowId (db : Db) (newProxyId : Uuid) (a : AssetRow) : Uuid :=
  match firstBy proxyOrder (fun p => p.sourceAssetId == some a.id) db.cmdbSshProxy with
  | some existing => existing.id
  | none => newProxyId

/-- Another live proxy has the name of the proxy of `a`, and it is that of `b`. -/
def HoldsName (db : Db) (newProxyId : Uuid) (a b : AssetRow) : Prop :=
  ∃ q ∈ db.cmdbSshProxy, q.live = true ∧ q.name = proxyName a ∧
    q.id ≠ proxyRowId db newProxyId a ∧ q.sourceAssetId = some b.id

section

variable (db : Db) (now : Time) (newId : Uuid → Uuid)

/-- A call of `Promote` is refused because of `b`: the check finds it, or the unique index finds
the live proxy of it under the name that the proxy of the asset is to have. -/
inductive RefusedFor (newProxyId : Uuid) (assetID : String) (opts : PromoteOptions)
    (a b : AssetRow) : Prop where
  | check (h : promote db now newProxyId newId assetID opts =
      .error (errVPCProxyAlreadyExists ++ ": asset " ++ b.id.toText))
  | name (h : promote db now newProxyId newId assetID opts = .error errNameTaken)
      (hname : HoldsName db newProxyId a b)

/-- A call of `Promote` keeps VPCs apart: it is not refused because of a promoted asset of
another account or region, and every connection that it routes through the proxy is that of an
asset of the same VPC. -/
structure PromoteRespects (newProxyId : Uuid) (assetID : String) (opts : PromoteOptions) :
    Prop where
  refused : ∀ a, getAsset db assetID = .ok a → ∀ b ∈ db.cmdbAsset, b.isVpcProxy = true →
    RefusedFor db now newId newProxyId assetID opts a b → SameRegion a b
  routed : ∀ db' a written,
    promoteReturning now newId db newProxyId assetID opts = .ok (db', a, written) →
    ∀ c ∈ written, ∀ b ∈ db.cmdbAsset, b.id = c.assetId → SameVpc a b

/-- A call of `ReapplyPropagation` keeps VPCs apart. -/
def ReapplyRespects (committed : ℕ) : Prop :=
  ∀ a c, (a, c) ∈ reapplyReturning now newId db committed →
    ∀ b ∈ db.cmdbAsset, b.id = c.assetId → SameVpc a b

end

/-! ### The condition -/

/-- The connection of an asset is one that a propagation writes: there is none, or one that the
program manages. -/
def Writable (connections : List ConnectionRow) (assetId : Uuid) : Prop :=
  (∀ c ∈ connections, c.assetId ≠ assetId) ∨
    ∃ c ∈ connections, c.assetId = assetId ∧ c.autoManaged = true

/-- Every peer under the `vpc_id` of `a` that a propagation would route is in the VPC of `a`. -/
def PeersInVpc (db : Db) (a : AssetRow) : Prop :=
  ∀ b ∈ peers db.cmdbAsset a.vpcId a.id, Writable db.cmdbAssetConnection b.id → SameVpc a b

/-- `b` is another live promoted asset under the `vpc_id` of `a`. -/
structure Rival (db : Db) (a b : AssetRow) : Prop where
  mem : b ∈ db.cmdbAsset
  vpc : b.vpcId = a.vpcId
  promoted : b.isVpcProxy = true
  live : b.live = true
  other : b.id ≠ a.id

/-- The asset has a proxy row, or the id for a new one is fresh. -/
def RowFits (db : Db) (newProxyId : Uuid) (a : AssetRow) : Prop :=
  (∃ p ∈ db.cmdbSshProxy, p.sourceAssetId = some a.id) ∨ ∀ p ∈ db.cmdbSshProxy, p.id ≠ newProxyId

/-- The condition for the promotion of `a`, when it comes to the check for another promoted
asset. -/
structure AssetApart (db : Db) (newProxyId : Uuid) (a : AssetRow) : Prop where
  rivals : ∀ b, Rival db a b → SameRegion a b
  names : (∀ b, ¬ Rival db a b) → RowFits db newProxyId a → ∀ b ∈ db.cmdbAsset,
    b.isVpcProxy = true → HoldsName db newProxyId a b → SameRegion a b
  peers : (∀ b, ¬ Rival db a b) → RowFits db newProxyId a →
    nameTaken db (proxyRowId db newProxyId a) (proxyName a) = false → PeersInVpc db a

/-- The condition for `Promote`.  It asks nothing of a call that is refused for a reason of its
own. -/
def PromoteApart (db : Db) (newProxyId : Uuid) (assetID : String) (opts : PromoteOptions) : Prop :=
  ∀ a login, getAsset db assetID = .ok a → a.publicIp ≠ "" → a.vpcId ≠ "" →
    promoteLogin opts a = .ok login → AssetApart db newProxyId a

/-- The condition for `ReapplyPropagation`. -/
def ReapplyApart (db : Db) (committed : ℕ) : Prop :=
  ∀ t ∈ (propagationTargets db).take committed, PeersInVpc db t.1

/-! ### What a propagation writes -/

section

variable {now : Time} {newId : Uuid → Uuid} {connections : List ConnectionRow}

/-- The row that is written is the connection of the asset. -/
lemma assetId_of_manageReturning {assetId : Uuid} {host username authType : String}
    {proxyId : Option Uuid} {guard : ConnectionRow → Bool} {c : ConnectionRow}
    (h : c ∈ manageConnectionReturning now newId assetId host username authType proxyId guard
      connections) : c.assetId = assetId := by
  rcases mem_upsertReturning h with rfl | ⟨c₀, -, hconflict, -, rfl⟩
  · rfl
  · exact eq_of_beq hconflict

lemma exists_routePeerReturning {proxyId : Uuid} {b : AssetRow} :
    (∃ c, c ∈ routePeerReturning now newId proxyId connections b) ↔
      Writable connections b.id := by
  rw [routePeerReturning, manageConnectionReturning, exists_mem_upsertReturning, Writable]
  simp

/-- The rows of an asset after a statement for another one. -/
lemma mem_manageConnection_other {assetId x : Uuid} {host username authType : String}
    {proxyId : Option Uuid} {guard : ConnectionRow → Bool} (hne : assetId ≠ x) {c : ConnectionRow}
    (hc : c.assetId = x) :
    c ∈ manageConnection now newId assetId host username authType proxyId guard connections ↔
      c ∈ connections := by
  have hno : ¬ c ∈ manageConnectionReturning now newId assetId host username authType proxyId
      guard connections := fun h => hne ((assetId_of_manageReturning h).symm.trans hc)
  have hconflict : (c.assetId == assetId) = false := by simpa [hc] using Ne.symm hne
  rw [manageConnection, mem_upsert_iff]
  simp only [hconflict, Bool.false_and, and_true]
  exact or_iff_right hno

lemma writable_congr {connections' : List ConnectionRow} {x : Uuid}
    (h : ∀ c : ConnectionRow, c.assetId = x → (c ∈ connections ↔ c ∈ connections')) :
    Writable connections x ↔ Writable connections' x := by
  refine or_congr ?_ ?_
  · refine forall_congr' fun c => ?_
    by_cases hc : c.assetId = x
    · rw [h c hc]
    · exact iff_of_true (fun _ => hc) fun _ => hc
  · refine exists_congr fun c => ?_
    constructor
    · rintro ⟨hmem, hc, hauto⟩
      exact ⟨(h c hc).mp hmem, hc, hauto⟩
    · rintro ⟨hmem, hc, hauto⟩
      exact ⟨(h c hc).mpr hmem, hc, hauto⟩

/-- A route that was set can be set again, and one that was left alone is left alone. -/
lemma writable_routePeer {proxyId x : Uuid} {b : AssetRow} :
    Writable (routePeer now newId proxyId connections b) x ↔ Writable connections x := by
  by_cases hb : b.id = x
  · subst hb
    constructor
    · rintro (hnone | ⟨c, hc, hid, hauto⟩)
      · -- a row that is not written stays
        by_contra hnot
        refine hnot (Or.inl ?_)
        intro c hc hid
        refine hnone c (mem_upsert_iff.mpr (Or.inr ⟨hc, ?_⟩)) hid
        cases hauto : c.autoManaged with
        | false => simp
        | true => exact absurd (Or.inr ⟨c, hc, hid, hauto⟩) hnot
      · rcases mem_upsert_iff.mp hc with hwritten | ⟨hold, hhit⟩
        · exact exists_routePeerReturning.mp ⟨c, hwritten⟩
        · simp [hid, hauto] at hhit
    · intro hwritable
      obtain ⟨c, hc⟩ := exists_routePeerReturning.mpr hwritable
      refine Or.inr ⟨c, mem_upsert_iff.mpr (Or.inl hc), assetId_of_manageReturning hc, ?_⟩
      rcases mem_upsertReturning hc with rfl | ⟨c₀, -, -, -, rfl⟩ <;> rfl
  · exact writable_congr fun c hc => mem_manageConnection_other hb hc

lemma writable_foldl_routePeer {proxyId x : Uuid} (ps : List AssetRow) :
    Writable (ps.foldl (routePeer now newId proxyId) connections) x ↔ Writable connections x := by
  induction ps generalizing connections with
  | nil => rfl
  | cons b ps ih => rw [List.foldl_cons, ih, writable_routePeer]

/-- A propagation sets the routes of the peers whose connection it may write. -/
lemma exists_propagateReturning {assets : List AssetRow} {vpcID : String}
    {sourceAssetId proxyId x : Uuid} :
    (∃ c ∈ propagateReturning now newId assets vpcID sourceAssetId proxyId connections,
        c.assetId = x) ↔
      ∃ b ∈ peers assets vpcID sourceAssetId, b.id = x ∧ Writable connections x := by
  simp only [propagateReturning, mem_loopReturning]
  constructor
  · rintro ⟨c, ⟨before, b, after, hsplit, hc⟩, rfl⟩
    have hid := assetId_of_manageReturning hc
    refine ⟨b, by simp [hsplit], hid.symm, ?_⟩
    rw [hid, ← writable_foldl_routePeer before]
    exact exists_routePeerReturning.mp ⟨c, hc⟩
  · rintro ⟨b, hb, rfl, hwritable⟩
    obtain ⟨before, after, hsplit⟩ := List.append_of_mem hb
    rw [← writable_foldl_routePeer before] at hwritable
    obtain ⟨c, hc⟩ := exists_routePeerReturning.mpr hwritable
    exact ⟨c, ⟨before, b, after, hsplit, hc⟩, assetId_of_manageReturning hc⟩

/-- The routes that a propagation for `a` sets are those of assets with a property exactly when the
peers have it. -/
lemma propagate_iff {P : AssetRow → Prop} {db : Db} (hkeys : (db.cmdbAsset.map (·.id)).Nodup)
    {a : AssetRow} {proxyId : Uuid}
    (hwritable : ∀ x, x ≠ a.id → (Writable connections x ↔ Writable db.cmdbAssetConnection x)) :
    (∀ c ∈ propagateReturning now newId db.cmdbAsset a.vpcId a.id proxyId connections,
        ∀ b ∈ db.cmdbAsset, b.id = c.assetId → P b) ↔
      ∀ b ∈ peers db.cmdbAsset a.vpcId a.id, Writable db.cmdbAssetConnection b.id → P b := by
  have hpeer : ∀ b ∈ peers db.cmdbAsset a.vpcId a.id, b ∈ db.cmdbAsset ∧ b.id ≠ a.id := by
    intro b hb
    obtain ⟨hmem, hcond⟩ := List.mem_filter.mp hb
    simp only [Bool.and_eq_true, bne_iff_ne] at hcond
    exact ⟨hmem, hcond.1.1.1.1.2⟩
  constructor
  · intro h b hb hwrite
    rw [← hwritable b.id (hpeer b hb).2] at hwrite
    obtain ⟨c, hc, hid⟩ := exists_propagateReturning.mpr ⟨b, hb, rfl, hwrite⟩
    exact h c hc b (hpeer b hb).1 hid.symm
  · intro h c hc b hb hid
    obtain ⟨b', hb', hid', hwrite⟩ := exists_propagateReturning.mp ⟨c, hc, rfl⟩
    obtain rfl : b' = b :=
      List.inj_on_of_nodup_map hkeys (hpeer b' hb').1 hb (hid'.trans hid.symm)
    refine h b' hb' ?_
    rw [← hwritable b'.id (hpeer b' hb').2, hid']
    exact hwrite

end

/-! ### `ReapplyPropagation` -/

section

variable {db : Db} {now : Time} {newId : Uuid → Uuid}

lemma writable_propagations {assets : List AssetRow} {connections : List ConnectionRow} {x : Uuid}
    (ts : List (AssetRow × SshProxyRow)) :
    Writable (ts.foldl (fun connections t =>
        propagateProxyToVPCPeers now newId assets t.1.vpcId t.1.id t.2.id connections)
      connections) x ↔ Writable connections x := by
  induction ts generalizing connections with
  | nil => rfl
  | cons t ts ih =>
    rw [List.foldl_cons, ih]
    exact writable_foldl_routePeer (peers assets t.1.vpcId t.1.id)

lemma reapplyRespects_iff (hkeys : (db.cmdbAsset.map (·.id)).Nodup) (committed : ℕ) :
    ReapplyRespects db now newId committed ↔ ReapplyApart db committed := by
  have hround : ∀ (before : List (AssetRow × SshProxyRow)) (t : AssetRow × SshProxyRow),
      (∀ c ∈ propagateReturning now newId db.cmdbAsset t.1.vpcId t.1.id t.2.id
          (before.foldl (fun connections t => propagateProxyToVPCPeers now newId db.cmdbAsset
            t.1.vpcId t.1.id t.2.id connections) db.cmdbAssetConnection),
        ∀ b ∈ db.cmdbAsset, b.id = c.assetId → SameVpc t.1 b) ↔ PeersInVpc db t.1 :=
    fun before t => propagate_iff hkeys fun x _ => writable_propagations before
  constructor
  · intro h t ht
    obtain ⟨before, after, hsplit⟩ := List.append_of_mem ht
    refine (hround before t).mp ?_
    intro c hc
    refine h t.1 c (mem_loopReturning.mpr ⟨before, t, after, hsplit, ?_⟩)
    exact List.mem_map_of_mem hc
  · intro h a c hc
    obtain ⟨before, t, after, hsplit, hc⟩ := mem_loopReturning.mp hc
    obtain ⟨c', hc', hpair⟩ := List.mem_map.mp hc
    obtain ⟨rfl, rfl⟩ := Prod.mk.inj hpair
    exact (hround before t).mpr (h t (by simp [hsplit])) c' hc'

/-! ### `Promote` -/

variable {a : AssetRow} {newProxyId : Uuid} {assetID : String} {opts : PromoteOptions}

lemma promotable_eq_ok_iff : promotable db a = .ok () ↔ ∀ b, ¬ Rival db a b := by
  rw [promotable]
  split
  · next b hb =>
    have hcond := List.find?_some hb
    simp only [Bool.and_eq_true, beq_iff_eq, bne_iff_ne] at hcond
    obtain ⟨⟨⟨hvpc, hpromoted⟩, hlive⟩, hother⟩ := hcond
    refine iff_of_false (by simp) fun h => h b ?_
    exact ⟨List.mem_of_find?_eq_some hb, hvpc, hpromoted, hlive, hother⟩
  · next hnone =>
    rw [List.find?_eq_none] at hnone
    refine iff_of_true rfl ?_
    intro b hb
    exact hnone b hb.mem (by simp [hb.vpc, hb.promoted, hb.live, hb.other])

/-- The refusal names a promoted asset under the same `vpc_id`. -/
lemma promotable_eq_error {e : String} (h : promotable db a = .error e) :
    ∃ b, Rival db a b ∧ e = errVPCProxyAlreadyExists ++ ": asset " ++ b.id.toText := by
  rw [promotable] at h
  split at h
  · next b hb =>
    have hcond := List.find?_some hb
    simp only [Bool.and_eq_true, beq_iff_eq, bne_iff_ne] at hcond
    obtain ⟨⟨⟨hvpc, hpromoted⟩, hlive⟩, hother⟩ := hcond
    exact ⟨b, ⟨List.mem_of_find?_eq_some hb, hvpc, hpromoted, hlive, hother⟩,
      (Except.error.inj h).symm⟩
  · cases h

variable (db now a newProxyId) in
/-- What becomes of the proxy of the asset: its id is in use, its name is, or it is written. -/
lemma upsertProxyForAsset_cases (username authType : String) :
    (upsertProxyForAsset db now newProxyId a username authType =
        .error "duplicate key value violates unique constraint \"cmdb_ssh_proxy_pkey\"" ∧
      ¬ RowFits db newProxyId a) ∨
    (upsertProxyForAsset db now newProxyId a username authType = .error errNameTaken ∧
      RowFits db newProxyId a ∧
      nameTaken db (proxyRowId db newProxyId a) (proxyName a) = true) ∨
    ((∃ r, upsertProxyForAsset db now newProxyId a username authType = .ok r) ∧
      RowFits db newProxyId a ∧
      nameTaken db (proxyRowId db newProxyId a) (proxyName a) = false) := by
  have hname : ∀ p, (proxyOfAsset now a username authType p).name = proxyName a := fun _ => rfl
  rw [upsertProxyForAsset, proxyRowId]
  cases hfirst : firstBy proxyOrder (fun p => p.sourceAssetId == some a.id) db.cmdbSshProxy with
  | some existing =>
    obtain ⟨hmem, hsource⟩ := mem_of_firstBy hfirst
    have hfits : RowFits db newProxyId a := Or.inl ⟨existing, hmem, by simpa using hsource⟩
    refine Or.inr ?_
    cases hfind : db.cmdbSshProxy.find? fun p => p.id == existing.id && (!false || p.live) with
    | none =>
      rw [List.find?_eq_none] at hfind
      exact absurd (by simp) (hfind existing hmem)
    | some p =>
      simp only [updateProxy, hfind, hname]
      cases nameTaken db existing.id (proxyName a) with
      | true => exact Or.inl ⟨rfl, hfits, rfl⟩
      | false => exact Or.inr ⟨⟨_, rfl⟩, hfits, rfl⟩
  | none =>
    have hnone : ∀ p ∈ db.cmdbSshProxy, p.sourceAssetId ≠ some a.id := by
      simpa using firstBy_eq_none_iff.mp hfirst
    dsimp only
    rw [insertProxy]
    split
    · next htaken =>
      obtain ⟨p, hp, hid⟩ := List.any_eq_true.mp htaken
      refine Or.inl ⟨rfl, ?_⟩
      rintro (⟨q, hq, hsource⟩ | hfresh)
      · exact hnone q hq hsource
      · exact hfresh p hp (eq_of_beq hid)
    · next hfresh =>
      have hfits : RowFits db newProxyId a := Or.inr (by simpa [proxyOfAsset] using hfresh)
      refine Or.inr ?_
      rw [hname]
      show ((if nameTaken db newProxyId (proxyName a) = true then _ else _) = _ ∧ _) ∨
        (∃ r, (if nameTaken db newProxyId (proxyName a) = true then _ else _) = _) ∧ _
      cases nameTaken db newProxyId (proxyName a) with
      | true => exact Or.inl ⟨rfl, hfits, rfl⟩
      | false => exact Or.inr ⟨⟨_, rfl⟩, hfits, rfl⟩

/-- The proxy of the asset is written exactly when the constraints admit it. -/
lemma upsertProxyForAsset_isOk_iff {username authType : String} :
    (∃ r, upsertProxyForAsset db now newProxyId a username authType = .ok r) ↔
      RowFits db newProxyId a ∧
        nameTaken db (proxyRowId db newProxyId a) (proxyName a) = false := by
  rcases upsertProxyForAsset_cases db now a newProxyId username authType with
    ⟨h, hfits⟩ | ⟨h, -, htaken⟩ | ⟨h, hadmitted⟩
  · rw [h]
    exact iff_of_false (by simp) fun hboth => hfits hboth.1
  · rw [h, htaken]
    exact iff_of_false (by simp) (by simp)
  · exact iff_of_true h hadmitted

lemma upsertProxyForAsset_nameTaken_iff {username authType : String} :
    upsertProxyForAsset db now newProxyId a username authType = .error errNameTaken ↔
      RowFits db newProxyId a ∧
        nameTaken db (proxyRowId db newProxyId a) (proxyName a) = true := by
  rcases upsertProxyForAsset_cases db now a newProxyId username authType with
    ⟨h, hfits⟩ | ⟨h, hboth⟩ | ⟨⟨r, h⟩, -, hfree⟩
  · rw [h]
    refine iff_of_false ?_ fun hboth => hfits hboth.1
    intro heq
    exact absurd (Except.error.inj heq) (by decide)
  · exact iff_of_true h hboth
  · rw [h, hfree]
    exact iff_of_false (by simp) (by simp)

/-- The texts of the other errors of a promotion. -/
lemma ne_refusal {e : String} (h : e.toList.take 2 ≠ "an".toList) (text : String) :
    e ≠ errVPCProxyAlreadyExists ++ ": asset " ++ text := by
  rintro rfl
  refine h ?_
  rw [String.toList_append, String.toList_append]
  rfl

lemma promoteLogin_eq_error {e : String} (h : promoteLogin opts a = .error e) :
    e = errAssetUsernameUnresolved := by
  rw [promoteLogin] at h
  generalize (if trimSpace opts.username = "" then _ else _ : String) = username at h
  generalize toLower (trimSpace opts.authType) = authType at h
  by_cases husername : username = ""
  · rw [if_pos husername] at h
    exact (Except.error.inj h).symm
  · rw [if_neg husername] at h
    split at h
    · cases h
    · cases h

lemma upsertProxyForAsset_ne_refusal {username authType e : String}
    (h : upsertProxyForAsset db now newProxyId a username authType = .error e) (text : String) :
    e ≠ errVPCProxyAlreadyExists ++ ": asset " ++ text := by
  refine ne_refusal ?_ text
  rcases upsertProxyForAsset_cases db now a newProxyId username authType with
    ⟨h', -⟩ | ⟨h', -⟩ | ⟨⟨r, h'⟩, -⟩
  · obtain rfl := Except.error.inj (h'.symm.trans h)
    decide
  · obtain rfl := Except.error.inj (h'.symm.trans h)
    decide
  · rw [h'] at h
    cases h

/-- `Promote` of a live asset fails in the check or in the write of the proxy, if not for a reason
of its own. -/
lemma promote_eq_error_iff (ha : getAsset db assetID = .ok a) {e : String}
    (hnetworkErr : e ≠ errAssetMissingNetwork) (hloginErr : e ≠ errAssetUsernameUnresolved) :
    promote db now newProxyId newId assetID opts = .error e ↔
      (a.publicIp ≠ "" ∧ a.vpcId ≠ "") ∧ ∃ login, promoteLogin opts a = .ok login ∧
        (promotable db a = .error e ∨ (promotable db a = .ok () ∧
          upsertProxyForAsset { db with cmdbAsset := setVpcProxy now a.id true db.cmdbAsset } now
            newProxyId a login.1 login.2 = .error e)) := by
  rw [promote, ha]
  simp only [bind, Except.bind]
  by_cases hnetwork : a.publicIp = "" ∨ a.vpcId = ""
  · rw [if_pos hnetwork]
    refine iff_of_false ?_ fun h => h.1.1 (hnetwork.resolve_right h.1.2)
    intro h
    exact hnetworkErr (Except.error.inj h).symm
  · rw [if_neg hnetwork]
    rw [not_or] at hnetwork
    cases hlogin : promoteLogin opts a with
    | error e' =>
      refine iff_of_false ?_ (by simp)
      intro h
      exact hloginErr ((Except.error.inj h).symm.trans (promoteLogin_eq_error hlogin))
    | ok login =>
      cases hcheck : promotable db a with
      | error e' => simp [hnetwork]
      | ok _ =>
        cases hupsert : upsertProxyForAsset
            { db with cmdbAsset := setVpcProxy now a.id true db.cmdbAsset } now newProxyId a login.1
            login.2 with
        | error e' => simp [hnetwork, hupsert]
        | ok r => simp [hupsert]

/-- `Promote` of a live asset is refused because of `b` exactly when it comes to the check and
`b` is what the check finds. -/
lemma promote_refused_iff (ha : getAsset db assetID = .ok a) {text : String} :
    promote db now newProxyId newId assetID opts =
        .error (errVPCProxyAlreadyExists ++ ": asset " ++ text) ↔
      (a.publicIp ≠ "" ∧ a.vpcId ≠ "") ∧ (∃ login, promoteLogin opts a = .ok login) ∧
        promotable db a = .error (errVPCProxyAlreadyExists ++ ": asset " ++ text) := by
  rw [promote_eq_error_iff ha (ne_refusal (by decide) text).symm (ne_refusal (by decide) text).symm]
  refine and_congr_right fun _ => ?_
  constructor
  · rintro ⟨login, hlogin, hcheck | ⟨-, hupsert⟩⟩
    · exact ⟨⟨login, hlogin⟩, hcheck⟩
    · exact absurd rfl (upsertProxyForAsset_ne_refusal hupsert text)
  · rintro ⟨⟨login, hlogin⟩, hcheck⟩
    exact ⟨login, hlogin, Or.inl hcheck⟩

/-- `Promote` of a live asset is refused by the index on the names of proxies exactly when it
passes the check and another live proxy has the name. -/
lemma promote_nameTaken_iff (ha : getAsset db assetID = .ok a) :
    promote db now newProxyId newId assetID opts = .error errNameTaken ↔
      (a.publicIp ≠ "" ∧ a.vpcId ≠ "") ∧ (∃ login, promoteLogin opts a = .ok login) ∧
        (∀ b, ¬ Rival db a b) ∧ RowFits db newProxyId a ∧
          nameTaken db (proxyRowId db newProxyId a) (proxyName a) = true := by
  rw [promote_eq_error_iff ha (by decide) (by decide)]
  refine and_congr_right fun _ => ?_
  constructor
  · rintro ⟨login, hlogin, hcheck | ⟨hcheck, hupsert⟩⟩
    · obtain ⟨b, -, htext⟩ := promotable_eq_error hcheck
      exact absurd htext (ne_refusal (by decide) _)
    · have htaken := upsertProxyForAsset_nameTaken_iff.mp hupsert
      exact ⟨⟨login, hlogin⟩, promotable_eq_ok_iff.mp hcheck, htaken⟩
  · rintro ⟨⟨login, hlogin⟩, hrival, htaken⟩
    exact ⟨login, hlogin,
      Or.inr ⟨promotable_eq_ok_iff.mpr hrival, upsertProxyForAsset_nameTaken_iff.mpr htaken⟩⟩

/-- The index on `vpc_id` of the live promoted assets (migration 0013). -/
def VpcIndex (db : Db) : Prop :=
  ∀ b ∈ db.cmdbAsset, ∀ c ∈ db.cmdbAsset, b.isVpcProxy = true → b.live = true →
    c.isVpcProxy = true → c.live = true → b.vpcId = c.vpcId → b.vpcId ≠ "" → b = c

variable (now newId newProxyId opts) in
/-- The check names assets of the same region exactly when all promoted assets under the `vpc_id`
are in it. -/
lemma refused_check_iff (hkeys : (db.cmdbAsset.map (·.id)).Nodup) (hindex : VpcIndex db)
    (ha : getAsset db assetID = .ok a) :
    (∀ b ∈ db.cmdbAsset, promote db now newProxyId newId assetID opts =
        .error (errVPCProxyAlreadyExists ++ ": asset " ++ b.id.toText) → SameRegion a b) ↔
      (a.publicIp ≠ "" → a.vpcId ≠ "" → (∃ login, promoteLogin opts a = .ok login) →
        ∀ b, Rival db a b → SameRegion a b) := by
  constructor
  · intro h hip hvpc hlogin b hb
    cases hcheck : promotable db a with
    | ok _ => exact absurd hb (promotable_eq_ok_iff.mp hcheck b)
    | error e =>
      obtain ⟨b', hb', rfl⟩ := promotable_eq_error hcheck
      obtain rfl : b' = b := hindex b' hb'.mem b hb.mem hb'.promoted hb'.live hb.promoted hb.live
        (hb'.vpc.trans hb.vpc.symm) (hb'.vpc ▸ hvpc)
      exact h b' hb'.mem ((promote_refused_iff ha).mpr ⟨⟨hip, hvpc⟩, hlogin, hcheck⟩)
  · intro h b hb hrefused
    obtain ⟨⟨hip, hvpc⟩, hlogin, hcheck⟩ := (promote_refused_iff ha).mp hrefused
    obtain ⟨b', hb', htext⟩ := promotable_eq_error hcheck
    rw [String.append_right_inj, Uuid.toText_inj] at htext
    obtain rfl : b = b' := List.inj_on_of_nodup_map hkeys hb hb'.mem htext
    exact h hip hvpc hlogin b hb'

/-- Another live proxy that has the name makes the name taken. -/
lemma HoldsName.nameTaken {b : AssetRow} (h : HoldsName db newProxyId a b) :
    nameTaken db (proxyRowId db newProxyId a) (proxyName a) = true := by
  obtain ⟨q, hq, hlive, hname, hid, -⟩ := h
  exact List.any_eq_true.mpr ⟨q, hq, by simp [hlive, hname, hid]⟩

variable (now newId opts) in
/-- The index on the names finds proxies of the same region exactly when all those that have the
name of the proxy are of it. -/
lemma refused_name_iff (ha : getAsset db assetID = .ok a) :
    (∀ b ∈ db.cmdbAsset, b.isVpcProxy = true →
        promote db now newProxyId newId assetID opts = .error errNameTaken →
        HoldsName db newProxyId a b → SameRegion a b) ↔
      (a.publicIp ≠ "" → a.vpcId ≠ "" → (∃ login, promoteLogin opts a = .ok login) →
        (∀ b, ¬ Rival db a b) → RowFits db newProxyId a → ∀ b ∈ db.cmdbAsset,
          b.isVpcProxy = true → HoldsName db newProxyId a b → SameRegion a b) := by
  constructor
  · intro h hip hvpc hlogin hrival hfits b hb hpromoted hholds
    refine h b hb hpromoted ((promote_nameTaken_iff ha).mpr ?_) hholds
    exact ⟨⟨hip, hvpc⟩, hlogin, hrival, hfits, hholds.nameTaken⟩
  · intro h b hb hpromoted hrefused hholds
    obtain ⟨⟨hip, hvpc⟩, hlogin, hrival, hfits, -⟩ := (promote_nameTaken_iff ha).mp hrefused
    exact h hip hvpc hlogin hrival hfits b hb hpromoted hholds

/-- The refusals of a promotion are because of assets of the same region exactly when the promoted
assets that the check and the index go by are in it. -/
lemma refused_iff (hkeys : (db.cmdbAsset.map (·.id)).Nodup) (hindex : VpcIndex db)
    (ha : getAsset db assetID = .ok a) :
    (∀ b ∈ db.cmdbAsset, b.isVpcProxy = true →
        RefusedFor db now newId newProxyId assetID opts a b → SameRegion a b) ↔
      (a.publicIp ≠ "" → a.vpcId ≠ "" → (∃ login, promoteLogin opts a = .ok login) →
        (∀ b, Rival db a b → SameRegion a b) ∧
        ((∀ b, ¬ Rival db a b) → RowFits db newProxyId a → ∀ b ∈ db.cmdbAsset,
          b.isVpcProxy = true → HoldsName db newProxyId a b → SameRegion a b)) := by
  constructor
  · intro h hip hvpc hlogin
    refine ⟨?_, ?_⟩
    · refine (refused_check_iff now newId newProxyId opts hkeys hindex ha).mp ?_ hip hvpc hlogin
      intro b hb hrefused
      -- what the check finds is promoted
      obtain ⟨-, -, hcheck⟩ := (promote_refused_iff ha).mp hrefused
      obtain ⟨b', hb', htext⟩ := promotable_eq_error hcheck
      rw [String.append_right_inj, Uuid.toText_inj] at htext
      obtain rfl : b = b' := List.inj_on_of_nodup_map hkeys hb hb'.mem htext
      exact h b hb hb'.promoted (.check hrefused)
    · refine (refused_name_iff now newId opts ha).mp ?_ hip hvpc hlogin
      intro b hb hpromoted hrefused hholds
      exact h b hb hpromoted (.name hrefused hholds)
  · intro h b hb hpromoted hrefused
    cases hrefused with
    | check hrefused =>
      refine (refused_check_iff now newId newProxyId opts hkeys hindex ha).mpr ?_ b hb hrefused
      exact fun hip hvpc hlogin => (h hip hvpc hlogin).1
    | name hrefused hholds =>
      refine (refused_name_iff now newId opts ha).mpr ?_ b hb hpromoted hrefused hholds
      exact fun hip hvpc hlogin => (h hip hvpc hlogin).2

/-- A promotion that comes to the propagation, and what it routes. -/
lemma promoteReturning_eq_ok_iff {db' : Db} {written : List ConnectionRow} :
    promoteReturning now newId db newProxyId assetID opts = .ok (db', a, written) ↔
      getAsset db assetID = .ok a ∧ (a.publicIp ≠ "" ∧ a.vpcId ≠ "") ∧
      ∃ login, promoteLogin opts a = .ok login ∧ promotable db a = .ok () ∧
      ∃ db₁ p, upsertProxyForAsset { db with cmdbAsset := setVpcProxy now a.id true db.cmdbAsset }
          now newProxyId a login.1 login.2 = .ok (db₁, p) ∧
        db' = { db₁ with
                cmdbAssetConnection := propagateProxyToVPCPeers now newId db₁.cmdbAsset a.vpcId
                  a.id p.id (ensureProxyAssetConnection now newId a login.1 login.2
                    db₁.cmdbAssetConnection) } ∧
        written = propagateReturning now newId db₁.cmdbAsset a.vpcId a.id p.id
          (ensureProxyAssetConnection now newId a login.1 login.2 db₁.cmdbAssetConnection) := by
  constructor
  · intro h
    rw [promoteReturning, Except.bind_eq_ok] at h
    obtain ⟨a', ha, h⟩ := h
    rw [Except.ite_error_eq_ok, not_or] at h
    obtain ⟨hnetwork, h⟩ := h
    rw [Except.bind_eq_ok] at h
    obtain ⟨login, hlogin, h⟩ := h
    rw [Except.bind_eq_ok] at h
    obtain ⟨_, hcheck, h⟩ := h
    rw [Except.bind_eq_ok] at h
    obtain ⟨⟨db₁, p⟩, hupsert, h⟩ := h
    have h := Except.ok.inj h
    rw [Prod.mk.injEq, Prod.mk.injEq] at h
    obtain ⟨hdb', rfl, hwritten⟩ := h
    exact ⟨ha, hnetwork, login, hlogin, hcheck, db₁, p, hupsert, hdb'.symm, hwritten.symm⟩
  · rintro ⟨ha, hnetwork, login, hlogin, hcheck, db₁, p, hupsert, rfl, rfl⟩
    rw [promoteReturning, ha]
    simp only [bind, Except.bind, if_neg (not_or.mpr hnetwork), hlogin, hcheck, hupsert]

/-- The routes of a promotion are those of assets with a property exactly when the peers have
it. -/
lemma promote_routes_iff {P : AssetRow → Prop} (hkeys : (db.cmdbAsset.map (·.id)).Nodup)
    {login : String × String} {db₁ : Db} {p : SshProxyRow}
    (hupsert : upsertProxyForAsset { db with cmdbAsset := setVpcProxy now a.id true db.cmdbAsset }
      now newProxyId a login.1 login.2 = .ok (db₁, p)) :
    (∀ c ∈ propagateReturning now newId db₁.cmdbAsset a.vpcId a.id p.id
        (ensureProxyAssetConnection now newId a login.1 login.2 db₁.cmdbAssetConnection),
      ∀ b ∈ db.cmdbAsset, b.id = c.assetId → P b) ↔
      ∀ b ∈ peers db.cmdbAsset a.vpcId a.id, Writable db.cmdbAssetConnection b.id → P b := by
  -- what is read in the transaction differs from `db` at the asset itself only
  have hframe := upsertProxyForAsset_frame hupsert
  have hassets : db₁.cmdbAsset = setVpcProxy now a.id true db.cmdbAsset := by rw [hframe]
  have hconnections : db₁.cmdbAssetConnection = db.cmdbAssetConnection := by rw [hframe]
  rw [hassets, hconnections, propagateReturning, peers_setVpcProxy]
  refine propagate_iff hkeys fun x hx => ?_
  exact writable_congr fun c hc => mem_manageConnection_other (Ne.symm hx) hc

/-- The routes of a promotion stay in its VPC exactly when the peers do. -/
lemma routed_iff (hkeys : (db.cmdbAsset.map (·.id)).Nodup) (ha : getAsset db assetID = .ok a) :
    (∀ db' written, promoteReturning now newId db newProxyId assetID opts = .ok (db', a, written) →
        ∀ c ∈ written, ∀ b ∈ db.cmdbAsset, b.id = c.assetId → SameVpc a b) ↔
      (a.publicIp ≠ "" → a.vpcId ≠ "" → (∃ login, promoteLogin opts a = .ok login) →
        (∀ b, ¬ Rival db a b) → RowFits db newProxyId a →
        nameTaken db (proxyRowId db newProxyId a) (proxyName a) = false → PeersInVpc db a) := by
  constructor
  · rintro h hip hvpc ⟨login, hlogin⟩ hrival hfits hfree
    obtain ⟨⟨db₁, p⟩, hupsert⟩ : ∃ r, upsertProxyForAsset
        { db with cmdbAsset := setVpcProxy now a.id true db.cmdbAsset } now newProxyId a login.1
          login.2 = .ok r := upsertProxyForAsset_isOk_iff.mpr ⟨hfits, hfree⟩
    have hok : promoteReturning now newId db newProxyId assetID opts = .ok (_, a, _) :=
      promoteReturning_eq_ok_iff.mpr ⟨ha, ⟨hip, hvpc⟩, login, hlogin,
        promotable_eq_ok_iff.mpr hrival, db₁, p, hupsert, rfl, rfl⟩
    exact (promote_routes_iff hkeys hupsert).mp (h _ _ hok)
  · intro h db' written hok
    obtain ⟨-, ⟨hip, hvpc⟩, login, hlogin, hcheck, db₁, p, hupsert, -, rfl⟩ :=
      promoteReturning_eq_ok_iff.mp hok
    obtain ⟨hfits, hfree⟩ := upsertProxyForAsset_isOk_iff.mp ⟨_, hupsert⟩
    refine (promote_routes_iff hkeys hupsert).mpr ?_
    exact h hip hvpc ⟨login, hlogin⟩ (promotable_eq_ok_iff.mp hcheck) hfits hfree

lemma promoteRespects_iff (hkeys : (db.cmdbAsset.map (·.id)).Nodup) (hindex : VpcIndex db) :
    PromoteRespects db now newId newProxyId assetID opts ↔
      PromoteApart db newProxyId assetID opts := by
  constructor
  · intro h a login ha hip hvpc hlogin
    obtain ⟨hrivals, hnames⟩ :=
      (refused_iff hkeys hindex ha).mp (h.refused a ha) hip hvpc ⟨login, hlogin⟩
    refine ⟨hrivals, hnames, ?_⟩
    exact (routed_iff hkeys ha).mp (fun db' written => h.routed db' a written) hip hvpc
      ⟨login, hlogin⟩
  · intro h
    refine ⟨?_, ?_⟩
    · intro a ha
      refine (refused_iff hkeys hindex ha).mpr ?_
      rintro hip hvpc ⟨login, hlogin⟩
      have hapart := h a login ha hip hvpc hlogin
      exact ⟨hapart.rivals, hapart.names⟩
    · intro db' a written hok
      have ha := (promoteReturning_eq_ok_iff.mp hok).1
      refine (routed_iff hkeys ha).mpr ?_ db' written hok
      rintro hip hvpc ⟨login, hlogin⟩
      exact (h a login ha hip hvpc hlogin).peers

end

/-- **One VPC id, several VPCs.**  In every state with the keys of its tables, `Promote` and
`ReapplyPropagation` keep the VPCs of different accounts and regions apart exactly when no promoted
asset of another account or region is under the same `vpc_id` or has the name of the proxy, and no
asset of another VPC under the same `vpc_id` has a connection that they write. -/
theorem vpcs_apart_iff {db : Db} (hkeys : (db.cmdbAsset.map (·.id)).Nodup) (hindex : VpcIndex db)
    (now : Time) (newProxyId : Uuid) (newId : Uuid → Uuid) :
    (∀ assetID opts, PromoteRespects db now newId newProxyId assetID opts ↔
      PromoteApart db newProxyId assetID opts) ∧
    ∀ committed, ReapplyRespects db now newId committed ↔ ReapplyApart db committed :=
  ⟨fun _ _ => promoteRespects_iff hkeys hindex, reapplyRespects_iff hkeys⟩

/-- A gateway of the account 111, and an instance under the same `vpc_id`. -/
def gatewayAnd (account : String) (promoted : Bool) : Db :=
  { cmdbAsset :=
      [{ id := Uuid.replicate 1, type := "aws_ec2_instance", name := "gw", publicIp := "3.3.3.3",
         privateIp := "10.0.0.1", osFamily := "ubuntu", accountId := "111", region := "eu-west-1",
         vpcId := "vpc-1" },
       { id := Uuid.replicate 2, type := "aws_ec2_instance", name := "app", privateIp := "10.0.0.2",
         osFamily := "ubuntu", accountId := account, region := "eu-west-1", vpcId := "vpc-1",
         isVpcProxy := promoted }] }

/-- The gateway, and one of the same name that was promoted in `vpc-1` and has been moved to
`vpc-9` since: its proxy keeps its name. -/
def gatewayMoved (account : String) : Db :=
  { cmdbAsset :=
      [{ id := Uuid.replicate 1, type := "aws_ec2_instance", name := "gw", publicIp := "3.3.3.3",
         privateIp := "10.0.0.1", osFamily := "ubuntu", accountId := "111", region := "eu-west-1",
         vpcId := "vpc-1" },
       { id := Uuid.replicate 2, type := "aws_ec2_instance", name := "gw", publicIp := "4.4.4.4",
         osFamily := "ubuntu", accountId := account, region := "eu-west-1", vpcId := "vpc-9",
         isVpcProxy := true }]
    cmdbSshProxy :=
      [{ id := Uuid.replicate 4, name := "vpc-1-gw", networkZone := "vpc-1", host := "4.4.4.4",
         username := "ubuntu", sourceAssetId := some (Uuid.replicate 2) }] }

/-- The instance is routed through the gateway of another account; and if it is promoted, the
gateway cannot be, nor if a promoted one of another account had its `vpc_id` and has its name. -/
theorem accounts_not_apart :
    ¬ PromoteRespects (gatewayAnd "222" false) 0 id (Uuid.replicate 3) (Uuid.replicate 1).toText
      {} ∧
    ¬ PromoteRespects (gatewayAnd "222" true) 0 id (Uuid.replicate 3) (Uuid.replicate 1).toText
      {} ∧
    ¬ PromoteRespects (gatewayMoved "222") 0 id (Uuid.replicate 3) (Uuid.replicate 1).toText
      {} := by
  refine ⟨?_, ?_, ?_⟩
  · intro h
    have hsame := h.routed _ _ _ rfl _ List.mem_cons_self _
      (List.mem_cons_of_mem _ List.mem_cons_self) rfl
    exact absurd hsame.account (by decide)
  · intro h
    have hsame := h.refused _ rfl _ (List.mem_cons_of_mem _ List.mem_cons_self) rfl (.check rfl)
    exact absurd hsame.account (by decide)
  · intro h
    have hsame := h.refused _ rfl _ (List.mem_cons_of_mem _ List.mem_cons_self) rfl
      (.name rfl ⟨_, List.mem_cons_self, rfl, rfl, by decide, rfl⟩)
    exact absurd hsame.account (by decide)

/-- Within the account 111 the promotion is as it should be, and sets one route. -/
theorem vpcs_apart_iff_one_account :
    PromoteRespects (gatewayAnd "111" false) 0 id (Uuid.replicate 3) (Uuid.replicate 1).toText {} ∧
    (promoteReturning 0 id (gatewayAnd "111" false) (Uuid.replicate 3) (Uuid.replicate 1).toText
      {}).toOption.map (fun x => x.2.2.map (·.assetId)) = some [Uuid.replicate 2] := by
  refine ⟨?_, by decide⟩
  have hmem : ∀ b ∈ (gatewayAnd "111" false).cmdbAsset, b.isVpcProxy = false ∧
      b.accountId = "111" ∧ b.region = "eu-west-1" ∧ b.vpcId = "vpc-1" := by
    intro b hb
    simp only [gatewayAnd, List.mem_cons, List.not_mem_nil, or_false] at hb
    rcases hb with rfl | rfl <;> exact ⟨rfl, rfl, rfl, rfl⟩
  have hsame : ∀ a ∈ (gatewayAnd "111" false).cmdbAsset,
      ∀ b ∈ (gatewayAnd "111" false).cmdbAsset, SameVpc a b := by
    intro a ha b hb
    obtain ⟨-, haccount, hregion, hvpc⟩ := hmem a ha
    obtain ⟨-, haccount', hregion', hvpc'⟩ := hmem b hb
    exact ⟨⟨haccount'.trans haccount.symm, hregion'.trans hregion.symm⟩, hvpc'.trans hvpc.symm⟩
  refine ((vpcs_apart_iff (by decide) ?_ 0 (Uuid.replicate 3) id).1 _ _).mpr ?_
  · intro b hb _ _ hpromoted
    rw [(hmem b hb).1] at hpromoted
    cases hpromoted
  · intro a login ha _ _ _
    obtain ⟨-, hmema, -⟩ := getAsset_eq_ok ha
    refine ⟨fun b hb => (hsame a hmema b hb.mem).toSameRegion, ?_, ?_⟩
    · exact fun _ _ b hb _ _ => (hsame a hmema b hb).toSameRegion
    · exact fun _ _ _ b hb _ => hsame a hmema b (List.mem_of_mem_filter hb)

end OpsPlatform.Cmdb
