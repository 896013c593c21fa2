/-
`Promote`, `Demote` and `Promote` again (`internal/cmdb/vpcproxy_service.go`).

What a promotion leaves is `Settled`: the columns of the asset, of its one proxy and of the
connections that are managed are those that a promotion with the same options would write.  A
promotion of a settled state therefore changes timestamps only.  A demotion takes back the mark of
the asset, the life of the proxy and the routes through it, which a promotion writes in any case,
and nothing else (`Slack`); so the same holds after it.
-/
import OpsPlatform.Cmdb.Fleet
import OpsPlatform.Cmdb.VpcIdentity
import OpsPlatform.Cmdb.VpcProxyTx
import OpsPlatform.Lib.Upserts

namespace OpsPlatform.Cmdb

open Lib Lib.Run Lib.Table Lib.Transaction SshProxy

/-! ### The property -/

def AssetRow.withoutTimestamp (a : AssetRow) : AssetRow := { a with updatedAt := 0 }

def SshProxyRow.withoutTimestamp (p : SshProxyRow) : SshProxyRow := { p with updatedAt := 0 }

def ConnectionRow.withoutTimestamp (c : ConnectionRow) : ConnectionRow := { c with updatedAt := 0 }

/-- The databases differ in timestamps only. -/
structure SameButTimestamps (db db' : Db) : Prop where
  assets : db'.cmdbAsset.map AssetRow.withoutTimestamp =
    db.cmdbAsset.map AssetRow.withoutTimestamp
  proxies : db'.cmdbSshProxy.map SshProxyRow.withoutTimestamp =
    db.cmdbSshProxy.map SshProxyRow.withoutTimestamp
  connections : db'.cmdbAssetConnection.map ConnectionRow.withoutTimestamp =
    db.cmdbAssetConnection.map ConnectionRow.withoutTimestamp
  others : db' = { db with
                   cmdbAsset := db'.cmdbAsset, cmdbSshProxy := db'.cmdbSshProxy
                   cmdbAssetConnection := db'.cmdbAssetConnection }

/-- No connection that the program manages refers to a proxy of the asset that is soft-deleted, or
to one that is not there. -/
def Idle (db : Db) (assetId : Uuid) : Prop :=
  ∀ c ∈ db.cmdbAssetConnection, c.autoManaged = true → ∀ pid, c.proxyId = some pid →
    ∃ p ∈ db.cmdbSshProxy, p.id = pid ∧ (p.live = true ∨ p.sourceAssetId ≠ some assetId)

instance (db : Db) (assetId : Uuid) : Decidable (Idle db assetId) :=
  inferInstanceAs (Decidable (∀ c ∈ db.cmdbAssetConnection, c.autoManaged = true →
    ∀ pid ∈ c.proxyId, ∃ p ∈ db.cmdbSshProxy,
      p.id = pid ∧ (p.live = true ∨ p.sourceAssetId ≠ some assetId)))

/-- The proxy is soft-deleted, and no connection that the program manages refers to it. -/
structure Retired (db : Db) (pid : Uuid) : Prop where
  deleted : ∃ p ∈ db.cmdbSshProxy, p.id = pid ∧ p.live = false
  unused : ∀ c ∈ db.cmdbAssetConnection, c.autoManaged = true → c.proxyId ≠ some pid

/-- What follows on a promotion that has left `db₁`. -/
structure PromoteCycle (assetID : String) (opts : PromoteOptions) (assetId pid : Uuid) (db₁ : Db) :
    Prop where
  proxy : ∃ p ∈ db₁.cmdbSshProxy, p.id = pid ∧ p.sourceAssetId = some assetId ∧ p.live = true
  /-- a second promotion -/
  again : ∀ now newProxyId newId, ∃ db₂, promote db₁ now newProxyId newId assetID opts = .ok db₂ ∧
    SameButTimestamps db₁ db₂
  /-- a demotion after the one or the other, and then another promotion -/
  back : ∀ db₂, (db₂ = db₁ ∨
      ∃ now newProxyId newId, promote db₁ now newProxyId newId assetID opts = .ok db₂) →
    ∀ now, ∃ db₃, demote db₂ now assetID = .ok db₃ ∧ Retired db₃ pid ∧ Idle db₃ assetId ∧
      ∀ now' newProxyId newId, ∃ db₄, promote db₃ now' newProxyId newId assetID opts = .ok db₄ ∧
        (∃ p ∈ db₄.cmdbSshProxy, p.id = pid ∧ p.live = true) ∧ SameButTimestamps db₁ db₄

/-! ### What a promotion leaves -/

/-- The connection of a peer, as `propagateProxyToVPCPeers` sets it. -/
def peerRoute (now : Time) (pid : Uuid) (peer : AssetRow) : ConnectionRow → ConnectionRow :=
  manage now peer.privateIp (defaultUsernameForOSFamily peer.osFamily) "key" (some pid)

def newPeerConnection (now : Time) (newId : Uuid → Uuid) (pid : Uuid) (peer : AssetRow) :
    ConnectionRow :=
  peerRoute now pid peer
    { id := newId peer.id, assetId := peer.id, host := peer.privateIp
      username := defaultUsernameForOSFamily peer.osFamily, createdAt := now }

/-- The connection of the asset, as `ensureProxyAssetConnection` sets it. -/
def ownRoute (now : Time) (a : AssetRow) (login : String × String) :
    ConnectionRow → ConnectionRow :=
  manage now a.publicIp login.1 login.2 none

/-- `auto_managed = true OR host = ''`. -/
def ownGuard (c : ConnectionRow) : Bool := c.autoManaged || c.host == ""

/-- A call of `Promote` for the asset that passes the checks which only look at the asset. -/
structure PromotionOf (assetID : String) (opts : PromoteOptions) (a : AssetRow)
    (login : String × String) : Prop where
  parse : Uuid.parse assetID = some a.id
  live : a.live = true
  network : ¬ (a.publicIp = "" ∨ a.vpcId = "")
  login : promoteLogin opts a = .ok login

/-- The rows are as a promotion of the asset writes them. -/
structure Settled (a : AssetRow) (login : String × String) (pid : Uuid) (db : Db) : Prop where
  assetKeys : (db.cmdbAsset.map (·.id)).Nodup
  asset : ∃ t, { a with isVpcProxy := true, updatedAt := t } ∈ db.cmdbAsset
  alone : ∀ b ∈ db.cmdbAsset, b.vpcId = a.vpcId → b.isVpcProxy = true → b.live = true → b.id = a.id
  proxyKeys : (db.cmdbSshProxy.map (·.id)).Nodup
  proxy : ∃ p ∈ db.cmdbSshProxy, p.id = pid ∧ p.sourceAssetId = some a.id ∧
    (proxyOfAsset 0 a login.1 login.2 p).withoutTimestamp = p.withoutTimestamp
  source : ∀ p ∈ db.cmdbSshProxy, p.sourceAssetId = some a.id → p.id = pid
  name : ∀ p ∈ db.cmdbSshProxy, p.live = true → p.name = proxyName a → p.id = pid
  ownHeld : ∃ c ∈ db.cmdbAssetConnection, c.assetId = a.id
  own : ∀ c ∈ db.cmdbAssetConnection, c.assetId = a.id → ownGuard c = true →
    (ownRoute 0 a login c).withoutTimestamp = c.withoutTimestamp
  peersHeld : ∀ x ∈ peers db.cmdbAsset a.vpcId a.id, ∃ c ∈ db.cmdbAssetConnection, c.assetId = x.id
  peerRoutes : ∀ x ∈ peers db.cmdbAsset a.vpcId a.id, ∀ c ∈ db.cmdbAssetConnection,
    c.assetId = x.id → c.autoManaged = true →
      (peerRoute 0 pid x c).withoutTimestamp = c.withoutTimestamp
  routes : ∀ c ∈ db.cmdbAssetConnection, c.autoManaged = true → ∀ q, c.proxyId = some q →
    (∃ p ∈ db.cmdbSshProxy, p.id = q) ∧
      (q = pid → ∃ x ∈ peers db.cmdbAsset a.vpcId a.id, c.assetId = x.id)

/-- `db'` differs from `db` in columns that a promotion of the asset writes in any case. -/
structure Slack (a : AssetRow) (pid : Uuid) (db db' : Db) : Prop where
  assets : ∃ f, db'.cmdbAsset = db.cmdbAsset.map f ∧ (∀ r, r.id ≠ a.id → f r = r) ∧
    ∀ r, r.id = a.id → ∃ isVpcProxy updatedAt, f r = { r with isVpcProxy, updatedAt }
  proxies : ∃ f, db'.cmdbSshProxy = db.cmdbSshProxy.map f ∧ (∀ p, p.id ≠ pid → f p = p) ∧
    ∀ p, p.id = pid → ∃ deletedAt updatedAt, f p = { p with deletedAt, updatedAt }
  connections : ∃ f, db'.cmdbAssetConnection = db.cmdbAssetConnection.map f ∧
    ∀ c, f c = c ∨ (c.autoManaged = true ∧ c.proxyId = some pid ∧
      ∃ updatedAt, f c = { c with proxyId := none, updatedAt })
  others : db' = { db with
                   cmdbAsset := db'.cmdbAsset, cmdbSshProxy := db'.cmdbSshProxy
                   cmdbAssetConnection := db'.cmdbAssetConnection }

section

variable {a : AssetRow} {login : String × String} {pid : Uuid} {db db' : Db} {now : Time}
  {newProxyId : Uuid} {newId : Uuid → Uuid} {assetID : String} {opts : PromoteOptions}

/-! ### Peers -/

lemma nodup_peers (h : (db.cmdbAsset.map (·.id)).Nodup) (vpcID : String) (id : Uuid) :
    ((peers db.cmdbAsset vpcID id).map (·.id)).Nodup :=
  h.sublist (List.filter_sublist.map _)

lemma ne_of_mem_peers {assets : List AssetRow} {vpcID : String} {id : Uuid} {x : AssetRow}
    (h : x ∈ peers assets vpcID id) : x.id ≠ id := by
  have hcond := (List.mem_filter.mp h).2
  simp only [Bool.and_eq_true, bne_iff_ne] at hcond
  exact hcond.1.1.1.1.2

lemma propagate_eq_upsertEach (assets : List AssetRow) (vpcID : String) (sourceAssetId : Uuid)
    (connections : List ConnectionRow) :
    propagateProxyToVPCPeers now newId assets vpcID sourceAssetId pid connections =
      upsertEach ConnectionRow.assetId AssetRow.id ConnectionRow.autoManaged (peerRoute now pid)
        (newPeerConnection now newId pid) connections (peers assets vpcID sourceAssetId) := rfl

/-! ### A promotion of a settled state -/

lemma Slack.refl (a : AssetRow) (pid : Uuid) (db : Db) : Slack a pid db db where
  assets := ⟨id, (List.map_id _).symm, fun _ _ => rfl, fun r _ => ⟨r.isVpcProxy, r.updatedAt, rfl⟩⟩
  proxies := ⟨id, (List.map_id _).symm, fun _ _ => rfl, fun p _ => ⟨p.deletedAt, p.updatedAt, rfl⟩⟩
  connections := ⟨id, (List.map_id _).symm, fun _ => Or.inl rfl⟩
  others := rfl

lemma Slack.peers_eq (h : Slack a pid db db') (vpcID : String) :
    peers db'.cmdbAsset vpcID a.id = peers db.cmdbAsset vpcID a.id := by
  obtain ⟨f, hf, hother, hsame⟩ := h.assets
  have hassets : db'.cmdbAsset = updateWhere (·.id == a.id) f db.cmdbAsset := by
    rw [hf, updateWhere]
    refine List.map_congr_left fun r _ => ?_
    by_cases hid : r.id = a.id
    · simp [hid]
    · simp [hid, hother r hid]
  rw [hassets]
  refine filter_updateWhere ?_ _
  intro r hr
  obtain ⟨isVpcProxy, updatedAt, heq⟩ := hsame r (eq_of_beq hr)
  rw [heq]
  simp [eq_of_beq hr]

/-- The connections are written as they are. -/
lemma Settled.connections (h : Settled a login pid db) (hslack : Slack a pid db db') :
    (propagateProxyToVPCPeers now newId db'.cmdbAsset a.vpcId a.id pid
        (ensureProxyAssetConnection now newId a login.1 login.2 db'.cmdbAssetConnection)).map
          ConnectionRow.withoutTimestamp =
      db.cmdbAssetConnection.map ConnectionRow.withoutTimestamp := by
  obtain ⟨f, hf, hcases⟩ := hslack.connections
  have hkey : ∀ c, (f c).assetId = c.assetId := by
    intro c
    rcases hcases c with heq | ⟨-, -, updatedAt, heq⟩ <;> rw [heq]
  have hauto : ∀ c, (f c).autoManaged = c.autoManaged := by
    intro c
    rcases hcases c with heq | ⟨-, -, updatedAt, heq⟩ <;> rw [heq]
  -- a connection that has lost its route is that of a peer
  have hkept : ∀ c ∈ db.cmdbAssetConnection,
      (∀ x ∈ peers db.cmdbAsset a.vpcId a.id, c.assetId ≠ x.id) → f c = c := by
    intro c hc hno
    rcases hcases c with heq | ⟨hmanaged, hroute, -⟩
    · exact heq
    · obtain ⟨x, hx, hid⟩ := (h.routes c hc hmanaged pid hroute).2 rfl
      exact absurd hid (hno x hx)
  have hnodup := nodup_peers h.assetKeys a.vpcId a.id
  have hheld : ∀ c₀ ∈ db.cmdbAssetConnection, ∃ c ∈ db'.cmdbAssetConnection,
      c.assetId = c₀.assetId := by
    intro c₀ hc₀
    rw [hf]
    exact ⟨f c₀, List.mem_map_of_mem hc₀, hkey c₀⟩
  have hown : ensureProxyAssetConnection now newId a login.1 login.2 db'.cmdbAssetConnection =
      updateWhere (fun c => c.assetId == a.id && ownGuard c) (ownRoute now a login)
        db'.cmdbAssetConnection := by
    obtain ⟨c₀, hc₀, hid⟩ := h.ownHeld
    obtain ⟨c, hc, hid'⟩ := hheld c₀ hc₀
    have hany : db'.cmdbAssetConnection.any (·.assetId == a.id) = true :=
      List.any_eq_true.mpr ⟨c, hc, by simpa using hid'.trans hid⟩
    exact if_pos hany
  have hroute : ∀ x c, (peerRoute now pid x c).assetId = c.assetId := fun _ _ => rfl
  have howned : ∀ c, (ownRoute now a login c).assetId = c.assetId := fun _ => rfl
  rw [propagate_eq_upsertEach, hslack.peers_eq, hown, upsertEach_of_held hroute hnodup]
  · rw [updateWhere, hf, List.map_map, List.map_map, List.map_map]
    refine List.map_congr_left fun c hc => ?_
    simp only [Function.comp_apply]
    by_cases hid : c.assetId = a.id
    · -- the connection of the asset itself
      have hno : ∀ x ∈ peers db.cmdbAsset a.vpcId a.id, c.assetId ≠ x.id :=
        fun x hx heq => ne_of_mem_peers hx (heq.symm.trans hid)
      rw [hkept c hc hno]
      cases hguard : ownGuard c with
      | true =>
        have hno' : ∀ x ∈ peers db.cmdbAsset a.vpcId a.id,
            (ownRoute now a login c).assetId ≠ x.id := hno
        rw [if_pos (by simp [hid]), assignEach_of_forall_ne hno']
        exact h.own c hc hid hguard
      | false => rw [if_neg (by simp), assignEach_of_forall_ne hno]
    · rw [if_neg (by simp [hkey, hid])]
      by_cases hpeer : ∃ x ∈ peers db.cmdbAsset a.vpcId a.id, c.assetId = x.id
      · obtain ⟨x, hx, hxid⟩ := hpeer
        rw [assignEach_of_mem hnodup hx ((hkey c).trans hxid), hauto]
        rcases hcases c with heq | ⟨hmanaged, -, updatedAt, heq⟩
        · rw [heq]
          cases hmanaged : c.autoManaged with
          | true => exact h.peerRoutes x hx c hc hxid hmanaged
          | false => rfl
        · rw [heq, hmanaged]
          exact h.peerRoutes x hx c hc hxid hmanaged
      · have hno : ∀ x ∈ peers db.cmdbAsset a.vpcId a.id, c.assetId ≠ x.id :=
          fun x hx heq => hpeer ⟨x, hx, heq⟩
        rw [hkept c hc hno, assignEach_of_forall_ne hno]
  · intro x hx
    obtain ⟨c₀, hc₀, hid⟩ := h.peersHeld x hx
    obtain ⟨c, hc, hid'⟩ := hheld c₀ hc₀
    have hmem : x.id ∈ (updateWhere (fun c => c.assetId == a.id && ownGuard c)
        (ownRoute now a login) db'.cmdbAssetConnection).map (·.assetId) := by
      rw [map_updateWhere fun c _ => howned c]
      exact List.mem_map.mpr ⟨c, hc, hid'.trans hid⟩
    exact List.mem_map.mp hmem

/-- The row of the asset is the one with its id. -/
lemma Settled.eq_of_id (h : Settled a login pid db) {r : AssetRow} (hr : r ∈ db.cmdbAsset)
    (hid : r.id = a.id) : ∃ t, r = { a with isVpcProxy := true, updatedAt := t } := by
  obtain ⟨t, hmem⟩ := h.asset
  exact ⟨t, List.inj_on_of_nodup_map h.assetKeys hr hmem hid⟩

lemma Settled.assets (h : Settled a login pid db) (hslack : Slack a pid db db') :
    (setVpcProxy now a.id true db'.cmdbAsset).map AssetRow.withoutTimestamp =
      db.cmdbAsset.map AssetRow.withoutTimestamp := by
  obtain ⟨f, hf, hother, hsame⟩ := hslack.assets
  rw [setVpcProxy, updateWhere, hf, List.map_map, List.map_map]
  refine List.map_congr_left fun r hr => ?_
  simp only [Function.comp_apply]
  by_cases hid : r.id = a.id
  · obtain ⟨t, rfl⟩ := h.eq_of_id hr hid
    obtain ⟨isVpcProxy, updatedAt, heq⟩ := hsame _ hid
    rw [heq, if_pos (beq_self_eq_true a.id)]
    rfl
  · rw [hother r hid, if_neg (by simpa using hid)]

lemma Settled.proxies (h : Settled a login pid db) (hslack : Slack a pid db db') :
    (updateWhere (·.id == pid) (proxyOfAsset now a login.1 login.2) db'.cmdbSshProxy).map
        SshProxyRow.withoutTimestamp =
      db.cmdbSshProxy.map SshProxyRow.withoutTimestamp := by
  obtain ⟨f, hf, hother, hsame⟩ := hslack.proxies
  obtain ⟨p, hp, hpid, -, hcolumns⟩ := h.proxy
  rw [updateWhere, hf, List.map_map, List.map_map]
  refine List.map_congr_left fun q hq => ?_
  simp only [Function.comp_apply]
  by_cases hid : q.id = pid
  · obtain rfl := List.inj_on_of_nodup_map h.proxyKeys hq hp (hid.trans hpid.symm)
    obtain ⟨deletedAt, updatedAt, heq⟩ := hsame q hid
    rw [heq, if_pos (by simp [hid])]
    exact hcolumns
  · rw [hother q hid, if_neg (by simpa using hid)]

/-- The other assets are as they were. -/
lemma Slack.mem_of_ne (h : Slack a pid db db') {b : AssetRow} (hb : b ∈ db'.cmdbAsset)
    (hne : b.id ≠ a.id) : b ∈ db.cmdbAsset := by
  obtain ⟨f, hf, hother, hsame⟩ := h.assets
  rw [hf] at hb
  obtain ⟨r, hr, rfl⟩ := List.mem_map.mp hb
  by_cases hid : r.id = a.id
  · obtain ⟨isVpcProxy, updatedAt, heq⟩ := hsame r hid
    rw [heq] at hne
    exact absurd hid hne
  · rw [hother r hid]
    exact hr

/-- The asset is read as it was, up to its mark. -/
lemma Settled.getAsset (h : Settled a login pid db) (hslack : Slack a pid db db')
    (hpromotion : PromotionOf assetID opts a login) : ∃ isVpcProxy t,
      Cmdb.getAsset db' assetID = .ok { a with isVpcProxy, updatedAt := t } := by
  obtain ⟨f, hf, hother, hsame⟩ := hslack.assets
  obtain ⟨t, hmem⟩ := h.asset
  obtain ⟨isVpcProxy, updatedAt, heq⟩ := hsame { a with isVpcProxy := true, updatedAt := t } rfl
  have hids : ∀ r, (f r).id = r.id := by
    intro r
    by_cases hid : r.id = a.id
    · obtain ⟨_, _, heq⟩ := hsame r hid
      rw [heq]
    · rw [hother r hid]
  have hkeys : (db'.cmdbAsset.map (·.id)).Nodup := by
    rw [hf, List.map_map]
    exact (List.map_congr_left fun r _ => hids r) ▸ h.assetKeys
  have hmem' : { a with isVpcProxy, updatedAt } ∈ db'.cmdbAsset := by
    rw [hf]
    exact List.mem_map.mpr ⟨_, hmem, heq⟩
  exact ⟨isVpcProxy, updatedAt, getAsset_of_live hkeys hmem' hpromotion.live hpromotion.parse⟩

/-- A promotion of a settled state succeeds, and so it does with some slack, and changes timestamps
only. -/
lemma Settled.promote (h : Settled a login pid db) (hslack : Slack a pid db db')
    (hpromotion : PromotionOf assetID opts a login) (now : Time) (newProxyId : Uuid)
    (newId : Uuid → Uuid) :
    ∃ db'', Cmdb.promote db' now newProxyId newId assetID opts = .ok db'' ∧
      SameButTimestamps db db'' := by
  obtain ⟨isVpcProxy, t, hget⟩ := h.getAsset hslack hpromotion
  obtain ⟨f, hf, hother, hsame⟩ := hslack.proxies
  obtain ⟨p, hp, hpid, hsource, -⟩ := h.proxy
  have hmem : f p ∈ db'.cmdbSshProxy := hf ▸ List.mem_map_of_mem hp
  -- the slack touches no id, source or name, and the life of the own proxy only
  have hrow : ∀ q, (f q).id = q.id ∧ (f q).sourceAssetId = q.sourceAssetId ∧
      (f q).name = q.name ∧ (q.id ≠ pid → (f q).live = q.live) := by
    intro q
    by_cases hid : q.id = pid
    · obtain ⟨_, _, heq⟩ := hsame q hid
      rw [heq]
      exact ⟨rfl, rfl, rfl, fun hne => absurd hid hne⟩
    · rw [hother q hid]
      exact ⟨rfl, rfl, rfl, fun _ => rfl⟩
  have hkeys : (db'.cmdbSshProxy.map (·.id)).Nodup := by
    rw [hf, List.map_map]
    exact (List.map_congr_left fun q _ => (hrow q).1) ▸ h.proxyKeys
  have hpromotable : promotable db' { a with isVpcProxy, updatedAt := t } = .ok () := by
    rw [promotable_eq_ok_iff]
    intro b hb
    exact hb.other (h.alone b (hslack.mem_of_ne hb.mem hb.other) hb.vpc hb.promoted hb.live)
  have hname : nameTaken { db' with cmdbAsset := setVpcProxy now a.id true db'.cmdbAsset } (f p).id
      (proxyName a) = false := by
    rw [nameTaken_eq_false]
    intro q hq hlive hsame
    obtain ⟨q₀, hq₀, rfl⟩ : ∃ q₀ ∈ db.cmdbSshProxy, f q₀ = q := by
      rw [← List.mem_map, ← hf]
      exact hq
    rw [(hrow q₀).1, (hrow p).1, hpid]
    by_contra hne
    rw [(hrow q₀).2.2.2 hne] at hlive
    exact hne (h.name q₀ hq₀ hlive ((hrow q₀).2.2.1 ▸ hsame))
  -- the statement finds the proxy of the first promotion and revives it
  have hfound : firstBy proxyOrder (fun q => q.sourceAssetId == some a.id) db'.cmdbSshProxy =
      some (f p) := by
    refine firstBy_eq_some hmem (by simp [(hrow p).2.1, hsource]) ?_
    intro q hq hqsource
    rw [hf] at hq
    obtain ⟨q₀, hq₀, rfl⟩ := List.mem_map.mp hq
    rw [beq_iff_eq, (hrow q₀).2.1] at hqsource
    rw [List.inj_on_of_nodup_map h.proxyKeys hq₀ hp ((h.source q₀ hq₀ hqsource).trans hpid.symm)]
  have hupsert : upsertProxyForAsset
      { db' with cmdbAsset := setVpcProxy now a.id true db'.cmdbAsset } now newProxyId
        { a with isVpcProxy, updatedAt := t } login.1 login.2 =
      .ok ({ db' with
             cmdbAsset := setVpcProxy now a.id true db'.cmdbAsset
             cmdbSshProxy := updateWhere (·.id == pid) (proxyOfAsset now a login.1 login.2)
               db'.cmdbSshProxy }, proxyOfAsset now a login.1 login.2 (f p)) := by
    have hid : (f p).id = pid := (hrow p).1.trans hpid
    rw [upsertProxyForAsset, hfound]
    dsimp only
    refine (updateProxy_of_mem { db' with cmdbAsset := setVpcProxy now a.id true db'.cmdbAsset }
      hkeys hmem _).trans ?_
    rw [hid] at hname ⊢
    exact if_neg (by rw [Bool.not_eq_true]; exact hname)
  refine ⟨_, promote_eq_ok_iff.mpr ⟨_, login, _, _, hget, hpromotion.network, hpromotion.login,
    hpromotable, hupsert, rfl⟩, ?_⟩
  have hpid' : (proxyOfAsset now a login.1 login.2 (f p)).id = pid := (hrow p).1.trans hpid
  refine ⟨h.assets hslack, h.proxies hslack, ?_, ?_⟩
  · dsimp only
    rw [hpid', propagate_eq_upsertEach, peers_setVpcProxy]
    exact h.connections hslack
  · rw [hslack.others]

/-! ### A demotion of a settled state -/

lemma Settled.live (h : Settled a login pid db) : ∃ p ∈ db.cmdbSshProxy, p.id = pid ∧
    p.sourceAssetId = some a.id ∧ p.live = true := by
  obtain ⟨p, hp, hpid, hsource, hcolumns⟩ := h.proxy
  have hdeleted : none = p.deletedAt := congrArg SshProxyRow.deletedAt hcolumns
  exact ⟨p, hp, hpid, hsource, by rw [SshProxyRow.live, ← hdeleted]; rfl⟩

/-- A demotion retires the proxy and leaves slack. -/
lemma Settled.demote (h : Settled a login pid db) (now : Time)
    (hpromotion : PromotionOf assetID opts a login) :
    ∃ db', Cmdb.demote db now assetID = .ok db' ∧ Slack a pid db db' ∧ Retired db' pid ∧
      Idle db' a.id := by
  obtain ⟨t, hmem⟩ := h.asset
  obtain ⟨p, hp, hpid, hsource, hlive⟩ := h.live
  have hget := getAsset_of_live h.assetKeys hmem hpromotion.live hpromotion.parse
  have honly : ∀ q ∈ db.cmdbSshProxy, q.sourceAssetId = some a.id → q.id = p.id :=
    fun q hq hqsource => (h.source q hq hqsource).trans hpid.symm
  have hfound : db.cmdbSshProxy.find? (fun p => p.sourceAssetId == some a.id && p.live) =
      some p := by
    refine find?_eq_of_nodup h.proxyKeys hp (by simp [hsource, hlive]) ?_
    intro q hq hhit
    rw [Bool.and_eq_true] at hhit
    exact honly q hq (eq_of_beq hhit.1)
  refine ⟨_, demote_of_found hget rfl hfound, ⟨?_, ?_, ?_, rfl⟩, ⟨?_, ?_⟩, ?_⟩
  · refine ⟨_, rfl, ?_, ?_⟩
    · intro r hne
      exact if_neg (by simpa using hne)
    · intro r hid
      exact ⟨false, now, if_pos (by simp [hid])⟩
  · refine ⟨_, rfl, ?_, ?_⟩
    · intro q hne
      exact if_neg (by simpa [hpid] using hne)
    · intro q hid
      exact ⟨some now, q.updatedAt, if_pos (by simp [hid, hpid])⟩
  · refine ⟨_, rfl, fun c => ?_⟩
    by_cases hhit : (c.proxyId == some p.id && c.autoManaged) = true
    · rw [if_pos hhit]
      rw [Bool.and_eq_true, beq_iff_eq, hpid] at hhit
      exact Or.inr ⟨hhit.2, hhit.1, now, rfl⟩
    · exact Or.inl (if_neg hhit)
  · exact ⟨_, mem_updateWhere.mpr ⟨p, hp, Or.inl ⟨beq_self_eq_true p.id, rfl⟩⟩, hpid, rfl⟩
  · intro c hc hauto hroute
    obtain ⟨c₀, hc₀, ⟨-, rfl⟩ | ⟨hmiss, rfl⟩⟩ := mem_updateWhere.mp hc
    · cases hroute
    · simp [hroute, hauto, hpid] at hmiss
  · intro c hc hauto q hroute
    obtain ⟨c₀, hc₀, ⟨-, rfl⟩ | ⟨hmiss, rfl⟩⟩ := mem_updateWhere.mp hc
    · cases hroute
    · obtain ⟨⟨r, hr, rfl⟩, -⟩ := h.routes c hc₀ hauto q hroute
      -- another proxy than that of the asset
      have hne : r.id ≠ p.id := by
        intro heq
        simp [hroute, hauto, heq] at hmiss
      refine ⟨r, mem_updateWhere.mpr ⟨r, hr, Or.inr ⟨by simpa using hne, rfl⟩⟩, rfl, Or.inr ?_⟩
      exact fun hrsource => hne (honly r hr hrsource)

/-! ### The first promotion -/

/-- The proxies afterwards: the one of the asset, and those with other ids. -/
structure ProxyWritten (a : AssetRow) (proxies proxies' : List SshProxyRow) (p : SshProxyRow) :
    Prop where
  keys : (proxies'.map (·.id)).Nodup
  mem_iff : ∀ q, q ∈ proxies' ↔ q = p ∨ (q ∈ proxies ∧ q.id ≠ p.id)
  source : ∀ q ∈ proxies, q.sourceAssetId = some a.id → q.id = p.id
  dead : ∀ q ∈ proxies, q.id = p.id → q.live = false ∧ q.sourceAssetId = some a.id

/-- The asset was not promoted, so that its proxy was soft-deleted or absent. -/
lemma FleetRows.proxyWritten (h : FleetRows db) {db₁ : Db} {p₀ : SshProxyRow}
    (ha : a ∈ db.cmdbAsset) (hnot : a.isVpcProxy = false) (hsource : p₀.sourceAssetId = some a.id)
    (hwritten : (p₀ ∈ db.cmdbSshProxy ∧
        db₁.cmdbSshProxy = updateWhere (·.id == p₀.id) (proxyOfAsset now a login.1 login.2)
          db.cmdbSshProxy) ∨
      ((∀ q ∈ db.cmdbSshProxy, q.sourceAssetId ≠ some a.id) ∧
        (∀ q ∈ db.cmdbSshProxy, q.id ≠ p₀.id) ∧
        db₁.cmdbSshProxy = db.cmdbSshProxy ++ [proxyOfAsset now a login.1 login.2 p₀])) :
    ProxyWritten a db.cmdbSshProxy db₁.cmdbSshProxy
      (proxyOfAsset now a login.1 login.2 p₀) := by
  rcases hwritten with ⟨hp₀, hrows⟩ | ⟨hnone, hfresh, hrows⟩
  · have hone : ∀ q ∈ db.cmdbSshProxy, (q.id == p₀.id) = true → q = p₀ :=
      fun q hq hid => List.inj_on_of_nodup_map h.proxyKeys hq hp₀ (eq_of_beq hid)
    rw [hrows]
    refine ⟨nodup_map_updateWhere (fun _ _ => rfl) h.proxyKeys, ?_, ?_, ?_⟩
    · intro q
      rw [mem_updateWhere_of_unique hp₀ (beq_self_eq_true p₀.id) hone]
      refine or_congr_right (and_congr_right fun hq => not_congr ⟨?_, ?_⟩)
      · rintro rfl
        rfl
      · intro hid
        exact hone q hq (beq_iff_eq.mpr hid)
    · exact fun q hq hqsource => h.sources q hq p₀ hp₀ a.id hqsource hsource
    · intro q hq hid
      obtain rfl := hone q hq (beq_iff_eq.mpr hid)
      refine ⟨?_, hsource⟩
      -- a live proxy would mean that its asset is marked already
      obtain ⟨b, hb, hid', hmark⟩ := h.marked q hq a.id hsource
      obtain rfl := List.inj_on_of_nodup_map h.assetKeys hb ha hid'
      by_contra hlive
      rw [Bool.not_eq_false] at hlive
      rw [hmark hlive] at hnot
      cases hnot
  · rw [hrows]
    refine ⟨nodup_map_append h.proxyKeys hfresh, ?_, ?_, ?_⟩
    · intro q
      rw [List.mem_append, List.mem_singleton, or_comm]
      exact or_congr_right ⟨fun hq => ⟨hq, hfresh q hq⟩, And.left⟩
    · exact fun q hq hqsource => absurd hqsource (hnone q hq)
    · exact fun q hq hid => absurd hid (hfresh q hq)

/-- The connections afterwards. -/
structure RoutesWritten (a : AssetRow) (login : String × String) (pid : Uuid)
    (ps : List AssetRow) (connections connections' : List ConnectionRow) : Prop where
  ownHeld : ∃ c ∈ connections', c.assetId = a.id
  own : ∀ c ∈ connections', c.assetId = a.id → ownGuard c = true →
    (ownRoute 0 a login c).withoutTimestamp = c.withoutTimestamp
  peersHeld : ∀ x ∈ ps, ∃ c ∈ connections', c.assetId = x.id
  peerRoutes : ∀ x ∈ ps, ∀ c ∈ connections', c.assetId = x.id → c.autoManaged = true →
    (peerRoute 0 pid x c).withoutTimestamp = c.withoutTimestamp
  /-- A route is that of a peer through the new proxy, or an old one. -/
  routes : ∀ c ∈ connections', c.autoManaged = true → ∀ q, c.proxyId = some q →
    (q = pid ∧ ∃ x ∈ ps, c.assetId = x.id) ∨ c ∈ connections

lemma routesWritten {ps : List AssetRow} (hnodup : (ps.map (·.id)).Nodup)
    (hown : ∀ x ∈ ps, x.id ≠ a.id) (connections : List ConnectionRow) :
    RoutesWritten a login pid ps connections
      (upsertEach ConnectionRow.assetId AssetRow.id ConnectionRow.autoManaged (peerRoute now pid)
        (newPeerConnection now newId pid)
        (ensureProxyAssetConnection now newId a login.1 login.2 connections) ps) := by
  have hroute : ∀ x c, (peerRoute now pid x c).assetId = c.assetId := fun _ _ => rfl
  have hnew : ∀ x, (newPeerConnection now newId pid x).assetId = x.id := fun _ => rfl
  -- the connection of the asset is written, or is there and not for the program to write
  have hensure : ∀ c, c ∈ ensureProxyAssetConnection now newId a login.1 login.2 connections ↔
      (∃ c₀ ∈ connections, c₀.assetId = a.id ∧ ownGuard c₀ = true ∧ c = ownRoute now a login c₀) ∨
        (c ∈ connections ∧ (c.assetId = a.id → ownGuard c = false)) ∨
        ((∀ c₀ ∈ connections, c₀.assetId ≠ a.id) ∧
          c = ownRoute now a login { id := newId a.id, assetId := a.id, host := a.publicIp
                                     username := login.1, createdAt := now }) :=
    fun _ => mem_upsert_key
  refine ⟨?_, ?_, ?_, ?_, ?_⟩
  · have hheld : ∃ c ∈ ensureProxyAssetConnection now newId a login.1 login.2 connections,
        c.assetId = a.id := by
      by_cases hnone : ∀ c₀ ∈ connections, c₀.assetId ≠ a.id
      · exact ⟨_, (hensure _).mpr (Or.inr (Or.inr ⟨hnone, rfl⟩)), rfl⟩
      · simp only [not_forall, not_not] at hnone
        obtain ⟨c₀, hc₀, hid⟩ := hnone
        cases hguard : ownGuard c₀ with
        | true => exact ⟨_, (hensure _).mpr (Or.inl ⟨c₀, hc₀, hid, hguard, rfl⟩), hid⟩
        | false => exact ⟨c₀, (hensure _).mpr (Or.inr (Or.inl ⟨hc₀, fun _ => hguard⟩)), hid⟩
    obtain ⟨c, hc, hid⟩ := hheld
    refine ⟨c, (mem_upsertEach hroute hnew hnodup).mpr (Or.inr (Or.inl ⟨hc, ?_⟩)), hid⟩
    exact fun x hx hxid => absurd (hxid.symm.trans hid) (hown x hx)
  · intro c hc hid hguard
    rcases (mem_upsertEach hroute hnew hnodup).mp hc with
      ⟨x, hx, c₀, -, hxid, -, rfl⟩ | ⟨hc, -⟩ | ⟨x, hx, -, rfl⟩
    · exact absurd (hxid.symm.trans hid) (hown x hx)
    · rcases (hensure c).mp hc with ⟨c₀, -, -, -, rfl⟩ | ⟨-, hmiss⟩ | ⟨-, rfl⟩
      · rfl
      · rw [hmiss hid] at hguard
        cases hguard
      · rfl
    · exact absurd hid (hown x hx)
  · exact fun x hx => exists_mem_upsertEach hroute hnew hnodup hx
  · intro x hx c hc hid hauto
    have hsame : ∀ y ∈ ps, y.id = x.id → y = x :=
      fun y hy heq => List.inj_on_of_nodup_map hnodup hy hx heq
    rcases (mem_upsertEach hroute hnew hnodup).mp hc with
      ⟨y, hy, c₀, -, hyid, -, rfl⟩ | ⟨-, hmiss⟩ | ⟨y, hy, -, rfl⟩
    · obtain rfl := hsame y hy (hyid.symm.trans hid)
      rfl
    · rw [hmiss x hx hid] at hauto
      cases hauto
    · obtain rfl := hsame y hy hid
      rfl
  · intro c hc hauto q hproxy
    rcases (mem_upsertEach hroute hnew hnodup).mp hc with
      ⟨x, hx, c₀, -, hxid, -, rfl⟩ | ⟨hc, -⟩ | ⟨x, hx, -, rfl⟩
    · exact Or.inl ⟨(Option.some.inj hproxy).symm, x, hx, hxid⟩
    · rcases (hensure c).mp hc with ⟨c₀, -, -, -, rfl⟩ | ⟨hold, -⟩ | ⟨-, rfl⟩
      · cases hproxy
      · exact Or.inr hold
      · cases hproxy
    · exact Or.inl ⟨(Option.some.inj hproxy).symm, x, hx, rfl⟩

/-- What the first promotion leaves is settled. -/
lemma FleetRows.settled (h : FleetRows db) (hget : Cmdb.getAsset db assetID = .ok a)
    (hnot : a.isVpcProxy = false) (hidle : Idle db a.id)
    (hp : Cmdb.promote db now newProxyId newId assetID opts = .ok db') :
    ∃ login pid, PromotionOf assetID opts a login ∧ Settled a login pid db' := by
  obtain ⟨a', login, db₁, p, hget', hnetwork, hlogin, hpromotable, hupsert, rfl⟩ :=
    promote_eq_ok_iff.mp hp
  obtain rfl : a' = a := Except.ok.inj (hget'.symm.trans hget)
  obtain ⟨hparse, ha, hlive⟩ := getAsset_eq_ok hget
  have hframe := upsertProxyForAsset_frame hupsert
  have hassets : db₁.cmdbAsset = setVpcProxy now a'.id true db.cmdbAsset := by rw [hframe]
  have hconnections : db₁.cmdbAssetConnection = db.cmdbAssetConnection := by rw [hframe]
  obtain ⟨p₀, hsource, rfl, hname, hwritten⟩ := upsertProxyForAsset_writes hupsert h.proxyKeys
  have hproxies : ProxyWritten a' db.cmdbSshProxy db₁.cmdbSshProxy
      (proxyOfAsset now a' login.1 login.2 p₀) := by
    refine h.proxyWritten ha hnot hsource ?_
    rcases hwritten with ⟨hp₀, hdb₁⟩ | ⟨hnone, hfresh, hdb₁⟩
    · exact Or.inl ⟨hp₀, by rw [hdb₁]⟩
    · exact Or.inr ⟨hnone, hfresh, by rw [hdb₁]⟩
  have hassetKeys : (db₁.cmdbAsset.map (·.id)).Nodup := by
    rw [hassets]
    exact nodup_map_updateWhere (fun _ _ => rfl) h.assetKeys
  have hroutes : RoutesWritten a' login p₀.id (peers db₁.cmdbAsset a'.vpcId a'.id)
      db.cmdbAssetConnection
      (propagateProxyToVPCPeers now newId db₁.cmdbAsset a'.vpcId a'.id p₀.id
        (ensureProxyAssetConnection now newId a' login.1 login.2 db₁.cmdbAssetConnection)) := by
    rw [hconnections, propagate_eq_upsertEach]
    exact routesWritten (nodup_peers hassetKeys a'.vpcId a'.id) (fun x hx => ne_of_mem_peers hx) _
  refine ⟨login, p₀.id, ⟨hparse, hlive, hnetwork, hlogin⟩, hassetKeys, ?_, ?_, hproxies.keys, ?_,
    ?_, ?_, hroutes.ownHeld, hroutes.own, hroutes.peersHeld, hroutes.peerRoutes, ?_⟩
  · refine ⟨now, ?_⟩
    rw [hassets]
    exact mem_setVpcProxy_self ha
  · intro b hb hvpc hpromoted hblive
    rw [hassets] at hb
    by_contra hne
    obtain ⟨b₀, hb₀, ⟨hhit, rfl⟩ | ⟨-, rfl⟩⟩ := mem_updateWhere.mp hb
    · exact hne (eq_of_beq hhit)
    · exact promotable_eq_ok_iff.mp hpromotable b ⟨hb₀, hvpc, hpromoted, hblive, hne⟩
  · exact ⟨_, (hproxies.mem_iff _).mpr (Or.inl rfl), rfl, hsource, rfl⟩
  · intro q hq hqsource
    rcases (hproxies.mem_iff q).mp hq with rfl | ⟨hq, -⟩
    · rfl
    · exact hproxies.source q hq hqsource
  · intro q hq hqlive hqname
    rcases (hproxies.mem_iff q).mp hq with rfl | ⟨hq, -⟩
    · rfl
    · exact nameTaken_eq_false.mp hname q hq hqlive hqname
  · intro c hc hauto q hproxy
    -- a route was written just now, or was there before
    rcases hroutes.routes c hc hauto q hproxy with ⟨rfl, hpeer⟩ | hold
    · exact ⟨⟨_, (hproxies.mem_iff _).mpr (Or.inl rfl), rfl⟩, fun _ => hpeer⟩
    · -- an old route goes to another proxy, since that of the asset was not in use
      obtain ⟨r, hr, rfl, hused⟩ := hidle c hold hauto q hproxy
      have hne : r.id ≠ p₀.id := by
        intro heq
        obtain ⟨hdead, hrsource⟩ := hproxies.dead r hr heq
        rcases hused with hrlive | hother
        · rw [hdead] at hrlive
          cases hrlive
        · exact hother hrsource
      exact ⟨⟨r, (hproxies.mem_iff r).mpr (Or.inr ⟨hr, hne⟩), rfl⟩, fun heq => absurd heq hne⟩

/-! ### Timestamps -/

lemma exists_of_map_eq {α β : Type} {f : α → β} {xs ys : List α} (h : ys.map f = xs.map f) {y : α}
    (hy : y ∈ ys) : ∃ x ∈ xs, f x = f y := by
  have hmem : f y ∈ xs.map f := h ▸ List.mem_map_of_mem hy
  exact List.mem_map.mp hmem

namespace SameButTimestamps

lemma symm (h : SameButTimestamps db db') : SameButTimestamps db' db where
  assets := h.assets.symm
  proxies := h.proxies.symm
  connections := h.connections.symm
  others := by rw [h.others]

lemma trans {db'' : Db} (h : SameButTimestamps db db') (h' : SameButTimestamps db' db'') :
    SameButTimestamps db db'' where
  assets := h'.assets.trans h.assets
  proxies := h'.proxies.trans h.proxies
  connections := h'.connections.trans h.connections
  others := by rw [h'.others, h.others]

lemma asset (h : SameButTimestamps db db') {b : AssetRow} (hb : b ∈ db'.cmdbAsset) :
    ∃ t, { b with updatedAt := t } ∈ db.cmdbAsset := by
  obtain ⟨x, hx, heq⟩ := exists_of_map_eq h.assets hb
  have hsame : x = { b with updatedAt := x.updatedAt } :=
    congrArg (fun r : AssetRow => { r with updatedAt := x.updatedAt }) heq
  exact ⟨x.updatedAt, hsame ▸ hx⟩

lemma sshProxy (h : SameButTimestamps db db') {p : SshProxyRow} (hp : p ∈ db'.cmdbSshProxy) :
    ∃ t, { p with updatedAt := t } ∈ db.cmdbSshProxy := by
  obtain ⟨x, hx, heq⟩ := exists_of_map_eq h.proxies hp
  have hsame : x = { p with updatedAt := x.updatedAt } :=
    congrArg (fun r : SshProxyRow => { r with updatedAt := x.updatedAt }) heq
  exact ⟨x.updatedAt, hsame ▸ hx⟩

lemma connection (h : SameButTimestamps db db') {c : ConnectionRow}
    (hc : c ∈ db'.cmdbAssetConnection) :
    ∃ t, { c with updatedAt := t } ∈ db.cmdbAssetConnection := by
  obtain ⟨x, hx, heq⟩ := exists_of_map_eq h.connections hc
  have hsame : x = { c with updatedAt := x.updatedAt } :=
    congrArg (fun r : ConnectionRow => { r with updatedAt := x.updatedAt }) heq
  exact ⟨x.updatedAt, hsame ▸ hx⟩

lemma peer (h : SameButTimestamps db db') {vpcID : String} {id : Uuid} {x : AssetRow}
    (hx : x ∈ peers db'.cmdbAsset vpcID id) :
    ∃ t, { x with updatedAt := t } ∈ peers db.cmdbAsset vpcID id := by
  obtain ⟨hmem, hpeer⟩ := List.mem_filter.mp hx
  obtain ⟨t, hmem'⟩ := h.asset hmem
  exact ⟨t, List.mem_filter.mpr ⟨hmem', hpeer⟩⟩

end SameButTimestamps

/-- No column that counts is a timestamp. -/
lemma Settled.congr (h : Settled a login pid db) (hsame : SameButTimestamps db db') :
    Settled a login pid db' where
  assetKeys := by
    have hids := congrArg (List.map (·.id)) hsame.assets
    rw [List.map_map, List.map_map] at hids
    exact hids ▸ h.assetKeys
  asset := by
    obtain ⟨t, hmem⟩ := h.asset
    exact hsame.symm.asset hmem
  alone b hb hvpc hpromoted hlive := by
    obtain ⟨t, hmem⟩ := hsame.asset hb
    exact h.alone { b with updatedAt := t } hmem hvpc hpromoted hlive
  proxyKeys := by
    have hids := congrArg (List.map (·.id)) hsame.proxies
    rw [List.map_map, List.map_map] at hids
    exact hids ▸ h.proxyKeys
  proxy := by
    obtain ⟨p, hp, hpid, hsource, hcolumns⟩ := h.proxy
    obtain ⟨t, hmem⟩ := hsame.symm.sshProxy hp
    exact ⟨_, hmem, hpid, hsource, hcolumns⟩
  source p hp hsource := by
    obtain ⟨t, hmem⟩ := hsame.sshProxy hp
    exact h.source { p with updatedAt := t } hmem hsource
  name p hp hlive hname := by
    obtain ⟨t, hmem⟩ := hsame.sshProxy hp
    exact h.name { p with updatedAt := t } hmem hlive hname
  ownHeld := by
    obtain ⟨c, hc, hid⟩ := h.ownHeld
    obtain ⟨t, hmem⟩ := hsame.symm.connection hc
    exact ⟨_, hmem, hid⟩
  own c hc hid hguard := by
    obtain ⟨t, hmem⟩ := hsame.connection hc
    exact h.own { c with updatedAt := t } hmem hid hguard
  peersHeld x hx := by
    obtain ⟨t, hx'⟩ := hsame.peer hx
    obtain ⟨c, hc, hid⟩ := h.peersHeld _ hx'
    obtain ⟨t', hmem⟩ := hsame.symm.connection hc
    exact ⟨_, hmem, hid⟩
  peerRoutes x hx c hc hid hauto := by
    obtain ⟨t, hx'⟩ := hsame.peer hx
    obtain ⟨t', hmem⟩ := hsame.connection hc
    exact h.peerRoutes { x with updatedAt := t } hx' { c with updatedAt := t' } hmem hid hauto
  routes c hc hauto q hproxy := by
    obtain ⟨t, hmem⟩ := hsame.connection hc
    obtain ⟨⟨p, hp, hid⟩, hpeer⟩ := h.routes { c with updatedAt := t } hmem hauto q hproxy
    obtain ⟨t', hp'⟩ := hsame.symm.sshProxy hp
    refine ⟨⟨_, hp', hid⟩, fun heq => ?_⟩
    obtain ⟨x, hx, hxid⟩ := hpeer heq
    obtain ⟨t'', hx'⟩ := hsame.symm.peer hx
    exact ⟨_, hx', hxid⟩

/-! ### The cycle -/

/-- A demotion of a settled state, and the promotion after it. -/
lemma Settled.demoteThenPromote (h : Settled a login pid db)
    (hpromotion : PromotionOf assetID opts a login) (now : Time) :
    ∃ db₃, Cmdb.demote db now assetID = .ok db₃ ∧ Retired db₃ pid ∧ Idle db₃ a.id ∧
      ∀ now' newProxyId newId, ∃ db₄,
        Cmdb.promote db₃ now' newProxyId newId assetID opts = .ok db₄ ∧
        (∃ p ∈ db₄.cmdbSshProxy, p.id = pid ∧ p.live = true) ∧ SameButTimestamps db db₄ := by
  obtain ⟨db₃, hdemote, hslack, hretired, hidle⟩ := h.demote now hpromotion
  refine ⟨db₃, hdemote, hretired, hidle, ?_⟩
  intro now' newProxyId newId
  obtain ⟨db₄, hpromote, hsame⟩ := h.promote hslack hpromotion now' newProxyId newId
  obtain ⟨p, hp, hpid, -, hlive⟩ := (h.congr hsame).live
  exact ⟨db₄, hpromote, ⟨p, hp, hpid, hlive⟩, hsame⟩

lemma Settled.cycle (h : Settled a login pid db) (hpromotion : PromotionOf assetID opts a login) :
    PromoteCycle assetID opts a.id pid db where
  proxy := h.live
  again now newProxyId newId := h.promote (Slack.refl a pid db) hpromotion now newProxyId newId
  back := by
    intro db₂ hdb₂ now
    have hsame : SameButTimestamps db db₂ := by
      rcases hdb₂ with rfl | ⟨now', newProxyId, newId, hp⟩
      · exact ⟨rfl, rfl, rfl, rfl⟩
      · obtain ⟨db₂', hp', hsame⟩ :=
          h.promote (Slack.refl a pid db) hpromotion now' newProxyId newId
        obtain rfl := Except.ok.inj (hp'.symm.trans hp)
        exact hsame
    obtain ⟨db₃, hdemote, hretired, hidle, hpromote⟩ :=
      (h.congr hsame).demoteThenPromote hpromotion now
    refine ⟨db₃, hdemote, hretired, hidle, ?_⟩
    intro now' newProxyId newId
    obtain ⟨db₄, hp, hrevived, hsame'⟩ := hpromote now' newProxyId newId
    exact ⟨db₄, hp, hrevived, hsame.trans hsame'⟩

end

/-- **Promoting, demoting and promoting again.**  In any state that calls have reached, for an asset
that is not promoted and whose proxy, if any, no managed connection refers to: what a promotion
leaves is left as it is, but for timestamps, by another promotion with the same options and by a
demotion that a promotion follows, and the demotion retires the proxy.  A request that has not
committed has written nothing, whichever database call has failed. -/
theorem promotions_compose :
    (∀ (calls : List FleetCall) (a : AssetRow) (now : Time) (newProxyId : Uuid)
        (newId : Uuid → Uuid) (assetID : String) (opts : PromoteOptions) (db₁ : Db),
      getAsset (run FleetCall.apply {} calls) assetID = .ok a → a.isVpcProxy = false →
      Idle (run FleetCall.apply {} calls) a.id →
      promote (run FleetCall.apply {} calls) now newProxyId newId assetID opts = .ok db₁ →
      ∃ pid, PromoteCycle assetID opts a.id pid db₁) ∧
    (∀ (d : DbDriver) (db : Db) (now : Time) (newProxyId : Uuid) (newId : Uuid → Uuid)
        (assetID : String) (opts : PromoteOptions),
      ((promoteRequest d now newProxyId newId assetID opts).runOn { db }).2.commits = 0 →
      ((promoteRequest d now newProxyId newId assetID opts).runOn { db }).2.db = db) ∧
    (∀ (d : DbDriver) (db : Db) (now : Time) (assetID : String),
      ((demoteRequest d now assetID).runOn { db }).2.commits = 0 →
      ((demoteRequest d now assetID).runOn { db }).2.db = db) := by
  refine ⟨?_, ?_, ?_⟩
  · intro calls a now newProxyId newId assetID opts db₁ hget hnot hidle hp
    obtain ⟨login, pid, hpromotion, hsettled⟩ := (fleetRows_run calls).settled hget hnot hidle hp
    exact ⟨pid, hsettled.cycle hpromotion⟩
  · intro d db now newProxyId newId assetID opts
    exact (writesByCommit_promoteRequest d now newProxyId newId assetID opts { db }).2
  · intro d db now assetID
    exact (writesByCommit_demoteRequest d now assetID { db }).2

/-- Two VPCs with a gateway and a peer each.  The gateway of the second is promoted; that of the
first has been, and is not any more. -/
def sampleFleet : List FleetCall :=
  [.upsertAsset 1 (Uuid.replicate 1)
     { assetType := "aws_ec2_instance", name := "gw", externalID := "i-1", publicIP := "3.3.3.3"
       privateIP := "10.0.0.1", vpcID := "vpc-1" },
   .upsertAsset 1 (Uuid.replicate 2)
     { assetType := "aws_ec2_instance", name := "app", externalID := "i-2", privateIP := "10.0.0.2"
       osFamily := "ubuntu", vpcID := "vpc-1" },
   .upsertAsset 1 (Uuid.replicate 3)
     { assetType := "aws_ec2_instance", name := "gw", externalID := "i-3", publicIP := "4.4.4.4"
       privateIP := "10.1.0.1", vpcID := "vpc-2" },
   .upsertAsset 1 (Uuid.replicate 4)
     { assetType := "aws_ec2_instance", name := "app", externalID := "i-4", privateIP := "10.1.0.2"
       osFamily := "ubuntu", vpcID := "vpc-2" },
   .promote 2 (Uuid.replicate 5) id (Uuid.replicate 3).toText { username := "ec2-user" },
   .promote 3 (Uuid.replicate 6) id (Uuid.replicate 1).toText { username := "ec2-user" },
   .demote 4 (Uuid.replicate 1).toText]

theorem promotions_compose_sampleFleet :
    ∃ db₁ pid, promote (run FleetCall.apply {} sampleFleet) 5 (Uuid.replicate 7) id
        (Uuid.replicate 1).toText { username := "ec2-user" } = .ok db₁ ∧
      db₁.cmdbAssetConnection.map (fun c => (c.assetId, c.proxyId)) =
        [(Uuid.replicate 3, none), (Uuid.replicate 4, some (Uuid.replicate 5)),
         (Uuid.replicate 1, none), (Uuid.replicate 2, some (Uuid.replicate 6))] ∧
      PromoteCycle (Uuid.replicate 1).toText { username := "ec2-user" } (Uuid.replicate 1) pid
        db₁ := by
  obtain ⟨a, hget, hid, hnot⟩ : ∃ a, getAsset (run FleetCall.apply {} sampleFleet)
      (Uuid.replicate 1).toText = .ok a ∧ a.id = Uuid.replicate 1 ∧ a.isVpcProxy = false :=
    ⟨_, rfl, rfl, rfl⟩
  have hidle : Idle (run FleetCall.apply {} sampleFleet) (Uuid.replicate 1) := by decide +kernel
  obtain ⟨db₁, hp, hroutes⟩ : ∃ db₁, promote (run FleetCall.apply {} sampleFleet) 5
      (Uuid.replicate 7) id (Uuid.replicate 1).toText { username := "ec2-user" } = .ok db₁ ∧
      db₁.cmdbAssetConnection.map (fun c => (c.assetId, c.proxyId)) =
        [(Uuid.replicate 3, none), (Uuid.replicate 4, some (Uuid.replicate 5)),
         (Uuid.replicate 1, none), (Uuid.replicate 2, some (Uuid.replicate 6))] := ⟨_, rfl, rfl⟩
  obtain ⟨pid, hcycle⟩ := promotions_compose.1 sampleFleet a 5 (Uuid.replicate 7) id
    (Uuid.replicate 1).toText { username := "ec2-user" } db₁ hget hnot (hid ▸ hidle) hp
  exact ⟨db₁, pid, hp, hroutes, hid ▸ hcycle⟩

end OpsPlatform.Cmdb
