/-
The invariant that ties assets, proxies and connections together, and the calls that keep it.

An asset has a live proxy exactly when it is live and promoted, and a connection that the
program manages is routed through a live proxy or through none.  `Promote`, `Demote` and
`ReapplyPropagation` are written with this in mind; `DeleteAsset` and the `Delete` of a proxy
are not, and break it in the cases that `Allowed` leaves out.
-/
import OpsPlatform.Cmdb.VpcProxy
import OpsPlatform.Lib.Run

namespace OpsPlatform.Cmdb

open Lib Lib.Run Lib.Table SshProxy

/-- The asset is live and promoted. -/
def Promoted (assets : List AssetRow) (a : Uuid) : Prop :=
  ∃ r ∈ assets, r.id = a ∧ r.live = true ∧ r.isVpcProxy = true

/-- There is a live proxy whose source is the asset. -/
def HasProxy (proxies : List SshProxyRow) (a : Uuid) : Prop :=
  ∃ p ∈ proxies, p.live = true ∧ p.sourceAssetId = some a

/-- The proxy is live. -/
def LiveProxy (proxies : List SshProxyRow) (pid : Uuid) : Prop :=
  ∃ p ∈ proxies, p.id = pid ∧ p.live = true

/-- A connection that the program manages goes through a live proxy or through none. -/
def Routed (proxies : List SshProxyRow) (c : ConnectionRow) : Prop :=
  c.autoManaged = true → ∀ pid, c.proxyId = some pid → LiveProxy proxies pid

/-- The invariant; the first two fields are the primary keys of the tables. -/
structure Inv (db : Db) : Prop where
  assetKeys : (db.cmdbAsset.map (·.id)).Nodup
  proxyKeys : (db.cmdbSshProxy.map (·.id)).Nodup
  proxied : ∀ a, HasProxy db.cmdbSshProxy a ↔ Promoted db.cmdbAsset a
  routed : ∀ c ∈ db.cmdbAssetConnection, Routed db.cmdbSshProxy c

/-! ### Assets -/

section Assets

variable {assets : List AssetRow} {now : Time} {id b : Uuid}

lemma promoted_setVpcProxy_true {a : AssetRow} (ha : a ∈ assets) (hlive : a.live = true) :
    Promoted (setVpcProxy now a.id true assets) b ↔ b = a.id ∨ Promoted assets b := by
  constructor
  · rintro ⟨r, hr, rfl, hr', hproxy⟩
    obtain ⟨r₀, hr₀, ⟨hid, rfl⟩ | ⟨-, rfl⟩⟩ := mem_updateWhere.mp hr
    · exact Or.inl (by simpa using hid)
    · exact Or.inr ⟨r, hr₀, rfl, hr', hproxy⟩
  · rintro (rfl | ⟨r, hr, rfl, hr', hproxy⟩)
    · exact ⟨_, mem_updateWhere.mpr ⟨a, ha, Or.inl ⟨by simp, rfl⟩⟩, rfl, hlive, rfl⟩
    · by_cases hid : r.id = a.id
      · exact ⟨_, mem_updateWhere.mpr ⟨r, hr, Or.inl ⟨by simp [hid], rfl⟩⟩, rfl, hr', rfl⟩
      · exact ⟨r, mem_updateWhere.mpr ⟨r, hr, Or.inr ⟨by simp [hid], rfl⟩⟩, rfl, hr', hproxy⟩

lemma promoted_setVpcProxy_false :
    Promoted (setVpcProxy now id false assets) b ↔ b ≠ id ∧ Promoted assets b := by
  constructor
  · rintro ⟨r, hr, rfl, hr', hproxy⟩
    obtain ⟨r₀, hr₀, ⟨-, rfl⟩ | ⟨hid, rfl⟩⟩ := mem_updateWhere.mp hr
    · cases hproxy
    · exact ⟨by simpa using hid, r, hr₀, rfl, hr', hproxy⟩
  · rintro ⟨hne, r, hr, rfl, hr', hproxy⟩
    exact ⟨r, mem_updateWhere.mpr ⟨r, hr, Or.inr ⟨by simp [hne], rfl⟩⟩, rfl, hr', hproxy⟩

lemma promoted_delete :
    Promoted (updateWhere (fun a => a.id == id && a.live)
      (fun a => { a with deletedAt := some now }) assets) b ↔ b ≠ id ∧ Promoted assets b := by
  constructor
  · rintro ⟨r, hr, rfl, hr', hproxy⟩
    obtain ⟨r₀, hr₀, ⟨-, rfl⟩ | ⟨hid, rfl⟩⟩ := mem_updateWhere.mp hr
    · cases hr'
    · refine ⟨?_, r, hr₀, rfl, hr', hproxy⟩
      rintro rfl
      simp [hr'] at hid
  · rintro ⟨hne, r, hr, rfl, hr', hproxy⟩
    exact ⟨r, mem_updateWhere.mpr ⟨r, hr, Or.inr ⟨by simp [hne], rfl⟩⟩, rfl, hr', hproxy⟩

end Assets

/-! ### Proxies -/

section Proxies

variable {proxies : List SshProxyRow} {now : Time} {b pid q : Uuid}

lemma hasProxy_append {p : SshProxyRow} : HasProxy (proxies ++ [p]) b ↔
    HasProxy proxies b ∨ (p.live = true ∧ p.sourceAssetId = some b) := by
  simp only [HasProxy, List.mem_append, List.mem_singleton]
  constructor
  · rintro ⟨r, hr | rfl, h⟩
    · exact Or.inl ⟨r, hr, h⟩
    · exact Or.inr h
  · rintro (⟨r, hr, h⟩ | h)
    · exact ⟨r, Or.inl hr, h⟩
    · exact ⟨p, Or.inr rfl, h⟩

lemma LiveProxy.append (h : LiveProxy proxies q) (p : SshProxyRow) :
    LiveProxy (proxies ++ [p]) q := by
  obtain ⟨r, hr, h⟩ := h
  exact ⟨r, List.mem_append_left _ hr, h⟩

/-- What the invariant sees of a proxy. -/
def SshProxyRow.view (p : SshProxyRow) : Uuid × Option Uuid × Bool :=
  (p.id, p.sourceAssetId, p.live)

lemma hasProxy_iff_view :
    HasProxy proxies b ↔ ∃ v ∈ proxies.map (·.view), v.2.2 = true ∧ v.2.1 = some b := by
  simp [HasProxy, SshProxyRow.view]

lemma liveProxy_iff_view :
    LiveProxy proxies q ↔ ∃ v ∈ proxies.map (·.view), v.1 = q ∧ v.2.2 = true := by
  simp [LiveProxy, SshProxyRow.view]

/-- The live rows after the deletion of a proxy. -/
lemma mem_delete {hit : SshProxyRow → Bool} (honly : ∀ p, hit p = true → p.id = pid)
    (hall : ∀ p : SshProxyRow, p.id = pid → p.live = true → hit p = true) {p : SshProxyRow} :
    (p ∈ updateWhere hit (fun p => { p with deletedAt := some now }) proxies ∧ p.live = true) ↔
      p ∈ proxies ∧ p.live = true ∧ p.id ≠ pid := by
  constructor
  · rintro ⟨hp, hlive⟩
    obtain ⟨p₀, hp₀, ⟨-, rfl⟩ | ⟨hhit, rfl⟩⟩ := mem_updateWhere.mp hp
    · cases hlive
    · refine ⟨hp₀, hlive, ?_⟩
      intro hid
      rw [hall p hid hlive] at hhit
      cases hhit
  · rintro ⟨hp, hlive, hne⟩
    refine ⟨mem_updateWhere.mpr ⟨p, hp, Or.inr ⟨?_, rfl⟩⟩, hlive⟩
    cases hhit : hit p with
    | false => rfl
    | true => exact absurd (honly p hhit) hne

/-- The proxy of an asset comes to life again. -/
lemma hasProxy_revive {p₀ : SshProxyRow} {a : AssetRow} {username authType : String}
    (hkeys : (proxies.map (·.id)).Nodup) (hp₀ : p₀ ∈ proxies)
    (hsource : p₀.sourceAssetId = some a.id) :
    HasProxy (updateWhere (·.id == p₀.id) (proxyOfAsset now a username authType) proxies) b ↔
      HasProxy proxies b ∨ b = a.id := by
  -- keys are unique, so only the row itself is updated
  have honly : ∀ r ∈ proxies, (r.id == p₀.id) = true → r = p₀ := by
    intro r hr hid
    exact List.inj_on_of_nodup_map hkeys hr hp₀ (by simpa using hid)
  have hrevived : HasProxy (updateWhere (·.id == p₀.id) (proxyOfAsset now a username authType)
      proxies) a.id :=
    ⟨_, mem_updateWhere.mpr ⟨p₀, hp₀, Or.inl ⟨by simp, rfl⟩⟩, rfl, hsource⟩
  constructor
  · rintro ⟨r, hr, hlive, hb⟩
    obtain ⟨r₀, hr₀, ⟨hid, rfl⟩ | ⟨-, rfl⟩⟩ := mem_updateWhere.mp hr
    · obtain rfl := honly r₀ hr₀ hid
      have heq : some a.id = some b := hsource.symm.trans hb
      exact Or.inr (Option.some.inj heq).symm
    · exact Or.inl ⟨r, hr₀, hlive, hb⟩
  · rintro (⟨r, hr, hlive, hb⟩ | rfl)
    · cases hid : r.id == p₀.id with
      | true =>
        obtain rfl := honly r hr hid
        obtain rfl : a.id = b := Option.some.inj (hsource.symm.trans hb)
        exact hrevived
      | false => exact ⟨r, mem_updateWhere.mpr ⟨r, hr, Or.inr ⟨hid, rfl⟩⟩, hlive, hb⟩
    · exact hrevived

lemma LiveProxy.revive {p₀ : SshProxyRow} {a : AssetRow} {username authType : String}
    (h : LiveProxy proxies q) :
    LiveProxy (updateWhere (·.id == p₀.id) (proxyOfAsset now a username authType) proxies) q := by
  obtain ⟨r, hr, rfl, hlive⟩ := h
  cases hid : r.id == p₀.id with
  | true => exact ⟨_, mem_updateWhere.mpr ⟨r, hr, Or.inl ⟨hid, rfl⟩⟩, rfl, rfl⟩
  | false => exact ⟨r, mem_updateWhere.mpr ⟨r, hr, Or.inr ⟨hid, rfl⟩⟩, rfl, hlive⟩

/-- What `upsertProxyForAsset` does to the proxies. -/
structure Proxied (proxies proxies' : List SshProxyRow) (a pid : Uuid) : Prop where
  keys : (proxies'.map (·.id)).Nodup
  hasProxy : ∀ b, HasProxy proxies' b ↔ HasProxy proxies b ∨ b = a
  kept : ∀ q, LiveProxy proxies q → LiveProxy proxies' q
  live : LiveProxy proxies' pid

lemma proxied_upsertProxyForAsset {db db' : Db} {newId : Uuid} {a : AssetRow}
    {username authType : String} {p : SshProxyRow}
    (h : upsertProxyForAsset db now newId a username authType = .ok (db', p))
    (hkeys : (db.cmdbSshProxy.map (·.id)).Nodup) :
    db' = { db with cmdbSshProxy := db'.cmdbSshProxy } ∧
      Proxied db.cmdbSshProxy db'.cmdbSshProxy a.id p.id := by
  obtain ⟨hsource, hdeleted, hcases⟩ := upsertProxyForAsset_eq_ok hkeys h
  rcases hcases with ⟨p₀, hp₀, hsource₀, hid, rfl⟩ | ⟨hfresh, rfl⟩
  · refine ⟨rfl, ?_, fun b => hasProxy_revive hkeys hp₀ hsource₀, fun q hq => hq.revive, ?_⟩
    · exact nodup_map_updateWhere (fun _ _ => rfl) hkeys
    · exact ⟨_, mem_updateWhere.mpr ⟨p₀, hp₀, Or.inl ⟨by simp, rfl⟩⟩, hid, rfl⟩
  · have hlive : p.live = true := by simp [SshProxyRow.live, hdeleted]
    refine ⟨rfl, nodup_map_append hkeys hfresh, ?_, fun q hq => hq.append p, ?_⟩
    · intro b
      rw [hasProxy_append, hsource]
      simp [hlive, eq_comm]
    · exact ⟨p, by simp, rfl, hlive⟩

end Proxies

/-! ### Connections -/

section Connections

variable {proxies : List SshProxyRow} {now : Time} {newId : Uuid → Uuid}
  {connections : List ConnectionRow}

lemma Routed.mono {proxies' : List SshProxyRow} {c : ConnectionRow} (h : Routed proxies c)
    (hlive : ∀ q, LiveProxy proxies q → LiveProxy proxies' q) : Routed proxies' c :=
  fun hauto pid hpid => hlive pid (h hauto pid hpid)

lemma routed_manageConnection {assetId : Uuid} {host username authType : String}
    {proxyId : Option Uuid} {guard : ConnectionRow → Bool}
    (h : ∀ c ∈ connections, Routed proxies c)
    (hproxy : ∀ pid, proxyId = some pid → LiveProxy proxies pid) :
    ∀ c ∈ manageConnection now newId assetId host username authType proxyId guard connections,
      Routed proxies c := by
  intro c hc
  rcases mem_upsert hc with rfl | ⟨c₀, -, rfl⟩ | hc
  · exact fun _ pid hpid => hproxy pid hpid
  · exact fun _ pid hpid => hproxy pid hpid
  · exact h c hc

/-- Peers are routed through a live proxy. -/
lemma routed_propagate {assets : List AssetRow} {vpcID : String} {sourceAssetId proxyId : Uuid}
    (hlive : LiveProxy proxies proxyId) (h : ∀ c ∈ connections, Routed proxies c) :
    ∀ c ∈ propagateProxyToVPCPeers now newId assets vpcID sourceAssetId proxyId connections,
      Routed proxies c := by
  rw [propagateProxyToVPCPeers]
  generalize peers assets vpcID sourceAssetId = ps
  induction ps generalizing connections with
  | nil => exact h
  | cons a ps ih =>
    refine ih ?_
    refine routed_manageConnection h ?_
    intro pid hpid
    obtain rfl := Option.some.inj hpid
    exact hlive

lemma routed_reapply {assets : List AssetRow} {targets : List (AssetRow × SshProxyRow)}
    (hlive : ∀ t ∈ targets, LiveProxy proxies t.2.id) (h : ∀ c ∈ connections, Routed proxies c) :
    ∀ c ∈ targets.foldl (fun connections t =>
        propagateProxyToVPCPeers now newId assets t.1.vpcId t.1.id t.2.id connections) connections,
      Routed proxies c := by
  induction targets generalizing connections with
  | nil => exact h
  | cons t ts ih =>
    refine ih (fun t' ht' => hlive t' (List.mem_cons_of_mem t ht')) ?_
    exact routed_propagate (hlive t List.mem_cons_self) h

end Connections

/-! ### Calls that keep the invariant -/

section

variable {db db' : Db} {now : Time}

/-- What a promotion does to the three tables. -/
lemma promote_spec (hkeys : (db.cmdbSshProxy.map (·.id)).Nodup) {newProxyId : Uuid}
    {newId : Uuid → Uuid} {assetID : String} {opts : PromoteOptions}
    (hp : promote db now newProxyId newId assetID opts = .ok db') :
    ∃ a ∈ db.cmdbAsset, a.live = true ∧ db'.cmdbAsset = setVpcProxy now a.id true db.cmdbAsset ∧
      (∃ pid, Proxied db.cmdbSshProxy db'.cmdbSshProxy a.id pid) ∧
      ((∀ c ∈ db.cmdbAssetConnection, Routed db.cmdbSshProxy c) →
        ∀ c ∈ db'.cmdbAssetConnection, Routed db'.cmdbSshProxy c) := by
  obtain ⟨a, ha, hlive, username, authType, db₁, p, hupsert, rfl⟩ := promote_eq_ok hp
  obtain ⟨hdb₁, hproxied⟩ := proxied_upsertProxyForAsset hupsert hkeys
  have hconnections : db₁.cmdbAssetConnection = db.cmdbAssetConnection := by rw [hdb₁]
  refine ⟨a, ha, hlive, by rw [hdb₁], ⟨p.id, hproxied⟩, ?_⟩
  intro hrouted
  refine routed_propagate hproxied.live (routed_manageConnection ?_ ?_)
  · intro c hc
    rw [hconnections] at hc
    exact (hrouted c hc).mono hproxied.kept
  · intro pid hpid
    cases hpid

lemma Inv.promote (h : Inv db) {newProxyId : Uuid} {newId : Uuid → Uuid} {assetID : String}
    {opts : PromoteOptions} (hp : promote db now newProxyId newId assetID opts = .ok db') :
    Inv db' := by
  obtain ⟨a, ha, hlive, hassets, ⟨pid, hproxied⟩, hrouted⟩ := promote_spec h.proxyKeys hp
  refine ⟨?_, hproxied.keys, ?_, hrouted h.routed⟩
  · rw [hassets]
    exact nodup_map_updateWhere (fun _ _ => rfl) h.assetKeys
  · intro b
    rw [hassets, promoted_setVpcProxy_true ha hlive, hproxied.hasProxy b, ← h.proxied b, or_comm]

lemma Inv.reapplyPropagation (h : Inv db) (newId : Uuid → Uuid) (committed : ℕ) :
    Inv (reapplyPropagation db now newId committed) := by
  refine ⟨h.assetKeys, h.proxyKeys, h.proxied, ?_⟩
  refine routed_reapply ?_ h.routed
  intro t ht
  obtain ⟨a, -, ha⟩ := List.mem_flatMap.mp (List.mem_of_mem_take ht)
  obtain ⟨p, hp, rfl⟩ := List.mem_map.mp ha
  obtain ⟨hmem, hcond⟩ := List.mem_filter.mp hp
  simp only [Bool.and_eq_true] at hcond
  exact ⟨p, hmem, rfl, hcond.2⟩

lemma Inv.upsertAssetConnectionProfile (h : Inv db) {vault : Vault} {newId : Uuid}
    {assetID : String} {req : UpsertAssetConnectionProfileRequest}
    (hu : upsertAssetConnectionProfile db vault now newId assetID req = .ok db') : Inv db' := by
  obtain ⟨connections, rfl, hconnections⟩ := upsertAssetConnectionProfile_eq_ok hu
  refine ⟨h.assetKeys, h.proxyKeys, h.proxied, ?_⟩
  intro c hc hauto
  rcases hconnections c hc with hold | hmanual
  · exact h.routed c hold hauto
  · rw [hmanual] at hauto
    cases hauto

lemma Inv.createProxy (h : Inv db) {encrypt : String → Except String String} {newId : Uuid}
    {req : UpsertSSHProxyRequest} {p : SshProxyRow}
    (hc : SshProxy.create db encrypt now newId req = .ok (db', p)) : Inv db' := by
  obtain ⟨rfl, hsource, hfresh⟩ := create_eq_ok hc
  refine ⟨h.assetKeys, nodup_map_append h.proxyKeys hfresh, ?_, ?_⟩
  · intro b
    rw [hasProxy_append, hsource, h.proxied b]
    simp
  · intro c hc
    exact (h.routed c hc).mono fun q hq => hq.append p

lemma Inv.updateProxy (h : Inv db) {encrypt : String → Except String String} {id : String}
    {req : UpsertSSHProxyRequest} {p : SshProxyRow}
    (hu : SshProxy.update db encrypt now id req = .ok (db', p)) : Inv db' := by
  obtain ⟨hit, f, rfl, hf⟩ := update_eq_ok hu
  have hview : (updateWhere hit f db.cmdbSshProxy).map (·.view) = db.cmdbSshProxy.map (·.view) := by
    refine map_updateWhere ?_ _
    intro r _
    obtain ⟨hid, hsource, hdeleted⟩ := hf r
    simp only [SshProxyRow.view, SshProxyRow.live, hid, hsource, hdeleted]
  refine ⟨h.assetKeys, ?_, ?_, ?_⟩
  · exact nodup_map_updateWhere (fun r _ => (hf r).1) h.proxyKeys
  · intro b
    rw [hasProxy_iff_view, hview, ← hasProxy_iff_view]
    exact h.proxied b
  · intro c hc
    refine (h.routed c hc).mono fun q hq => ?_
    rw [liveProxy_iff_view, hview, ← liveProxy_iff_view]
    exact hq

/-! ### Calls that may break it -/

lemma Inv.deleteAsset (h : Inv db) {assetID : String} {id : Uuid}
    (hid : Uuid.parse assetID = some id) (hd : deleteAsset db now assetID = .ok db') :
    Inv db' ↔ ¬ Promoted db.cmdbAsset id := by
  obtain ⟨id', hid', rfl⟩ := deleteAsset_eq_ok hd
  obtain rfl : id = id' := Option.some.inj (hid.symm.trans hid')
  constructor
  · -- the proxy of the asset would be left behind
    intro h' hpromoted
    have hproxy := (h'.proxied id).mp ((h.proxied id).mpr hpromoted)
    exact (promoted_delete.mp hproxy).1 rfl
  · intro hnot
    refine ⟨?_, h.proxyKeys, ?_, h.routed⟩
    · exact nodup_map_updateWhere (fun _ _ => rfl) h.assetKeys
    · intro b
      rw [promoted_delete, h.proxied b]
      constructor
      · intro hb
        refine ⟨?_, hb⟩
        rintro rfl
        exact hnot hb
      · exact fun hb => hb.2

/-- The proxy can be deleted: no connection that the program manages goes through it, and it is
not the only live proxy of its asset. -/
structure Deletable (db : Db) (p : SshProxyRow) : Prop where
  unused : ∀ c ∈ db.cmdbAssetConnection, c.autoManaged = true → c.proxyId ≠ some p.id
  spare : ∀ a, p.sourceAssetId = some a →
    ∃ q ∈ db.cmdbSshProxy, q.live = true ∧ q.sourceAssetId = some a ∧ q.id ≠ p.id

lemma hasProxy_delete {hit : SshProxyRow → Bool} {pid b : Uuid}
    (honly : ∀ p, hit p = true → p.id = pid)
    (hall : ∀ p : SshProxyRow, p.id = pid → p.live = true → hit p = true)
    {proxies : List SshProxyRow} :
    HasProxy (updateWhere hit (fun p => { p with deletedAt := some now }) proxies) b ↔
      ∃ p ∈ proxies, p.live = true ∧ p.sourceAssetId = some b ∧ p.id ≠ pid := by
  constructor
  · rintro ⟨p, hp, hlive, hb⟩
    obtain ⟨hp, -, hne⟩ := (mem_delete honly hall).mp ⟨hp, hlive⟩
    exact ⟨p, hp, hlive, hb, hne⟩
  · rintro ⟨p, hp, hlive, hb, hne⟩
    exact ⟨p, ((mem_delete honly hall).mpr ⟨hp, hlive, hne⟩).1, hlive, hb⟩

lemma liveProxy_delete {hit : SshProxyRow → Bool} {pid q : Uuid}
    (honly : ∀ p, hit p = true → p.id = pid)
    (hall : ∀ p : SshProxyRow, p.id = pid → p.live = true → hit p = true)
    {proxies : List SshProxyRow} :
    LiveProxy (updateWhere hit (fun p => { p with deletedAt := some now }) proxies) q ↔
      LiveProxy proxies q ∧ q ≠ pid := by
  constructor
  · rintro ⟨p, hp, rfl, hlive⟩
    obtain ⟨hp, -, hne⟩ := (mem_delete honly hall).mp ⟨hp, hlive⟩
    exact ⟨⟨p, hp, rfl, hlive⟩, hne⟩
  · rintro ⟨⟨p, hp, rfl, hlive⟩, hne⟩
    exact ⟨p, ((mem_delete honly hall).mpr ⟨hp, hlive, hne⟩).1, rfl, hlive⟩

lemma Inv.deleteProxy (h : Inv db) {id : String} {p : SshProxyRow} (hp : p ∈ db.cmdbSshProxy)
    (hlive : p.live = true) (hid : Uuid.parse id = some p.id)
    (hd : SshProxy.delete db now id = .ok db') : Inv db' ↔ Deletable db p := by
  obtain ⟨pid, hpid, -, rfl⟩ := delete_eq_ok hd
  obtain rfl : p.id = pid := Option.some.inj (hid.symm.trans hpid)
  have honly : ∀ q : SshProxyRow, (q.id == p.id && q.live) = true → q.id = p.id := by
    intro q hq
    simp only [Bool.and_eq_true, beq_iff_eq] at hq
    exact hq.1
  have hall : ∀ q : SshProxyRow, q.id = p.id → q.live = true → (q.id == p.id && q.live) = true := by
    intro q hq hqlive
    simp [hq, hqlive]
  have hsame : ∀ q ∈ db.cmdbSshProxy, q.id = p.id → q = p :=
    fun q hq heq => List.inj_on_of_nodup_map h.proxyKeys hq hp heq
  constructor
  · intro h'
    refine ⟨?_, ?_⟩
    · intro c hc hauto hroute
      exact ((liveProxy_delete honly hall).mp (h'.routed c hc hauto p.id hroute)).2 rfl
    · intro a ha
      have hpromoted := (h.proxied a).mp ⟨p, hp, hlive, ha⟩
      exact (hasProxy_delete honly hall).mp ((h'.proxied a).mpr hpromoted)
  · intro hdeletable
    refine ⟨h.assetKeys, ?_, ?_, ?_⟩
    · exact nodup_map_updateWhere (fun _ _ => rfl) h.proxyKeys
    · intro b
      rw [hasProxy_delete honly hall, ← h.proxied b]
      constructor
      · rintro ⟨q, hq, hqlive, hb, -⟩
        exact ⟨q, hq, hqlive, hb⟩
      · rintro ⟨q, hq, hqlive, hb⟩
        by_cases heq : q.id = p.id
        · obtain rfl := hsame q hq heq
          exact hdeletable.spare b hb
        · exact ⟨q, hq, hqlive, hb, heq⟩
    · intro c hc hauto pid hroute
      refine (liveProxy_delete honly hall).mpr ⟨h.routed c hc hauto pid hroute, ?_⟩
      rintro rfl
      exact hdeletable.unused c hc hauto hroute

/-- The asset has no two live proxies. -/
def OneProxy (db : Db) (a : Uuid) : Prop :=
  ∀ p ∈ db.cmdbSshProxy, ∀ q ∈ db.cmdbSshProxy, p.live = true → p.sourceAssetId = some a →
    q.live = true → q.sourceAssetId = some a → p.id = q.id

/-- The database after a demotion that retires the proxy `r`. -/
def demoted (db : Db) (now : Time) (a : Uuid) (r : SshProxyRow) : Db :=
  { retireProxy db now (some r) with cmdbAsset := setVpcProxy now a false db.cmdbAsset }

lemma hasProxy_demoted {a b : Uuid} {r : SshProxyRow} :
    HasProxy (demoted db now a r).cmdbSshProxy b ↔
      ∃ p ∈ db.cmdbSshProxy, p.live = true ∧ p.sourceAssetId = some b ∧ p.id ≠ r.id :=
  hasProxy_delete (fun q hq => by simpa using hq) fun q hq _ => by simpa using hq

lemma liveProxy_demoted {a q : Uuid} {r : SshProxyRow} :
    LiveProxy (demoted db now a r).cmdbSshProxy q ↔ LiveProxy db.cmdbSshProxy q ∧ q ≠ r.id :=
  liveProxy_delete (fun q hq => by simpa using hq) fun q hq _ => by simpa using hq

/-- No connection that the program manages is left on a proxy that is retired. -/
lemma routed_demoted {a : Uuid} {r : SshProxyRow}
    (h : ∀ c ∈ db.cmdbAssetConnection, Routed db.cmdbSshProxy c) :
    ∀ c ∈ (demoted db now a r).cmdbAssetConnection,
      Routed (demoted db now a r).cmdbSshProxy c := by
  intro c hc hauto pid hroute
  obtain ⟨c₀, hc₀, ⟨-, rfl⟩ | ⟨hhit, rfl⟩⟩ := mem_updateWhere.mp hc
  · cases hroute
  · refine liveProxy_demoted.mpr ⟨h c hc₀ hauto pid hroute, ?_⟩
    rintro rfl
    simp [hroute, hauto] at hhit

/-- Retiring the one live proxy of an asset keeps the invariant. -/
lemma Inv.demoted (h : Inv db) {a : Uuid} {r : SshProxyRow} (hr : r ∈ db.cmdbSshProxy)
    (hlive : r.live = true) (hsource : r.sourceAssetId = some a) (hone : OneProxy db a) :
    Inv (demoted db now a r) := by
  refine ⟨nodup_map_updateWhere (fun _ _ => rfl) h.assetKeys,
    nodup_map_updateWhere (fun _ _ => rfl) h.proxyKeys, ?_, routed_demoted h.routed⟩
  intro b
  rw [hasProxy_demoted]
  refine Iff.trans ?_ promoted_setVpcProxy_false.symm
  rw [← h.proxied b]
  constructor
  · rintro ⟨q, hq, hqlive, hb, hne⟩
    refine ⟨?_, q, hq, hqlive, hb⟩
    rintro rfl
    exact hne (hone q hq r hr hqlive hb hlive hsource)
  · rintro ⟨hne, q, hq, hqlive, hb⟩
    refine ⟨q, hq, hqlive, hb, ?_⟩
    intro heq
    obtain rfl : q = r := List.inj_on_of_nodup_map h.proxyKeys hq hr heq
    exact hne (Option.some.inj (hb.symm.trans hsource))

/-- A second live proxy would be left behind. -/
lemma oneProxy_of_inv_demoted {a : Uuid} {r : SshProxyRow} (h' : Inv (demoted db now a r)) :
    OneProxy db a := by
  have hretired : ∀ q ∈ db.cmdbSshProxy, q.live = true → q.sourceAssetId = some a →
      q.id = r.id := by
    intro q hq hqlive hqsource
    by_contra hne
    have hleft := (h'.proxied a).mp (hasProxy_demoted.mpr ⟨q, hq, hqlive, hqsource, hne⟩)
    exact (promoted_setVpcProxy_false.mp hleft).1 rfl
  intro p hp q hq hplive hpsource hqlive hqsource
  rw [hretired p hp hplive hpsource, hretired q hq hqlive hqsource]

/-- The proxy that `Demote` finds for a promoted asset. -/
lemma Inv.exists_demoted (h : Inv db) (now : Time) {assetID : String} {a : AssetRow}
    (ha : a ∈ db.cmdbAsset) (hlive : a.live = true) (hid : Uuid.parse assetID = some a.id)
    (hproxy : a.isVpcProxy = true) :
    ∃ r ∈ db.cmdbSshProxy, r.live = true ∧ r.sourceAssetId = some a.id ∧
      demote db now assetID = .ok (Cmdb.demoted db now a.id r) := by
  obtain ⟨p, hp, hplive, hpsource⟩ := (h.proxied a.id).mpr ⟨a, ha, rfl, hlive, hproxy⟩
  have hsome : (db.cmdbSshProxy.find? fun p => p.sourceAssetId == some a.id && p.live).isSome :=
    List.find?_isSome.mpr ⟨p, hp, by simp [hpsource, hplive]⟩
  obtain ⟨r, hr⟩ := Option.isSome_iff_exists.mp hsome
  have hcond := List.find?_some hr
  simp only [Bool.and_eq_true, beq_iff_eq] at hcond
  have hget := getAsset_of_live h.assetKeys ha hlive hid
  exact ⟨r, List.mem_of_find?_eq_some hr, hcond.2, hcond.1, demote_of_found hget hproxy hr⟩

/-- `Demote` of an asset that is not promoted does nothing. -/
lemma demote_of_not_promoted {assetID : String} (hd : demote db now assetID = .ok db')
    (hnot : ∀ a ∈ db.cmdbAsset, a.live = true → Uuid.parse assetID = some a.id →
      a.isVpcProxy = false) : db' = db := by
  obtain ⟨a, ha, ⟨hproxy, -⟩ | ⟨-, hsame⟩⟩ := demote_eq_ok hd
  · obtain ⟨hid, hmem, hlive⟩ := getAsset_eq_ok ha
    rw [hnot a hmem hlive hid] at hproxy
    cases hproxy
  · exact hsame

end

/-! ### Runs -/

/-- A call of one of the services. -/
inductive Op where
  | promote (now : Time) (newProxyId : Uuid) (newId : Uuid → Uuid) (assetID : String)
      (opts : PromoteOptions)
  | demote (now : Time) (assetID : String)
  | reapplyPropagation (now : Time) (newId : Uuid → Uuid) (committed : ℕ)
  | deleteAsset (now : Time) (assetID : String)
  | upsertAssetConnectionProfile (now : Time) (newId : Uuid) (assetID : String)
      (req : UpsertAssetConnectionProfileRequest)
  | createProxy (now : Time) (newId : Uuid) (req : UpsertSSHProxyRequest)
  | updateProxy (now : Time) (id : String) (req : UpsertSSHProxyRequest)
  | deleteProxy (now : Time) (id : String)

variable (vault : Vault)

def Op.attempt (db : Db) : Op → Except String Db
  | .promote now newProxyId newId assetID opts =>
    Cmdb.promote db now newProxyId newId assetID opts
  | .demote now assetID => Cmdb.demote db now assetID
  | .reapplyPropagation now newId committed =>
    .ok (Cmdb.reapplyPropagation db now newId committed)
  | .deleteAsset now assetID => Cmdb.deleteAsset db now assetID
  | .upsertAssetConnectionProfile now newId assetID req =>
    Cmdb.upsertAssetConnectionProfile db vault now newId assetID req
  | .createProxy now newId req => (SshProxy.create db vault.encrypt now newId req).map Prod.fst
  | .updateProxy now id req => (SshProxy.update db vault.encrypt now id req).map Prod.fst
  | .deleteProxy now id => SshProxy.delete db now id

/-- The database after a call. -/
def Op.apply (db : Db) (op : Op) : Db :=
  match op.attempt vault db with
  | .ok db' => db'
  | .error _ => db

/-- The calls that keep the invariant: all but a `DeleteAsset` of a promoted asset, a `Delete` of
a proxy that is still needed and a `Demote` of an asset with several live proxies. -/
def Allowed (db : Db) : Op → Prop
  | .deleteAsset _ assetID => ∀ a ∈ db.cmdbAsset, a.live = true →
      Uuid.parse assetID = some a.id → a.isVpcProxy = false
  | .deleteProxy _ id => ∀ p ∈ db.cmdbSshProxy, p.live = true → Uuid.parse id = some p.id →
      Deletable db p
  | .demote _ assetID => ∀ a ∈ db.cmdbAsset, a.live = true → Uuid.parse assetID = some a.id →
      a.isVpcProxy = true → OneProxy db a.id
  | _ => True

section

variable {vault} {db db' : Db} {op : Op}

lemma apply_of_ok (h : op.attempt vault db = .ok db') : op.apply vault db = db' := by
  rw [Op.apply, h]

lemma apply_of_error {e : String} (h : op.attempt vault db = .error e) :
    op.apply vault db = db := by
  rw [Op.apply, h]

/-- A call keeps the invariant if it does so when it succeeds. -/
lemma Inv.apply_of_attempt (h : Inv db)
    (hok : ∀ db', op.attempt vault db = .ok db' → Inv db') : Inv (op.apply vault db) := by
  cases hop : op.attempt vault db with
  | error e =>
    rw [apply_of_error hop]
    exact h
  | ok db' =>
    rw [apply_of_ok hop]
    exact hok db' hop

lemma Inv.apply_deleteAsset_iff (h : Inv db) (now : Time) (assetID : String) :
    Inv (Op.apply vault db (.deleteAsset now assetID)) ↔ Allowed db (.deleteAsset now assetID) := by
  cases hop : Op.attempt vault db (.deleteAsset now assetID) with
  | error e =>
    rw [apply_of_error hop]
    refine ⟨fun _ a ha hlive hid => ?_, fun _ => h⟩
    -- with a live asset of the id the call would have succeeded
    exact absurd ((deleteAsset_of_live hid ha hlive).symm.trans hop) (by simp)
  | ok db' =>
    rw [apply_of_ok hop]
    obtain ⟨id, hid, -⟩ := deleteAsset_eq_ok hop
    rw [h.deleteAsset hid hop]
    constructor
    · intro hnot a ha hlive hid'
      obtain rfl : id = a.id := Option.some.inj (hid.symm.trans hid')
      by_contra hproxy
      exact hnot ⟨a, ha, rfl, hlive, by simpa using hproxy⟩
    · rintro hallowed ⟨a, ha, rfl, hlive, hproxy⟩
      rw [hallowed a ha hlive hid] at hproxy
      cases hproxy

lemma Inv.apply_deleteProxy_iff (h : Inv db) (now : Time) (id : String) :
    Inv (Op.apply vault db (.deleteProxy now id)) ↔ Allowed db (.deleteProxy now id) := by
  cases hop : Op.attempt vault db (.deleteProxy now id) with
  | error e =>
    rw [apply_of_error hop]
    refine ⟨fun _ p hp hlive hid => ?_, fun _ => h⟩
    exact absurd ((delete_of_live hid hp rfl hlive).symm.trans hop) (by simp)
  | ok db' =>
    rw [apply_of_ok hop]
    obtain ⟨pid, hid, ⟨p, hp, rfl, hlive⟩, -⟩ := delete_eq_ok hop
    rw [h.deleteProxy hp hlive hid hop]
    constructor
    · intro hdeletable q hq _ hid'
      obtain rfl : q = p := by
        refine List.inj_on_of_nodup_map h.proxyKeys hq hp ?_
        exact Option.some.inj (hid'.symm.trans hid)
      exact hdeletable
    · intro hallowed
      exact hallowed p hp hlive hid

lemma Inv.apply_demote_iff (h : Inv db) (now : Time) (assetID : String) :
    Inv (Op.apply vault db (.demote now assetID)) ↔ Allowed db (.demote now assetID) := by
  by_cases hpromoted : ∃ a ∈ db.cmdbAsset, a.live = true ∧ Uuid.parse assetID = some a.id ∧
      a.isVpcProxy = true
  · obtain ⟨a, ha, hlive, hid, hproxy⟩ := hpromoted
    obtain ⟨r, hr, hrlive, hrsource, hop⟩ := h.exists_demoted now ha hlive hid hproxy
    have happly : Op.apply vault db (.demote now assetID) = Cmdb.demoted db now a.id r :=
      apply_of_ok hop
    rw [happly]
    constructor
    · intro h' b hb _ hid' _
      obtain rfl : b = a := by
        refine List.inj_on_of_nodup_map h.assetKeys hb ha ?_
        exact Option.some.inj (hid'.symm.trans hid)
      exact oneProxy_of_inv_demoted h'
    · intro hallowed
      exact h.demoted hr hrlive hrsource (hallowed a ha hlive hid hproxy)
  · have hsame : Op.apply vault db (.demote now assetID) = db := by
      cases hop : Op.attempt vault db (.demote now assetID) with
      | error e => exact apply_of_error hop
      | ok db' =>
        rw [apply_of_ok hop]
        refine demote_of_not_promoted hop ?_
        intro a ha hlive hid
        by_contra hproxy
        exact hpromoted ⟨a, ha, hlive, hid, by simpa using hproxy⟩
    rw [hsame]
    exact ⟨fun _ a ha hlive hid hproxy => absurd ⟨a, ha, hlive, hid, hproxy⟩ hpromoted,
      fun _ => h⟩

/-- From a state with the invariant, a call keeps it exactly when it is allowed. -/
lemma Inv.apply_iff (h : Inv db) (op : Op) : Inv (op.apply vault db) ↔ Allowed db op := by
  cases op with
  | promote now newProxyId newId assetID opts =>
    exact iff_of_true (h.apply_of_attempt fun db' hop => h.promote hop) trivial
  | demote now assetID => exact h.apply_demote_iff now assetID
  | reapplyPropagation now newId committed =>
    exact iff_of_true (h.reapplyPropagation newId committed) trivial
  | deleteAsset now assetID => exact h.apply_deleteAsset_iff now assetID
  | upsertAssetConnectionProfile now newId assetID req =>
    exact iff_of_true (h.apply_of_attempt fun db' hop => h.upsertAssetConnectionProfile hop) trivial
  | createProxy now newId req =>
    refine iff_of_true (h.apply_of_attempt fun db' hop => ?_) trivial
    obtain ⟨p, hp⟩ := Except.map_fst_eq_ok hop
    exact h.createProxy hp
  | updateProxy now id req =>
    refine iff_of_true (h.apply_of_attempt fun db' hop => ?_) trivial
    obtain ⟨p, hp⟩ := Except.map_fst_eq_ok hop
    exact h.updateProxy hp
  | deleteProxy now id => exact h.apply_deleteProxy_iff now id

end

/-- **The proxies of VPCs.**  In every run of the calls, from every state with the invariant, in
which each call is allowed the invariant holds in the end; and the condition is exact: a call
that is not allowed breaks the invariant. -/
theorem vpcProxy_invariant {db : Db} (h : Inv db) :
    (∀ ops, Along (Op.apply vault) Allowed db ops → Inv (run (Op.apply vault) db ops)) ∧
    ∀ ops op, Along (Op.apply vault) Allowed db ops →
      (Inv (run (Op.apply vault) db (ops ++ [op])) ↔
        Allowed (run (Op.apply vault) db ops) op) := by
  have hrun : ∀ ops, Along (Op.apply vault) Allowed db ops → Inv (run (Op.apply vault) db ops) :=
    fun ops hops => invariant_along (fun _ op hdb hop => (hdb.apply_iff op).mpr hop) h hops
  refine ⟨hrun, ?_⟩
  intro ops op hops
  rw [run_append]
  exact (hrun ops hops).apply_iff op

/-- An instance in a VPC, and its peer. -/
def sampleAssets : Db :=
  { cmdbAsset :=
      [{ id := Uuid.replicate 1, type := "aws_ec2_instance", name := "gw", publicIp := "3.3.3.3",
         privateIp := "10.0.0.1", osFamily := "ubuntu", vpcId := "vpc-1" },
       { id := Uuid.replicate 2, type := "aws_ec2_instance", name := "app", privateIp := "10.0.0.2",
         osFamily := "ubuntu", vpcId := "vpc-1" }] }

def sampleVault : Vault := ⟨.ok, .ok⟩

def samplePromotion : Op := .promote 1 (Uuid.replicate 3) id (Uuid.replicate 1).toText {}

lemma inv_sampleAssets : Inv sampleAssets := by
  refine ⟨by decide, by decide, ?_, ?_⟩
  · intro a
    constructor
    · rintro ⟨p, hp, -⟩
      cases hp
    · rintro ⟨r, hr, -, -, hproxy⟩
      simp only [sampleAssets, List.mem_cons, List.not_mem_nil, or_false] at hr
      rcases hr with rfl | rfl <;> cases hproxy
  · intro c hc
    cases hc

theorem vpcProxy_invariant_samplePromotion :
    Inv (run (Op.apply sampleVault) sampleAssets [samplePromotion]) ∧
    (run (Op.apply sampleVault) sampleAssets [samplePromotion]).cmdbAssetConnection.map
      (fun c => (c.assetId, c.proxyId)) =
        [(Uuid.replicate 1, none), (Uuid.replicate 2, some (Uuid.replicate 3))] :=
  ⟨(vpcProxy_invariant sampleVault inv_sampleAssets).1 [samplePromotion] ⟨trivial, trivial⟩,
    by decide⟩

/-- After its promotion the instance is deleted: its proxy stays live, and so does the route of
the peer through it. -/
theorem deleteAsset_breaks_invariant :
    Inv sampleAssets ∧
    ¬ Inv (run (Op.apply sampleVault) sampleAssets
      [samplePromotion, .deleteAsset 2 (Uuid.replicate 1).toText]) := by
  refine ⟨inv_sampleAssets, ?_⟩
  intro h
  have hproxy : HasProxy (run (Op.apply sampleVault) sampleAssets
      [samplePromotion, .deleteAsset 2 (Uuid.replicate 1).toText]).cmdbSshProxy
        (Uuid.replicate 1) := by
    refine ⟨_, List.mem_cons_self, ?_, ?_⟩
    · decide
    · decide
  obtain ⟨r, hr, hid, hlive, hpromoted⟩ := (h.proxied (Uuid.replicate 1)).mp hproxy
  have hnone : ((run (Op.apply sampleVault) sampleAssets
      [samplePromotion, .deleteAsset 2 (Uuid.replicate 1).toText]).cmdbAsset.any
        fun r => r.id == Uuid.replicate 1 && r.live) = false := by decide
  rw [List.any_eq_false] at hnone
  exact hnone r hr (by simp [hid, hlive])

end OpsPlatform.Cmdb
