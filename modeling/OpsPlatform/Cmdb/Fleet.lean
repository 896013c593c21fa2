/-
The calls that write assets and proxies, in any order, and what holds of the two tables after them.

A promotion revives the proxy row of its asset, and only inserts one when the asset has none; a
demotion retires it.  So an asset has at most one row, live or not, and the row is live only while
the asset is marked.
-/
import OpsPlatform.Cmdb.AwsWriter
import OpsPlatform.Lib.Run

namespace OpsPlatform.Cmdb

open Lib Lib.Run Lib.Table SshProxy

/-- What a promotion writes of an asset. -/
def AssetRow.mark (a : AssetRow) : Uuid × Bool := (a.id, a.isVpcProxy)

/-- A call that writes assets or proxies, or any other one, which writes no proxy and neither
inserts nor marks an asset. -/
inductive FleetCall where
  | createAsset (now : Time) (newId : Uuid) (req : CreateAssetRequest)
  | updateAsset (now : Time) (assetID : String) (req : UpdateAssetRequest)
  | deleteAsset (now : Time) (assetID : String)
  | upsertAsset (now : Time) (newId : Uuid) (item : AssetUpsert)
  | createProxy (encrypt : String → Except String String) (now : Time) (newId : Uuid)
      (req : UpsertSSHProxyRequest)
  | updateProxy (encrypt : String → Except String String) (now : Time) (id : String)
      (req : UpsertSSHProxyRequest)
  | deleteProxy (now : Time) (id : String)
  | promote (now : Time) (newProxyId : Uuid) (newId : Uuid → Uuid) (assetID : String)
      (opts : PromoteOptions)
  | demote (now : Time) (assetID : String)
  | other (f : Db → Db) (proxies : ∀ db, (f db).cmdbSshProxy = db.cmdbSshProxy)
      (marks : ∀ db, (f db).cmdbAsset.map AssetRow.mark = db.cmdbAsset.map AssetRow.mark)

def FleetCall.attempt (db : Db) : FleetCall → Except String Db
  | createAsset now newId req => Cmdb.createAsset db now newId req
  | updateAsset now assetID req => Cmdb.updateAsset db now assetID req
  | deleteAsset now assetID => Cmdb.deleteAsset db now assetID
  | upsertAsset now newId item => Cmdb.upsertAsset db now newId item
  | createProxy encrypt now newId req => (SshProxy.create db encrypt now newId req).map Prod.fst
  | updateProxy encrypt now id req => (SshProxy.update db encrypt now id req).map Prod.fst
  | deleteProxy now id => SshProxy.delete db now id
  | promote now newProxyId newId assetID opts => Cmdb.promote db now newProxyId newId assetID opts
  | demote now assetID => Cmdb.demote db now assetID
  | other f _ _ => .ok (f db)

/-- A call that fails leaves the database as it was. -/
def FleetCall.apply (db : Db) (call : FleetCall) : Db :=
  match call.attempt db with
  | .ok db' => db'
  | .error _ => db

/-- The keys of the tables, and how proxies and assets go together. -/
structure FleetRows (db : Db) : Prop where
  assetKeys : (db.cmdbAsset.map (·.id)).Nodup
  proxyKeys : (db.cmdbSshProxy.map (·.id)).Nodup
  /-- An asset has one proxy row at most. -/
  sources : ∀ p ∈ db.cmdbSshProxy, ∀ q ∈ db.cmdbSshProxy, ∀ id, p.sourceAssetId = some id →
    q.sourceAssetId = some id → p.id = q.id
  /-- The asset of a proxy is there, and marked while the proxy is live. -/
  marked : ∀ p ∈ db.cmdbSshProxy, ∀ id, p.sourceAssetId = some id →
    ∃ a ∈ db.cmdbAsset, a.id = id ∧ (p.live = true → a.isVpcProxy = true)

section

variable {db db' : Db}

/-! ### Assets -/

lemma FleetRows.congr (h : FleetRows db) (hproxies : db'.cmdbSshProxy = db.cmdbSshProxy)
    (hmarks : db'.cmdbAsset.map AssetRow.mark = db.cmdbAsset.map AssetRow.mark) :
    FleetRows db' := by
  have hids : db'.cmdbAsset.map (·.id) = db.cmdbAsset.map (·.id) := by
    have hfst := congrArg (List.map Prod.fst) hmarks
    rw [List.map_map, List.map_map] at hfst
    exact hfst
  refine ⟨hids ▸ h.assetKeys, hproxies ▸ h.proxyKeys, hproxies ▸ h.sources, ?_⟩
  intro p hp id hid
  rw [hproxies] at hp
  obtain ⟨a, ha, rfl, hlive⟩ := h.marked p hp id hid
  have hmark : a.mark ∈ db'.cmdbAsset.map AssetRow.mark := hmarks ▸ List.mem_map_of_mem ha
  obtain ⟨a', ha', heq⟩ := List.mem_map.mp hmark
  obtain ⟨hid', hproxy⟩ := Prod.mk.inj heq
  refine ⟨a', ha', hid', fun hp => ?_⟩
  rw [hproxy]
  exact hlive hp

/-- An update of assets that keeps their ids and marks. -/
lemma FleetRows.updateAssets (h : FleetRows db) {hit : AssetRow → Bool} {f : AssetRow → AssetRow}
    (hf : ∀ a, (f a).mark = a.mark) :
    FleetRows { db with cmdbAsset := updateWhere hit f db.cmdbAsset } :=
  h.congr rfl (map_updateWhere (fun a _ => hf a) _)

lemma FleetRows.insertAsset (h : FleetRows db) {a : AssetRow}
    (hfresh : ∀ b ∈ db.cmdbAsset, b.id ≠ a.id) :
    FleetRows { db with cmdbAsset := db.cmdbAsset ++ [a] } where
  assetKeys := nodup_map_append h.assetKeys hfresh
  proxyKeys := h.proxyKeys
  sources := h.sources
  marked p hp id hid := by
    obtain ⟨b, hb, hkept⟩ := h.marked p hp id hid
    exact ⟨b, List.mem_append_left _ hb, hkept⟩

/-! ### Proxies -/

/-- The proxies have kept their ids and sources, and none has come to life. -/
lemma FleetRows.keepProxies (h : FleetRows db) (hassets : db'.cmdbAsset = db.cmdbAsset)
    (hids : db'.cmdbSshProxy.map (·.id) = db.cmdbSshProxy.map (·.id))
    (hrows : ∀ q ∈ db'.cmdbSshProxy, ∃ p ∈ db.cmdbSshProxy, q.id = p.id ∧
      q.sourceAssetId = p.sourceAssetId ∧ (q.live = true → p.live = true)) : FleetRows db' where
  assetKeys := hassets ▸ h.assetKeys
  proxyKeys := hids ▸ h.proxyKeys
  sources p hp q hq id hpsource hqsource := by
    obtain ⟨p₀, hp₀, hpid, hpsource₀, -⟩ := hrows p hp
    obtain ⟨q₀, hq₀, hqid, hqsource₀, -⟩ := hrows q hq
    rw [hpid, hqid]
    exact h.sources p₀ hp₀ q₀ hq₀ id (hpsource₀ ▸ hpsource) (hqsource₀ ▸ hqsource)
  marked p hp id hid := by
    obtain ⟨p₀, hp₀, -, hsource, hlive⟩ := hrows p hp
    obtain ⟨a, ha, heq, hmark⟩ := h.marked p₀ hp₀ id (hsource ▸ hid)
    exact ⟨a, hassets ▸ ha, heq, fun hplive => hmark (hlive hplive)⟩

lemma FleetRows.updateProxies (h : FleetRows db) {hit : SshProxyRow → Bool}
    {f : SshProxyRow → SshProxyRow} (hf : ∀ p, (f p).id = p.id ∧
      (f p).sourceAssetId = p.sourceAssetId ∧ ((f p).live = true → p.live = true)) :
    FleetRows { db with cmdbSshProxy := updateWhere hit f db.cmdbSshProxy } := by
  refine h.keepProxies rfl (map_updateWhere (fun p _ => (hf p).1) _) ?_
  intro q hq
  obtain ⟨p, hp, ⟨-, rfl⟩ | ⟨-, rfl⟩⟩ := mem_updateWhere.mp hq
  · exact ⟨p, hp, hf p⟩
  · exact ⟨q, hp, rfl, rfl, id⟩

lemma FleetRows.insertProxy (h : FleetRows db) {p : SshProxyRow} (hsource : p.sourceAssetId = none)
    (hfresh : ∀ q ∈ db.cmdbSshProxy, q.id ≠ p.id) :
    FleetRows { db with cmdbSshProxy := db.cmdbSshProxy ++ [p] } where
  assetKeys := h.assetKeys
  proxyKeys := nodup_map_append h.proxyKeys hfresh
  sources q hq r hr id hqsource hrsource := by
    have hold : ∀ q ∈ db.cmdbSshProxy ++ [p], q.sourceAssetId = some id → q ∈ db.cmdbSshProxy := by
      intro q hq hqsource
      rcases List.mem_append.mp hq with hq | hq
      · exact hq
      · rw [List.mem_singleton.mp hq, hsource] at hqsource
        cases hqsource
    exact h.sources q (hold q hq hqsource) r (hold r hr hrsource) id hqsource hrsource
  marked q hq id hqsource := by
    rcases List.mem_append.mp hq with hq | hq
    · exact h.marked q hq id hqsource
    · rw [List.mem_singleton.mp hq, hsource] at hqsource
      cases hqsource

/-! ### Promoting and demoting -/

lemma mem_setVpcProxy_self {assets : List AssetRow} {now : Time} {isVpcProxy : Bool} {a : AssetRow}
    (ha : a ∈ assets) :
    { a with isVpcProxy, updatedAt := now } ∈ setVpcProxy now a.id isVpcProxy assets :=
  mem_updateWhere.mpr ⟨a, ha, Or.inl ⟨by simp, rfl⟩⟩

lemma mem_setVpcProxy_of_ne {assets : List AssetRow} {now : Time} {isVpcProxy : Bool} {id : Uuid}
    {a : AssetRow} (ha : a ∈ assets) (hne : a.id ≠ id) : a ∈ setVpcProxy now id isVpcProxy assets :=
  mem_updateWhere.mpr ⟨a, ha, Or.inr ⟨by simpa using hne, rfl⟩⟩

lemma FleetRows.promote (h : FleetRows db) {now : Time} {newProxyId : Uuid} {newId : Uuid → Uuid}
    {assetID : String} {opts : PromoteOptions}
    (hp : Cmdb.promote db now newProxyId newId assetID opts = .ok db') : FleetRows db' := by
  obtain ⟨a, login, db₁, p, hget, -, -, -, hupsert, rfl⟩ := promote_eq_ok_iff.mp hp
  obtain ⟨-, ha, -⟩ := getAsset_eq_ok hget
  obtain ⟨p₀, hsource, rfl, -, hwritten⟩ := upsertProxyForAsset_writes hupsert h.proxyKeys
  have hassetKeys : ((setVpcProxy now a.id true db.cmdbAsset).map (·.id)).Nodup :=
    nodup_map_updateWhere (fun _ _ => rfl) h.assetKeys
  -- the assets of the proxies from before are there, and none has lost its mark
  have hmarked : ∀ q ∈ db.cmdbSshProxy, ∀ id, q.sourceAssetId = some id →
      ∃ b ∈ setVpcProxy now a.id true db.cmdbAsset,
        b.id = id ∧ (q.live = true → b.isVpcProxy = true) := by
    intro q hq id hid
    obtain ⟨b, hb, rfl, hlive⟩ := h.marked q hq id hid
    by_cases hsame : b.id = a.id
    · exact ⟨_, mem_setVpcProxy_self ha, hsame.symm, fun _ => rfl⟩
    · exact ⟨b, mem_setVpcProxy_of_ne hb hsame, rfl, hlive⟩
  rcases hwritten with ⟨hp₀, rfl⟩ | ⟨hnone, hfresh, rfl⟩
  · have hrow : ∀ q ∈ updateWhere (·.id == p₀.id) (proxyOfAsset now a login.1 login.2)
        db.cmdbSshProxy, ∃ q₀ ∈ db.cmdbSshProxy, q.id = q₀.id ∧
          q.sourceAssetId = q₀.sourceAssetId ∧ (q₀.id ≠ p₀.id → q = q₀) := by
      intro q hq
      obtain ⟨q₀, hq₀, ⟨hhit, rfl⟩ | ⟨-, rfl⟩⟩ := mem_updateWhere.mp hq
      · exact ⟨q₀, hq₀, rfl, rfl, fun hne => absurd (by simpa using hhit) hne⟩
      · exact ⟨q, hq₀, rfl, rfl, fun _ => rfl⟩
    refine ⟨hassetKeys, nodup_map_updateWhere (fun _ _ => rfl) h.proxyKeys, ?_, ?_⟩
    · intro q hq r hr id hqsource hrsource
      obtain ⟨q₀, hq₀, hqid, hqsource₀, -⟩ := hrow q hq
      obtain ⟨r₀, hr₀, hrid, hrsource₀, -⟩ := hrow r hr
      rw [hqid, hrid]
      exact h.sources q₀ hq₀ r₀ hr₀ id (hqsource₀ ▸ hqsource) (hrsource₀ ▸ hrsource)
    · intro q hq id hid
      obtain ⟨q₀, hq₀, -, hqsource, hother⟩ := hrow q hq
      by_cases hsame : q₀.id = p₀.id
      · obtain rfl := List.inj_on_of_nodup_map h.proxyKeys hq₀ hp₀ hsame
        have hid' : some a.id = some id := hsource.symm.trans (hqsource.symm.trans hid)
        exact ⟨_, mem_setVpcProxy_self ha, Option.some.inj hid', fun _ => rfl⟩
      · rw [hother hsame] at hid ⊢
        exact hmarked q₀ hq₀ id hid
  · refine ⟨hassetKeys, nodup_map_append h.proxyKeys hfresh, ?_, ?_⟩
    · intro q hq r hr id hqsource hrsource
      have hnew : ∀ r ∈ db.cmdbSshProxy, r.sourceAssetId = some id →
          (proxyOfAsset now a login.1 login.2 p₀).sourceAssetId ≠ some id := by
        intro r hr hrsource hpsource
        have hid : some a.id = some id := hsource.symm.trans hpsource
        exact hnone r hr (hrsource.trans hid.symm)
      rcases List.mem_append.mp hq with hq | hq <;> rcases List.mem_append.mp hr with hr | hr
      · exact h.sources q hq r hr id hqsource hrsource
      · exact absurd (List.mem_singleton.mp hr ▸ hrsource) (hnew q hq hqsource)
      · exact absurd (List.mem_singleton.mp hq ▸ hqsource) (hnew r hr hrsource)
      · rw [List.mem_singleton.mp hq, List.mem_singleton.mp hr]
    · intro q hq id hid
      rcases List.mem_append.mp hq with hq | hq
      · exact hmarked q hq id hid
      · rw [List.mem_singleton.mp hq] at hid
        have hid' : some a.id = some id := hsource.symm.trans hid
        exact ⟨_, mem_setVpcProxy_self ha, Option.some.inj hid', fun _ => rfl⟩

/-- What a demotion leaves of the proxies: no row of the asset is live. -/
lemma FleetRows.retired (h : FleetRows db) (now : Time) (id : Uuid) :
    ∀ q ∈ (retireProxy db now
        (db.cmdbSshProxy.find? fun p => p.sourceAssetId == some id && p.live)).cmdbSshProxy,
      ∃ p ∈ db.cmdbSshProxy, q.id = p.id ∧ q.sourceAssetId = p.sourceAssetId ∧
        (q.live = true → p.live = true ∧ p.sourceAssetId ≠ some id) := by
  intro q hq
  cases hfound : db.cmdbSshProxy.find? fun p => p.sourceAssetId == some id && p.live with
  | none =>
    rw [hfound] at hq
    refine ⟨q, hq, rfl, rfl, fun hlive => ⟨hlive, fun hsource => ?_⟩⟩
    exact List.find?_eq_none.mp hfound q hq (by simp [hsource, hlive])
  | some r =>
    rw [hfound] at hq
    have hr := List.mem_of_find?_eq_some hfound
    have hhit := List.find?_some hfound
    simp only [Bool.and_eq_true, beq_iff_eq] at hhit
    obtain ⟨p, hp, ⟨-, rfl⟩ | ⟨hmiss, rfl⟩⟩ := mem_updateWhere.mp hq
    · refine ⟨p, hp, rfl, rfl, fun hlive => ?_⟩
      cases hlive
    · refine ⟨q, hp, rfl, rfl, fun hlive => ⟨hlive, fun hsource => ?_⟩⟩
      rw [beq_eq_false_iff_ne] at hmiss
      exact hmiss (h.sources q hp r hr id hsource hhit.1)

lemma FleetRows.demote (h : FleetRows db) {now : Time} {assetID : String}
    (hd : Cmdb.demote db now assetID = .ok db') : FleetRows db' := by
  obtain ⟨a, hget, ⟨-, rfl⟩ | ⟨-, rfl⟩⟩ := demote_eq_ok hd
  · have hretired := h.retired now a.id
    have hids : ∀ found, (retireProxy db now found).cmdbSshProxy.map (·.id) =
        db.cmdbSshProxy.map (·.id) := by
      intro found
      cases found with
      | none => rfl
      | some r =>
        refine map_updateWhere ?_ _
        exact fun _ _ => rfl
    refine ⟨nodup_map_updateWhere (fun _ _ => rfl) h.assetKeys, ?_, ?_, ?_⟩
    · show (List.map _ (retireProxy db now _).cmdbSshProxy).Nodup
      rw [hids]
      exact h.proxyKeys
    · intro p hp q hq id hpsource hqsource
      obtain ⟨p₀, hp₀, hpid, hpsource₀, -⟩ := hretired p hp
      obtain ⟨q₀, hq₀, hqid, hqsource₀, -⟩ := hretired q hq
      rw [hpid, hqid]
      exact h.sources p₀ hp₀ q₀ hq₀ id (hpsource₀ ▸ hpsource) (hqsource₀ ▸ hqsource)
    · intro p hp id hid
      obtain ⟨p₀, hp₀, -, hsource, hlive⟩ := hretired p hp
      obtain ⟨b, hb, rfl, hmark⟩ := h.marked p₀ hp₀ id (hsource ▸ hid)
      by_cases hsame : b.id = a.id
      · obtain ⟨-, ha, -⟩ := getAsset_eq_ok hget
        refine ⟨_, mem_setVpcProxy_self ha, hsame.symm, fun hplive => ?_⟩
        refine absurd ?_ (hlive hplive).2
        rw [← hsource, hid, hsame]
      · exact ⟨b, mem_setVpcProxy_of_ne hb hsame, rfl, fun hplive => hmark (hlive hplive).1⟩
  · exact h

/-! ### Any calls -/

lemma FleetRows.apply (h : FleetRows db) (call : FleetCall) : FleetRows (call.apply db) := by
  rw [FleetCall.apply]
  cases hattempt : call.attempt db with
  | error e => exact h
  | ok db' =>
    cases call with
    | createAsset now newId req =>
      obtain ⟨hfresh, rfl⟩ := createAsset_eq_ok hattempt
      exact h.insertAsset hfresh
    | updateAsset now assetID req =>
      obtain ⟨current, -, rfl⟩ := updateAsset_eq_ok hattempt
      exact h.updateAssets fun _ => rfl
    | deleteAsset now assetID =>
      obtain ⟨id, -, rfl⟩ := deleteAsset_eq_ok hattempt
      exact h.updateAssets fun _ => rfl
    | upsertAsset now newId item =>
      rcases storeObserved_eq_ok (upsertAsset_eq_ok hattempt).2 with ⟨hfresh, rfl⟩ | ⟨-, rfl⟩
      · exact h.insertAsset fun a ha => (hfresh a ha).2
      · exact h.updateAssets fun _ => rfl
    | createProxy encrypt now newId req =>
      obtain ⟨p, hcreate⟩ := Except.map_fst_eq_ok hattempt
      obtain ⟨rfl, hsource, hfresh⟩ := create_eq_ok hcreate
      exact h.insertProxy hsource hfresh
    | updateProxy encrypt now id req =>
      obtain ⟨p, hupdate⟩ := Except.map_fst_eq_ok hattempt
      obtain ⟨hit, f, rfl, hf⟩ := update_eq_ok hupdate
      refine h.updateProxies fun p => ⟨(hf p).1, (hf p).2.1, fun hlive => ?_⟩
      rwa [SshProxyRow.live, (hf p).2.2] at hlive
    | deleteProxy now id =>
      obtain ⟨pid, -, -, rfl⟩ := delete_eq_ok hattempt
      refine h.updateProxies fun p => ⟨rfl, rfl, fun hlive => ?_⟩
      cases hlive
    | promote now newProxyId newId assetID opts => exact h.promote hattempt
    | demote now assetID => exact h.demote hattempt
    | other f proxies marks =>
      obtain rfl := Except.ok.inj hattempt
      exact h.congr (proxies db) (marks db)

/-- The tables after any calls, from an empty database on. -/
lemma fleetRows_run (calls : List FleetCall) : FleetRows (run FleetCall.apply {} calls) := by
  refine Run.invariant (fun _ call hs => hs.apply call) ?_ calls
  refine ⟨List.nodup_nil, List.nodup_nil, ?_, ?_⟩
  · intro p hp
    cases hp
  · intro p hp
    cases hp

end

end OpsPlatform.Cmdb
