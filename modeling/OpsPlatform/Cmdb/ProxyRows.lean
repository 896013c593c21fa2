/-
The rows of `cmdb_ssh_proxy`, whoever has created them: `Create`, `Update` and `Delete`
(`internal/sshproxy/repository.go`), and `Promote` and `Demote` (`internal/cmdb`).
-/
import OpsPlatform.Cmdb.VpcProxy
import OpsPlatform.Lib.Run

namespace OpsPlatform.Cmdb

open Lib Lib.Run Lib.Table Lib.Text SshProxy

/-- A call that writes proxies, or any other one, which does not. -/
inductive ProxyCall where
  | create (encrypt : String → Except String String) (now : Time) (newId : Uuid)
      (req : UpsertSSHProxyRequest)
  | update (encrypt : String → Except String String) (now : Time) (id : String)
      (req : UpsertSSHProxyRequest)
  | delete (now : Time) (id : String)
  | promote (now : Time) (newProxyId : Uuid) (newId : Uuid → Uuid) (assetID : String)
      (opts : PromoteOptions)
  | demote (now : Time) (assetID : String)
  | other (f : Db → Db) (keeps : ∀ db, (f db).cmdbSshProxy = db.cmdbSshProxy)

def ProxyCall.attempt (db : Db) : ProxyCall → Except String Db
  | create encrypt now newId req => (SshProxy.create db encrypt now newId req).map Prod.fst
  | update encrypt now id req => (SshProxy.update db encrypt now id req).map Prod.fst
  | delete now id => SshProxy.delete db now id
  | promote now newProxyId newId assetID opts => Cmdb.promote db now newProxyId newId assetID opts
  | demote now assetID => Cmdb.demote db now assetID
  | other f _ => .ok (f db)

/-- A call that fails leaves the database as it was. -/
def ProxyCall.apply (db : Db) (call : ProxyCall) : Db :=
  match call.attempt db with
  | .ok db' => db'
  | .error _ => db

/-! ### Rows -/

/-- The columns that no creator leaves empty. -/
structure Filled (p : SshProxyRow) : Prop where
  name : p.name ≠ ""
  host : p.host ≠ ""
  username : p.username ≠ ""
  port : 0 < p.port ∧ p.port ≤ 2147483647

/-- The keys of the table, and what holds of every row. -/
structure ProxyRows (db : Db) : Prop where
  keys : (db.cmdbSshProxy.map (·.id)).Nodup
  names : ∀ p ∈ db.cmdbSshProxy, ∀ q ∈ db.cmdbSshProxy, p.live = true → q.live = true →
    p.name = q.name → p.id = q.id
  filled : ∀ p ∈ db.cmdbSshProxy, Filled p

section

variable {db db' : Db} {p p' : SshProxyRow}

lemma ProxyRows.congr (h : ProxyRows db) (hrows : db'.cmdbSshProxy = db.cmdbSshProxy) :
    ProxyRows db' where
  keys := by rw [hrows]; exact h.keys
  names := by rw [hrows]; exact h.names
  filled := by rw [hrows]; exact h.filled

lemma ProxyRows.insertProxy (h : ProxyRows db) (hfilled : Filled p)
    (hi : insertProxy db p = .ok (db', p')) : ProxyRows db' := by
  obtain ⟨rfl, rfl, hfresh, hname⟩ := insertProxy_eq_ok hi
  rw [nameTaken_eq_false] at hname
  refine ⟨nodup_map_append h.keys hfresh, ?_, ?_⟩
  · intro q hq r hr hqlive hrlive hsame
    rcases List.mem_append.mp hq with hq | hq <;> rcases List.mem_append.mp hr with hr | hr
    · exact h.names q hq r hr hqlive hrlive hsame
    · rw [List.mem_singleton.mp hr] at hsame ⊢
      exact hname q hq hqlive hsame
    · rw [List.mem_singleton.mp hq] at hsame ⊢
      exact (hname r hr hrlive hsame.symm).symm
    · rw [List.mem_singleton.mp hq, List.mem_singleton.mp hr]
  · intro q hq
    rcases List.mem_append.mp hq with hq | hq
    · exact h.filled q hq
    · exact List.mem_singleton.mp hq ▸ hfilled

lemma ProxyRows.updateProxy (h : ProxyRows db) {id : Uuid} {live : Bool}
    {f : SshProxyRow → SshProxyRow} (hid : ∀ q, (f q).id = q.id)
    (hfilled : ∀ q, Filled q → Filled (f q)) (hu : updateProxy db id live f = .ok (db', p')) :
    ProxyRows db' := by
  rw [SshProxy.updateProxy] at hu
  split at hu
  · cases hu
  · next p₀ hp₀ =>
    rw [Except.ite_error_eq_ok] at hu
    obtain ⟨hname, hu⟩ := hu
    obtain ⟨rfl, rfl⟩ := Prod.mk.inj (Except.ok.inj hu)
    rw [Bool.not_eq_true, nameTaken_eq_false] at hname
    have hkey : ∀ q : SshProxyRow, (q.id == id && (!live || q.live)) = true → q.id = id := by
      intro q hq
      rw [Bool.and_eq_true] at hq
      exact eq_of_beq hq.1
    -- ids are unique, so that one row is written
    have hone : ∀ q ∈ db.cmdbSshProxy, (q.id == id && (!live || q.live)) = true → q = p₀ := by
      intro q hq hhit
      have hp₀hit : (p₀.id == id && (!live || p₀.live)) = true := by simpa using List.find?_some hp₀
      refine List.inj_on_of_nodup_map h.keys hq (List.mem_of_find?_eq_some hp₀) ?_
      rw [hkey q hhit, hkey p₀ hp₀hit]
    refine ⟨nodup_map_updateWhere (fun q _ => hid q) h.keys, ?_, ?_⟩
    · intro q hq r hr hqlive hrlive hsame
      obtain ⟨q₀, hq₀, ⟨hqhit, rfl⟩ | ⟨-, rfl⟩⟩ := mem_updateWhere.mp hq <;>
        obtain ⟨r₀, hr₀, ⟨hrhit, rfl⟩ | ⟨-, rfl⟩⟩ := mem_updateWhere.mp hr
      · rw [hid, hid, hkey q₀ hqhit, hkey r₀ hrhit]
      · obtain rfl := hone q₀ hq₀ hqhit
        rw [hid, hkey q₀ hqhit]
        exact (hname r hr₀ hrlive hsame.symm).symm
      · obtain rfl := hone r₀ hr₀ hrhit
        rw [hid, hkey r₀ hrhit]
        exact hname q hq₀ hqlive hsame
      · exact h.names q hq₀ r hr₀ hqlive hrlive hsame
    · intro q hq
      obtain ⟨q₀, hq₀, ⟨-, rfl⟩ | ⟨-, rfl⟩⟩ := mem_updateWhere.mp hq
      · exact hfilled q₀ (h.filled q₀ hq₀)
      · exact h.filled q hq₀

/-- A deletion marks rows, and gives none another name. -/
lemma ProxyRows.retire (h : ProxyRows db) {hit : SshProxyRow → Bool} {now : Time}
    (hrows : db'.cmdbSshProxy =
      updateWhere hit (fun p => { p with deletedAt := some now }) db.cmdbSshProxy) :
    ProxyRows db' := by
  refine ⟨?_, ?_, ?_⟩
  · rw [hrows]
    exact nodup_map_updateWhere (fun _ _ => rfl) h.keys
  · intro q hq r hr hqlive hrlive hsame
    rw [hrows] at hq hr
    obtain ⟨q₀, hq₀, ⟨-, rfl⟩ | ⟨-, rfl⟩⟩ := mem_updateWhere.mp hq
    · cases hqlive
    · obtain ⟨r₀, hr₀, ⟨-, rfl⟩ | ⟨-, rfl⟩⟩ := mem_updateWhere.mp hr
      · cases hrlive
      · exact h.names q hq₀ r hr₀ hqlive hrlive hsame
  · intro q hq
    rw [hrows] at hq
    obtain ⟨q₀, hq₀, ⟨-, rfl⟩ | ⟨-, rfl⟩⟩ := mem_updateWhere.mp hq
    · obtain ⟨hname, hhost, husername, hport⟩ := h.filled q₀ hq₀
      exact ⟨hname, hhost, husername, hport⟩
    · exact h.filled q hq₀

/-! ### Calls -/

/-- What a valid request puts into a row. -/
lemma filled_of_request {req req' : UpsertSSHProxyRequest} {port : Int}
    (hreq : validateProxyRequest req = .ok req') (hport : int4 req'.port = .ok port)
    (hname : p.name = req'.name) (hhost : p.host = req'.host)
    (husername : p.username = req'.username) (hp : p.port = port) : Filled p := by
  obtain ⟨hname', hhost', husername', authType, -, -, rfl⟩ := validateProxyRequest_eq_ok.mp hreq
  obtain ⟨hmax, rfl⟩ := int4_eq_ok.mp hport
  refine ⟨by rw [hname]; exact hname', by rw [hhost]; exact hhost',
    by rw [husername]; exact husername', ?_⟩
  rw [hp]
  refine ⟨?_, hmax⟩
  dsimp only
  split <;> omega

lemma ProxyRows.create (h : ProxyRows db) {encrypt : String → Except String String} {now : Time}
    {newId : Uuid} {req : UpsertSSHProxyRequest}
    (hc : SshProxy.create db encrypt now newId req = .ok (db', p')) : ProxyRows db' := by
  rw [SshProxy.create, Except.bind_eq_ok] at hc
  obtain ⟨req', hreq', hc⟩ := hc
  rw [Except.bind_eq_ok] at hc
  obtain ⟨password, -, hc⟩ := hc
  rw [Except.bind_eq_ok] at hc
  obtain ⟨privateKey, -, hc⟩ := hc
  rw [Except.bind_eq_ok] at hc
  obtain ⟨passphrase, -, hc⟩ := hc
  rw [Except.bind_eq_ok] at hc
  obtain ⟨port, hport, hc⟩ := hc
  exact h.insertProxy (filled_of_request hreq' hport rfl rfl rfl rfl) hc

lemma ProxyRows.update (h : ProxyRows db) {encrypt : String → Except String String} {now : Time}
    {id : String} {req : UpsertSSHProxyRequest}
    (hu : SshProxy.update db encrypt now id req = .ok (db', p')) : ProxyRows db' := by
  rw [SshProxy.update, Except.bind_eq_ok] at hu
  obtain ⟨req', hreq', hu⟩ := hu
  rw [Except.bind_eq_ok] at hu
  obtain ⟨pid, -, hu⟩ := hu
  rw [Except.bind_eq_ok] at hu
  obtain ⟨_, -, hu⟩ := hu
  rw [Except.bind_eq_ok] at hu
  obtain ⟨password, -, hu⟩ := hu
  rw [Except.bind_eq_ok] at hu
  obtain ⟨privateKey, -, hu⟩ := hu
  rw [Except.bind_eq_ok] at hu
  obtain ⟨passphrase, -, hu⟩ := hu
  rw [Except.bind_eq_ok] at hu
  obtain ⟨port, hport, hu⟩ := hu
  refine ProxyRows.updateProxy h ?_ ?_ hu
  · exact fun _ => rfl
  · exact fun _ _ => filled_of_request hreq' hport rfl rfl rfl rfl

/-- The login of a promotion has a user. -/
lemma username_of_promoteLogin {opts : PromoteOptions} {a : AssetRow} {login : String × String}
    (h : promoteLogin opts a = .ok login) : login.1 ≠ "" := by
  unfold promoteLogin at h
  extract_lets typed username authType at h
  clear_value username authType
  rw [Except.ite_error_eq_ok] at h
  obtain ⟨hne, h⟩ := h
  split at h
  · rw [← Except.ok.inj h]
    exact hne
  · rw [← Except.ok.inj h]
    exact hne

/-- The name of a promoted proxy has a hyphen. -/
lemma filled_proxyOfAsset (now : Time) {a : AssetRow} {login : String × String}
    (hhost : a.publicIp ≠ "") (husername : login.1 ≠ "") (q : SshProxyRow) :
    Filled (proxyOfAsset now a login.1 login.2 q) where
  name := by
    rw [proxyOfAsset]
    dsimp only
    split
    · intro hempty
      have hchars := congrArg String.toList hempty
      simp at hchars
    · intro hempty
      have hchars := congrArg String.toList hempty
      simp at hchars
  host := hhost
  username := husername
  port := ⟨(by decide : (0 : Int) < 22), (by decide : (22 : Int) ≤ 2147483647)⟩

lemma ProxyRows.promote (h : ProxyRows db) {now : Time} {newProxyId : Uuid} {newId : Uuid → Uuid}
    {assetID : String} {opts : PromoteOptions}
    (hp : Cmdb.promote db now newProxyId newId assetID opts = .ok db') : ProxyRows db' := by
  obtain ⟨a, login, db₁, p, -, hnetwork, hlogin, -, hupsert, rfl⟩ := promote_eq_ok_iff.mp hp
  have hhost : a.publicIp ≠ "" := fun hempty => hnetwork (Or.inl hempty)
  have hfilled := filled_proxyOfAsset now hhost (username_of_promoteLogin hlogin)
  have hstart : ProxyRows { db with cmdbAsset := setVpcProxy now a.id true db.cmdbAsset } :=
    h.congr rfl
  have hdone : ProxyRows db₁ := by
    rw [upsertProxyForAsset] at hupsert
    split at hupsert
    · refine ProxyRows.updateProxy hstart ?_ ?_ hupsert
      · exact fun _ => rfl
      · exact fun q _ => hfilled q
    · exact hstart.insertProxy (hfilled _) hupsert
  exact hdone.congr rfl

lemma ProxyRows.demote (h : ProxyRows db) {now : Time} {assetID : String}
    (hd : Cmdb.demote db now assetID = .ok db') : ProxyRows db' := by
  obtain ⟨a, -, ⟨-, rfl⟩ | ⟨-, rfl⟩⟩ := demote_eq_ok hd
  · cases db.cmdbSshProxy.find? fun p => p.sourceAssetId == some a.id && p.live with
    | none => exact h.congr rfl
    | some p => exact h.retire rfl
  · exact h

lemma ProxyRows.apply (h : ProxyRows db) (call : ProxyCall) : ProxyRows (call.apply db) := by
  rw [ProxyCall.apply]
  cases hattempt : call.attempt db with
  | error e => exact h
  | ok db' =>
    cases call with
    | create encrypt now newId req =>
      obtain ⟨p, hcreate⟩ := Except.map_fst_eq_ok hattempt
      exact h.create hcreate
    | update encrypt now id req =>
      obtain ⟨p, hupdate⟩ := Except.map_fst_eq_ok hattempt
      exact h.update hupdate
    | delete now id =>
      obtain ⟨pid, -, -, rfl⟩ := delete_eq_ok hattempt
      exact h.retire rfl
    | promote now newProxyId newId assetID opts => exact h.promote hattempt
    | demote now assetID => exact h.demote hattempt
    | other f keeps =>
      obtain rfl := Except.ok.inj hattempt
      exact h.congr (keeps db)

/-- The table after any calls, from an empty one on. -/
lemma proxyRows_run (hempty : db.cmdbSshProxy = []) (calls : List ProxyCall) :
    ProxyRows (run ProxyCall.apply db calls) := by
  refine Run.invariant (fun _ call hs => hs.apply call) ?_ calls
  refine ⟨?_, ?_, ?_⟩ <;> rw [hempty]
  · exact List.nodup_nil
  · intro p hp
    cases hp
  · intro p hp
    cases hp

end

end OpsPlatform.Cmdb
