/-
The CRUD calls of `internal/sshproxy/repository.go`.
-/
import OpsPlatform.Lib.Table
import OpsPlatform.Lib.Text
import OpsPlatform.SshProxy.Target

namespace OpsPlatform.SshProxy

open Lib Lib.Table Lib.Text Cmdb

/-- `UpsertSSHProxyRequest`. -/
structure UpsertSSHProxyRequest where
  name : String
  description : String := ""
  networkZone : String := ""
  host : String
  port : Int := 0
  username : String
  authType : String := ""
  password : Option String := none
  privateKey : Option String := none
  passphrase : Option String := none

/-- `validateProxyRequest`. -/
def validateProxyRequest (req : UpsertSSHProxyRequest) : Except String UpsertSSHProxyRequest :=
  let authType := toLower (trimSpace req.authType)
  let authType := if authType = "" then "password" else authType
  if trimSpace req.name = "" then .error "name is required"
  else if trimSpace req.host = "" then .error "host is required"
  else if trimSpace req.username = "" then .error "username is required"
  else if authType ≠ "password" ∧ authType ≠ "key" then
    .error "auth_type must be password or key"
  else
    .ok { req with name := trimSpace req.name, host := trimSpace req.host,
                   username := trimSpace req.username, authType,
                   port := if req.port ≤ 0 then 22 else req.port }

/-- A value for a column of type `INT`. -/
def int4 (n : Int) : Except String Int :=
  if 2147483647 < n then .error "value is out of range for type integer" else .ok n

/-- `$1::uuid`. -/
def castUuid (text : String) : Except String Uuid :=
  match Uuid.parse text with
  | some u => .ok u
  | none => .error ("invalid input syntax for type uuid: \"" ++ text ++ "\"")

lemma castUuid_eq_ok {text : String} {u : Uuid} :
    castUuid text = .ok u ↔ Uuid.parse text = some u := by
  rw [castUuid]
  cases Uuid.parse text <;> simp

/-- The unique index on the names of live proxies, for a proxy that is about to be written. -/
def nameTaken (db : Db) (id : Uuid) (name : String) : Bool :=
  db.cmdbSshProxy.any fun p => p.live && p.name == name && p.id != id

def errNameTaken : String :=
  "duplicate key value violates unique constraint \"idx_cmdb_ssh_proxy_name_unique\""

/-- `INSERT INTO cmdb_ssh_proxy`. -/
def insertProxy (db : Db) (p : SshProxyRow) : Except String (Db × SshProxyRow) :=
  if db.cmdbSshProxy.any (·.id == p.id) then
    .error "duplicate key value violates unique constraint \"cmdb_ssh_proxy_pkey\""
  else if nameTaken db p.id p.name then .error errNameTaken
  else .ok ({ db with cmdbSshProxy := db.cmdbSshProxy ++ [p] }, p)

/-- `UPDATE cmdb_ssh_proxy .. WHERE p RETURNING`, for one row with the id. -/
def updateProxy (db : Db) (id : Uuid) (live : Bool) (f : SshProxyRow → SshProxyRow) :
    Except String (Db × SshProxyRow) :=
  let hit : SshProxyRow → Bool := fun p => p.id == id && (!live || p.live)
  match db.cmdbSshProxy.find? hit with
  | none => .error "sql: no rows in result set"
  | some p =>
    if nameTaken db id (f p).name then .error errNameTaken
    else .ok ({ db with cmdbSshProxy := updateWhere hit f db.cmdbSshProxy }, f p)

/-- `Create`; `encrypt` is `security.Encrypt` under the master key. -/
def create (db : Db) (encrypt : String → Except String String) (now : Time) (newId : Uuid)
    (req : UpsertSSHProxyRequest) : Except String (Db × SshProxyRow) := do
  let req ← validateProxyRequest req
  let password ← encrypt (req.password.getD "")
  let privateKey ← encrypt (req.privateKey.getD "")
  let passphrase ← encrypt (req.passphrase.getD "")
  let port ← int4 req.port
  insertProxy db
    { id := newId, name := req.name, description := req.description,
      networkZone := req.networkZone, host := req.host, port, username := req.username,
      authType := req.authType, passwordEncrypted := password, privateKeyEncrypted := privateKey,
      passphraseEncrypted := passphrase, createdAt := now, updatedAt := now }

/-- A secret that is only written when the request has it. -/
def encryptOptional (encrypt : String → Except String String) :
    Option String → Except String (Option String)
  | none => .ok none
  | some secret => (encrypt secret).map some

/-- The assignments of `Update`. -/
def assign (now : Time) (req : UpsertSSHProxyRequest) (port : Int)
    (password privateKey passphrase : Option String) (p : SshProxyRow) : SshProxyRow :=
  { p with name := req.name, description := req.description, networkZone := req.networkZone,
           host := req.host, port, username := req.username, authType := req.authType,
           passwordEncrypted := password.getD p.passwordEncrypted,
           privateKeyEncrypted := privateKey.getD p.privateKeyEncrypted,
           passphraseEncrypted := passphrase.getD p.passphraseEncrypted, updatedAt := now }

/-- `Get`, for its error. -/
def ensureLive (db : Db) (id : Uuid) : Except String Unit :=
  if db.cmdbSshProxy.any fun p => p.id == id && p.live then .ok () else .error errNotFound

/-- `Update`. -/
def update (db : Db) (encrypt : String → Except String String) (now : Time) (id : String)
    (req : UpsertSSHProxyRequest) : Except String (Db × SshProxyRow) := do
  let req ← validateProxyRequest req
  let id ← castUuid id
  ensureLive db id
  let password ← encryptOptional encrypt req.password
  let privateKey ← encryptOptional encrypt req.privateKey
  let passphrase ← encryptOptional encrypt req.passphrase
  let port ← int4 req.port
  updateProxy db id true (assign now req port password privateKey passphrase)

/-- `Delete`. -/
def delete (db : Db) (now : Time) (id : String) : Except String Db := do
  let id ← castUuid id
  let hit : SshProxyRow → Bool := fun p => p.id == id && p.live
  if db.cmdbSshProxy.any hit then
    .ok { db with
          cmdbSshProxy := updateWhere hit (fun p => { p with deletedAt := some now })
            db.cmdbSshProxy }
  else .error errNotFound

/-! ### What the calls do -/

lemma validateProxyRequest_eq_ok {req req' : UpsertSSHProxyRequest} :
    validateProxyRequest req = .ok req' ↔
      trimSpace req.name ≠ "" ∧ trimSpace req.host ≠ "" ∧ trimSpace req.username ≠ "" ∧
      ∃ authType, authType = (if toLower (trimSpace req.authType) = "" then "password"
          else toLower (trimSpace req.authType)) ∧
        (authType = "password" ∨ authType = "key") ∧
        req' = { req with name := trimSpace req.name, host := trimSpace req.host,
                          username := trimSpace req.username, authType,
                          port := if req.port ≤ 0 then 22 else req.port } := by
  unfold validateProxyRequest
  simp only
  generalize (if toLower (trimSpace req.authType) = "" then "password"
    else toLower (trimSpace req.authType)) = authType
  rw [Except.ite_error_eq_ok, Except.ite_error_eq_ok, Except.ite_error_eq_ok,
    Except.ite_error_eq_ok]
  constructor
  · rintro ⟨hname, hhost, husername, hauthType, h⟩
    refine ⟨hname, hhost, husername, authType, rfl, ?_, (Except.ok.inj h).symm⟩
    by_contra hnot
    exact hauthType (not_or.mp hnot)
  · rintro ⟨hname, hhost, husername, _, rfl, hknown, rfl⟩
    exact ⟨hname, hhost, husername, fun hnot => hknown.elim hnot.1 hnot.2, rfl⟩

lemma int4_eq_ok {n m : Int} : int4 n = .ok m ↔ n ≤ 2147483647 ∧ m = n := by
  rw [int4, Except.ite_error_eq_ok, not_lt, Except.ok.injEq]
  exact and_congr_right fun _ => eq_comm

/-- `Update` with a request that has no secrets. -/
lemma update_eq_ok_iff {db : Db} {encrypt : String → Except String String} {now : Time}
    {id : String} {req : UpsertSSHProxyRequest} {r : Db × SshProxyRow}
    (hpassword : req.password = none) (hprivateKey : req.privateKey = none)
    (hpassphrase : req.passphrase = none) :
    update db encrypt now id req = .ok r ↔
      ∃ req' pid port, validateProxyRequest req = .ok req' ∧ castUuid id = .ok pid ∧
        ensureLive db pid = .ok () ∧ int4 req'.port = .ok port ∧
        updateProxy db pid true (assign now req' port none none none) = .ok r := by
  have hnone : ∀ req', validateProxyRequest req = .ok req' →
      req'.password = none ∧ req'.privateKey = none ∧ req'.passphrase = none := by
    intro req' h
    obtain ⟨-, -, -, authType, -, -, rfl⟩ := validateProxyRequest_eq_ok.mp h
    exact ⟨hpassword, hprivateKey, hpassphrase⟩
  rw [update, Except.bind_eq_ok]
  constructor
  · rintro ⟨req', hreq', h⟩
    obtain ⟨h₁, h₂, h₃⟩ := hnone req' hreq'
    rw [Except.bind_eq_ok] at h
    obtain ⟨pid, hpid, h⟩ := h
    rw [Except.bind_eq_ok] at h
    obtain ⟨_, hlive, h⟩ := h
    rw [h₁, h₂, h₃, encryptOptional, Except.ok_bind, Except.ok_bind, Except.ok_bind,
      Except.bind_eq_ok] at h
    obtain ⟨port, hport, h⟩ := h
    exact ⟨req', pid, port, hreq', hpid, hlive, hport, h⟩
  · rintro ⟨req', pid, port, hreq', hpid, hlive, hport, h⟩
    obtain ⟨h₁, h₂, h₃⟩ := hnone req' hreq'
    refine ⟨req', hreq', ?_⟩
    rw [hpid, Except.ok_bind, hlive, Except.ok_bind, h₁, h₂, h₃, encryptOptional, Except.ok_bind,
      Except.ok_bind, Except.ok_bind, hport, Except.ok_bind]
    exact h

/-- The update of a live row, whose id is its own. -/
lemma updateProxy_of_live {db : Db} (hkeys : (db.cmdbSshProxy.map (·.id)).Nodup) {p : SshProxyRow}
    (hp : p ∈ db.cmdbSshProxy) (hlive : p.live = true) (f : SshProxyRow → SshProxyRow) :
    updateProxy db p.id true f =
      if nameTaken db p.id (f p).name then .error errNameTaken
      else .ok ({ db with
                  cmdbSshProxy := updateWhere (fun q => q.id == p.id && q.live) f
                    db.cmdbSshProxy }, f p) := by
  have hfind : db.cmdbSshProxy.find? (fun q => q.id == p.id && q.live) = some p := by
    refine find?_eq_of_nodup hkeys hp (by simp [hlive]) ?_
    intro q _ hq
    rw [Bool.and_eq_true] at hq
    exact eq_of_beq hq.1
  unfold updateProxy
  simp only [Bool.not_true, Bool.false_or, hfind]

/-- The update of a row, live or not. -/
lemma updateProxy_of_mem (db : Db) (hkeys : (db.cmdbSshProxy.map (·.id)).Nodup) {p : SshProxyRow}
    (hp : p ∈ db.cmdbSshProxy) (f : SshProxyRow → SshProxyRow) :
    updateProxy db p.id false f =
      if nameTaken db p.id (f p).name then .error errNameTaken
      else .ok ({ db with cmdbSshProxy := updateWhere (·.id == p.id) f db.cmdbSshProxy }, f p) := by
  have hfind : db.cmdbSshProxy.find? (·.id == p.id) = some p :=
    find?_eq_of_nodup hkeys hp (beq_self_eq_true p.id) fun q _ hq => eq_of_beq hq
  unfold updateProxy
  simp only [Bool.not_false, Bool.true_or, Bool.and_true, hfind]

lemma insertProxy_eq_ok {db db' : Db} {p p' : SshProxyRow} (h : insertProxy db p = .ok (db', p')) :
    db' = { db with cmdbSshProxy := db.cmdbSshProxy ++ [p] } ∧ p' = p ∧
      (∀ q ∈ db.cmdbSshProxy, q.id ≠ p.id) ∧ nameTaken db p.id p.name = false := by
  rw [insertProxy, Except.ite_error_eq_ok, Except.ite_error_eq_ok] at h
  obtain ⟨hfresh, hname, h⟩ := h
  have h' := Except.ok.inj h
  simp only [Prod.mk.injEq] at h'
  obtain ⟨rfl, rfl⟩ := h'
  refine ⟨rfl, rfl, ?_, Bool.eq_false_iff.mpr hname⟩
  simpa using hfresh

lemma updateProxy_eq_ok {db db' : Db} {id : Uuid} {live : Bool} {f : SshProxyRow → SshProxyRow}
    {p' : SshProxyRow} (h : updateProxy db id live f = .ok (db', p')) :
    ∃ p ∈ db.cmdbSshProxy, p.id = id ∧ p' = f p ∧
      db' = { db with
              cmdbSshProxy := updateWhere (fun p => p.id == id && (!live || p.live)) f
                db.cmdbSshProxy } ∧
      nameTaken db id (f p).name = false := by
  rw [updateProxy] at h
  split at h
  · cases h
  · next p hp =>
    rw [Except.ite_error_eq_ok] at h
    have h' := Except.ok.inj h.2
    simp only [Prod.mk.injEq] at h'
    obtain ⟨rfl, rfl⟩ := h'
    have hhit := List.find?_some hp
    simp only [Bool.and_eq_true, beq_iff_eq] at hhit
    exact ⟨p, List.mem_of_find?_eq_some hp, hhit.1, rfl, rfl, Bool.eq_false_iff.mpr h.1⟩

/-- No other live row has the name. -/
lemma nameTaken_eq_false {db : Db} {id : Uuid} {name : String} :
    nameTaken db id name = false ↔
      ∀ q ∈ db.cmdbSshProxy, q.live = true → q.name = name → q.id = id := by
  simp only [nameTaken, List.any_eq_false, Bool.and_eq_true, beq_iff_eq, bne_iff_ne, not_and,
    not_not]
  exact ⟨fun h q hq hlive hname => h q hq ⟨hlive, hname⟩,
    fun h q hq hboth => h q hq hboth.1 hboth.2⟩

/-- `Create` adds a proxy that no asset is the source of. -/
lemma create_eq_ok {db db' : Db} {encrypt : String → Except String String} {now : Time}
    {newId : Uuid} {req : UpsertSSHProxyRequest} {p : SshProxyRow}
    (h : create db encrypt now newId req = .ok (db', p)) :
    db' = { db with cmdbSshProxy := db.cmdbSshProxy ++ [p] } ∧ p.sourceAssetId = none ∧
      ∀ q ∈ db.cmdbSshProxy, q.id ≠ p.id := by
  rw [create, Except.bind_eq_ok] at h
  obtain ⟨req, -, h⟩ := h
  rw [Except.bind_eq_ok] at h
  obtain ⟨password, -, h⟩ := h
  rw [Except.bind_eq_ok] at h
  obtain ⟨privateKey, -, h⟩ := h
  rw [Except.bind_eq_ok] at h
  obtain ⟨passphrase, -, h⟩ := h
  rw [Except.bind_eq_ok] at h
  obtain ⟨port, -, h⟩ := h
  obtain ⟨hdb, rfl, hfresh, -⟩ := insertProxy_eq_ok h
  exact ⟨hdb, rfl, hfresh⟩

/-- `Update` keeps the id, the source and the deletion of every proxy. -/
lemma update_eq_ok {db db' : Db} {encrypt : String → Except String String} {now : Time}
    {id : String} {req : UpsertSSHProxyRequest} {p' : SshProxyRow}
    (h : update db encrypt now id req = .ok (db', p')) :
    ∃ hit f, db' = { db with cmdbSshProxy := updateWhere hit f db.cmdbSshProxy } ∧
      ∀ p : SshProxyRow, (f p).id = p.id ∧ (f p).sourceAssetId = p.sourceAssetId ∧
        (f p).deletedAt = p.deletedAt := by
  rw [update, Except.bind_eq_ok] at h
  obtain ⟨req, -, h⟩ := h
  rw [Except.bind_eq_ok] at h
  obtain ⟨id, -, h⟩ := h
  rw [Except.bind_eq_ok] at h
  obtain ⟨_, -, h⟩ := h
  rw [Except.bind_eq_ok] at h
  obtain ⟨password, -, h⟩ := h
  rw [Except.bind_eq_ok] at h
  obtain ⟨privateKey, -, h⟩ := h
  rw [Except.bind_eq_ok] at h
  obtain ⟨passphrase, -, h⟩ := h
  rw [Except.bind_eq_ok] at h
  obtain ⟨port, -, h⟩ := h
  obtain ⟨p, -, -, -, hdb, -⟩ := updateProxy_eq_ok h
  exact ⟨_, _, hdb, fun p => ⟨rfl, rfl, rfl⟩⟩

lemma delete_eq_ok {db db' : Db} {now : Time} {id : String} (h : delete db now id = .ok db') :
    ∃ pid, Uuid.parse id = some pid ∧ (∃ p ∈ db.cmdbSshProxy, p.id = pid ∧ p.live = true) ∧
      db' = { db with
              cmdbSshProxy := updateWhere (fun p => p.id == pid && p.live)
                (fun p => { p with deletedAt := some now }) db.cmdbSshProxy } := by
  rw [delete, Except.bind_eq_ok] at h
  obtain ⟨pid, hid, h⟩ := h
  dsimp only at h
  split at h
  · next hany =>
    refine ⟨pid, castUuid_eq_ok.mp hid, ?_, (Except.ok.inj h).symm⟩
    simpa using hany
  · cases h

lemma delete_of_live {db : Db} {now : Time} {id : String} {pid : Uuid} {p : SshProxyRow}
    (hid : Uuid.parse id = some pid) (hp : p ∈ db.cmdbSshProxy) (hpid : p.id = pid)
    (hlive : p.live = true) :
    delete db now id = .ok { db with
        cmdbSshProxy := updateWhere (fun p => p.id == pid && p.live)
          (fun p => { p with deletedAt := some now }) db.cmdbSshProxy } := by
  rw [delete, castUuid_eq_ok.mpr hid]
  refine if_pos ?_
  rw [List.any_eq_true]
  exact ⟨p, hp, by simp [hpid, hlive]⟩

end OpsPlatform.SshProxy
