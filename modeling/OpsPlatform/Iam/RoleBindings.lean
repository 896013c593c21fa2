/-
Binding roles to users and taking them away (`BindRoleToUser` and `UnbindRoleFromUser` in
`internal/iam/repository.go`, under `BindRole` and `UnbindRole` in `internal/iam/admin_handler.go`).

A request is three statements in no transaction: the user, the role, and the write.  The program
deletes neither users nor roles, so that what a request has read stays true, and it takes effect
with its write.
-/
import OpsPlatform.Iam.Login
import OpsPlatform.Lib.History
import OpsPlatform.Lib.Run

namespace OpsPlatform.Iam.RoleBindings

open Lib Lib.Run Lib.History Lib.Text

inductive RoleError where
  /-- an error of the database -/
  | statement (message : String)
  | userNotFound
  | roleNotFound
  | userRoleBindingNotFound
deriving DecidableEq

/-- `ensureUserExists`. -/
def ensureUserExists (db : Db) (userID : String) : Except RoleError Uuid :=
  match Uuid.parse userID with
  | none => .error (.statement ("invalid input syntax for type uuid: \"" ++ userID ++ "\""))
  | some id => if db.iamUser.any (·.id == id) then .ok id else .error .userNotFound

/-- `roleIDByName`. -/
def roleIDByName (db : Db) (roleName : String) : Except RoleError Uuid :=
  match db.iamRole.find? (·.name == trimSpace roleName) with
  | none => .error .roleNotFound
  | some r => .ok r.id

/-- `INSERT INTO iam_user_role_binding .. ON CONFLICT DO NOTHING`. -/
def insertBinding (db : Db) (b : UserRoleBindingRow) : Db :=
  { db with
    iamUserRoleBinding :=
      if b ∈ db.iamUserRoleBinding then db.iamUserRoleBinding else db.iamUserRoleBinding ++ [b] }

/-- `DELETE FROM iam_user_role_binding`. -/
def deleteBinding (db : Db) (b : UserRoleBindingRow) : Db :=
  { db with iamUserRoleBinding := db.iamUserRoleBinding.filter (· ≠ b) }

inductive Op where
  | bind
  | unbind
deriving DecidableEq

/-- The next statement of a request, or its answer. -/
inductive Phase where
  | ensureUser
  | lookupRole (userId : Uuid)
  | write (b : UserRoleBindingRow)
  | answered (result : Except RoleError Unit)

structure Request where
  op : Op
  userID : String
  roleName : String
  phase : Phase := .ensureUser

/-- What a write did. -/
inductive Effect where
  | bound
  | unbound
  /-- a deletion has found no row -/
  | missed
deriving DecidableEq

structure Event where
  /-- the request, or `none` for the binding of a configured administrator -/
  request : Option ℕ
  binding : UserRoleBindingRow
  effect : Effect
deriving DecidableEq

structure State where
  db : Db
  requests : List Request := []
  history : List Event := []

inductive Label where
  | arrive (op : Op) (userID roleName : String)
  /-- the next statement of a request, which may fail -/
  | advance (i : ℕ) (failure : Option String)
  /-- `UpsertUser` of a login -/
  | login (newId : Uuid) (now : Time) (profile : UserProfile)
  /-- the statement that binds a user to the role of the administrators -/
  | bindAdmin (userId : Uuid)

/-- The last statement of a request. -/
def Request.write (db : Db) (i : ℕ) (b : UserRoleBindingRow) :
    Op → Db × Except RoleError Unit × Event
  | .bind => (insertBinding db b, .ok (), ⟨some i, b, .bound⟩)
  | .unbind =>
    if b ∈ db.iamUserRoleBinding then (deleteBinding db b, .ok (), ⟨some i, b, .unbound⟩)
    else (db, .error .userRoleBindingNotFound, ⟨some i, b, .missed⟩)

/-- A statement of a request that is executed, with the events of the write. -/
def Request.advance (db : Db) (i : ℕ) (r : Request) : Db × Phase × List Event :=
  match r.phase with
  | .ensureUser =>
    match ensureUserExists db r.userID with
    | .error e => (db, .answered (.error e), [])
    | .ok userId => (db, .lookupRole userId, [])
  | .lookupRole userId =>
    match roleIDByName db r.roleName with
    | .error e => (db, .answered (.error e), [])
    | .ok roleId => (db, .write { userId, roleId }, [])
  | .write b =>
    match Request.write db i b r.op with
    | (db, result, e) => (db, .answered result, [e])
  | .answered result => (db, .answered result, [])

/-- The next statement of a request.  One that fails changes nothing. -/
def Request.execute (db : Db) (i : ℕ) (failure : Option String) (r : Request) :
    Db × Phase × List Event :=
  match r.phase, failure with
  | .answered result, _ => (db, .answered result, [])
  | _, some e => (db, .answered (.error (.statement e)), [])
  | _, none => r.advance db i

/-- What a statement has bound: the table before and after it. -/
def boundBetween (db db' : Db) : List Event :=
  (db'.iamUserRoleBinding.filter (· ∉ db.iamUserRoleBinding)).map fun b => ⟨none, b, .bound⟩

def step (s : State) : Label → State
  | .arrive op userID roleName => { s with requests := s.requests ++ [{ op, userID, roleName }] }
  | .advance i failure =>
    match s.requests[i]? with
    | none => s
    | some r =>
      match r.execute s.db i failure with
      | (db, phase, events) =>
        { db, requests := s.requests.set i { r with phase }, history := events ++ s.history }
  | .login newId now profile =>
    match upsertUser s.db now newId profile with
    | .error _ => s
    | .ok (db, _) => { s with db }
  | .bindAdmin userId =>
    if s.db.iamUser.any (·.id == userId) then
      { s with db := Iam.bindAdmin s.db userId
               history := boundBetween s.db (Iam.bindAdmin s.db userId) ++ s.history }
    else s

/-! ### The bindings as a set -/

/-- What the events make of a set of bindings, the latest first. -/
def boundAfter (initial : Set UserRoleBindingRow) : List Event → Set UserRoleBindingRow
  | [] => initial
  | e :: es =>
    match e.effect with
    | .bound => insert e.binding (boundAfter initial es)
    | .unbound => boundAfter initial es \ {e.binding}
    | .missed => boundAfter initial es

/-- An answer is true of the set at its event. -/
def EffectOk (initial : Set UserRoleBindingRow) (e : Event) (es : List Event) : Prop :=
  match e.effect with
  | .bound => True
  | .unbound => e.binding ∈ boundAfter initial es
  | .missed => e.binding ∉ boundAfter initial es

def eventsOf (i : ℕ) (es : List Event) : List Event := es.filter fun e => e.request = some i

/-- The user and the role that the texts of a request name. -/
def Names (db : Db) (r : Request) (b : UserRoleBindingRow) : Prop :=
  Uuid.parse r.userID = some b.userId ∧
    ∃ role ∈ db.iamRole, role.id = b.roleId ∧ role.name = trimSpace r.roleName

/-- What the answer to a request says of the events. -/
def AnswerOk (db : Db) (es : List Event) (i : ℕ) (r : Request) : Except RoleError Unit → Prop
  | .ok () => ∃ b, Names db r b ∧ eventsOf i es = [⟨some i, b, match r.op with
    | .bind => .bound
    | .unbind => .unbound⟩]
  | .error .userRoleBindingNotFound => r.op = .unbind ∧ ∃ b, Names db r b ∧
    eventsOf i es = [⟨some i, b, .missed⟩]
  | .error .roleNotFound => eventsOf i es = [] ∧
    ∀ role ∈ db.iamRole, role.name ≠ trimSpace r.roleName
  | .error .userNotFound => eventsOf i es = [] ∧
    ∃ id, Uuid.parse r.userID = some id ∧ ∀ u ∈ db.iamUser, u.id ≠ id
  | .error (.statement _) => eventsOf i es = []

/-- What is known of a request. -/
def RequestOk (db : Db) (es : List Event) (i : ℕ) (r : Request) : Prop :=
  match r.phase with
  | .ensureUser => eventsOf i es = []
  | .lookupRole userId => eventsOf i es = [] ∧ Uuid.parse r.userID = some userId
  | .write b => eventsOf i es = [] ∧ Names db r b
  | .answered result => AnswerOk db es i r result

/-- The user that a request has found. -/
def Request.user? (r : Request) : Option Uuid :=
  match r.phase with
  | .lookupRole userId => some userId
  | .write b => some b.userId
  | _ => none

/-- The table of a database as a set. -/
def bindings (db : Db) : Set UserRoleBindingRow := {b | b ∈ db.iamUserRoleBinding}

def HasUser (db : Db) (id : Uuid) : Prop := ∃ u ∈ db.iamUser, u.id = id

/-- The keys of the tables. -/
structure Keyed (db : Db) : Prop where
  roleIds : (db.iamRole.map (·.id)).Nodup
  nodup : db.iamUserRoleBinding.Nodup
  bound : ∀ b ∈ db.iamUserRoleBinding, HasUser db b.userId ∧ ∃ r ∈ db.iamRole, r.id = b.roleId

structure Inv (db : Db) (s : State) : Prop where
  roles : s.db.iamRole = db.iamRole
  users : ∀ id, HasUser db id → HasUser s.db id
  keyed : Keyed s.db
  bindings_eq : bindings s.db = boundAfter (bindings db) s.history
  effects : Throughout (EffectOk (bindings db)) s.history
  known : ∀ e ∈ s.history, ∀ i ∈ e.request, i < s.requests.length
  requests : ∀ i r, s.requests[i]? = some r → RequestOk db s.history i r
  found : ∀ r ∈ s.requests, ∀ id ∈ r.user?, HasUser s.db id

section

variable {db db' : Db} {b : UserRoleBindingRow} {i : ℕ} {r : Request}

/-! ### The table -/

lemma bindings_insertBinding : bindings (insertBinding db b) = insert b (bindings db) := by
  ext c
  simp only [bindings, insertBinding, Set.mem_ofPred_eq, Set.mem_insert_iff]
  split
  · next hmem => exact ⟨.inr, fun h => h.elim (· ▸ hmem) id⟩
  · rw [List.mem_append, List.mem_singleton, or_comm]

lemma bindings_deleteBinding : bindings (deleteBinding db b) = bindings db \ {b} := by
  ext c
  simp [bindings, deleteBinding]

lemma bindings_bindAdmin {id : Uuid} : bindings (bindAdmin db id) =
    {b | ∃ e ∈ boundBetween db (bindAdmin db id), e.binding = b} ∪ bindings db := by
  ext b
  simp only [bindings, boundBetween, List.mem_map, List.mem_filter, Set.mem_union,
    Set.mem_ofPred_eq, decide_eq_true_eq]
  constructor
  · intro hb
    by_cases hold : b ∈ db.iamUserRoleBinding
    · exact Or.inr hold
    · exact Or.inl ⟨_, ⟨b, ⟨hb, hold⟩, rfl⟩, rfl⟩
  · rintro (⟨e, ⟨c, ⟨hc, -⟩, rfl⟩, rfl⟩ | hold)
    · exact hc
    · exact mem_bindAdmin.mpr (Or.inl hold)

lemma Keyed.insertBinding (h : Keyed db) (huser : HasUser db b.userId)
    (hrole : ∃ r ∈ db.iamRole, r.id = b.roleId) : Keyed (insertBinding db b) where
  roleIds := h.roleIds
  nodup := by
    rw [RoleBindings.insertBinding]
    split
    · exact h.nodup
    · next hmem =>
      refine List.nodup_append.mpr ⟨h.nodup, List.nodup_singleton b, fun c hc d hd heq => hmem ?_⟩
      rwa [← List.mem_singleton.mp hd, ← heq]
  bound c hc := by
    rcases bindings_insertBinding.subset hc with rfl | hc
    · exact ⟨huser, hrole⟩
    · exact h.bound c hc

lemma Keyed.deleteBinding (h : Keyed db) : Keyed (deleteBinding db b) where
  roleIds := h.roleIds
  nodup := h.nodup.filter _
  bound c hc := h.bound c (List.mem_of_mem_filter hc)

lemma Keyed.bindAdmin {id : Uuid} (h : Keyed db) (huser : HasUser db id) :
    Keyed (bindAdmin db id) where
  roleIds := h.roleIds
  nodup := by
    rw [Iam.bindAdmin, List.nodup_append]
    refine ⟨h.nodup, (List.Nodup.map_on ?_ ?_).filter _, ?_⟩
    · intro r hr r' hr' heq
      exact List.inj_on_of_nodup_map h.roleIds (List.mem_of_mem_filter hr)
        (List.mem_of_mem_filter hr') (UserRoleBindingRow.mk.inj heq).2
    · exact (List.Nodup.of_map _ h.roleIds).filter _
    · rintro c hc d hd rfl
      simpa [hc] using (List.mem_filter.mp hd).2
  bound c hc := by
    rcases mem_bindAdmin.mp hc with hc | ⟨rfl, r, hr, -, hid⟩
    · exact h.bound c hc
    · exact ⟨huser, r, hr, hid⟩

/-- A login leaves the roles and their bindings, and every user stays. -/
lemma upsertUser_ok {newId : Uuid} {now : Time} {profile : UserProfile} {u : UserRow}
    (h : upsertUser db now newId profile = .ok (db', u)) :
    db'.iamRole = db.iamRole ∧ db'.iamUserRoleBinding = db.iamUserRoleBinding ∧
      ∀ id, HasUser db id → HasUser db' id := by
  rcases upsertBySubject_eq_ok h with ⟨u₀, -, -, rfl⟩ | ⟨-, -, -, rfl⟩
  · refine ⟨rfl, rfl, ?_⟩
    rintro id ⟨u, hu, rfl⟩
    refine ⟨_, List.mem_map_of_mem hu, ?_⟩
    split <;> rfl
  · refine ⟨rfl, rfl, ?_⟩
    rintro id ⟨u, hu, rfl⟩
    exact ⟨u, List.mem_append_left _ hu, rfl⟩

/-! ### One statement of a request -/

/-- What a statement of a request can do. -/
inductive Executed (db : Db) (i : ℕ) (r : Request) : Db × Phase × List Event → Prop
  | same : Executed db i r (db, r.phase, [])
  | failed (e : String) (hne : ∀ result, r.phase ≠ .answered result) :
    Executed db i r (db, .answered (.error (.statement e)), [])
  | noUser (id : Uuid) (hphase : r.phase = .ensureUser) (hid : Uuid.parse r.userID = some id)
    (huser : ¬ HasUser db id) : Executed db i r (db, .answered (.error .userNotFound), [])
  | user (id : Uuid) (hphase : r.phase = .ensureUser) (hid : Uuid.parse r.userID = some id)
    (huser : HasUser db id) : Executed db i r (db, .lookupRole id, [])
  | noRole (id : Uuid) (hphase : r.phase = .lookupRole id)
    (hrole : ∀ role ∈ db.iamRole, role.name ≠ trimSpace r.roleName) :
    Executed db i r (db, .answered (.error .roleNotFound), [])
  | role (id : Uuid) (role : RoleRow) (hphase : r.phase = .lookupRole id)
    (hmem : role ∈ db.iamRole) (hname : role.name = trimSpace r.roleName) :
    Executed db i r (db, .write { userId := id, roleId := role.id }, [])
  | bound (b : UserRoleBindingRow) (hphase : r.phase = .write b) (hop : r.op = .bind) :
    Executed db i r (insertBinding db b, .answered (.ok ()), [⟨some i, b, .bound⟩])
  | unbound (b : UserRoleBindingRow) (hphase : r.phase = .write b) (hop : r.op = .unbind)
    (hmem : b ∈ db.iamUserRoleBinding) :
    Executed db i r (deleteBinding db b, .answered (.ok ()), [⟨some i, b, .unbound⟩])
  | missed (b : UserRoleBindingRow) (hphase : r.phase = .write b) (hop : r.op = .unbind)
    (hmem : b ∉ db.iamUserRoleBinding) : Executed db i r
      (db, .answered (.error .userRoleBindingNotFound), [⟨some i, b, .missed⟩])

lemma ensureUserExists_cases (db : Db) (userID : String) :
    (∃ e, ensureUserExists db userID = .error (.statement e)) ∨
      ∃ id, Uuid.parse userID = some id ∧
        ((¬ HasUser db id ∧ ensureUserExists db userID = .error .userNotFound) ∨
          (HasUser db id ∧ ensureUserExists db userID = .ok id)) := by
  rw [ensureUserExists]
  cases hid : Uuid.parse userID with
  | none => exact Or.inl ⟨_, rfl⟩
  | some id =>
    have hany : (db.iamUser.any (·.id == id) = true) ↔ HasUser db id := by
      simp [HasUser, List.any_eq_true]
    refine Or.inr ⟨id, rfl, ?_⟩
    by_cases huser : HasUser db id
    · exact Or.inr ⟨huser, if_pos (hany.mpr huser)⟩
    · exact Or.inl ⟨huser, if_neg (huser ∘ hany.mp)⟩

lemma roleIDByName_cases (db : Db) (roleName : String) :
    (roleIDByName db roleName = .error .roleNotFound ∧
        ∀ role ∈ db.iamRole, role.name ≠ trimSpace roleName) ∨
      ∃ role ∈ db.iamRole, role.name = trimSpace roleName ∧
        roleIDByName db roleName = .ok role.id := by
  rw [roleIDByName]
  cases hfind : db.iamRole.find? (·.name == trimSpace roleName) with
  | none =>
    refine Or.inl ⟨rfl, fun role hrole hname => ?_⟩
    exact List.find?_eq_none.mp hfind role hrole (beq_iff_eq.mpr hname)
  | some role =>
    have hname : role.name = trimSpace roleName := by simpa using List.find?_some hfind
    exact Or.inr ⟨role, List.mem_of_find?_eq_some hfind, hname, rfl⟩

lemma executed (db : Db) (i : ℕ) (failure : Option String) (r : Request) :
    Executed db i r (r.execute db i failure) := by
  obtain ⟨op, userID, roleName, phase⟩ := r
  cases phase with
  | answered result => exact .same
  | ensureUser =>
    cases failure with
    | some e => exact .failed e nofun
    | none =>
      simp only [Request.execute, Request.advance]
      rcases ensureUserExists_cases db userID with
        ⟨e, he⟩ | ⟨id, hid, ⟨huser, he⟩ | ⟨huser, he⟩⟩ <;> rw [he]
      · exact .failed e nofun
      · exact .noUser id rfl hid huser
      · exact .user id rfl hid huser
  | lookupRole id =>
    cases failure with
    | some e => exact .failed e nofun
    | none =>
      simp only [Request.execute, Request.advance]
      rcases roleIDByName_cases db roleName with ⟨he, hrole⟩ | ⟨role, hmem, hname, he⟩ <;> rw [he]
      · exact .noRole id rfl hrole
      · exact .role id role rfl hmem hname
  | write b =>
    cases failure with
    | some e => exact .failed e nofun
    | none =>
      simp only [Request.execute, Request.advance]
      cases op with
      | bind => exact .bound b rfl rfl
      | unbind =>
        rw [Request.write]
        by_cases hmem : b ∈ db.iamUserRoleBinding
        · rw [if_pos hmem]
          exact .unbound b rfl rfl hmem
        · rw [if_neg hmem]
          exact .missed b rfl rfl hmem

end

/-! ### The history -/

section

variable {initial : Set UserRoleBindingRow} {es es' : List Event} {i : ℕ}

lemma boundAfter_append (h : ∀ e ∈ es, e.effect = .bound) :
    boundAfter initial (es ++ es') = {b | ∃ e ∈ es, e.binding = b} ∪ boundAfter initial es' := by
  induction es with
  | nil => simp
  | cons e es ih =>
    rw [List.cons_append, boundAfter, h e List.mem_cons_self,
      ih fun e' he => h e' (List.mem_cons_of_mem e he)]
    ext b
    simp [or_assoc, eq_comm]

lemma throughout_append (h : ∀ e ∈ es, e.effect = .bound)
    (hes : Throughout (EffectOk initial) es') : Throughout (EffectOk initial) (es ++ es') := by
  induction es with
  | nil => exact hes
  | cons e es ih =>
    refine ⟨?_, ih fun e' he => h e' (List.mem_cons_of_mem e he)⟩
    rw [EffectOk, h e List.mem_cons_self]
    trivial

lemma eventsOf_append_of_ne (h : ∀ e ∈ es, e.request ≠ some i) :
    eventsOf i (es ++ es') = eventsOf i es' := by
  rw [eventsOf, List.filter_append, List.filter_eq_nil_iff.mpr fun e he => by simpa using h e he,
    List.nil_append, eventsOf]

lemma eventsOf_cons_self {b : UserRoleBindingRow} {effect : Effect} :
    eventsOf i (⟨some i, b, effect⟩ :: es) = ⟨some i, b, effect⟩ :: eventsOf i es :=
  List.filter_cons_of_pos (by simp)

/-- A request without an answer has written nothing. -/
lemma RequestOk.eventsOf_eq_nil {db : Db} {r : Request} (h : RequestOk db es i r)
    (hne : ∀ result, r.phase ≠ .answered result) : eventsOf i es = [] := by
  obtain ⟨op, userID, roleName, phase⟩ := r
  cases phase with
  | ensureUser => exact h
  | lookupRole id => exact h.1
  | write b => exact h.1
  | answered result => exact absurd rfl (hne result)

/-- What is known of a request rests on its own events. -/
lemma RequestOk.congr {db : Db} {r : Request} (h : RequestOk db es i r)
    (heq : eventsOf i es' = eventsOf i es) : RequestOk db es' i r := by
  obtain ⟨op, userID, roleName, phase⟩ := r
  cases phase with
  | ensureUser => exact heq.trans h
  | lookupRole id => exact ⟨heq.trans h.1, h.2⟩
  | write b => exact ⟨heq.trans h.1, h.2⟩
  | answered result =>
    simp only [RequestOk] at h ⊢
    unfold AnswerOk at h ⊢
    rwa [heq]

end

/-! ### Every run -/

section

variable {db : Db} {s : State}

lemma Inv.eventsOf_length (h : Inv db s) : eventsOf s.requests.length s.history = [] := by
  rw [eventsOf, List.filter_eq_nil_iff]
  intro e he
  simpa using fun hi => (h.known e he _ hi).ne rfl

/-- A statement of a request keeps the invariant, if its write does what its event says. -/
lemma Inv.execute {db' : Db} {i : ℕ} {r : Request} {phase : Phase} (h : Inv db s)
    (events : List Event) (hr : s.requests[i]? = some r) (hroles : db'.iamRole = s.db.iamRole)
    (husers : db'.iamUser = s.db.iamUser) (hkeyed : Keyed db')
    (hset : bindings db' = boundAfter (bindings db) (events ++ s.history))
    (heffects : Throughout (EffectOk (bindings db)) (events ++ s.history))
    (hevents : ∀ e ∈ events, e.request = some i)
    (hok : RequestOk db (events ++ s.history) i { r with phase })
    (hfound : ∀ id ∈ ({ r with phase } : Request).user?, HasUser s.db id) :
    Inv db { db := db', requests := s.requests.set i { r with phase }
             history := events ++ s.history } where
  roles := hroles.trans h.roles
  users id hid := by
    rw [HasUser, husers]
    exact h.users id hid
  keyed := hkeyed
  bindings_eq := hset
  effects := heffects
  known e he j hj := by
    rw [List.length_set]
    rcases List.mem_append.mp he with he | he
    · obtain rfl := Option.some.inj ((hevents e he).symm.trans hj)
      exact (List.getElem?_eq_some_iff.mp hr).1
    · exact h.known e he j hj
  requests j r' hr' := by
    rw [List.getElem?_set] at hr'
    split at hr'
    · next heq =>
      subst heq
      obtain ⟨-, hr'⟩ := Option.ite_none_right_eq_some.mp hr'
      obtain rfl := Option.some.inj hr'
      exact hok
    · next hne =>
      refine (h.requests j r' hr').congr (eventsOf_append_of_ne fun e he heq => hne ?_)
      exact Option.some.inj ((hevents e he).symm.trans heq)
  found r' hr' id hid := by
    rw [HasUser, husers]
    rcases List.mem_or_eq_of_mem_set hr' with hr' | rfl
    · exact h.found r' hr' id hid
    · exact hfound id hid

/-- A statement that writes nothing. -/
lemma Inv.read {i : ℕ} {r : Request} {phase : Phase} (h : Inv db s)
    (hr : s.requests[i]? = some r) (hok : RequestOk db s.history i { r with phase })
    (hfound : ∀ id ∈ ({ r with phase } : Request).user?, HasUser s.db id) :
    Inv db { s with requests := s.requests.set i { r with phase } } :=
  h.execute [] hr rfl rfl h.keyed h.bindings_eq h.effects (by simp) hok hfound

lemma inv_step (h : Inv db s) (l : Label) : Inv db (step s l) := by
  cases l with
  | arrive op userID roleName =>
    refine { h with known := ?_, requests := ?_, found := ?_ }
    · intro e he i hi
      exact (h.known e he i hi).trans (by simp [step])
    · intro i r hr
      change (s.requests ++ [_])[i]? = some r at hr
      rw [List.getElem?_append] at hr
      split at hr
      · exact h.requests i r hr
      · obtain ⟨hi, rfl⟩ := List.getElem?_eq_some_iff.mp hr
        obtain rfl : i = s.requests.length := by
          rw [List.length_singleton] at hi
          omega
        rw [List.getElem_singleton]
        exact h.eventsOf_length
    · intro r hr id hid
      rcases List.mem_append.mp hr with hr | hr
      · exact h.found r hr id hid
      · obtain rfl := List.mem_singleton.mp hr
        cases hid
  | advance i failure =>
    rw [step]
    cases hr : s.requests[i]? with
    | none => exact h
    | some r =>
      have hok := h.requests i r hr
      have hfound := h.found r (List.mem_of_getElem? hr)
      have hexec := executed s.db i failure r
      dsimp only
      generalize r.execute s.db i failure = x at hexec ⊢
      cases hexec with
      | same => exact h.read hr hok hfound
      | failed e hne =>
        refine h.read hr ?_ (by simp [Request.user?])
        exact hok.eventsOf_eq_nil hne
      | noUser id hphase hid huser =>
        rw [RequestOk, hphase] at hok
        refine h.read hr ⟨hok, id, hid, fun u hu heq => huser ?_⟩ (by simp [Request.user?])
        exact h.users id ⟨u, hu, heq⟩
      | user id hphase hid huser =>
        rw [RequestOk, hphase] at hok
        exact h.read hr ⟨hok, hid⟩ (by simpa [Request.user?] using huser)
      | noRole id hphase hrole =>
        rw [RequestOk, hphase] at hok
        exact h.read hr ⟨hok.1, h.roles ▸ hrole⟩ (by simp [Request.user?])
      | role id role hphase hmem hname =>
        rw [RequestOk, hphase] at hok
        refine h.read hr ⟨hok.1, hok.2, role, h.roles ▸ hmem, rfl, hname⟩ ?_
        simpa [Request.user?, hphase] using hfound
      | bound b hphase hop =>
        rw [RequestOk, hphase] at hok
        have hkeyed := h.keyed.insertBinding (hfound b.userId (by simp [Request.user?, hphase]))
          (by rw [h.roles]; exact hok.2.2.imp fun role hrole => ⟨hrole.1, hrole.2.1⟩)
        refine h.execute _ hr rfl rfl hkeyed ?_ ⟨trivial, h.effects⟩ (by simp) ?_
          (by simp [Request.user?])
        · rw [bindings_insertBinding, h.bindings_eq]
          rfl
        · exact ⟨b, hok.2, by simp [eventsOf_cons_self, hok.1, hop]⟩
      | unbound b hphase hop hmem =>
        rw [RequestOk, hphase] at hok
        refine h.execute _ hr rfl rfl h.keyed.deleteBinding ?_ ⟨?_, h.effects⟩ (by simp) ?_
          (by simp [Request.user?])
        · rw [bindings_deleteBinding, h.bindings_eq]
          rfl
        · exact h.bindings_eq.subset hmem
        · exact ⟨b, hok.2, by simp [eventsOf_cons_self, hok.1, hop]⟩
      | missed b hphase hop hmem =>
        rw [RequestOk, hphase] at hok
        refine h.execute _ hr rfl rfl h.keyed h.bindings_eq ⟨?_, h.effects⟩ (by simp) ?_
          (by simp [Request.user?])
        · exact fun hb => hmem (h.bindings_eq.superset hb)
        · exact ⟨hop, b, hok.2, by simp [eventsOf_cons_self, hok.1]⟩
  | login newId now profile =>
    rw [step]
    split
    · exact h
    · next db' u hupsert =>
      obtain ⟨hroles, hbindings, husers⟩ := upsertUser_ok hupsert
      refine { h with roles := hroles.trans h.roles, users := ?_, keyed := ?_, bindings_eq := ?_,
                      found := ?_ }
      · exact fun id hid => husers id (h.users id hid)
      · refine ⟨by rw [hroles]; exact h.keyed.roleIds, by rw [hbindings]; exact h.keyed.nodup, ?_⟩
        intro b hb
        rw [hbindings] at hb
        rw [hroles]
        exact ⟨husers _ (h.keyed.bound b hb).1, (h.keyed.bound b hb).2⟩
      · rw [bindings, hbindings]
        exact h.bindings_eq
      · exact fun r hr id hid => husers id (h.found r hr id hid)
  | bindAdmin userId =>
    rw [step]
    split
    · next huser =>
      have hbound : ∀ e ∈ boundBetween s.db (Iam.bindAdmin s.db userId),
          e.effect = .bound ∧ e.request = none := by
        intro e he
        obtain ⟨b, -, rfl⟩ := List.mem_map.mp he
        exact ⟨rfl, rfl⟩
      have hne : ∀ i, ∀ e ∈ boundBetween s.db (Iam.bindAdmin s.db userId), e.request ≠ some i := by
        intro i e he heq
        rw [(hbound e he).2] at heq
        cases heq
      refine { h with keyed := ?_, bindings_eq := ?_, effects := ?_, known := ?_, requests := ?_ }
      · exact h.keyed.bindAdmin (by simpa [HasUser] using huser)
      · rw [bindings_bindAdmin, h.bindings_eq,
          boundAfter_append fun e he => (hbound e he).1]
      · exact throughout_append (fun e he => (hbound e he).1) h.effects
      · intro e he i hi
        rcases List.mem_append.mp he with he | he
        · exact absurd hi (hne i e he)
        · exact h.known e he i hi
      · intro i r hr
        exact (h.requests i r hr).congr (eventsOf_append_of_ne (hne i))
    · exact h

lemma inv_init (h : Keyed db) : Inv db { db } where
  roles := rfl
  users _ hid := hid
  keyed := h
  bindings_eq := rfl
  effects := trivial
  known := nofun
  requests := nofun
  found := nofun

/-- **The bindings are those of one history**: whatever requests, logins and configured
administrators are interleaved, the table is what the writes make of it one after the other, and
it keeps its keys.  A request that is answered well has written once, between its arrival and its
answer, to the user and the role that it names; it has found nothing to delete when it says so;
and with any other answer, or none yet, it has written nothing.  An identity has the roles that
are bound at that point of the history. -/
theorem bindings_follow_history (h : Keyed db) (ls : List Label) :
    let s := run step { db } ls
    Keyed s.db ∧ bindings s.db = boundAfter (bindings db) s.history ∧
      Throughout (EffectOk (bindings db)) s.history ∧
      (∀ i r, s.requests[i]? = some r → RequestOk db s.history i r) ∧
      ∀ userID identity, identityForUser s.db userID = .ok identity → ∀ name,
        name ∈ identity.roles ↔ ∃ role ∈ db.iamRole, role.name = name ∧
          ⟨identity.user.id, role.id⟩ ∈ boundAfter (bindings db) s.history := by
  intro s
  have hs : Inv db s := invariant (I := Inv db) (fun _ l h => inv_step h l) (inv_init h) ls
  refine ⟨hs.keyed, hs.bindings_eq, hs.effects, hs.requests, ?_⟩
  intro userID identity hidentity name
  rw [mem_roles_of_identityForUser hidentity, ← hs.bindings_eq, hs.roles]
  constructor
  · rintro ⟨⟨_, _⟩, hb, rfl, role, hrole, rfl, hname⟩
    exact ⟨role, hrole, hname, hb⟩
  · rintro ⟨role, hrole, hname, hb⟩
    exact ⟨_, hb, rfl, role, hrole, rfl, hname⟩

/-- A user and a role. -/
def sampleDb : Db where
  iamUser := [{ id := Uuid.replicate 1, oidcSubject := "oidc|1" }]
  iamRole := [{ id := Uuid.replicate 2, name := "ops" }]

/-- A binding and an unbinding of the same role whose statements alternate: the unbinding writes
first, and finds nothing.  Another unbinding comes after both, and a fourth request fails. -/
def alternating : List Label :=
  [.arrive .bind (Uuid.replicate 1).toText " ops ", .arrive .unbind (Uuid.replicate 1).toText "ops",
   .advance 0 none, .advance 1 none, .advance 1 none, .advance 0 none, .advance 1 none,
   .advance 0 none, .arrive .unbind (Uuid.replicate 1).toText "ops",
   .arrive .bind (Uuid.replicate 1).toText "ops", .advance 3 none, .advance 2 none,
   .advance 2 none, .advance 3 (some "connection reset"), .advance 2 none]

theorem bindings_follow_history_alternating :
    let s := run step { db := sampleDb } alternating
    s.history = [⟨some 2, ⟨Uuid.replicate 1, Uuid.replicate 2⟩, .unbound⟩,
      ⟨some 0, ⟨Uuid.replicate 1, Uuid.replicate 2⟩, .bound⟩,
      ⟨some 1, ⟨Uuid.replicate 1, Uuid.replicate 2⟩, .missed⟩] ∧
    bindings s.db = boundAfter (bindings sampleDb) s.history ∧
    ∀ i r, s.requests[i]? = some r → RequestOk sampleDb s.history i r := by
  have hhistory := bindings_follow_history
    (⟨by decide, by decide, by simp [sampleDb]⟩ : Keyed sampleDb) alternating
  exact ⟨by decide +kernel, hhistory.2.1, hhistory.2.2.2.1⟩

end

end OpsPlatform.Iam.RoleBindings
