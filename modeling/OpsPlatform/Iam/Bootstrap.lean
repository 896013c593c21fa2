/-
The first logins of an installation (`OIDCCallback` in `internal/iam/handler.go`, over
`UpsertUser`, `EnsureAdminBinding` and `IdentityForUser` of `internal/iam/repository.go`).

The first user to log in becomes an administrator.  Whether a user is the first is one statement of
`EnsureAdminBinding`, and the binding is another one, so that two callbacks whose tests both come
before the bindings are both first.
-/
import OpsPlatform.Iam.Login
import OpsPlatform.Lib.Run

namespace OpsPlatform.Iam

open Lib Lib.Run Lib.Table Lib.Text

/-- The statement that a callback executes next. -/
inductive Callback where
  | upsertUser (profile : UserProfile)
  | hasAnyBinding (u : UserRow)
  | bindAdmin (u : UserRow)
  | readUser (id : Uuid)
  | readPermissions (user : User) (id : Uuid)
  | answered (answer : Handler.Answer)

/-- What a statement draws and meets. -/
structure Draw where
  now : Time
  newId : Uuid
  error : Option String := none

/-- A callback from the point where the identity provider has returned the profile. -/
def Callback.arrive (profile : UserProfile) : Callback :=
  match Handler.userInfo profile with
  | .error e => .answered (.error e)
  | .ok profile => .upsertUser profile

/-- The next statement of a callback. -/
def Callback.execute (cfg : Config) (draw : Draw) (db : Db) : Callback → Db × Callback
  | .upsertUser profile =>
    match Iam.upsertUser db draw.now draw.newId profile with
    | .error e => (db, .answered (.error (500, e)))
    | .ok (db, u) => (db, .hasAnyBinding u)
  | .hasAnyBinding u =>
    if !Iam.hasAnyBinding db || isBootstrapSubject cfg.bootstrapAdminSubjects u.oidcSubject then
      (db, .bindAdmin u)
    else (db, .readUser u.id)
  | .bindAdmin u => (Iam.bindAdmin db u.id, .readUser u.id)
  | .readUser id =>
    match db.iamUser.find? (·.id = id) with
    | none => (db, .answered (.error (500, .iam .userNotFound)))
    | some row =>
      (db, .readPermissions
        { id := row.id, oidcSubject := row.oidcSubject, email := row.email.getD "",
          name := row.name.getD "" } id)
  | .readPermissions user id =>
    (db, .answered ((identityOfRows user (permissionRows db id)).mapError fun e => (500, .iam e)))
  | .answered answer => (db, .answered answer)

/-- A statement that fails ends the callback. -/
def Callback.fail (e : String) : Callback → Callback
  | .answered answer => .answered answer
  | _ => .answered (.error (500, .message e))

def Callback.advance (c : Callback) (cfg : Config) (draw : Draw) (db : Db) : Db × Callback :=
  match draw.error with
  | some e => (db, c.fail e)
  | none => c.execute cfg draw db

/-! ### Any number of callbacks -/

/-- The callbacks in flight, with the users that `EnsureAdminBinding` has given the role. -/
structure Callbacks where
  db : Db
  callbacks : List Callback := []
  promoted : List UserRow := []

inductive CallbackStep where
  | arrive (profile : UserProfile)
  | move (i : ℕ) (draw : Draw)

/-- The user that gets the role by the next statement of the callback. -/
def Callback.promotes (draw : Draw) (db : Db) : Callback → List UserRow
  | .bindAdmin u =>
    if draw.error.isSome ∨ (Iam.bindAdmin db u.id).iamUserRoleBinding = db.iamUserRoleBinding then
      []
    else [u]
  | _ => []

def callbackStep (cfg : Config) (s : Callbacks) : CallbackStep → Callbacks
  | .arrive profile => { s with callbacks := s.callbacks ++ [.arrive profile] }
  | .move i draw =>
    match s.callbacks[i]? with
    | none => s
    | some c =>
      let (db, c') := c.advance cfg draw s.db
      { db, callbacks := s.callbacks.set i c', promoted := s.promoted ++ c.promotes draw s.db }

/-! ### One callback alone -/

section

variable (cfg : Config) (now : Time) (newId : Uuid)

/-- The database and the callback, when it is the only one. -/
def Callback.executeNext (r : Db × Callback) : Db × Callback :=
  r.2.execute cfg { now, newId } r.1

lemma run_single (db : Db) (c : Callback) (promoted : List UserRow) (n : ℕ) :
    ∃ promoted', run (callbackStep cfg) { db, callbacks := [c], promoted }
        (List.replicate n (.move 0 { now, newId })) =
      { db := ((Callback.executeNext cfg now newId)^[n] (db, c)).1
        callbacks := [((Callback.executeNext cfg now newId)^[n] (db, c)).2]
        promoted := promoted' } := by
  induction n generalizing db c promoted with
  | zero => exact ⟨promoted, rfl⟩
  | succ n ih =>
    rw [List.replicate_succ, run_cons, Function.iterate_succ_apply]
    exact ih _ _ _

lemma executeNext_readUser (db : Db) (id : Uuid) :
    (Callback.executeNext cfg now newId)^[2] (db, .readUser id) =
      (db, .answered ((identityForUser db id.toText).mapError fun e => (500, .iam e))) := by
  rw [Function.iterate_succ_apply, Function.iterate_one, identityForUser, Uuid.parse_toText]
  dsimp only [Callback.executeNext, Callback.execute]
  cases db.iamUser.find? (·.id = id) <;> rfl

lemma executeNext_hasAnyBinding (db : Db) (u : UserRow) :
    (Callback.executeNext cfg now newId)^[4] (db, .hasAnyBinding u) =
      (let db := ensureAdminBinding db u.id cfg.bootstrapAdminSubjects u.oidcSubject
       (db, .answered ((identityForUser db u.id.toText).mapError fun e => (500, .iam e)))) := by
  rw [ensureAdminBinding]
  split
  · next hfirst =>
    rw [Function.iterate_succ_apply, Function.iterate_succ_apply]
    have hbind : Callback.executeNext cfg now newId (db, .hasAnyBinding u) = (db, .bindAdmin u) :=
      if_pos hfirst
    rw [hbind]
    exact executeNext_readUser cfg now newId (bindAdmin db u.id) u.id
  · next hlater =>
    rw [Function.iterate_succ_apply]
    have hread : Callback.executeNext cfg now newId (db, .hasAnyBinding u) =
        (db, .readUser u.id) := if_neg hlater
    rw [hread, Function.iterate_succ_apply', executeNext_readUser]
    rfl

/-- **Without anything in between, the statements are the callback.** -/
theorem oidcCallback_eq_statements (db : Db) (profile : UserProfile) :
    (run (callbackStep cfg) { db }
        (.arrive profile :: List.replicate 5 (.move 0 { now, newId }))).db =
      (Handler.oidcCallback cfg { now, newUserId := newId } db (.ok profile)).1 ∧
    (run (callbackStep cfg) { db }
        (.arrive profile :: List.replicate 5 (.move 0 { now, newId }))).callbacks =
      [.answered (Handler.oidcCallback cfg { now, newUserId := newId } db (.ok profile)).2] := by
  have halone : (Callback.executeNext cfg now newId)^[5] (db, .arrive profile) =
      Prod.map id Callback.answered
        (Handler.oidcCallback cfg { now, newUserId := newId } db (.ok profile)) := by
    rw [Callback.arrive, Handler.oidcCallback, Except.bind]
    cases Handler.userInfo profile with
    | error e => rfl
    | ok profile =>
      rw [Function.iterate_succ_apply]
      dsimp only [Callback.executeNext, Callback.execute]
      cases upsertUser db now newId profile with
      | error e => rfl
      | ok r => exact executeNext_hasAnyBinding cfg now newId r.1 r.2
  rw [run_cons]
  obtain ⟨promoted, hrun⟩ := run_single cfg now newId db (.arrive profile) [] 5
  have hstart : callbackStep cfg { db } (.arrive profile) =
      { db, callbacks := [.arrive profile] } := rfl
  rw [hstart, hrun, halone]
  exact ⟨rfl, rfl⟩

end

/-! ### What a statement does to the bindings -/

section

variable {cfg : Config} {draw : Draw} {db db' : Db} {c : Callback} {u : UserRow}

lemma iamUserRoleBinding_upsertUser {now : Time} {newId : Uuid} {profile : UserProfile}
    (h : upsertUser db now newId profile = .ok (db', u)) :
    db'.iamUserRoleBinding = db.iamUserRoleBinding := by
  rcases upsertBySubject_eq_ok h with ⟨_, -, -, rfl⟩ | ⟨-, -, -, rfl⟩ <;> rfl

/-- No statement deletes a binding. -/
lemma Callback.exists_binding_advance (c : Callback) (h : db.iamUserRoleBinding ≠ []) :
    (c.advance cfg draw db).1.iamUserRoleBinding ≠ [] := by
  rw [advance]
  split
  · exact h
  · cases c with
    | upsertUser profile =>
      rw [execute]
      split
      · exact h
      · next hupsert => rwa [iamUserRoleBinding_upsertUser hupsert]
    | hasAnyBinding u =>
      rw [execute]
      split <;> exact h
    | bindAdmin u => exact List.append_ne_nil_of_left_ne_nil h _
    | readUser id =>
      rw [execute]
      split <;> exact h
    | readPermissions user id => exact h
    | answered answer => exact h

/-- The binding comes after the test, which has found none or a user of the list. -/
lemma Callback.eq_of_advance_eq_bindAdmin (h : (c.advance cfg draw db).2 = .bindAdmin u) :
    c = .hasAnyBinding u ∧ draw.error = none ∧
      (isBootstrapSubject cfg.bootstrapAdminSubjects u.oidcSubject = false →
        db.iamUserRoleBinding = []) := by
  rw [advance] at h
  split at h
  · cases c <;> cases h
  · next hdraw =>
    cases c with
    | upsertUser profile =>
      rw [execute] at h
      split at h <;> cases h
    | hasAnyBinding u =>
      rw [execute] at h
      split at h
      · next hfirst =>
        cases h
        refine ⟨rfl, hdraw, fun hunlisted => ?_⟩
        rw [hunlisted, Bool.or_false, Iam.hasAnyBinding, Bool.not_not] at hfirst
        exact List.isEmpty_iff.mp hfirst
      · cases h
    | bindAdmin u => cases h
    | readUser id =>
      rw [execute] at h
      split at h <;> cases h
    | readPermissions user id => cases h
    | answered answer => cases h

/-- Who gets the role had its binding next, and there is a binding then. -/
lemma Callback.mem_promotes (cfg : Config) (h : u ∈ c.promotes draw db) :
    c = .bindAdmin u ∧ (c.advance cfg draw db).1.iamUserRoleBinding ≠ [] := by
  cases c with
  | bindAdmin u₀ =>
    rw [promotes] at h
    split at h
    · cases h
    · next hnew =>
      obtain ⟨hdraw, hnew⟩ := not_or.mp hnew
      obtain rfl := List.mem_singleton.mp h
      rw [Option.not_isSome_iff_eq_none] at hdraw
      refine ⟨rfl, fun hnone => hnew ?_⟩
      rw [advance, hdraw] at hnone
      exact hnone.trans (List.append_eq_nil_iff.mp hnone).1.symm
  | _ => cases h

end

/-! ### One candidate at a time -/

/-- At most one user that is not in the list of the configuration has been given the role. -/
def OnePromoted (cfg : Config) (s : Callbacks) : Prop :=
  ∀ u ∈ s.promoted, ∀ v ∈ s.promoted,
    isBootstrapSubject cfg.bootstrapAdminSubjects u.oidcSubject = false →
    isBootstrapSubject cfg.bootstrapAdminSubjects v.oidcSubject = false → u.id = v.id

/-- When the test for a user that is not in the list is made and there is no binding, no other such
user is between its own test and the binding. -/
def TestsAlone (cfg : Config) (s : Callbacks) : CallbackStep → Prop
  | .arrive _ => True
  | .move i draw => ∀ u, s.callbacks[i]? = some (.hasAnyBinding u) → draw.error = none →
    s.db.iamUserRoleBinding = [] →
    isBootstrapSubject cfg.bootstrapAdminSubjects u.oidcSubject = false →
    ∀ v, .bindAdmin v ∈ s.callbacks →
      isBootstrapSubject cfg.bootstrapAdminSubjects v.oidcSubject = false → v.id = u.id

/-- A user that is not in the list and has been given the role, or is about to be. -/
def Candidate (cfg : Config) (s : Callbacks) (u : UserRow) : Prop :=
  isBootstrapSubject cfg.bootstrapAdminSubjects u.oidcSubject = false ∧
    (u ∈ s.promoted ∨ .bindAdmin u ∈ s.callbacks)

structure OneCandidate (cfg : Config) (s : Callbacks) : Prop where
  bound : s.promoted ≠ [] → s.db.iamUserRoleBinding ≠ []
  same : ∀ u v, Candidate cfg s u → Candidate cfg s v → u.id = v.id

section

variable {cfg : Config} {s : Callbacks} {l : CallbackStep} {u : UserRow}

lemma bindAdmin_ne_arrive (profile : UserProfile) : .bindAdmin u ≠ Callback.arrive profile := by
  rw [Callback.arrive]
  split <;> exact nofun

/-- A candidate was one before, or its test has just found no binding. -/
lemma candidate_callbackStep (h : Candidate cfg (callbackStep cfg s l) u) :
    Candidate cfg s u ∨ ∃ i draw, l = .move i draw ∧
      s.callbacks[i]? = some (.hasAnyBinding u) ∧ draw.error = none ∧
      s.db.iamUserRoleBinding = [] := by
  obtain ⟨hunlisted, hwhere⟩ := h
  cases l with
  | arrive profile =>
    refine Or.inl ⟨hunlisted, hwhere.imp_right fun hmem => ?_⟩
    rcases List.mem_append.mp hmem with hold | hnew
    · exact hold
    · exact absurd (List.mem_singleton.mp hnew) (bindAdmin_ne_arrive profile)
  | move i draw =>
    rw [callbackStep] at hwhere
    split at hwhere
    · exact Or.inl ⟨hunlisted, hwhere⟩
    · next c hc =>
      rcases hwhere with hpromoted | hmem
      · refine Or.inl ⟨hunlisted, ?_⟩
        rcases List.mem_append.mp hpromoted with hold | hnew
        · exact Or.inl hold
        · obtain ⟨rfl, -⟩ := Callback.mem_promotes cfg hnew
          exact Or.inr (List.mem_of_getElem? hc)
      · rcases List.mem_or_eq_of_mem_set hmem with hold | hnext
        · exact Or.inl ⟨hunlisted, Or.inr hold⟩
        · obtain ⟨rfl, hdraw, hnone⟩ := Callback.eq_of_advance_eq_bindAdmin hnext.symm
          exact Or.inr ⟨i, draw, rfl, hc, hdraw, hnone hunlisted⟩

lemma bound_callbackStep (h : s.promoted ≠ [] → s.db.iamUserRoleBinding ≠ []) :
    (callbackStep cfg s l).promoted ≠ [] → (callbackStep cfg s l).db.iamUserRoleBinding ≠ [] := by
  cases l with
  | arrive profile => exact h
  | move i draw =>
    rw [callbackStep]
    split
    · exact h
    · next c hc =>
      intro hpromoted
      obtain ⟨u, hu⟩ := List.exists_mem_of_ne_nil _ hpromoted
      rcases List.mem_append.mp hu with hold | hnew
      · exact c.exists_binding_advance (h (List.ne_nil_of_mem hold))
      · exact (Callback.mem_promotes cfg hnew).2

lemma OneCandidate.callbackStep (h : OneCandidate cfg s) (halone : TestsAlone cfg s l) :
    OneCandidate cfg (callbackStep cfg s l) := by
  refine ⟨bound_callbackStep h.bound, ?_⟩
  -- a test that finds no binding comes after no promotion, and no other test is before a binding
  have hfirst : ∀ i draw u, l = .move i draw → s.callbacks[i]? = some (.hasAnyBinding u) →
      draw.error = none → s.db.iamUserRoleBinding = [] →
      isBootstrapSubject cfg.bootstrapAdminSubjects u.oidcSubject = false →
      ∀ v, Candidate cfg s v → v.id = u.id := by
    rintro i draw u rfl hc hdraw hnone hunlisted v ⟨hv, hpromoted | hbinding⟩
    · exact absurd hnone (h.bound (List.ne_nil_of_mem hpromoted))
    · exact halone u hc hdraw hnone hunlisted v hbinding hv
  intro u v hu hv
  rcases candidate_callbackStep hu with hu₀ | ⟨i, draw, rfl, hc, hdraw, hnone⟩
  · rcases candidate_callbackStep hv with hv₀ | ⟨i, draw, rfl, hc, hdraw, hnone⟩
    · exact h.same u v hu₀ hv₀
    · exact hfirst i draw v rfl hc hdraw hnone hv.1 u hu₀
  · rcases candidate_callbackStep hv with hv₀ | ⟨i', draw', heq, hc', -, -⟩
    · exact (hfirst i draw u rfl hc hdraw hnone hu.1 v hv₀).symm
    · cases heq
      cases hc.symm.trans hc'
      rfl

end

/-- **When at most one user is promoted.**  In every interleaving of the statements of callbacks in
which the test for a user that is not in the list never finds the table empty while another such
user is between its test and its binding, at most one such user is given the role. -/
theorem one_promoted_of_tests_alone (cfg : Config) (db : Db) (ls : List CallbackStep)
    (halone : Along (callbackStep cfg) (TestsAlone cfg) { db } ls) :
    OnePromoted cfg (run (callbackStep cfg) { db } ls) := by
  have hstart : OneCandidate cfg { db } := by
    refine ⟨fun h => absurd rfl h, ?_⟩
    rintro u v ⟨-, hpromoted | hbinding⟩
    · cases hpromoted
    · cases hbinding
  have hend : OneCandidate cfg (run (callbackStep cfg) { db } ls) :=
    invariant_along (fun s l h hok => h.callbackStep hok) hstart halone
  intro u hu v hv hunlisted hvunlisted
  exact hend.same u v ⟨hunlisted, Or.inl hu⟩ ⟨hvunlisted, Or.inl hv⟩

/-- A callback executes a statement, at which nothing fails. -/
def moveOf (i : ℕ) : CallbackStep :=
  .move i { now := 20, newId := Uuid.replicate (Fin.ofNat 16 (3 + i)) }

/-- Two callbacks, each statement of the first one before that of the second one. -/
def simultaneousLogins : List CallbackStep :=
  [.arrive { subject := "ann" }, .arrive { subject := "bob" }, moveOf 0, moveOf 1, moveOf 0,
    moveOf 1, moveOf 0, moveOf 1]

/-- The user that a first login inserts. -/
def firstUser (d : Fin 16) (subject : String) : UserRow :=
  { id := Uuid.replicate d, oidcSubject := subject, lastLoginAt := some 20, createdAt := 20
    updatedAt := 20 }

/-- Two users log in for the first time, and both tests come before the bindings: each of them is
made an administrator. -/
theorem two_first_logins_promoted :
    freshDb.iamUserRoleBinding = [] ∧
      (run (callbackStep adminConfig) { db := freshDb } simultaneousLogins).db.iamUserRoleBinding =
        [{ userId := Uuid.replicate 3, roleId := Uuid.replicate 2 },
          { userId := Uuid.replicate 4, roleId := Uuid.replicate 2 }] ∧
      ¬ OnePromoted adminConfig
        (run (callbackStep adminConfig) { db := freshDb } simultaneousLogins) := by
  refine ⟨rfl, by rfl, fun hone => ?_⟩
  have hpromoted : (run (callbackStep adminConfig) { db := freshDb } simultaneousLogins).promoted =
      [firstUser 3 "ann", firstUser 4 "bob"] := by rfl
  have hsame := hone (firstUser 3 "ann") (by rw [hpromoted]; simp) (firstUser 4 "bob")
    (by rw [hpromoted]; simp) rfl rfl
  exact absurd hsame (by decide)

/-- The second user's test comes after the first one's binding. -/
theorem one_promoted_of_tests_alone_in_turn :
    OnePromoted adminConfig (run (callbackStep adminConfig) { db := freshDb }
      [.arrive { subject := "ann" }, .arrive { subject := "bob" }, moveOf 0, moveOf 0, moveOf 1,
        moveOf 0, moveOf 1, moveOf 1]) := by
  refine one_promoted_of_tests_alone adminConfig freshDb _ ?_
  -- the callback of `bob` has not upserted when `ann` is tested, and finds a binding later
  refine ⟨trivial, trivial, ?_, ?_, ?_, ?_, ?_, ?_, trivial⟩
  · intro u hu
    cases hu
  · intro u _ _ _ _ v hv
    change .bindAdmin v ∈ [Callback.hasAnyBinding _, .upsertUser _] at hv
    simp at hv
  · intro u hu
    cases hu
  · intro u hu
    cases hu
  · intro u _ _ hnone
    cases hnone
  · intro u hu
    cases hu

end OpsPlatform.Iam
