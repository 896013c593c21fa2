/-
The users of the two logins (`LocalLogin` and `OIDCCallback` in `internal/iam/handler.go`).

Both upsert into `iam_user` under the subject.  What keeps the local administrator apart from
everybody else is the prefix `local:` of its subject, and nothing keeps an identity provider from
giving such a subject.  A run notes which of the two has inserted a row.
-/
import OpsPlatform.Iam.Login
import OpsPlatform.Lib.Run

namespace OpsPlatform.Iam

open Lib Lib.Run Lib.Table Lib.Text

inductive LoginOp where
  | localLogin (env : LocalEnv) (body : Option LocalLoginRequest)
  | oidcCallback (env : Handler.CallbackEnv) (fetched : Except (ℕ × LoginError) UserProfile)

/-- The database, with the ids of the rows that each login has inserted. -/
structure Logins where
  db : Db
  localRows : List Uuid := []
  oidcRows : List Uuid := []

/-- The users that are there after and were not there before. -/
def newUsers (db db' : Db) : List Uuid :=
  (db'.iamUser.map (·.id)).filter fun id => !(db.iamUser.map (·.id)).contains id

def loginStep (cfg : Config) (bcrypt : Bcrypt) (s : Logins) : LoginOp → Logins
  | .localLogin env body =>
    let db' := (Handler.localLogin cfg bcrypt env s.db body).1
    { s with db := db', localRows := s.localRows ++ newUsers s.db db' }
  | .oidcCallback env fetched =>
    let db' := (Handler.oidcCallback cfg env s.db fetched).1
    { s with db := db', oidcRows := s.oidcRows ++ newUsers s.db db' }

/-- The email and the name of the users with these ids. -/
def profilesOf (rows : List Uuid) (db : Db) : List (Uuid × Option String × Option String) :=
  (db.iamUser.filter fun u => rows.contains u.id).map fun u => (u.id, u.email, u.name)

/-- The two logins keep apart: a callback gives no token for a row of the local login and leaves its
email and name, and the local login provisions no row of a callback. -/
def KeepApart (cfg : Config) (bcrypt : Bcrypt) (s : Logins) : LoginOp → Prop
  | .localLogin env _ => ∀ db' id,
    ensureLocalAdmin s.db bcrypt env cfg.localAdminUsername cfg.localAdminPassword = .ok (db', id) →
      id ∉ s.oidcRows
  | .oidcCallback env fetched =>
    (∀ identity, (Handler.oidcCallback cfg env s.db fetched).2 = .ok identity →
        identity.user.id ∉ s.localRows) ∧
      profilesOf s.localRows (Handler.oidcCallback cfg env s.db fetched).1 =
        profilesOf s.localRows s.db

/-- The profile does not have the subject of the local administrator. -/
def LoginOp.Foreign (cfg : Config) : LoginOp → Prop
  | .localLogin _ _ => True
  | .oidcCallback _ fetched =>
    ∀ profile, fetched = .ok profile → profile.subject ≠ localSubject cfg.localAdminUsername

/-! ### What a login does to the users -/

/-- The user keeps its keys, and with another subject its email and name. -/
structure SameUser (subject : String) (u u' : UserRow) : Prop where
  id : u'.id = u.id
  oidcSubject : u'.oidcSubject = u.oidcSubject
  profile : u.oidcSubject ≠ subject → u'.email = u.email ∧ u'.name = u.name

/-- The user is the first one of the subject. -/
structure NewUser (subject : String) (users : List UserRow) (new : UserRow) : Prop where
  oidcSubject : new.oidcSubject = subject
  fresh : ∀ u ∈ users, u.id ≠ new.id ∧ u.oidcSubject ≠ subject

/-- At most one user is inserted, under the subject, and the others are kept. -/
def UpsertsUser (subject : String) (db db' : Db) : Prop :=
  Revised (SameUser subject) (NewUser subject) db.iamUser db'.iamUser

section

variable {subject : String} {db db' db'' : Db}

lemma SameUser.refl (subject : String) (u : UserRow) : SameUser subject u u :=
  ⟨rfl, rfl, fun _ => ⟨rfl, rfl⟩⟩

lemma upsertsUser_of_iamUser_eq (h : db'.iamUser = db.iamUser) : UpsertsUser subject db db' := by
  rw [UpsertsUser, h]
  exact Revised.refl (SameUser.refl subject) _

lemma UpsertsUser.congr (h : UpsertsUser subject db db') (hdb'' : db''.iamUser = db'.iamUser) :
    UpsertsUser subject db db'' := by
  rwa [UpsertsUser, hdb'']

lemma upsertsUser_upsertBySubject {new u : UserRow} {edit : UserRow → UserRow}
    (hedit : ∀ u, (edit u).id = u.id ∧ (edit u).oidcSubject = u.oidcSubject)
    (h : upsertBySubject db new edit = .ok (db', u)) : UpsertsUser new.oidcSubject db db' := by
  rcases upsertBySubject_eq_ok h with ⟨u₀, -, -, rfl⟩ | ⟨hfind, hfresh, -, rfl⟩
  · refine Revised.updateWhere (SameUser.refl _) (fun u hhit => ?_) _
    exact ⟨(hedit u).1, (hedit u).2, fun hother => absurd (eq_of_beq hhit) hother⟩
  · rw [List.find?_eq_none] at hfind
    refine Revised.append (SameUser.refl _) ⟨rfl, fun u hu => ⟨hfresh u hu, ?_⟩⟩
    simpa using hfind u hu

/-- The user that is upserted has the subject. -/
lemma mem_upsertBySubject {new u : UserRow} {edit : UserRow → UserRow}
    (hedit : ∀ u, (edit u).oidcSubject = u.oidcSubject)
    (h : upsertBySubject db new edit = .ok (db', u)) :
    u ∈ db'.iamUser ∧ u.oidcSubject = new.oidcSubject := by
  rcases upsertBySubject_eq_ok h with ⟨u₀, hfind, rfl, rfl⟩ | ⟨-, -, rfl, rfl⟩
  · have hhit := List.find?_some hfind
    refine ⟨mem_updateWhere.mpr ⟨u₀, List.mem_of_find?_eq_some hfind, Or.inl ⟨hhit, rfl⟩⟩, ?_⟩
    rw [hedit]
    exact eq_of_beq hhit
  · exact ⟨List.mem_append_right _ (List.mem_singleton_self _), rfl⟩

/-- A change that keeps the keys, the email and the name may follow. -/
lemma UpsertsUser.map (h : UpsertsUser subject db db') {k : UserRow → UserRow}
    (hk : ∀ u, (k u).id = u.id ∧ (k u).oidcSubject = u.oidcSubject ∧ (k u).email = u.email ∧
      (k u).name = u.name) (hdb'' : db''.iamUser = db'.iamUser.map k) :
    UpsertsUser subject db db'' := by
  rw [UpsertsUser, hdb'']
  refine Revised.map h (fun u u' hsame => ?_) (fun new hnew => ?_)
  · obtain ⟨hid, hsubject, hemail, hname⟩ := hk u'
    refine ⟨hid.trans hsame.id, hsubject.trans hsame.oidcSubject, fun hother => ?_⟩
    exact ⟨hemail.trans (hsame.profile hother).1, hname.trans (hsame.profile hother).2⟩
  · refine ⟨(hk new).2.1.trans hnew.oidcSubject, ?_⟩
    rw [(hk new).1]
    exact hnew.fresh

end

/-! ### The rows that a login has inserted -/

/-- The rows are there, and their subjects have the property. -/
structure RowsWith (P : String → Prop) (db : Db) (rows : List Uuid) : Prop where
  present : ∀ id ∈ rows, ∃ u ∈ db.iamUser, u.id = id
  subject : ∀ u ∈ db.iamUser, u.id ∈ rows → P u.oidcSubject

section

variable {P : String → Prop} {subject : String} {db db' : Db} {rows : List Uuid}

lemma mem_newUsers {id : Uuid} :
    id ∈ newUsers db db' ↔ (∃ u' ∈ db'.iamUser, u'.id = id) ∧ ∀ u ∈ db.iamUser, u.id ≠ id := by
  simp [newUsers]

/-- The rows of one login, when the other one upserts. -/
lemma RowsWith.upsertsUser (h : RowsWith P db rows) (hupsert : UpsertsUser subject db db') :
    RowsWith P db' rows := by
  constructor
  · intro id hid
    obtain ⟨u, hu, rfl⟩ := h.present id hid
    obtain ⟨u', hu', hsame⟩ := Revised.exists_mem hupsert hu
    exact ⟨u', hu', hsame.id⟩
  · intro u' hu' hid
    rcases Revised.mem_cases hupsert hu' with ⟨u, hu, hsame⟩ | ⟨-, hfresh⟩
    · rw [hsame.oidcSubject]
      exact h.subject u hu (hsame.id ▸ hid)
    · -- a new row has the id of none that was there
      obtain ⟨u, hu, hsame⟩ := h.present _ hid
      exact absurd hsame (hfresh u hu).1

/-- Nor does the other one write to them, when no row of its subject is among them. -/
lemma RowsWith.profilesOf (h : RowsWith P db rows) (hupsert : UpsertsUser subject db db')
    (hother : ¬ P subject) : profilesOf rows db' = profilesOf rows db := by
  obtain ⟨g, hg, hrows⟩ := hupsert
  have hmapped : ((db.iamUser.map g).filter fun u => rows.contains u.id).map
      (fun u => (u.id, u.email, u.name)) = Iam.profilesOf rows db := by
    rw [List.filter_map, List.map_map, Iam.profilesOf]
    have hpred : ((fun u : UserRow => rows.contains u.id) ∘ g) = fun u => rows.contains u.id := by
      funext u
      rw [Function.comp_apply, (hg u).id]
    rw [hpred]
    refine List.map_congr_left fun u hu => ?_
    obtain ⟨hu, hin⟩ := List.mem_filter.mp hu
    have hsubject : u.oidcSubject ≠ subject := by
      rintro rfl
      exact hother (h.subject u hu (List.contains_iff_mem.mp hin))
    obtain ⟨hemail, hname⟩ := (hg u).profile hsubject
    rw [Function.comp_apply, (hg u).id, hemail, hname]
  rcases hrows with hsame | ⟨new, ⟨-, hfresh⟩, hnew⟩
  · rw [Iam.profilesOf, hsame, hmapped]
  · -- the new row has the id of none that was there
    have hout : rows.contains new.id = false := by
      rw [Bool.eq_false_iff, Ne, List.contains_iff_mem]
      intro hin
      obtain ⟨u, hu, hsame⟩ := h.present _ hin
      exact (hfresh u hu).1 hsame
    rw [Iam.profilesOf, hnew, List.filter_append, List.map_append, hmapped]
    simpa using hout

/-- The rows of the login that upserts. -/
lemma RowsWith.newUsers (h : RowsWith P db rows) (hupsert : UpsertsUser subject db db')
    (hP : P subject) : RowsWith P db' (rows ++ newUsers db db') := by
  have hkept := h.upsertsUser hupsert
  constructor
  · intro id hid
    rcases List.mem_append.mp hid with hold | hnew
    · exact hkept.present id hold
    · exact (mem_newUsers.mp hnew).1
  · intro u' hu' hid
    rcases List.mem_append.mp hid with hold | hnew
    · exact hkept.subject u' hu' hold
    · rcases Revised.mem_cases hupsert hu' with ⟨u, hu, hsame⟩ | ⟨hsubject, -⟩
      · exact absurd hsame.id.symm ((mem_newUsers.mp hnew).2 u hu)
      · rw [hsubject]
        exact hP

end

/-! ### The logins upsert -/

section

variable {cfg : Config} {bcrypt : Bcrypt} {db db' : Db}

/-- The local administrator is upserted under the subject of the configuration. -/
lemma upsertsUser_ensureLocalAdmin {env : LocalEnv} {username password : String} {id : Uuid}
    (h : ensureLocalAdmin db bcrypt env username password = .ok (db', id)) :
    UpsertsUser (localSubject username) db db' ∧
      ∃ u ∈ db'.iamUser, u.id = id ∧ u.oidcSubject = localSubject username := by
  rw [ensureLocalAdmin, Except.ite_error_eq_ok, Except.bind_eq_ok] at h
  obtain ⟨-, hash, -, h⟩ := h
  split at h
  · cases h
  · rw [Except.bind_eq_ok] at h
    obtain ⟨⟨db₁, u⟩, hupsert, h⟩ := h
    obtain ⟨rfl, rfl⟩ := Prod.mk.inj (Except.ok.inj h)
    obtain ⟨hmem, hsubject⟩ := mem_upsertBySubject (by intro; rfl) hupsert
    have hrows := upsertsUser_upsertBySubject (by intro; exact ⟨rfl, rfl⟩) hupsert
    exact ⟨hrows.congr rfl, u, hmem, rfl, hsubject⟩

/-- The repository's login notes the time. -/
lemma iamUser_localLogin (env : LocalEnv) (username password : String) :
    ∃ k : UserRow → UserRow,
      (∀ u, (k u).id = u.id ∧ (k u).oidcSubject = u.oidcSubject ∧ (k u).email = u.email ∧
        (k u).name = u.name) ∧
      (localLogin db bcrypt env username password).1.iamUser = db.iamUser.map k := by
  have hself : ∃ k : UserRow → UserRow,
      (∀ u, (k u).id = u.id ∧ (k u).oidcSubject = u.oidcSubject ∧ (k u).email = u.email ∧
        (k u).name = u.name) ∧ db.iamUser = db.iamUser.map k :=
    ⟨id, fun _ => ⟨rfl, rfl, rfl, rfl⟩, (List.map_id _).symm⟩
  rw [localLogin]
  split
  · exact hself
  split
  · exact hself
  split
  · exact hself
  · next l _ =>
    split
    · exact hself
    · cases hnotes : env.notes.2 with
      | false =>
        simp only [noteLogin, hnotes]
        exact hself
      | true =>
        simp only [noteLogin, hnotes, if_true]
        refine ⟨_, fun u => ?_, rfl⟩
        split <;> simp

@[simp] lemma answerLogin_fst (r : Db × Except LoginError UserIdentity) :
    (Handler.answerLogin r).1 = r.1 := by
  obtain ⟨db, e | identity⟩ := r
  · cases e <;> rfl
  · rfl

lemma upsertsUser_localLogin (cfg : Config) (bcrypt : Bcrypt) (env : LocalEnv) (db : Db)
    (body : Option LocalLoginRequest) :
    UpsertsUser (localSubject cfg.localAdminUsername) db
      (Handler.localLogin cfg bcrypt env db body).1 := by
  rw [Handler.localLogin.eq_def]
  split
  · exact upsertsUser_of_iamUser_eq rfl
  dsimp only
  split
  · exact upsertsUser_of_iamUser_eq rfl
  split
  · exact upsertsUser_of_iamUser_eq rfl
  split
  · exact upsertsUser_of_iamUser_eq rfl
  · next db₁ id hok =>
    rw [answerLogin_fst]
    obtain ⟨k, hk, hnoted⟩ := iamUser_localLogin env _ _
    exact (upsertsUser_ensureLocalAdmin hok).1.map hk hnoted

lemma upsertsUser_upsertUser {now : Time} {newId : Uuid} {profile : UserProfile} {u : UserRow}
    (h : upsertUser db now newId profile = .ok (db', u)) :
    UpsertsUser profile.subject db db' ∧ u ∈ db'.iamUser ∧ u.oidcSubject = profile.subject :=
  ⟨upsertsUser_upsertBySubject (by intro; exact ⟨rfl, rfl⟩) h,
    mem_upsertBySubject (by intro; rfl) h⟩

/-- A callback ends before it upserts, or it upserts the user of the profile and gives a token for
no other. -/
lemma oidcCallback_cases (cfg : Config) (env : Handler.CallbackEnv) (db : Db)
    (fetched : Except (ℕ × LoginError) UserProfile) :
    (∃ e, Handler.oidcCallback cfg env db fetched = (db, .error e)) ∨
      ∃ profile, fetched = .ok profile ∧
        UpsertsUser profile.subject db (Handler.oidcCallback cfg env db fetched).1 ∧
        ∀ identity, (Handler.oidcCallback cfg env db fetched).2 = .ok identity →
          ∃ u ∈ (Handler.oidcCallback cfg env db fetched).1.iamUser,
            u.id = identity.user.id ∧ u.oidcSubject = profile.subject := by
  rw [Handler.oidcCallback]
  split
  · exact Or.inl ⟨_, rfl⟩
  · exact Or.inl ⟨_, rfl⟩
  · next profile hfetched _ =>
    obtain ⟨profile', rfl, hprofile⟩ := Except.bind_eq_ok.mp hfetched
    obtain rfl : profile' = profile := (Except.ite_error_eq_ok.mp hprofile).2 |> Except.ok.inj
    split
    · exact Or.inl ⟨_, rfl⟩
    -- the user is written, and a later statement fails
    · next hupsert _ =>
      refine Or.inr ⟨profile', rfl, (upsertsUser_upsertUser hupsert).1, ?_⟩
      intro identity hidentity
      cases hidentity
    · next db₁ u hupsert _ =>
      obtain ⟨hrows, hmem, hsubject⟩ := upsertsUser_upsertUser hupsert
      have husers := iamUser_ensureAdminBinding db₁ u.id cfg.bootstrapAdminSubjects u.oidcSubject
      refine Or.inr ⟨profile', rfl, hrows.congr husers, ?_⟩
      intro identity hidentity
      have hparsed := parse_of_identityForUser (Except.mapError_eq_ok.mp hidentity)
      rw [Uuid.parse_toText] at hparsed
      exact ⟨u, husers ▸ hmem, Option.some.inj hparsed, hsubject⟩

end

/-! ### Runs -/

/-- The rows of the local login have the subject of the configuration, and those of the callbacks
do not. -/
structure RowsApart (cfg : Config) (s : Logins) : Prop where
  localRows : RowsWith (· = localSubject cfg.localAdminUsername) s.db s.localRows
  oidcRows : RowsWith (· ≠ localSubject cfg.localAdminUsername) s.db s.oidcRows

section

variable {cfg : Config} {bcrypt : Bcrypt} {s : Logins} {op : LoginOp}

lemma RowsApart.loginStep (h : RowsApart cfg s) (hforeign : op.Foreign cfg) :
    RowsApart cfg (loginStep cfg bcrypt s op) := by
  cases op with
  | localLogin env body =>
    have hupsert := upsertsUser_localLogin cfg bcrypt env s.db body
    exact ⟨h.localRows.newUsers hupsert rfl, h.oidcRows.upsertsUser hupsert⟩
  | oidcCallback env fetched =>
    rcases oidcCallback_cases cfg env s.db fetched with
      ⟨e, hended⟩ | ⟨profile, hfetched, hupsert, -⟩
    · have hnone : newUsers s.db s.db = [] := by simp [newUsers]
      rw [Iam.loginStep, hended, hnone, List.append_nil]
      exact h
    · exact ⟨h.localRows.upsertsUser hupsert,
        h.oidcRows.newUsers hupsert (hforeign profile hfetched)⟩

lemma RowsApart.keepApart (h : RowsApart cfg s) (hforeign : op.Foreign cfg) :
    KeepApart cfg bcrypt s op := by
  cases op with
  | localLogin env body =>
    intro db' id hok hid
    obtain ⟨hupsert, u, hu, rfl, hsubject⟩ := upsertsUser_ensureLocalAdmin hok
    exact (h.oidcRows.upsertsUser hupsert).subject u hu hid hsubject
  | oidcCallback env fetched =>
    rcases oidcCallback_cases cfg env s.db fetched with
      ⟨e, hended⟩ | ⟨profile, hfetched, hupsert, htoken⟩
    · rw [KeepApart, hended]
      exact ⟨fun _ hidentity => (nomatch hidentity), rfl⟩
    · have hother := hforeign profile hfetched
      refine ⟨fun identity hidentity hid => ?_, h.localRows.profilesOf hupsert hother⟩
      obtain ⟨u, hu, hsame, hsubject⟩ := htoken identity hidentity
      have hlocal := (h.localRows.upsertsUser hupsert).subject u hu (hsame ▸ hid)
      exact hother (hsubject.symm.trans hlocal)

end

/-- **When the identities are disjoint.**  In every run of local logins and callbacks whose
callbacks do not present the subject of the local administrator, no callback gives a token for a row
that a local login has inserted or changes its email or name, and no local login provisions a row
that a callback has inserted. -/
theorem identities_disjoint_of_foreign (cfg : Config) (bcrypt : Bcrypt) (db : Db)
    (ops : List LoginOp) (hforeign : ∀ op ∈ ops, op.Foreign cfg) :
    Along (loginStep cfg bcrypt) (KeepApart cfg bcrypt) { db } ops := by
  have hstart : RowsApart cfg { db } :=
    ⟨⟨by simp, by simp⟩, ⟨by simp, by simp⟩⟩
  generalize ({ db } : Logins) = s at hstart ⊢
  induction ops generalizing s with
  | nil => trivial
  | cons op ops ih =>
    rw [List.forall_mem_cons] at hforeign
    exact ⟨hstart.keepApart hforeign.1, ih hforeign.2 _ (hstart.loginStep hforeign.1)⟩

/-- A local login on a fresh installation. -/
def firstLogin : LoginOp :=
  .localLogin { salt := 7, newUserId := Uuid.replicate 1, provisionedAt := 10, loginAt := 11 }
    (some { username := "admin", password := "admin123456" })

/-- A callback with a profile of this subject. -/
def callbackOf (subject : String) : LoginOp :=
  .oidcCallback { newUserId := Uuid.replicate 5, now := 20 }
    (.ok { subject, email := "eve@example.org", name := "Eve" })

/-- An identity provider gives somebody the subject `local:admin`, and the callback gives a token
for the local administrator, whose name is then that of the profile. -/
theorem callback_takes_local_admin :
    profilesOf [Uuid.replicate 1]
        (run (loginStep adminConfig plainBcrypt) { db := freshDb } [firstLogin]).db =
      [(Uuid.replicate 1, none, some "admin")] ∧
    profilesOf [Uuid.replicate 1]
        (run (loginStep adminConfig plainBcrypt) { db := freshDb }
          [firstLogin, callbackOf "local:admin"]).db =
      [(Uuid.replicate 1, some "eve@example.org", some "Eve")] ∧
    ¬ Along (loginStep adminConfig plainBcrypt) (KeepApart adminConfig plainBcrypt)
        { db := freshDb } [firstLogin, callbackOf "local:admin"] := by
  have hbefore : profilesOf [Uuid.replicate 1]
      (run (loginStep adminConfig plainBcrypt) { db := freshDb } [firstLogin]).db =
        [(Uuid.replicate 1, none, some "admin")] := by rfl
  have hafter : profilesOf [Uuid.replicate 1]
      (run (loginStep adminConfig plainBcrypt) { db := freshDb }
        [firstLogin, callbackOf "local:admin"]).db =
        [(Uuid.replicate 1, some "eve@example.org", some "Eve")] := by rfl
  refine ⟨hbefore, hafter, ?_⟩
  rintro ⟨-, ⟨-, hkept⟩, -⟩
  have hrows : (loginStep adminConfig plainBcrypt { db := freshDb } firstLogin).localRows =
      [Uuid.replicate 1] := by rfl
  rw [hrows] at hkept
  have hchanged := (hafter.symm.trans hkept).trans hbefore
  simp at hchanged

theorem identities_disjoint_of_foreign_subject :
    Along (loginStep adminConfig plainBcrypt) (KeepApart adminConfig plainBcrypt)
        { db := freshDb } [firstLogin, callbackOf "f3a9", firstLogin] := by
  refine identities_disjoint_of_foreign _ _ _ _ fun op hop => ?_
  rw [List.mem_cons, List.mem_cons, List.mem_singleton] at hop
  rcases hop with rfl | rfl | rfl
  · trivial
  · rintro profile ⟨⟩
    decide
  · trivial

end OpsPlatform.Iam
