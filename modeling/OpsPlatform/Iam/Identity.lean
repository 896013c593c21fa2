/-
How an identity is assembled from the rows of a user's roles (`IdentityForUser` and
`parseScopeJSON` in `internal/iam/repository.go`), and what its verdicts mean.

The loop over the rows accumulates, for every permission, a `ScopedPermission` whose scopes
are collected until an unscoped row empties them for good.  `AccOk` says what has been
accumulated after the rows read so far; from it and from the evaluator's own specification
the verdict on a concrete resource is a statement about the rows alone
(`authorize_allowed_iff_admits`), in which their order does not occur.
-/
import OpsPlatform.Db
import OpsPlatform.Iam.Authz
import OpsPlatform.Lib.Table

namespace OpsPlatform.Iam

open Lib

/-- The errors of the repository.  `scopeJSON` is a `scope_json` that is not a list of
constraints. -/
inductive IamError where
  | userNotFound
  | scopeJSON
  | statement (message : String)
deriving DecidableEq

/-! ### The scope column -/

/-- The decoder of the field of `ScopeConstraint` that a key selects. -/
def scopeConstraintField (key : String) :
    Option (ScopeConstraint → Json → Option ScopeConstraint) :=
  if Json.selects "dimension" key then
    some fun c v => (Json.decodeString c.dimension v).map fun s => { c with dimension := s }
  else if Json.selects "op" key then
    some fun c v =>
      (Json.decodeString c.op.toString v).map fun s => { c with op := ScopeOp.ofString s }
  else if Json.selects "values" key then
    some fun c v => (Json.decodeStrings c.values v).map fun ss => { c with values := ss }
  else none

/-- One element of the array. -/
def unmarshalConstraint : Json → Option ScopeConstraint
  | .null => some {}
  | .obj fields => Json.decodeStruct scopeConstraintField {} fields
  | _ => none

/-- `json.Unmarshal(raw, &scope)`. -/
def unmarshalScope : Json → Option Scope
  | .arr items => items.mapM unmarshalConstraint
  | _ => none

/-- `parseScopeJSON`: SQL `NULL`, the JSON `null` and the empty list are unscoped. -/
def parseScopeJSON : Option Json → Except IamError Scope
  | none => .ok []
  | some .null => .ok []
  | some (.arr []) => .ok []
  | some raw =>
    match unmarshalScope raw with
    | none => .error .scopeJSON
    | some scope => .ok scope

/-! ### The loop over the rows -/

/-- A row of the join over the user's roles.  A role without permissions gives one row whose
other columns are `NULL`. -/
structure PermissionRow where
  role : String
  resource : Option String
  action : Option String
  scopeRaw : Option Json

/-- `resource.String + ":" + action.String`, when both are valid. -/
def PermissionRow.permission (row : PermissionRow) : Option String :=
  match row.resource, row.action with
  | some resource, some action => some (resource ++ ":" ++ action)
  | _, _ => none

/-- The maps of the loop: `roleSet`, `permSet` and `scopedAcc`. -/
structure IdentityAcc where
  roleSet : List String := []
  permSet : List String := []
  scopedAcc : List ScopedPermission := []

/-- One more source of a permission.  An unscoped one widens it to everything. -/
def ScopedPermission.addSource (sp : ScopedPermission) (role : String) (scope : Scope) :
    ScopedPermission :=
  { sp with
    sources := sp.sources ++ [{ kind := "role", ref := role, scope := scope }]
    unscoped := scope.length = 0 || sp.unscoped
    scopes :=
      if scope.length = 0 then []
      else if sp.unscoped then sp.scopes else sp.scopes ++ [scope] }

/-- The entry of `scopedAcc` under the permission of `fresh` gets one more source; `fresh` is
what a missing entry starts from. -/
def addToAcc (fresh : ScopedPermission) (role : String) (scope : Scope) :
    List ScopedPermission → List ScopedPermission
  | [] => [fresh.addSource role scope]
  | sp :: sps =>
    if sp.permission = fresh.permission then sp.addSource role scope :: sps
    else sp :: addToAcc fresh role scope sps

/-- The body of the loop. -/
def addRow (acc : IdentityAcc) (row : PermissionRow) : Except IamError IdentityAcc :=
  let acc := { acc with roleSet := acc.roleSet.insert row.role }
  match row.resource, row.action with
  | some resource, some action =>
    let perm := resource ++ ":" ++ action
    match parseScopeJSON row.scopeRaw with
    | .error e => .error e
    | .ok scope =>
      .ok { acc with
            permSet := acc.permSet.insert perm
            scopedAcc := addToAcc { permission := perm, resource, action } row.role scope
              acc.scopedAcc }
  | _, _ => .ok acc

def addRows : IdentityAcc → List PermissionRow → Except IamError IdentityAcc
  | acc, [] => .ok acc
  | acc, row :: rows =>
    match addRow acc row with
    | .error e => .error e
    | .ok acc => addRows acc rows

/-- `IdentityForUser` from the point where the rows have been read. -/
def identityOfRows (user : User) (rows : List PermissionRow) : Except IamError UserIdentity :=
  match addRows {} rows with
  | .error e => .error e
  | .ok acc =>
    let perms := acc.permSet.insertionSort (· ≤ ·)
    .ok { user
          roles := acc.roleSet.insertionSort (· ≤ ·)
          permissions := perms
          scopedPermissions :=
            perms.filterMap fun perm => acc.scopedAcc.find? (·.permission == perm) }

/-- The join of `iam_user_role_binding`, `iam_role` and `iam_role_permission`, by role
name. -/
def permissionRows (db : Db) (userId : Uuid) : List PermissionRow :=
  let joined := (db.iamUserRoleBinding.filter (·.userId = userId)).flatMap fun b =>
    (db.iamRole.filter (·.id = b.roleId)).flatMap fun r =>
      match db.iamRolePermission.filter (·.roleId = r.id) with
      | [] => [{ role := r.name, resource := none, action := none, scopeRaw := none }]
      | permissions => permissions.map fun rp =>
          { role := r.name, resource := some rp.resource, action := some rp.action,
            scopeRaw := rp.scopeJson }
  joined.insertionSort fun r s => r.role ≤ s.role

/-- `IdentityForUser`. -/
def identityForUser (db : Db) (userID : String) : Except IamError UserIdentity :=
  match Uuid.parse userID with
  | none => .error (.statement ("invalid input syntax for type uuid: \"" ++ userID ++ "\""))
  | some id =>
    match db.iamUser.find? (·.id = id) with
    | none => .error .userNotFound
    | some row =>
      identityOfRows
        { id := row.id, oidcSubject := row.oidcSubject, email := row.email.getD "",
          name := row.name.getD "" }
        (permissionRows db id)

/-- An identity comes from the rows of its user. -/
lemma identityOfRows_of_identityForUser {db : Db} {userId : Uuid} {identity : UserIdentity}
    (h : identityForUser db userId.toText = .ok identity) :
    ∃ user, identityOfRows user (permissionRows db userId) = .ok identity := by
  rw [identityForUser, Uuid.parse_toText] at h
  dsimp only at h
  split at h
  · cases h
  · exact ⟨_, h⟩

/-- The user of an identity is the one whose id was asked for. -/
lemma parse_of_identityForUser {db : Db} {userID : String} {identity : UserIdentity}
    (h : identityForUser db userID = .ok identity) :
    Uuid.parse userID = some identity.user.id := by
  rw [identityForUser] at h
  split at h
  · cases h
  · next id hid =>
    split at h
    · cases h
    · next row hrow =>
      rw [identityOfRows] at h
      split at h
      · cases h
      · obtain rfl := Except.ok.inj h
        have hfound := List.find?_some hrow
        rw [hid, ← of_decide_eq_true hfound]

/-- An identity depends on the rows of its own user only. -/
lemma identityForUser_congr {db db' : Db} {userID : String} {id : Uuid}
    (hid : Uuid.parse userID = some id)
    (huser : db.iamUser.filter (·.id = id) = db'.iamUser.filter (·.id = id))
    (hrows : permissionRows db id = permissionRows db' id) :
    identityForUser db userID = identityForUser db' userID := by
  have hfind : db.iamUser.find? (·.id = id) = db'.iamUser.find? (·.id = id) := by
    rw [← List.head?_filter, huser, List.head?_filter]
  rw [identityForUser, identityForUser, hid]
  dsimp only
  rw [hfind, hrows]

/-! ### What the rows say -/

/-- The row holds the permission and its scope parses to `scope`. -/
def PermissionRow.Holds (row : PermissionRow) (perm : String) (scope : Scope) : Prop :=
  row.permission = some perm ∧ parseScopeJSON row.scopeRaw = .ok scope

/-- The meaning of a user's rows for one permission on a concrete resource: some row makes
the user an admin, or some row of the permission has a scope that the attributes satisfy. -/
def Admits (rows : List PermissionRow) (perm : String) (attrs : Attrs) : Prop :=
  (∃ row ∈ rows, row.permission = some adminPermission) ∨
    ∃ row ∈ rows, ∃ scope, row.Holds perm scope ∧
      (scope = [] ∨ ∀ c ∈ scope, ConstraintHolds c attrs)

/-- What the loop has accumulated for one permission: nothing when no row held it, and
otherwise an entry that is unscoped as soon as one row was, and that else carries exactly the
scopes of the rows. -/
structure EntryOk (rows : List PermissionRow) (perm : String) (entry : Option ScopedPermission) :
    Prop where
  isSome_iff : entry.isSome = true ↔ ∃ row ∈ rows, row.permission = some perm
  unscoped_iff : ∀ sp, entry = some sp → (sp.unscoped = true ↔ ∃ row ∈ rows, row.Holds perm [])
  mem_scopes_iff : ∀ sp, entry = some sp → sp.unscoped = false →
    ∀ scope, scope ∈ sp.scopes ↔ ∃ row ∈ rows, row.Holds perm scope

/-- The invariant of the loop. -/
structure AccOk (rows : List PermissionRow) (acc : IdentityAcc) : Prop where
  mem_permSet_iff : ∀ perm, perm ∈ acc.permSet ↔ ∃ row ∈ rows, row.permission = some perm
  entry_ok : ∀ perm, EntryOk rows perm (acc.scopedAcc.find? (·.permission == perm))

lemma accOk_nil : AccOk [] {} where
  mem_permSet_iff perm := by simp
  entry_ok perm := ⟨by simp, by simp, by simp⟩

/-! ### One row -/

@[simp] lemma addSource_permission (sp : ScopedPermission) (role : String) (scope : Scope) :
    (sp.addSource role scope).permission = sp.permission := rfl

lemma find?_addToAcc_self (fresh : ScopedPermission) (role : String) (scope : Scope)
    (sps : List ScopedPermission) :
    (addToAcc fresh role scope sps).find? (·.permission == fresh.permission) =
      some (((sps.find? (·.permission == fresh.permission)).getD fresh).addSource role scope) := by
  induction sps with
  | nil => simp [addToAcc]
  | cons sp sps ih =>
    rw [addToAcc]
    by_cases h : sp.permission = fresh.permission
    · simp [h]
    · simp [h, ih]

lemma find?_addToAcc_of_ne {fresh : ScopedPermission} {perm : String} (role : String)
    (scope : Scope) (h : perm ≠ fresh.permission) (sps : List ScopedPermission) :
    (addToAcc fresh role scope sps).find? (·.permission == perm) =
      sps.find? (·.permission == perm) := by
  induction sps with
  | nil => simp [addToAcc, h.symm]
  | cons sp sps ih =>
    rw [addToAcc]
    by_cases hsp : sp.permission = fresh.permission
    · simp [hsp, h.symm]
    · rw [if_neg hsp, List.find?_cons, List.find?_cons, ih]

/-- A row of another permission, or of none, changes nothing about a permission's entry. -/
lemma EntryOk.concat_of_ne {rows : List PermissionRow} {perm : String}
    {entry : Option ScopedPermission} (h : EntryOk rows perm entry) {row : PermissionRow}
    (hrow : row.permission ≠ some perm) : EntryOk (rows ++ [row]) perm entry := by
  have key : ∀ P : PermissionRow → Prop, (P row → row.permission = some perm) →
      ((∃ r ∈ rows ++ [row], P r) ↔ ∃ r ∈ rows, P r) := by
    intro P hP
    constructor
    · rintro ⟨r, hr, hPr⟩
      rcases List.mem_append.mp hr with hr | hr
      · exact ⟨r, hr, hPr⟩
      · rw [List.mem_singleton.mp hr] at hPr
        exact absurd (hP hPr) hrow
    · rintro ⟨r, hr, hPr⟩
      exact ⟨r, List.mem_append_left _ hr, hPr⟩
  refine ⟨?_, ?_, ?_⟩
  · rw [key _ id]
    exact h.isSome_iff
  · intro sp hsp
    rw [key _ fun hP => hP.1]
    exact h.unscoped_iff sp hsp
  · intro sp hsp hun scope
    rw [key _ fun hP => hP.1]
    exact h.mem_scopes_iff sp hsp hun scope

lemma exists_mem_concat {rows : List PermissionRow} {row : PermissionRow}
    {P : PermissionRow → Prop} : (∃ r ∈ rows ++ [row], P r) ↔ (∃ r ∈ rows, P r) ∨ P row := by
  constructor
  · rintro ⟨r, hr, hP⟩
    rcases List.mem_append.mp hr with hr | hr
    · exact Or.inl ⟨r, hr, hP⟩
    · exact Or.inr (List.mem_singleton.mp hr ▸ hP)
  · rintro (⟨r, hr, hP⟩ | hP)
    · exact ⟨r, List.mem_append_left _ hr, hP⟩
    · exact ⟨row, by simp, hP⟩

/-- An entry before its first row. -/
structure ScopedPermission.IsFresh (sp : ScopedPermission) : Prop where
  unscoped : sp.unscoped = false
  scopes : sp.scopes = []
  sources : sp.sources = []

/-- A row of the permission adds its scope to the entry. -/
lemma EntryOk.concat {rows : List PermissionRow} {perm : String}
    {entry : Option ScopedPermission} (h : EntryOk rows perm entry) {row : PermissionRow}
    {scope : Scope} (hrow : row.Holds perm scope) {fresh : ScopedPermission}
    (hfresh : fresh.IsFresh) :
    EntryOk (rows ++ [row]) perm (some ((entry.getD fresh).addSource row.role scope)) := by
  have hscope : ∀ sc, row.Holds perm sc ↔ sc = scope := by
    intro sc
    constructor
    · intro hsc
      have := hsc.2.symm.trans hrow.2
      exact Except.ok.inj this
    · rintro rfl
      exact hrow
  -- what the entry, or a fresh one in its place, says about the rows read before
  have hun : (entry.getD fresh).unscoped = true ↔ ∃ r ∈ rows, r.Holds perm [] := by
    cases entry with
    | some sp => exact h.unscoped_iff sp rfl
    | none =>
      simp only [Option.getD_none, hfresh.unscoped, Bool.false_eq_true, false_iff]
      rintro ⟨r, hr, hh⟩
      exact absurd (h.isSome_iff.mpr ⟨r, hr, hh.1⟩) (by simp)
  have hmem : (entry.getD fresh).unscoped = false → ∀ sc, sc ∈ (entry.getD fresh).scopes ↔
      ∃ r ∈ rows, r.Holds perm sc := by
    intro hf sc
    cases entry with
    | some sp => exact h.mem_scopes_iff sp rfl hf sc
    | none =>
      simp only [Option.getD_none, hfresh.scopes, List.not_mem_nil, false_iff]
      rintro ⟨r, hr, hh⟩
      exact absurd (h.isSome_iff.mpr ⟨r, hr, hh.1⟩) (by simp)
  refine ⟨?_, ?_, ?_⟩
  · rw [exists_mem_concat]
    simp [hrow.1]
  · rintro sp ⟨⟩
    rw [exists_mem_concat, hscope, ← hun, ScopedPermission.addSource]
    simp only [Bool.or_eq_true, decide_eq_true_eq, List.length_eq_zero_iff]
    rw [or_comm, eq_comm (a := scope)]
  · rintro sp ⟨⟩ hf sc
    simp only [ScopedPermission.addSource, Bool.or_eq_false_iff, decide_eq_false_iff_not] at hf
    rw [exists_mem_concat, hscope, ← hmem hf.2 sc]
    simp [ScopedPermission.addSource, hf.1, hf.2]

/-- What one row does to the accumulated maps: it may add its permission, and the entry of a
permission gets one more source when the row is of this permission. -/
lemma addRow_cases {acc acc' : IdentityAcc} {row : PermissionRow}
    (hadd : addRow acc row = .ok acc') (perm : String) :
    (perm ∈ acc'.permSet ↔ perm ∈ acc.permSet ∨ row.permission = some perm) ∧
      ((row.permission ≠ some perm ∧ acc'.scopedAcc.find? (·.permission == perm) =
          acc.scopedAcc.find? (·.permission == perm)) ∨
        ∃ scope fresh, row.Holds perm scope ∧ ScopedPermission.IsFresh fresh ∧
          acc'.scopedAcc.find? (·.permission == perm) =
            some (((acc.scopedAcc.find? (·.permission == perm)).getD fresh).addSource
              row.role scope)) := by
  rw [addRow] at hadd
  split at hadd
  · next resource action hres hact =>
    have hperm : row.permission = some (resource ++ ":" ++ action) := by
      simp [PermissionRow.permission, hres, hact]
    split at hadd
    · cases hadd
    · next scope hscope =>
      obtain rfl := Except.ok.inj hadd
      refine ⟨?_, ?_⟩
      · rw [hperm, List.mem_insert_iff, Option.some.injEq, or_comm, eq_comm]
      · by_cases hp : perm = resource ++ ":" ++ action
        · subst hp
          exact Or.inr ⟨scope, _, ⟨hperm, hscope⟩, ⟨rfl, rfl, rfl⟩, find?_addToAcc_self
            { permission := resource ++ ":" ++ action, resource := resource, action := action }
            row.role scope acc.scopedAcc⟩
        · refine Or.inl ⟨?_, find?_addToAcc_of_ne row.role scope hp acc.scopedAcc⟩
          rw [hperm]
          exact fun h' => hp (Option.some.inj h').symm
  · next hnone =>
    have hperm : row.permission = none := by
      rw [PermissionRow.permission]
      split
      · next r a hr ha => exact absurd ha (hnone r a hr)
      · rfl
    obtain rfl := Except.ok.inj hadd
    simp [hperm]

/-- An invariant of the loop, by induction on the rows that are still to be read. -/
lemma addRows_invariant {I : List PermissionRow → IdentityAcc → Prop}
    (hstep : ∀ {rows acc row acc'}, I rows acc → addRow acc row = .ok acc' → I (rows ++ [row]) acc')
    {rest : List PermissionRow} : ∀ {rows : List PermissionRow} {acc acc' : IdentityAcc},
      I rows acc → addRows acc rest = .ok acc' → I (rows ++ rest) acc' := by
  induction rest with
  | nil =>
    intro rows acc acc' h hadd
    obtain rfl := Except.ok.inj hadd
    simpa using h
  | cons row rest ih =>
    intro rows acc acc' h hadd
    rw [addRows] at hadd
    split at hadd
    · cases hadd
    · next acc₁ h₁ =>
      have := ih (hstep h h₁) hadd
      simpa using this

lemma addRow_ok {rows : List PermissionRow} {acc acc' : IdentityAcc} {row : PermissionRow}
    (h : AccOk rows acc) (hadd : addRow acc row = .ok acc') : AccOk (rows ++ [row]) acc' where
  mem_permSet_iff perm := by
    rw [(addRow_cases hadd perm).1, exists_mem_concat, h.mem_permSet_iff]
  entry_ok perm := by
    rcases (addRow_cases hadd perm).2 with ⟨hne, heq⟩ | ⟨scope, fresh, hrow, hfresh, heq⟩
    · rw [heq]
      exact (h.entry_ok perm).concat_of_ne hne
    · rw [heq]
      exact (h.entry_ok perm).concat hrow hfresh

lemma addRows_ok {rows : List PermissionRow} {acc : IdentityAcc}
    (hadd : addRows {} rows = .ok acc) : AccOk rows acc := by
  simpa using addRows_invariant addRow_ok accOk_nil hadd

/-! ### The identity -/

/-- What an identity carries, in terms of the rows it was built from. -/
structure BuiltFrom (rows : List PermissionRow) (id : UserIdentity) : Prop where
  mem_permissions_iff : ∀ perm, perm ∈ id.permissions ↔ ∃ row ∈ rows, row.permission = some perm
  entry_ok : ∀ perm, EntryOk rows perm (id.scopedPermission perm)

lemma find?_filterMap_find? (sps : List ScopedPermission) (perms : List String) (perm : String) :
    (perms.filterMap fun p => sps.find? (·.permission == p)).find? (·.permission == perm) =
      if perm ∈ perms then sps.find? (·.permission == perm) else none := by
  have hfound : ∀ p sp, sps.find? (·.permission == p) = some sp → sp.permission = p := by
    intro p sp h
    simpa using List.find?_some h
  induction perms with
  | nil => simp
  | cons p perms ih =>
    rw [List.filterMap_cons]
    by_cases hp : perm = p
    · subst hp
      cases h : sps.find? (·.permission == perm) with
      | none => simp [ih, h]
      | some sp => simp [hfound perm sp h]
    · cases h : sps.find? (·.permission == p) with
      | none => simp [ih, hp]
      | some sp =>
        have : ¬ sp.permission = perm := fun h' => hp (h'.symm.trans (hfound p sp h))
        simp [ih, hp, this]

/-- An identity carries what the loop has accumulated. -/
lemma identityOfRows_eq_ok {user : User} {rows : List PermissionRow} {id : UserIdentity}
    (h : identityOfRows user rows = .ok id) :
    id.user = user ∧ ∃ acc, addRows {} rows = .ok acc ∧
      (∀ perm, perm ∈ id.permissions ↔ perm ∈ acc.permSet) ∧
      ∀ perm, id.scopedPermission perm = acc.scopedAcc.find? (·.permission == perm) := by
  rw [identityOfRows] at h
  split at h
  · cases h
  · next acc hacc =>
    have hok := addRows_ok hacc
    obtain rfl := Except.ok.inj h
    refine ⟨rfl, acc, hacc, fun perm => List.mem_insertionSort _, fun perm => ?_⟩
    rw [UserIdentity.scopedPermission, find?_filterMap_find?]
    split
    · rfl
    · next hmem =>
      rw [List.mem_insertionSort] at hmem
      -- a permission that is not in the list has no entry in the map either
      symm
      rw [← Option.not_isSome_iff_eq_none, (hok.entry_ok perm).isSome_iff, ← hok.mem_permSet_iff]
      exact hmem

lemma builtFrom_of_identityOfRows {user : User} {rows : List PermissionRow} {id : UserIdentity}
    (h : identityOfRows user rows = .ok id) : BuiltFrom rows id ∧ id.user = user := by
  obtain ⟨huser, acc, hacc, hperms, hentry⟩ := identityOfRows_eq_ok h
  have hok := addRows_ok hacc
  refine ⟨⟨fun perm => ?_, fun perm => ?_⟩, huser⟩
  · rw [hperms, hok.mem_permSet_iff]
  · rw [hentry]
    exact hok.entry_ok perm

lemma BuiltFrom.isAdmin_iff {rows : List PermissionRow} {id : UserIdentity}
    (h : BuiltFrom rows id) :
    isAdmin id = true ↔ ∃ row ∈ rows, row.permission = some adminPermission := by
  rw [Iam.isAdmin_iff, h.mem_permissions_iff]

/-- The verdict of the evaluator is the meaning of the rows. -/
lemma BuiltFrom.allowed_iff_admits {rows : List PermissionRow} {id : UserIdentity}
    (h : BuiltFrom rows id) (perm : String) (attrs : Attrs) :
    (id.authorize perm (some attrs)).allowed = true ↔ Admits rows perm attrs := by
  cases ha : isAdmin id with
  | true =>
    have hadmin := h.isAdmin_iff.mp ha
    simp [(authorize_of_isAdmin ha (some attrs)).1, Admits, hadmin]
  | false =>
    have hadmin : ¬ ∃ row ∈ rows, row.permission = some adminPermission := by
      rw [← h.isAdmin_iff, ha]
      simp
    have hentry := h.entry_ok perm
    rw [authorize_some_allowed_iff ha, Admits, or_iff_right hadmin]
    constructor
    · rintro (⟨hnone, hmem⟩ | ⟨sp, hsp, hun | ⟨sc, hsc, hm⟩⟩)
      · -- every permission of the coarse list has a scoped entry
        have hsome := hentry.isSome_iff.mpr ((h.mem_permissions_iff perm).mp hmem)
        rw [hnone] at hsome
        simp at hsome
      -- an unscoped entry comes from a row without constraints
      · obtain ⟨row, hrow, hh⟩ := (hentry.unscoped_iff sp hsp).mp hun
        exact ⟨row, hrow, [], hh, Or.inl rfl⟩
      · cases hun : sp.unscoped with
        | true =>
          obtain ⟨row, hrow, hh⟩ := (hentry.unscoped_iff sp hsp).mp hun
          exact ⟨row, hrow, [], hh, Or.inl rfl⟩
        | false =>
          obtain ⟨row, hrow, hh⟩ := (hentry.mem_scopes_iff sp hsp hun sc).mp hsc
          exact ⟨row, hrow, sc, hh, Or.inr ((Scope.matches_iff sc attrs).mp hm)⟩
    · rintro ⟨row, hrow, scope, hh, hsat⟩
      obtain ⟨sp, hsp⟩ := Option.isSome_iff_exists.mp (hentry.isSome_iff.mpr ⟨row, hrow, hh.1⟩)
      refine Or.inr ⟨sp, hsp, ?_⟩
      cases hun : sp.unscoped with
      | true => exact Or.inl rfl
      | false =>
        refine Or.inr ⟨scope, (hentry.mem_scopes_iff sp hsp hun scope).mpr ⟨row, hrow, hh⟩, ?_⟩
        rw [Scope.matches_iff]
        rcases hsat with rfl | hsat
        · simp
        · exact hsat

/-- Every row of the permission is scoped. -/
def AllScoped (rows : List PermissionRow) (perm : String) : Prop :=
  ∀ row ∈ rows, ¬ row.Holds perm []

/-- Some scope of the permission holds of the attributes. -/
def SatisfiesScope (rows : List PermissionRow) (perm : String) (attrs : Attrs) : Prop :=
  ∃ row ∈ rows, ∃ scope, row.Holds perm scope ∧ ∀ c ∈ scope, ConstraintHolds c attrs

/-- For a user who is no admin the scopes alone decide about a concrete resource. -/
lemma BuiltFrom.allowed_iff_satisfiesScope {rows : List PermissionRow} {id : UserIdentity}
    (h : BuiltFrom rows id) (ha : isAdmin id = false) (perm : String) (attrs : Attrs) :
    (id.authorize perm (some attrs)).allowed = true ↔ SatisfiesScope rows perm attrs := by
  have hadmin : ¬ ∃ row ∈ rows, row.permission = some adminPermission := by
    rw [← h.isAdmin_iff, ha]
    simp
  rw [h.allowed_iff_admits, Admits, or_iff_right hadmin, SatisfiesScope]
  constructor
  · rintro ⟨row, hrow, scope, hh, rfl | hsat⟩
    · exact ⟨row, hrow, [], hh, by simp⟩
    · exact ⟨row, hrow, scope, hh, hsat⟩
  · rintro ⟨row, hrow, scope, hh, hsat⟩
    exact ⟨row, hrow, scope, hh, Or.inr hsat⟩

/-- On the general question a user with scoped rows only gets a partial answer, or none. -/
lemma BuiltFrom.isPartial_of_allScoped {rows : List PermissionRow} {id : UserIdentity}
    (h : BuiltFrom rows id) (ha : isAdmin id = false) {perm : String}
    (hs : AllScoped rows perm) (hallowed : (id.authorize perm none).allowed = true) :
    (id.authorize perm none).isPartial = true := by
  cases hsp : id.scopedPermission perm with
  | none =>
    -- without an entry the permission is not in the coarse list either
    have hmem : perm ∉ id.permissions := by
      rw [h.mem_permissions_iff, ← (h.entry_ok perm).isSome_iff, hsp]
      simp
    simp [UserIdentity.authorize, ha, hsp, hmem] at hallowed
  | some sp =>
    refine authorize_none_of_scoped ha hsp ?_
    rw [← Bool.not_eq_true, (h.entry_ok perm).unscoped_iff sp hsp]
    rintro ⟨row, hrow, hh⟩
    exact hs row hrow hh

/-- The general question is answered with yes when some row holds the permission. -/
lemma BuiltFrom.authorize_none_allowed_iff {rows : List PermissionRow} {id : UserIdentity}
    (h : BuiltFrom rows id) (ha : isAdmin id = false) (perm : String) :
    (id.authorize perm none).allowed = true ↔ ∃ row ∈ rows, row.permission = some perm := by
  rw [← (h.entry_ok perm).isSome_iff]
  cases hsp : id.scopedPermission perm with
  | none =>
    have hmem : perm ∉ id.permissions := by
      rw [h.mem_permissions_iff, ← (h.entry_ok perm).isSome_iff, hsp]
      simp
    simp [UserIdentity.authorize, ha, hsp, hmem]
  | some sp => cases hun : sp.unscoped <;> simp [UserIdentity.authorize, ha, hsp, hun]

/-- One unscoped row answers every question in full. -/
lemma BuiltFrom.authorize_of_unscoped {rows : List PermissionRow} {id : UserIdentity}
    (h : BuiltFrom rows id) {perm : String} {row : PermissionRow} (hrow : row ∈ rows)
    (hh : row.Holds perm []) (attrs : Option Attrs) :
    (id.authorize perm attrs).allowed = true ∧ (id.authorize perm attrs).isPartial = false := by
  have hentry := h.entry_ok perm
  obtain ⟨sp, hsp⟩ := Option.isSome_iff_exists.mp (hentry.isSome_iff.mpr ⟨row, hrow, hh.1⟩)
  exact Iam.authorize_of_unscoped hsp ((hentry.unscoped_iff sp hsp).mpr ⟨row, hrow, hh⟩) attrs

/-- The meaning of the rows is monotone in their set. -/
lemma Admits.mono {rows rows' : List PermissionRow} {perm : String} {attrs : Attrs}
    (hsub : ∀ row ∈ rows, row ∈ rows') (h : Admits rows perm attrs) :
    Admits rows' perm attrs := by
  rcases h with ⟨row, hrow, hp⟩ | ⟨row, hrow, scope, hh, hsat⟩
  · exact Or.inl ⟨row, hsub row hrow, hp⟩
  · exact Or.inr ⟨row, hsub row hrow, scope, hh, hsat⟩

/-- The loop fails exactly on a row with a permission whose scope does not parse. -/
lemma addRows_isOk_iff {rows : List PermissionRow} (acc : IdentityAcc) :
    (∃ acc', addRows acc rows = .ok acc') ↔ ∀ row ∈ rows, ∀ perm, row.permission = some perm →
      ∃ scope, parseScopeJSON row.scopeRaw = .ok scope := by
  have hrow : ∀ acc row, (∃ acc', addRow acc row = .ok acc') ↔ ∀ perm,
      row.permission = some perm → ∃ scope, parseScopeJSON row.scopeRaw = .ok scope := by
    intro acc row
    obtain ⟨role, resource, action, scopeRaw⟩ := row
    cases resource <;> cases action <;> simp [addRow, PermissionRow.permission]
    cases parseScopeJSON scopeRaw <;> simp
  induction rows generalizing acc with
  | nil => simp [addRows]
  | cons row rows ih =>
    rw [addRows, List.forall_mem_cons, ← hrow acc row]
    cases hadd : addRow acc row with
    | error e => simp
    | ok acc₁ => simp [ih acc₁]

lemma identityOfRows_isOk_iff {user : User} {rows : List PermissionRow} :
    (∃ id, identityOfRows user rows = .ok id) ↔ ∀ row ∈ rows, ∀ perm,
      row.permission = some perm → ∃ scope, parseScopeJSON row.scopeRaw = .ok scope := by
  rw [← addRows_isOk_iff {}, identityOfRows]
  cases addRows {} rows <;> simp

/-- The roles of an identity are those of its rows. -/
lemma mem_roles_of_identityOfRows {user : User} {rows : List PermissionRow} {id : UserIdentity}
    (h : identityOfRows user rows = .ok id) (name : String) :
    name ∈ id.roles ↔ ∃ row ∈ rows, row.role = name := by
  rw [identityOfRows] at h
  split at h
  · cases h
  · next acc hacc =>
    obtain rfl := Except.ok.inj h
    let I : List PermissionRow → IdentityAcc → Prop := fun rows acc =>
      ∀ name, name ∈ acc.roleSet ↔ ∃ row ∈ rows, row.role = name
    have hstep : ∀ {rows acc row acc'}, I rows acc → addRow acc row = .ok acc' →
        I (rows ++ [row]) acc' := by
      intro rows acc row acc' hI hadd name
      have hset : acc'.roleSet = acc.roleSet.insert row.role := by
        rw [addRow] at hadd
        split at hadd
        · split at hadd
          · cases hadd
          · exact (Except.ok.inj hadd).symm ▸ rfl
        · exact (Except.ok.inj hadd).symm ▸ rfl
      rw [hset, List.mem_insert_iff, hI name, exists_mem_concat, or_comm, eq_comm]
    have hinit : I [] {} := by simp [I]
    have hI : I rows acc := addRows_invariant hstep hinit hacc
    rw [List.mem_insertionSort, hI name]

lemma exists_permissionRows_role_iff {db : Db} {userId : Uuid} {name : String} :
    (∃ row ∈ permissionRows db userId, row.role = name) ↔
      ∃ b ∈ db.iamUserRoleBinding, b.userId = userId ∧
        ∃ r ∈ db.iamRole, r.id = b.roleId ∧ r.name = name := by
  simp only [permissionRows, List.mem_insertionSort, List.mem_flatMap, List.mem_filter,
    decide_eq_true_eq]
  constructor
  · rintro ⟨row, ⟨b, ⟨hb, huser⟩, r, ⟨hr, hrole⟩, hrow⟩, rfl⟩
    refine ⟨b, hb, huser, r, hr, hrole, ?_⟩
    split at hrow
    · rw [List.mem_singleton.mp hrow]
    · obtain ⟨rp, -, rfl⟩ := List.mem_map.mp hrow
      rfl
  · rintro ⟨b, hb, huser, r, hr, hrole, rfl⟩
    cases hp : db.iamRolePermission.filter (·.roleId = r.id) with
    | nil => exact ⟨_, ⟨b, ⟨hb, huser⟩, r, ⟨hr, hrole⟩, by rw [hp]; exact List.mem_cons_self⟩, rfl⟩
    | cons rp rps =>
      refine ⟨{ role := r.name, resource := some rp.resource, action := some rp.action
                scopeRaw := rp.scopeJson }, ⟨b, ⟨hb, huser⟩, r, ⟨hr, hrole⟩, ?_⟩, rfl⟩
      rw [hp]
      exact List.mem_cons_self

/-- The roles of an identity are those that are bound to its user. -/
lemma mem_roles_of_identityForUser {db : Db} {userID : String} {identity : UserIdentity}
    (h : identityForUser db userID = .ok identity) (name : String) :
    name ∈ identity.roles ↔ ∃ b ∈ db.iamUserRoleBinding, b.userId = identity.user.id ∧
      ∃ r ∈ db.iamRole, r.id = b.roleId ∧ r.name = name := by
  have hid := parse_of_identityForUser h
  rw [identityForUser, hid] at h
  dsimp only at h
  split at h
  · cases h
  · rw [mem_roles_of_identityOfRows h, exists_permissionRows_role_iff]

/-- **The evaluator decides what the rows say**: on a concrete resource an identity is allowed
exactly when a row makes it an admin or a row of the permission has a scope that the attributes
satisfy.  So the rows in another order give an identity with the same verdict, and more rows,
as a further role binding brings them, never deny what was allowed. -/
theorem authorize_allowed_iff_admits {user : User} {rows : List PermissionRow}
    {id : UserIdentity} (h : identityOfRows user rows = .ok id) (perm : String) (attrs : Attrs) :
    ((id.authorize perm (some attrs)).allowed = true ↔ Admits rows perm attrs) ∧
      (∀ rows', rows.Perm rows' → ∃ id', identityOfRows user rows' = .ok id' ∧
        (id'.authorize perm (some attrs)).allowed = (id.authorize perm (some attrs)).allowed) ∧
      ∀ rows' id', rows ⊆ rows' → identityOfRows user rows' = .ok id' →
        (id.authorize perm (some attrs)).allowed = true →
        (id'.authorize perm (some attrs)).allowed = true := by
  have hid := (builtFrom_of_identityOfRows h).1.allowed_iff_admits perm attrs
  refine ⟨hid, ?_, ?_⟩
  · intro rows' hperm
    have hok := identityOfRows_isOk_iff.mp ⟨id, h⟩
    obtain ⟨id', h'⟩ : ∃ id', identityOfRows user rows' = .ok id' :=
      identityOfRows_isOk_iff.mpr fun row hrow => hok row (hperm.mem_iff.mpr hrow)
    have hid' := (builtFrom_of_identityOfRows h').1.allowed_iff_admits perm attrs
    refine ⟨id', h', ?_⟩
    rw [Bool.eq_iff_iff, hid, hid']
    exact ⟨Admits.mono fun row => hperm.mem_iff.mpr, Admits.mono fun row => hperm.mem_iff.mp⟩
  · intro rows' id' hsub h' hallowed
    have hid' := (builtFrom_of_identityOfRows h').1.allowed_iff_admits perm attrs
    exact hid'.mpr ((hid.mp hallowed).mono hsub)

/-- A user whose one role may write assets outside production. -/
def sampleRows : List PermissionRow :=
  [{ role := "dev-ops", resource := some "cmdb.asset", action := some "write",
     scopeRaw := some (.arr [.obj [("dimension", .str "env"), ("op", .str "not_in"),
       ("values", .arr [.str "prod"])]]) }]

/-- A user with four roles: one may write the assets of AWS outside production, one those of
production, one may connect to all, and one has no permission. -/
def severalRoles : List PermissionRow :=
  [{ role := "dev-ops", resource := some "cmdb.asset", action := some "write",
     scopeRaw := some (.arr [.obj [("dimension", .str "env"), ("op", .str "not_in"),
       ("values", .arr [.str "prod"])],
       .obj [("dimension", .str "source"), ("op", .str "in"), ("values", .arr [.str "aws"])]]) },
   { role := "guest", resource := none, action := none, scopeRaw := none },
   { role := "on-call", resource := some "cmdb.asset", action := some "write",
     scopeRaw := some (.arr [.obj [("dimension", .str "env"), ("op", .str "in"),
       ("values", .arr [.str "prod"])]]) },
   { role := "operator", resource := some "bastion.session", action := some "connect",
     scopeRaw := none }]

theorem authorize_severalRoles_iff_admits :
    ∃ id, identityOfRows { id := Uuid.replicate 1 } severalRoles = .ok id ∧
      Admits severalRoles "cmdb.asset:write" (Attrs.ofAsset " PROD" "manual") ∧
      Admits severalRoles "cmdb.asset:write" (Attrs.ofAsset "dev" "aws") ∧
      ¬ Admits severalRoles "cmdb.asset:write" (Attrs.ofAsset "dev" "manual") ∧
      ∃ id', identityOfRows { id := Uuid.replicate 1 } severalRoles.reverse = .ok id' ∧
        (id'.authorize "cmdb.asset:write" (some (Attrs.ofAsset "dev" "manual"))).allowed =
          false := by
  obtain ⟨id, h, hprod, hdev, hmanual⟩ : ∃ id,
      identityOfRows { id := Uuid.replicate 1 } severalRoles = .ok id ∧
      (id.authorize "cmdb.asset:write" (some (Attrs.ofAsset " PROD" "manual"))).allowed = true ∧
      (id.authorize "cmdb.asset:write" (some (Attrs.ofAsset "dev" "aws"))).allowed = true ∧
      (id.authorize "cmdb.asset:write" (some (Attrs.ofAsset "dev" "manual"))).allowed = false :=
    ⟨_, rfl, rfl, rfl, rfl⟩
  have hiff := fun attrs => (authorize_allowed_iff_admits h "cmdb.asset:write" attrs).1
  obtain ⟨id', h', hsame⟩ := (authorize_allowed_iff_admits h "cmdb.asset:write" _).2.1 _
    (List.reverse_perm severalRoles).symm
  refine ⟨id, h, (hiff _).mp hprod, (hiff _).mp hdev, ?_, id', h', hsame.trans hmanual⟩
  intro hadmits
  rw [(hiff _).mpr hadmits] at hmanual
  cases hmanual

end OpsPlatform.Iam
