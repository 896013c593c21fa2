/-
The source that a verdict reports (`Authorize` in `internal/iam/authz.go`, and the path of
`ResolveCapability` in `internal/iam/capability_repository.go`).

The loop over the rows appends a source for every row of a permission, and a scope for every
row until one of them is unscoped, which empties the scopes.  As long as none is, the two lists
are parallel (`SourcesOk`) and the verdict reports the source whose scope admitted the resource.
Once one is, it reports the first source, which is the unscoped one only by chance.
-/
import OpsPlatform.Iam.Capability

namespace OpsPlatform.Iam

open Lib Lib.Text

/-- The source that a row adds to the permission. -/
def PermissionRow.source (perm : String) (row : PermissionRow) : Option PermissionSource :=
  if row.permission = some perm then
    match parseScopeJSON row.scopeRaw with
    | .ok scope => some { kind := "role", ref := row.role, scope }
    | .error _ => none
  else none

/-- The source is enough by itself: its role has a row of the permission whose own scope, the
one in the source, admits the attributes. -/
def PermissionSource.Suffices (source : PermissionSource) (rows : List PermissionRow)
    (perm : String) (attrs : Attrs) : Prop :=
  source.kind = "role" ∧ ∃ row ∈ rows, row.role = source.ref ∧ row.Holds perm source.scope ∧
    (source.scope = [] ∨ Scope.matches source.scope attrs = true)

/-- The source that is reported for an allowed verdict is enough by itself. -/
def SourceJustified (rows : List PermissionRow) (id : UserIdentity) (perm : String)
    (attrs : Attrs) : Prop :=
  (id.authorize perm (some attrs)).allowed = true →
    (id.authorize perm (some attrs)).source.Suffices rows perm attrs

/-- The first row of the permission admits the attributes. -/
def FirstRowAdmits (rows : List PermissionRow) (perm : String) (attrs : Attrs) : Prop :=
  ∃ row scope, rows.find? (fun row => row.permission == some perm) = some row ∧
    row.Holds perm scope ∧ Scope.matches scope attrs = true

/-- The step of a path is enough by itself. -/
def ResolveStep.Suffices (step : ResolveStep) (rows : List PermissionRow) (attrs : Attrs) : Prop :=
  PermissionSource.Suffices { kind := step.source, ref := step.ref, scope := step.scope } rows
    step.capability attrs

/-- If the roles of the user allow what is asked about the asset, the path of the answer is one
step that is enough by itself. -/
def PathJustified (db : Db) (now : Time) (req : ResolveRequest) (id : UserIdentity)
    (asset : ResolvedAsset) : Prop :=
  ∀ res, resolveCapability db now req = .ok res →
    (id.authorize (trimSpace req.capability)
      (some (Attrs.ofAsset asset.env asset.source))).allowed = true →
    ∃ step, res.path = [step] ∧
      step.Suffices (permissionRows db id.user.id) (Attrs.ofAsset asset.env asset.source)

/-! ### Sources and scopes are accumulated together -/

/-- What the loop has accumulated for one permission: the sources are those of the rows, in
their order, and the scopes those of the sources unless a row was unscoped. -/
structure SourcesOk (rows : List PermissionRow) (perm : String) (entry : Option ScopedPermission) :
    Prop where
  sources : (entry.map (·.sources)).getD [] = rows.filterMap (PermissionRow.source perm)
  scopes : ∀ sp, entry = some sp → sp.unscoped = false → sp.scopes = sp.sources.map (·.scope)

lemma PermissionRow.source_of_holds {row : PermissionRow} {perm : String} {scope : Scope}
    (h : row.Holds perm scope) :
    row.source perm = some { kind := "role", ref := row.role, scope } := by
  rw [PermissionRow.source, if_pos h.1, h.2]

lemma PermissionRow.source_eq_some {row : PermissionRow} {perm : String}
    {source : PermissionSource} (h : row.source perm = some source) :
    source.kind = "role" ∧ row.role = source.ref ∧ row.Holds perm source.scope := by
  rw [PermissionRow.source] at h
  split at h
  · next hperm =>
    split at h
    · next scope hscope =>
      obtain rfl := Option.some.inj h
      exact ⟨rfl, rfl, hperm, hscope⟩
    · cases h
  · cases h

/-- A row of another permission, or of none, changes nothing. -/
lemma SourcesOk.concat_of_ne {rows : List PermissionRow} {perm : String}
    {entry : Option ScopedPermission} (h : SourcesOk rows perm entry) {row : PermissionRow}
    (hrow : row.permission ≠ some perm) : SourcesOk (rows ++ [row]) perm entry := by
  refine ⟨?_, h.scopes⟩
  have hnone : row.source perm = none := by rw [PermissionRow.source, if_neg hrow]
  rw [h.sources, List.filterMap_append]
  simp [hnone]

/-- A row of the permission adds its source, and its scope with it. -/
lemma SourcesOk.concat {rows : List PermissionRow} {perm : String}
    {entry : Option ScopedPermission} (h : SourcesOk rows perm entry) {row : PermissionRow}
    {scope : Scope} (hrow : row.Holds perm scope) {fresh : ScopedPermission}
    (hfresh : fresh.IsFresh) :
    SourcesOk (rows ++ [row]) perm (some ((entry.getD fresh).addSource row.role scope)) := by
  have hsources : (entry.getD fresh).sources = rows.filterMap (PermissionRow.source perm) := by
    rw [← h.sources]
    cases entry with
    | none => exact hfresh.sources
    | some sp => rfl
  have hscopes : (entry.getD fresh).unscoped = false →
      (entry.getD fresh).scopes = (entry.getD fresh).sources.map (·.scope) := by
    cases entry with
    | none =>
      intro _
      simp [hfresh.scopes, hfresh.sources]
    | some sp => exact h.scopes sp rfl
  refine ⟨?_, ?_⟩
  · rw [List.filterMap_append, ← hsources]
    simp [PermissionRow.source_of_holds hrow, ScopedPermission.addSource]
  · rintro sp ⟨⟩ hun
    simp only [ScopedPermission.addSource, Bool.or_eq_false_iff, decide_eq_false_iff_not] at hun
    simp [ScopedPermission.addSource, hun.1, hun.2, hscopes hun.2]

lemma sourcesOk_of_addRows {rows : List PermissionRow} {acc : IdentityAcc}
    (hadd : addRows {} rows = .ok acc) (perm : String) :
    SourcesOk rows perm (acc.scopedAcc.find? (·.permission == perm)) := by
  have hnil : SourcesOk [] perm (({} : IdentityAcc).scopedAcc.find? (·.permission == perm)) :=
    ⟨rfl, by simp⟩
  refine addRows_invariant (I := fun rows acc =>
    SourcesOk rows perm (acc.scopedAcc.find? (·.permission == perm))) ?_ hnil hadd
  intro rows acc row acc' h hadd
  rcases (addRow_cases hadd perm).2 with ⟨hne, heq⟩ | ⟨scope, fresh, hrow, hfresh, heq⟩
  · rw [heq]
    exact h.concat_of_ne hne
  · rw [heq]
    exact h.concat hrow hfresh

/-! ### The source of a verdict -/

/-- The search among parallel lists returns a source with the scope that admitted. -/
lemma admittingScope_eq_some {attrs : Attrs} {sources : List PermissionSource}
    {sc : Scope} {source : PermissionSource}
    (h : admittingScope attrs (sources.map (·.scope)) sources = some (sc, source)) :
    source ∈ sources ∧ Scope.matches source.scope attrs = true := by
  induction sources with
  | nil => cases h
  | cons s sources ih =>
    rw [List.map_cons, admittingScope] at h
    split at h
    · next hm =>
      obtain ⟨-, rfl⟩ := Prod.mk.inj (Option.some.inj h)
      exact ⟨List.mem_cons_self, hm⟩
    · obtain ⟨hmem, hm⟩ := ih h
      exact ⟨List.mem_cons_of_mem s hmem, hm⟩

lemma suffices_of_mem {rows : List PermissionRow} {perm : String} {attrs : Attrs}
    {source : PermissionSource} (h : source ∈ rows.filterMap (PermissionRow.source perm))
    (hm : Scope.matches source.scope attrs = true) : source.Suffices rows perm attrs := by
  obtain ⟨row, hrow, hsource⟩ := List.mem_filterMap.mp h
  obtain ⟨hkind, hrole, hholds⟩ := PermissionRow.source_eq_some hsource
  exact ⟨hkind, row, hrow, hrole, hholds, Or.inr hm⟩

lemma PermissionSource.Suffices.matches {rows : List PermissionRow} {perm : String}
    {attrs : Attrs} {source : PermissionSource} (h : source.Suffices rows perm attrs) :
    Scope.matches source.scope attrs = true := by
  obtain ⟨-, -, -, -, -, hempty | hm⟩ := h
  · rw [hempty]
    rfl
  · exact hm

/-- The first source is that of the first row of the permission, if its scope parses. -/
lemma head?_sources {rows : List PermissionRow} {perm : String}
    (hparse : ∀ row ∈ rows, ∀ perm, row.permission = some perm →
      ∃ scope, parseScopeJSON row.scopeRaw = .ok scope) :
    (rows.filterMap (PermissionRow.source perm)).head? =
      (rows.find? fun row => row.permission == some perm).bind (PermissionRow.source perm) := by
  induction rows with
  | nil => rfl
  | cons row rows ih =>
    by_cases hperm : row.permission = some perm
    · obtain ⟨scope, hscope⟩ := hparse row List.mem_cons_self perm hperm
      have hsource := PermissionRow.source_of_holds ⟨hperm, hscope⟩
      simp [hperm, hsource]
    · have hsource : row.source perm = none := by rw [PermissionRow.source, if_neg hperm]
      rw [List.filterMap_cons, hsource, List.find?_cons_of_neg (by simpa using hperm)]
      exact ih fun row hrow => hparse row (List.mem_cons_of_mem _ hrow)

section

variable {user : User} {rows : List PermissionRow} {id : UserIdentity} {perm : String}
  {attrs : Attrs}

/-- What an entry carries, for an identity that was built from the rows. -/
lemma sourcesOk_of_identityOfRows (h : identityOfRows user rows = .ok id) (perm : String) :
    SourcesOk rows perm (id.scopedPermission perm) := by
  obtain ⟨-, acc, hacc, -, hentry⟩ := identityOfRows_eq_ok h
  rw [hentry]
  exact sourcesOk_of_addRows hacc perm

variable (attrs) in
/-- With an unscoped row the verdict is allowed, and it reports the first source. -/
lemma authorize_of_unscoped_row (h : identityOfRows user rows = .ok id) (ha : isAdmin id = false)
    {row : PermissionRow} (hrow : row ∈ rows) (hh : row.Holds perm []) :
    (id.authorize perm (some attrs)).allowed = true ∧
      some (id.authorize perm (some attrs)).source =
        (rows.filterMap (PermissionRow.source perm)).head? := by
  have hentry := (builtFrom_of_identityOfRows h).1.entry_ok perm
  obtain ⟨sp, hsp⟩ := Option.isSome_iff_exists.mp (hentry.isSome_iff.mpr ⟨row, hrow, hh.1⟩)
  have hun := (hentry.unscoped_iff sp hsp).mpr ⟨row, hrow, hh⟩
  have hsources := (sourcesOk_of_identityOfRows h perm).sources
  rw [hsp] at hsources
  change sp.sources = _ at hsources
  have hmem : _ ∈ rows.filterMap (PermissionRow.source perm) :=
    List.mem_filterMap.mpr ⟨row, hrow, PermissionRow.source_of_holds hh⟩
  have hauth : id.authorize perm (some attrs) =
      { allowed := true, source := sp.sources.headD { kind := "role", ref := "role" },
        reason := "granted (unscoped)" } := by
    simp [UserIdentity.authorize, ha, hsp, hun]
  refine ⟨by rw [hauth], ?_⟩
  rw [hauth, ← hsources]
  rw [← hsources] at hmem
  cases hs : sp.sources with
  | nil =>
    rw [hs] at hmem
    cases hmem
  | cons s ss => rfl

/-- Without an unscoped row the verdict reports the source whose scope admitted. -/
lemma sourceJustified_of_allScoped (h : identityOfRows user rows = .ok id)
    (ha : isAdmin id = false) (hs : AllScoped rows perm) : SourceJustified rows id perm attrs := by
  intro hallowed
  have hbuilt := (builtFrom_of_identityOfRows h).1
  cases hsp : id.scopedPermission perm with
  | none =>
    -- without an entry the permission is not in the coarse list either
    have hmem : perm ∉ id.permissions := by
      rw [hbuilt.mem_permissions_iff, ← (hbuilt.entry_ok perm).isSome_iff, hsp]
      simp
    simp [UserIdentity.authorize, ha, hsp, hmem] at hallowed
  | some sp =>
    have hun : sp.unscoped = false := by
      rw [← Bool.not_eq_true, (hbuilt.entry_ok perm).unscoped_iff sp hsp]
      rintro ⟨row, hrow, hh⟩
      exact hs row hrow hh
    have hok := sourcesOk_of_identityOfRows h perm
    have hsources := hok.sources
    rw [hsp] at hsources
    have hscopes := hok.scopes sp hsp hun
    cases hfound : admittingScope attrs sp.scopes sp.sources with
    | none => simp [UserIdentity.authorize, ha, hsp, hun, hfound] at hallowed
    | some found =>
      have hsource : (id.authorize perm (some attrs)).source = found.2 := by
        simp [UserIdentity.authorize, ha, hsp, hun, hfound]
      rw [hscopes] at hfound
      obtain ⟨hmem, hm⟩ := admittingScope_eq_some hfound
      rw [hsource]
      refine suffices_of_mem ?_ hm
      rw [← hsources]
      exact hmem

lemma sourceJustified_iff (h : identityOfRows user rows = .ok id) (ha : isAdmin id = false) :
    SourceJustified rows id perm attrs ↔
      AllScoped rows perm ∨ FirstRowAdmits rows perm attrs := by
  by_cases hs : AllScoped rows perm
  · exact iff_of_true (sourceJustified_of_allScoped h ha hs) (Or.inl hs)
  · rw [or_iff_right hs]
    rw [AllScoped] at hs
    push Not at hs
    obtain ⟨row, hrow, hh⟩ := hs
    obtain ⟨hallowed, hfirst⟩ := authorize_of_unscoped_row attrs h ha hrow hh
    rw [head?_sources (identityOfRows_isOk_iff.mp ⟨id, h⟩)] at hfirst
    obtain ⟨first, hfind, hsource⟩ := Option.bind_eq_some_iff.mp hfirst.symm
    obtain ⟨-, -, hholds⟩ := PermissionRow.source_eq_some hsource
    constructor
    · intro hj
      exact ⟨first, _, hfind, hholds, (hj hallowed).matches⟩
    · rintro ⟨first', scope, hfind', hholds', hm⟩ -
      obtain rfl : first = first' := Option.some.inj (hfind.symm.trans hfind')
      obtain rfl := Except.ok.inj (hholds.2.symm.trans hholds'.2)
      exact suffices_of_mem
        (List.mem_filterMap.mpr ⟨first, List.mem_of_find?_eq_some hfind, hsource⟩) hm

end

/-- An allowed verdict makes the path: one step, with the source of the verdict. -/
lemma resolveCapability_of_allowed {db : Db} {now : Time} {req : ResolveRequest}
    {id : UserIdentity} {asset : ResolvedAsset}
    (hid : identityForUser db (trimSpace req.userID) = .ok id)
    (hcap : trimSpace req.capability ≠ "")
    (hasset : resolveAsset db req.resourceRef = .ok (some asset))
    (hallowed : (id.authorize (trimSpace req.capability)
      (some (Attrs.ofAsset asset.env asset.source))).allowed = true) :
    resolveCapability db now req = .ok (resolveByDecision (trimSpace req.capability)
      (id.authorize (trimSpace req.capability)
        (some (Attrs.ofAsset asset.env asset.source)))) := by
  simp only [resolveCapability, if_neg hcap, hid, hasset]
  show resolveFor db now id (trimSpace req.capability) (some asset) = _
  simp only [resolveFor, Option.map_some, if_pos hallowed]

lemma pathJustified_iff {db : Db} {now : Time} {req : ResolveRequest} {id : UserIdentity}
    {asset : ResolvedAsset} (hid : identityForUser db (trimSpace req.userID) = .ok id)
    (hcap : trimSpace req.capability ≠ "")
    (hasset : resolveAsset db req.resourceRef = .ok (some asset)) :
    PathJustified db now req id asset ↔ SourceJustified (permissionRows db id.user.id) id
      (trimSpace req.capability) (Attrs.ofAsset asset.env asset.source) := by
  constructor
  · intro hpath hallowed
    obtain ⟨step, hstep, hsuffices⟩ :=
      hpath _ (resolveCapability_of_allowed hid hcap hasset hallowed) hallowed
    obtain rfl := List.singleton_injective hstep
    exact hsuffices
  · intro hsource res hres hallowed
    rw [resolveCapability_of_allowed hid hcap hasset hallowed] at hres
    obtain rfl := Except.ok.inj hres
    exact ⟨_, rfl, hsource hallowed⟩

/-- **When the reported source justifies the verdict.**  For a user who is no admin the source of
an allowed verdict has a scope of its own that admits the resource exactly when no row of the
permission is unscoped, or when the first of its rows admits the resource too; and the same
decides whether the path that `ResolveCapability` returns is enough for its answer. -/
theorem source_justified_iff {user : User} {rows : List PermissionRow} {id : UserIdentity}
    (hrows : identityOfRows user rows = .ok id) (hadmin : isAdmin id = false) (perm : String)
    (attrs : Attrs) :
    (SourceJustified rows id perm attrs ↔ AllScoped rows perm ∨ FirstRowAdmits rows perm attrs) ∧
    ∀ (db : Db) (now : Time) (req : ResolveRequest) (asset : ResolvedAsset),
      identityForUser db (trimSpace req.userID) = .ok id → trimSpace req.capability ≠ "" →
      resolveAsset db req.resourceRef = .ok (some asset) →
      (PathJustified db now req id asset ↔
        AllScoped (permissionRows db id.user.id) (trimSpace req.capability) ∨
          FirstRowAdmits (permissionRows db id.user.id) (trimSpace req.capability)
            (Attrs.ofAsset asset.env asset.source)) := by
  refine ⟨sourceJustified_iff hrows hadmin, ?_⟩
  intro db now req asset hid hcap hasset
  have hparse := parse_of_identityForUser hid
  obtain ⟨user', hrows'⟩ : ∃ user, identityOfRows user (permissionRows db id.user.id) = .ok id := by
    rw [identityForUser, hparse] at hid
    dsimp only at hid
    split at hid
    · cases hid
    · exact ⟨_, hid⟩
  rw [pathJustified_iff hid hcap hasset]
  exact sourceJustified_iff hrows' hadmin

/-- A constraint on the environment, as the column holds it. -/
def envScope (env : String) : Json :=
  .arr [.obj [("dimension", .str "env"), ("op", .str "in"), ("values", .arr [.str env])]]

/-- One role opens sessions in `dev`, the other everywhere. -/
def mixedRows : List PermissionRow :=
  [{ role := "dba", resource := some "bastion.session", action := some "connect"
     scopeRaw := some (envScope "dev") },
   { role := "ops", resource := some "bastion.session", action := some "connect"
     scopeRaw := none }]

/-- A session in `prod` is allowed by the role `ops`, and the verdict reports the role `dba`. -/
theorem scoped_source_reported :
    ∃ id, identityOfRows { id := Uuid.replicate 1 } mixedRows = .ok id ∧ isAdmin id = false ∧
      (id.authorize "bastion.session:connect" (some (Attrs.ofAsset "prod" "aws"))).allowed = true ∧
      (id.authorize "bastion.session:connect" (some (Attrs.ofAsset "prod" "aws"))).source.ref =
        "dba" ∧
      ¬ SourceJustified mixedRows id "bastion.session:connect" (Attrs.ofAsset "prod" "aws") := by
  obtain ⟨id, hid⟩ : ∃ id, identityOfRows { id := Uuid.replicate 1 } mixedRows = .ok id := ⟨_, rfl⟩
  obtain rfl := Except.ok.inj hid.symm
  refine ⟨_, rfl, by decide, by decide, by decide, ?_⟩
  intro h
  have hm := (h (by decide)).matches
  revert hm
  decide

/-- A user of the role `dba`, and an asset in `dev`. -/
def devSessionDb : Db where
  iamUser := [{ id := Uuid.replicate 1, oidcSubject := "alice" }]
  iamRole := [{ id := Uuid.replicate 2, name := "dba" }]
  iamRolePermission := [{ roleId := Uuid.replicate 2, resource := "bastion.session"
                          action := "connect", scopeJson := some (envScope "dev") }]
  iamUserRoleBinding := [{ userId := Uuid.replicate 1, roleId := Uuid.replicate 2 }]
  cmdbAsset := [{ id := Uuid.replicate 3, type := "vm", name := "db-1", env := "dev" }]

theorem source_justified_iff_dev :
    (∃ id, identityOfRows { id := Uuid.replicate 1 } mixedRows = .ok id ∧
      SourceJustified mixedRows id "bastion.session:connect" (Attrs.ofAsset "dev" "aws")) ∧
    ∃ id asset, identityForUser devSessionDb (Uuid.replicate 1).toText = .ok id ∧
      resolveAsset devSessionDb "db-1" = .ok (some asset) ∧
      PathJustified devSessionDb 0
        { userID := (Uuid.replicate 1).toText, capability := "bastion.session:connect"
          resourceRef := "db-1" } id asset := by
  constructor
  · exact ⟨_, rfl, (source_justified_iff rfl (by decide) _ _).1.mpr
      (Or.inr ⟨_, _, rfl, ⟨rfl, rfl⟩, by decide⟩)⟩
  · obtain ⟨id, hid, hadmin⟩ : ∃ id,
        identityForUser devSessionDb (Uuid.replicate 1).toText = .ok id ∧ isAdmin id = false :=
      ⟨_, rfl, by decide⟩
    have huser : id.user.id = Uuid.replicate 1 := by
      have hparse := parse_of_identityForUser hid
      rw [Uuid.parse_toText] at hparse
      exact (Option.some.inj hparse).symm
    obtain ⟨user, hrows⟩ := identityOfRows_of_identityForUser hid
    refine ⟨id, _, hid, rfl, ((source_justified_iff hrows hadmin "" fun _ => none).2 devSessionDb 0
      _ _ (by rw [Uuid.trimSpace_toText]; exact hid) (by decide) rfl).mpr (Or.inr ?_)⟩
    rw [huser]
    exact ⟨_, _, rfl, ⟨rfl, rfl⟩, by decide⟩

end OpsPlatform.Iam
