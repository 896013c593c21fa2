/-
The capability matrix (`ListCapabilities` and `CapabilityMatrix` in
`internal/iam/capability_repository.go`).

The matrix has a row for every permission of the catalogue or of the table and a column for
every role.  Its cells are folded over all the rows of `iam_role_permission`, an identity over
those of one user; both merge the rows that give one permission string.
-/
import OpsPlatform.Iam.Identity
import OpsPlatform.Lib.Assoc
import Mathlib.Algebra.Ring.Nat
import Mathlib.Data.List.Dedup
import Mathlib.Data.Prod.Lex
import Mathlib.Data.String.Basic

namespace OpsPlatform.Iam

open Lib

/-- `Capability`. -/
structure Capability where
  permission : String := ""
  resource : String
  action : String
  group : String := ""
deriving DecidableEq

/-- `MatrixCellState`; `unset` is the zero value. -/
inductive MatrixCellState where
  | unset
  | all
  | isPartial
  | none
deriving DecidableEq

/-- `MatrixCell`. -/
structure MatrixCell where
  state : MatrixCellState := .unset
  scope : Scope := []
  sources : List PermissionSource := []
deriving DecidableEq

/-- `MatrixRole`. -/
structure MatrixRole where
  name : String
  rank : ℕ
deriving DecidableEq

/-- `map[string]map[string]MatrixCell`: by permission, then by role. -/
abbrev Cells := List (String × List (String × MatrixCell))

/-- `CapabilityMatrix`; `unscopedGrants` is its warning. -/
structure CapabilityMatrix where
  roles : List MatrixRole
  capabilities : List Capability
  cells : Cells
  unscopedGrants : ℕ

/-- The orders that the program leaves to others: the collation of the server, the order of rows
without an `ORDER BY`, and the iteration over a Go map. -/
structure Orders where
  pairs : List (String × String) → List (String × String) := id
  roles : List RoleRow → List RoleRow := id
  rows : List (RoleRow × RolePermissionRow) → List (RoleRow × RolePermissionRow) := id
  capabilities : List Capability → List Capability := id
  pairs_perm : ∀ l, (pairs l).Perm l := by exact fun l => List.Perm.refl l
  roles_perm : ∀ l, (roles l).Perm l := by exact fun l => List.Perm.refl l
  rows_perm : ∀ l, (rows l).Perm l := by exact fun l => List.Perm.refl l
  capabilities_perm : ∀ l, (capabilities l).Perm l := by exact fun l => List.Perm.refl l

/-! ### `ListCapabilities` -/

/-- `capabilityGroup`: what stands before the first dot. -/
def capabilityGroup (resource : String) : String :=
  let before := resource.toList.takeWhile (· != '.')
  if 0 < before.length ∧ before.length < resource.toList.length then String.ofList before
  else resource

/-- `builtInCapabilityCatalog`. -/
def builtInCapabilityCatalog : List (String × String) :=
  [("aws.account", "read"), ("aws.account", "write"), ("bastion.grant", "read"),
   ("bastion.grant", "write"), ("bastion.request", "read"), ("bastion.request", "write"),
   ("bastion.session", "connect"), ("bastion.session", "read"), ("cmdb.asset", "read"),
   ("cmdb.asset", "write"), ("iam.user", "read"), ("iam.user", "write"), ("system", "admin")]

/-- `resource + ":" + action`. -/
def permissionOf (pair : String × String) : String := pair.1 ++ ":" ++ pair.2

def capabilityOf (pair : String × String) : Capability :=
  { permission := permissionOf pair, resource := pair.1, action := pair.2
    group := capabilityGroup pair.1 }

/-- The map of `ListCapabilities`. -/
def addCapabilities (byPermission : List (String × Capability)) (pairs : List (String × String)) :
    List (String × Capability) :=
  pairs.foldl (fun m pair => Assoc.set (permissionOf pair) (capabilityOf pair) m) byPermission

/-- `SELECT DISTINCT resource, action FROM iam_role_permission`. -/
def permissionPairs (db : Db) : List (String × String) :=
  (db.iamRolePermission.map fun rp => (rp.resource, rp.action)).dedup

/-- The order of the items: by resource, then by action. -/
def Capability.le (c d : Capability) : Prop :=
  if c.resource ≠ d.resource then c.resource < d.resource else c.action ≤ d.action

instance : DecidableRel Capability.le := fun c d =>
  inferInstanceAs (Decidable (if c.resource ≠ d.resource then _ else _))

/-- `ListCapabilities`. -/
def listCapabilities (o : Orders) (db : Db) : List Capability :=
  let byPermission := addCapabilities (addCapabilities [] builtInCapabilityCatalog)
    (o.pairs (permissionPairs db))
  (o.capabilities (byPermission.map Prod.snd)).insertionSort Capability.le

/-! ### `CapabilityMatrix` -/

def cellAt (cells : Cells) (perm role : String) : Option MatrixCell :=
  (cells.lookup perm).bind fun byRole => byRole.lookup role

/-- `cells[perm][role] = cell`, after the inner map has been made. -/
def setCell (perm role : String) (cell : MatrixCell) (cells : Cells) : Cells :=
  Assoc.set perm (Assoc.set role cell ((cells.lookup perm).getD [])) cells

/-- One more row of a cell. -/
def MatrixCell.addRow (cell : MatrixCell) (roleName : String) (scope : Scope) : MatrixCell :=
  let cell := { cell with
                sources := cell.sources ++ [{ kind := "role", ref := roleName, scope := scope }] }
  if scope.length = 0 then { cell with state := .all, scope := [] }
  else if cell.state ≠ .all then
    { cell with state := .isPartial, scope := if cell.scope.length = 0 then scope else cell.scope }
  else cell

/-- The loop over the rows. -/
def addCells : Cells → List (RoleRow × RolePermissionRow) → Except IamError Cells
  | cells, [] => .ok cells
  | cells, (r, rp) :: rows =>
    match parseScopeJSON rp.scopeJson with
    | .error e => .error e
    | .ok scope =>
      let perm := permissionOf (rp.resource, rp.action)
      addCells
        (setCell perm r.name (((cellAt cells perm r.name).getD {}).addRow r.name scope) cells) rows

/-- The gap that is filled, if it is one. -/
def fillGap (perm : String) (cells : Cells) (role : RoleRow) : Cells :=
  if (cellAt cells perm role.name).isSome then cells
  else setCell perm role.name { state := .none } cells

/-- The gaps in the row of one capability.  The row is there even without roles. -/
def fillRow (roles : List RoleRow) (cells : Cells) (c : Capability) : Cells :=
  let cells := if (cells.lookup c.permission).isSome then cells
    else Assoc.set c.permission [] cells
  roles.foldl (fillGap c.permission) cells

/-- `rolePermissionRank`. -/
def rolePermissionRank (cells : Cells) (roleName : String) : ℕ :=
  (cells.map fun row : String × List (String × MatrixCell) =>
    match (row.2.lookup roleName).map MatrixCell.state with
    | some .all => 2
    | some .isPartial => 1
    | _ => 0).sum

/-- `SELECT .. FROM iam_role r JOIN iam_role_permission rp ON rp.role_id = r.id`. -/
def roleRows (db : Db) : List (RoleRow × RolePermissionRow) :=
  db.iamRole.flatMap fun r =>
    (db.iamRolePermission.filter (·.roleId = r.id)).map fun rp => (r, rp)

/-- `CapabilityMatrix`. -/
def capabilityMatrix (o : Orders) (db : Db) (now : Time) : Except IamError CapabilityMatrix :=
  let roles := o.roles db.iamRole
  let caps := listCapabilities o db
  match addCells [] (o.rows (roleRows db)) with
  | .error e => .error e
  | .ok cells =>
    let cells := caps.foldl (fillRow roles) cells
    .ok { roles := (roles.map fun role =>
            { name := role.name, rank := rolePermissionRank cells role.name }).insertionSort
              fun r s : MatrixRole => s.rank ≤ r.rank
          capabilities := caps
          cells
          unscopedGrants := db.bastionGrant.countP (·.active now) }

/-! ### The catalogue -/

/-- The map has one entry for each permission, and it is the capability of a pair with this
permission. -/
structure ByPermission (m : List (String × Capability)) : Prop where
  keys : (m.map Prod.fst).Nodup
  entry : ∀ e ∈ m, ∃ pair, e = (permissionOf pair, capabilityOf pair)

lemma ByPermission.set {m : List (String × Capability)} (h : ByPermission m)
    (pair : String × String) :
    ByPermission (Assoc.set (permissionOf pair) (capabilityOf pair) m) where
  keys := Assoc.nodup_set h.keys
  entry e he := by
    obtain ⟨k, c⟩ := e
    rw [← Assoc.lookup_eq_some_iff (Assoc.nodup_set h.keys), Assoc.lookup_set] at he
    split at he
    · next hk =>
      obtain rfl := Option.some.inj he
      exact ⟨pair, by rw [hk]⟩
    · exact h.entry (k, c) ((Assoc.lookup_eq_some_iff h.keys).mp he)

lemma byPermission_addCapabilities {m : List (String × Capability)} (h : ByPermission m)
    (pairs : List (String × String)) : ByPermission (addCapabilities m pairs) := by
  induction pairs generalizing m with
  | nil => exact h
  | cons pair pairs ih => exact ih (h.set pair)

lemma mem_keys_addCapabilities {m : List (String × Capability)} {pairs : List (String × String)}
    {perm : String} : perm ∈ (addCapabilities m pairs).map Prod.fst ↔
      perm ∈ m.map Prod.fst ∨ ∃ pair ∈ pairs, permissionOf pair = perm := by
  induction pairs generalizing m with
  | nil => simp [addCapabilities]
  | cons pair pairs ih =>
    have hrest : perm ∈ (addCapabilities m (pair :: pairs)).map Prod.fst ↔
        perm ∈ (Assoc.set (permissionOf pair) (capabilityOf pair) m).map Prod.fst ∨
          ∃ pair ∈ pairs, permissionOf pair = perm := ih
    rw [hrest, Assoc.mem_keys_set]
    simp only [List.mem_cons, exists_eq_or_imp]
    tauto

/-- The order of the items is the lexicographic one. -/
lemma Capability.le_iff (c d : Capability) :
    c.le d ↔ toLex (c.resource, c.action) ≤ toLex (d.resource, d.action) := by
  rw [Prod.Lex.toLex_le_toLex, Capability.le]
  by_cases h : c.resource = d.resource
  · simp [h]
  · simp [h]

instance : Std.Total Capability.le :=
  ⟨fun c d => by simpa only [Capability.le_iff] using le_total _ _⟩

instance : IsTrans Capability Capability.le :=
  ⟨fun c d e => by simpa only [Capability.le_iff] using le_trans⟩

/-- Strictly before in the order by resource, then by action. -/
def Capability.lt (c d : Capability) : Prop :=
  c.resource < d.resource ∨ c.resource = d.resource ∧ c.action < d.action

/-- The catalogue of the matrix: each permission of the built-in catalogue and of the table
once, in the order of resource and action. -/
structure Catalogued (db : Db) (caps : List Capability) : Prop where
  nodup : (caps.map (·.permission)).Nodup
  mem_iff : ∀ perm, perm ∈ caps.map (·.permission) ↔
    ∃ pair, (pair ∈ builtInCapabilityCatalog ∨
      ∃ rp ∈ db.iamRolePermission, (rp.resource, rp.action) = pair) ∧ permissionOf pair = perm
  sorted : caps.Pairwise Capability.lt

lemma catalogued_listCapabilities (o : Orders) (db : Db) :
    Catalogued db (listCapabilities o db) := by
  have hby : ByPermission (addCapabilities (addCapabilities [] builtInCapabilityCatalog)
      (o.pairs (permissionPairs db))) :=
    byPermission_addCapabilities (byPermission_addCapabilities ⟨by simp, by simp⟩ _) _
  -- a permission is a key when the catalogue or a stored row has a pair for it
  have hkeys : ∀ perm, perm ∈ (addCapabilities (addCapabilities [] builtInCapabilityCatalog)
      (o.pairs (permissionPairs db))).map Prod.fst ↔ ∃ pair, (pair ∈ builtInCapabilityCatalog ∨
        ∃ rp ∈ db.iamRolePermission, (rp.resource, rp.action) = pair) ∧
          permissionOf pair = perm := by
    intro perm
    rw [mem_keys_addCapabilities, mem_keys_addCapabilities]
    have hpairs : ∀ pair, pair ∈ o.pairs (permissionPairs db) ↔
        ∃ rp ∈ db.iamRolePermission, (rp.resource, rp.action) = pair := by
      intro pair
      rw [(o.pairs_perm _).mem_iff, permissionPairs, List.mem_dedup, List.mem_map]
    simp only [hpairs, List.map_nil, List.not_mem_nil, false_or, or_and_right, exists_or]
  rw [listCapabilities]
  generalize addCapabilities (addCapabilities [] builtInCapabilityCatalog)
    (o.pairs (permissionPairs db)) = m at hby hkeys
  have hperm : ((o.capabilities (m.map Prod.snd)).insertionSort Capability.le).Perm
      (m.map Prod.snd) :=
    (List.perm_insertionSort _ _).trans (o.capabilities_perm _)
  have hfst : (m.map Prod.snd).map (·.permission) = m.map Prod.fst := by
    rw [List.map_map]
    refine List.map_congr_left fun e he => ?_
    obtain ⟨pair, rfl⟩ := hby.entry e he
    rfl
  have hnodup : (((o.capabilities (m.map Prod.snd)).insertionSort Capability.le).map
      (·.permission)).Nodup := by
    rw [(hperm.map _).nodup_iff, hfst]
    exact hby.keys
  refine ⟨hnodup, fun perm => ?_, ?_⟩
  · rw [(hperm.map _).mem_iff, hfst, hkeys]
  · -- two items of one resource and action would have one permission
    have hpair : ∀ c ∈ (o.capabilities (m.map Prod.snd)).insertionSort Capability.le,
        c.permission = permissionOf (c.resource, c.action) := by
      intro c hc
      obtain ⟨e, he, rfl⟩ := List.mem_map.mp (hperm.mem_iff.mp hc)
      obtain ⟨pair, rfl⟩ := hby.entry e he
      rfl
    have hle := List.pairwise_insertionSort Capability.le (o.capabilities (m.map Prod.snd))
    have hne := List.pairwise_map.mp hnodup
    refine (hle.and hne).imp_of_mem ?_
    rintro c d hc hd ⟨hcd, hdiff⟩
    rw [Capability.le] at hcd
    split at hcd
    · exact Or.inl hcd
    · next hres =>
      rw [not_not] at hres
      refine Or.inr ⟨hres, lt_of_le_of_ne hcd fun hact => hdiff ?_⟩
      rw [hpair c hc, hpair d hd, hres, hact]

/-! ### The cells -/

lemma cellAt_setCell (perm role : String) (cell : MatrixCell) (cells : Cells)
    (perm' role' : String) : cellAt (setCell perm role cell cells) perm' role' =
      if perm' = perm ∧ role' = role then some cell else cellAt cells perm' role' := by
  rw [cellAt, setCell, Assoc.lookup_set]
  by_cases hp : perm' = perm
  · subst hp
    rw [if_pos rfl, Option.bind_some, Assoc.lookup_set]
    by_cases hr : role' = role
    · simp [hr]
    · rw [if_neg hr, if_neg (by simp [hr]), cellAt]
      cases cells.lookup perm' with
      | none => rfl
      | some byRole => rfl
  · rw [if_neg hp, if_neg (by simp [hp]), cellAt]

/-- The row is one of the permission and of a role with the name. -/
def IsRowOf (perm role : String) (x : RoleRow × RolePermissionRow) : Prop :=
  x.1.name = role ∧ permissionOf (x.2.resource, x.2.action) = perm

/-- What the loop has accumulated for a permission and a role: no cell when no row was of them,
and otherwise a cell that is full as soon as one of the rows was unscoped. -/
structure CellOk (rows : List (RoleRow × RolePermissionRow)) (perm role : String)
    (cell : Option MatrixCell) : Prop where
  isSome_iff : cell.isSome = true ↔ ∃ x ∈ rows, IsRowOf perm role x
  all_iff : ∀ c, cell = some c → (c.state = .all ↔
    ∃ x ∈ rows, IsRowOf perm role x ∧ parseScopeJSON x.2.scopeJson = .ok [])
  state : ∀ c, cell = some c → c.state = .all ∨ c.state = .isPartial

lemma MatrixCell.addRow_state (cell : MatrixCell) (roleName : String) (scope : Scope) :
    (cell.addRow roleName scope).state =
      if scope = [] ∨ cell.state = .all then .all else .isPartial := by
  rw [MatrixCell.addRow]
  by_cases hscope : scope = []
  · simp [hscope]
  · by_cases hall : cell.state = .all
    · simp [hscope, hall]
    · simp [hscope, hall]

lemma CellOk.concat_of_not {rows : List (RoleRow × RolePermissionRow)} {perm role : String}
    {cell : Option MatrixCell} (h : CellOk rows perm role cell)
    {x : RoleRow × RolePermissionRow} (hx : ¬ IsRowOf perm role x) :
    CellOk (rows ++ [x]) perm role cell where
  isSome_iff := by
    rw [h.isSome_iff]
    simp [hx, or_and_right, exists_or]
  all_iff c hc := by
    rw [h.all_iff c hc]
    simp [hx, or_and_right, exists_or]
  state := h.state

lemma CellOk.concat {rows : List (RoleRow × RolePermissionRow)} {perm role : String}
    {cell : Option MatrixCell} (h : CellOk rows perm role cell)
    {x : RoleRow × RolePermissionRow} (hx : IsRowOf perm role x) {scope : Scope}
    (hscope : parseScopeJSON x.2.scopeJson = .ok scope) :
    CellOk (rows ++ [x]) perm role (some ((cell.getD {}).addRow role scope)) where
  isSome_iff := iff_of_true rfl ⟨x, by simp, hx⟩
  all_iff := by
    rintro c ⟨⟩
    have hempty : parseScopeJSON x.2.scopeJson = .ok [] ↔ scope = [] := by
      rw [hscope, Except.ok.injEq]
    have hall : (cell.getD {}).state = .all ↔
        ∃ x ∈ rows, IsRowOf perm role x ∧ parseScopeJSON x.2.scopeJson = .ok [] := by
      cases hcell : cell with
      | none =>
        refine iff_of_false (by decide) ?_
        rintro ⟨y, hy, hof, -⟩
        have hsome := h.isSome_iff.mpr ⟨y, hy, hof⟩
        rw [hcell] at hsome
        cases hsome
      | some c => exact h.all_iff c hcell
    rw [MatrixCell.addRow_state]
    simp only [List.mem_append, List.mem_singleton, or_and_right, exists_or, exists_eq_left,
      ← hall, hempty, hx, true_and]
    split
    · next hor => exact iff_of_true rfl hor.symm
    · next hor => exact iff_of_false (by decide) fun h' => hor h'.symm
  state := by
    rintro c ⟨⟩
    rw [MatrixCell.addRow_state]
    split
    · exact Or.inl rfl
    · exact Or.inr rfl

/-- The invariant of the loop, by induction on the rows that are still to be read. -/
lemma addCells_ok {rest : List (RoleRow × RolePermissionRow)} :
    ∀ {rows : List (RoleRow × RolePermissionRow)} {cells cells' : Cells},
      (∀ perm role, CellOk rows perm role (cellAt cells perm role)) →
      addCells cells rest = .ok cells' →
      ∀ perm role, CellOk (rows ++ rest) perm role (cellAt cells' perm role) := by
  induction rest with
  | nil =>
    intro rows cells cells' h hadd
    obtain rfl := Except.ok.inj hadd
    simpa using h
  | cons x rest ih =>
    intro rows cells cells' h hadd
    rw [addCells] at hadd
    split at hadd
    · cases hadd
    · next scope hscope =>
      rw [List.append_cons]
      refine ih ?_ hadd
      intro perm role
      rw [cellAt_setCell]
      split
      · next hkey =>
        obtain ⟨rfl, rfl⟩ := hkey
        exact (h _ _).concat ⟨rfl, rfl⟩ hscope
      · next hkey =>
        refine (h perm role).concat_of_not ?_
        rintro ⟨hname, hperm⟩
        exact hkey ⟨hperm.symm, hname.symm⟩

lemma addCells_isOk {rows : List (RoleRow × RolePermissionRow)}
    (h : ∀ x ∈ rows, ∃ scope, parseScopeJSON x.2.scopeJson = .ok scope) (cells : Cells) :
    ∃ cells', addCells cells rows = .ok cells' := by
  induction rows generalizing cells with
  | nil => exact ⟨cells, rfl⟩
  | cons x rows ih =>
    obtain ⟨scope, hscope⟩ := h x List.mem_cons_self
    rw [addCells, hscope]
    exact ih (fun y hy => h y (List.mem_cons_of_mem x hy)) _

/-- A gap is filled, and nothing else changes. -/
lemma cellAt_fillGaps (perm : String) (roles : List RoleRow) (cells : Cells) (perm' role : String) :
    cellAt (roles.foldl (fillGap perm) cells) perm' role =
      (cellAt cells perm' role).or
        (if perm' = perm ∧ ∃ r ∈ roles, r.name = role then some { state := .none } else none) := by
  induction roles generalizing cells with
  | nil => simp
  | cons r roles ih =>
    rw [List.foldl_cons, ih, fillGap]
    by_cases hsome : (cellAt cells perm r.name).isSome = true
    · rw [if_pos hsome]
      by_cases hkey : perm' = perm ∧ r.name = role
      · obtain ⟨rfl, rfl⟩ := hkey
        obtain ⟨c, hc⟩ := Option.isSome_iff_exists.mp hsome
        simp [hc]
      · congr 2
        simp only [List.mem_cons, exists_eq_or_imp, eq_iff_iff]
        tauto
    · rw [if_neg hsome, cellAt_setCell]
      rw [Option.not_isSome_iff_eq_none] at hsome
      by_cases hkey : perm' = perm ∧ role = r.name
      · obtain ⟨rfl, rfl⟩ := hkey
        simp [hsome]
      · rw [if_neg hkey]
        congr 2
        simp only [List.mem_cons, exists_eq_or_imp, eq_iff_iff]
        have hne : perm' = perm → ¬ r.name = role := fun hp hr => hkey ⟨hp, hr.symm⟩
        tauto

lemma cellAt_fillRow (roles : List RoleRow) (cells : Cells) (c : Capability)
    (perm role : String) : cellAt (fillRow roles cells c) perm role =
      (cellAt cells perm role).or
        (if perm = c.permission ∧ ∃ r ∈ roles, r.name = role then some { state := .none }
          else none) := by
  rw [fillRow, cellAt_fillGaps]
  congr 1
  split
  · rfl
  · next hnone =>
    rw [Option.not_isSome_iff_eq_none] at hnone
    rw [cellAt, cellAt, Assoc.lookup_set]
    split
    · next hp =>
      rw [hp, hnone]
      rfl
    · rfl

/-- After the gaps are filled, every role has a cell under every capability. -/
lemma cellAt_fillRows (roles : List RoleRow) (caps : List Capability) (cells : Cells)
    (perm role : String) : cellAt (caps.foldl (fillRow roles) cells) perm role =
      (cellAt cells perm role).or
        (if perm ∈ caps.map (·.permission) ∧ ∃ r ∈ roles, r.name = role
          then some { state := .none } else none) := by
  induction caps generalizing cells with
  | nil => simp
  | cons c caps ih =>
    rw [List.foldl_cons, ih, cellAt_fillRow]
    cases hcell : cellAt cells perm role with
    | some cell => rfl
    | none =>
      simp only [Option.none_or, List.map_cons, List.mem_cons]
      by_cases hp : perm = c.permission ∧ ∃ r ∈ roles, r.name = role
      · have hfilled : (perm = c.permission ∨ perm ∈ caps.map (·.permission)) ∧
            ∃ r ∈ roles, r.name = role := ⟨Or.inl hp.1, hp.2⟩
        rw [if_pos hp, if_pos hfilled]
        rfl
      · rw [if_neg hp, Option.none_or]
        congr 1
        rw [eq_iff_iff]
        constructor
        · rintro ⟨hmem, hrole⟩
          exact ⟨Or.inr hmem, hrole⟩
        · rintro ⟨hc | hmem, hrole⟩
          · exact absurd ⟨hc, hrole⟩ hp
          · exact ⟨hmem, hrole⟩

/-! ### The rows of one role -/

/-- The tables of the roles: under their keys, with scopes that parse. -/
structure RoleTables (db : Db) : Prop where
  ids : (db.iamRole.map (·.id)).Nodup
  names : (db.iamRole.map (·.name)).Nodup
  scopes : ∀ rp ∈ db.iamRolePermission, ∃ scope, parseScopeJSON rp.scopeJson = .ok scope

/-- The user is bound to the role, and to no other. -/
structure BoundOnlyTo (db : Db) (userId roleId : Uuid) : Prop where
  user : ∃ u ∈ db.iamUser, u.id = userId
  bound : ∃ b ∈ db.iamUserRoleBinding, b.userId = userId ∧ b.roleId = roleId
  only : ∀ b ∈ db.iamUserRoleBinding, b.userId = userId → b.roleId = roleId

/-- The role has a row of the permission whose scope column satisfies `P`. -/
def HasRow (db : Db) (roleId : Uuid) (perm : String) (P : Option Json → Prop) : Prop :=
  ∃ rp ∈ db.iamRolePermission, rp.roleId = roleId ∧
    permissionOf (rp.resource, rp.action) = perm ∧ P rp.scopeJson

lemma exists_roleRows_iff {db : Db} (h : RoleTables db) {r : RoleRow} (hr : r ∈ db.iamRole)
    (perm : String) (P : Option Json → Prop) :
    (∃ x ∈ roleRows db, IsRowOf perm r.name x ∧ P x.2.scopeJson) ↔ HasRow db r.id perm P := by
  simp only [roleRows, List.mem_flatMap, List.mem_map, List.mem_filter, decide_eq_true_eq]
  constructor
  · rintro ⟨-, ⟨r', hr', rp, ⟨hrp, hid⟩, rfl⟩, ⟨hname, hperm⟩, hP⟩
    obtain rfl := List.inj_on_of_nodup_map h.names hr' hr hname
    exact ⟨rp, hrp, hid, hperm, hP⟩
  · rintro ⟨rp, hrp, hid, hperm, hP⟩
    exact ⟨(r, rp), ⟨r, hr, rp, ⟨hrp, hid⟩, rfl⟩, ⟨rfl, hperm⟩, hP⟩

/-- The rows of a role in the join: one without a permission, or one for each permission. -/
lemma exists_permissionRows_iff {db : Db} (h : RoleTables db) {r : RoleRow} (hr : r ∈ db.iamRole)
    {userId : Uuid} (hbound : BoundOnlyTo db userId r.id) (perm : String)
    (P : Option Json → Prop) :
    (∃ row ∈ permissionRows db userId, row.permission = some perm ∧ P row.scopeRaw) ↔
      HasRow db r.id perm P := by
  have hrole : ∀ r' ∈ db.iamRole, r'.id = r.id → r' = r := fun r' hr' hid =>
    List.inj_on_of_nodup_map h.ids hr' hr hid
  simp only [permissionRows, List.mem_insertionSort, List.mem_flatMap, List.mem_filter,
    decide_eq_true_eq]
  constructor
  · rintro ⟨row, ⟨b, ⟨hb, hu⟩, r', ⟨hr', hid⟩, hrow⟩, hperm, hP⟩
    obtain rfl := hrole r' hr' (hid.trans (hbound.only b hb hu))
    split at hrow
    · obtain rfl := List.mem_singleton.mp hrow
      cases hperm
    · obtain ⟨rp, hrp, rfl⟩ := List.mem_map.mp hrow
      obtain ⟨hrp, hrpid⟩ := List.mem_filter.mp hrp
      exact ⟨rp, hrp, by simpa using hrpid, Option.some.inj hperm, hP⟩
  · rintro ⟨rp, hrp, hid, hperm, hP⟩
    obtain ⟨b, hb, hu, hbid⟩ := hbound.bound
    have hmem : rp ∈ db.iamRolePermission.filter (·.roleId = r.id) :=
      List.mem_filter.mpr ⟨hrp, by simpa using hid⟩
    refine ⟨{ role := r.name, resource := some rp.resource, action := some rp.action
              scopeRaw := rp.scopeJson }, ⟨b, ⟨hb, hu⟩, r, ⟨hr, hbid.symm⟩, ?_⟩,
      congrArg some hperm, hP⟩
    split
    · next hnone =>
      rw [hnone] at hmem
      cases hmem
    · exact List.mem_map.mpr ⟨rp, hmem, rfl⟩

/-- The permission of an administrator is that of one pair only. -/
lemma permissionOf_eq_admin {resource action : String}
    (h : permissionOf (resource, action) = adminPermission) :
    resource = "system" ∧ action = "admin" := by
  have hchars : resource.toList ++ ':' :: action.toList =
      "system".toList ++ ':' :: "admin".toList := by
    have := congrArg String.toList h
    simpa [permissionOf, adminPermission] using this
  obtain ⟨hres, hact⟩ := Text.append_cons_inj_of_right (by decide) (by decide) hchars
  exact ⟨String.toList_inj.mp hres, String.toList_inj.mp hact⟩

/-- The role has no row that makes its users administrators. -/
def NoAdminRow (db : Db) (roleId : Uuid) : Prop :=
  ∀ rp ∈ db.iamRolePermission, rp.roleId = roleId →
    ¬ (rp.resource = "system" ∧ rp.action = "admin")

/-- The identity of a user of one role, and its answers to general questions. -/
lemma identityForUser_of_boundOnlyTo {db : Db} (h : RoleTables db) {r : RoleRow}
    (hr : r ∈ db.iamRole) (hadmin : NoAdminRow db r.id) {userId : Uuid}
    (hbound : BoundOnlyTo db userId r.id) :
    ∃ id, identityForUser db userId.toText = .ok id ∧ ∀ perm,
      ((id.authorize perm none).allowed = true ↔ HasRow db r.id perm fun _ => True) ∧
      ((id.authorize perm none).allowed = true → ((id.authorize perm none).isPartial = false ↔
        HasRow db r.id perm fun raw => parseScopeJSON raw = .ok [])) := by
  have hiff := exists_permissionRows_iff h hr hbound
  -- every scope of the join parses
  obtain ⟨id, hid⟩ : ∃ id, identityForUser db userId.toText = .ok id := by
    obtain ⟨u, hu, huid⟩ := hbound.user
    rw [identityForUser, Uuid.parse_toText]
    dsimp only
    split
    · next hnone =>
      have := List.find?_eq_none.mp hnone u hu
      simp [huid] at this
    · refine identityOfRows_isOk_iff.mpr fun row hrow perm hperm => ?_
      obtain ⟨rp, hrp, -, -, heq⟩ :=
        (hiff perm fun raw => raw = row.scopeRaw).mp ⟨row, hrow, hperm, rfl⟩
      obtain ⟨scope, hscope⟩ := h.scopes rp hrp
      exact ⟨scope, heq ▸ hscope⟩
  obtain ⟨user, hrows⟩ := identityOfRows_of_identityForUser hid
  have hbuilt := (builtFrom_of_identityOfRows hrows).1
  have ha : isAdmin id = false := by
    rw [← Bool.not_eq_true, hbuilt.isAdmin_iff]
    rintro ⟨row, hrow, hperm⟩
    obtain ⟨rp, hrp, hrole, hadm, -⟩ :=
      (hiff adminPermission fun _ => True).mp ⟨row, hrow, hperm, trivial⟩
    exact hadmin rp hrp hrole (permissionOf_eq_admin hadm)
  refine ⟨id, hid, fun perm => ⟨?_, fun hallowed => ?_⟩⟩
  · rw [hbuilt.authorize_none_allowed_iff ha, ← hiff]
    simp only [and_true]
  · rw [← hiff]
    by_cases hs : AllScoped (permissionRows db userId) perm
    · rw [hbuilt.isPartial_of_allScoped ha hs hallowed]
      refine iff_of_false (by decide) ?_
      rintro ⟨row, hrow, hh⟩
      exact hs row hrow hh
    · rw [AllScoped] at hs
      push Not at hs
      obtain ⟨row, hrow, hh⟩ := hs
      exact iff_of_true (hbuilt.authorize_of_unscoped hrow hh none).2 ⟨row, hrow, hh⟩

/-- The cell shows the verdict on the general question. -/
structure MatrixCell.Shows (cell : MatrixCell) (d : Decision) : Prop where
  none_iff : cell.state = .none ↔ d.allowed = false
  partial_iff : cell.state = .isPartial ↔ d.allowed = true ∧ d.isPartial = true
  all_iff : cell.state = .all ↔ d.allowed = true ∧ d.isPartial = false

lemma capabilityMatrix_isOk (o : Orders) {db : Db} (h : RoleTables db) (now : Time) :
    ∃ m cells, capabilityMatrix o db now = .ok m ∧ m.capabilities = listCapabilities o db ∧
      m.cells = (listCapabilities o db).foldl (fillRow (o.roles db.iamRole)) cells ∧
      ∀ perm role, CellOk (roleRows db) perm role (cellAt cells perm role) := by
  have hparse : ∀ x ∈ o.rows (roleRows db), ∃ scope, parseScopeJSON x.2.scopeJson = .ok scope := by
    intro x hx
    rw [(o.rows_perm _).mem_iff, roleRows] at hx
    simp only [List.mem_flatMap, List.mem_map, List.mem_filter] at hx
    obtain ⟨r, -, rp, ⟨hrp, -⟩, rfl⟩ := hx
    exact h.scopes rp hrp
  obtain ⟨cells, hcells⟩ := addCells_isOk hparse []
  have hnil : ∀ perm role, CellOk [] perm role (cellAt [] perm role) :=
    fun perm role => ⟨by simp [cellAt], by simp [cellAt], by simp [cellAt]⟩
  refine ⟨_, cells, by rw [capabilityMatrix, hcells], rfl, rfl, fun perm role => ?_⟩
  have hok := addCells_ok hnil hcells perm role
  rw [List.nil_append] at hok
  have hmem := fun x => (o.rows_perm (roleRows db)).mem_iff (a := x)
  exact ⟨by simpa only [hmem] using hok.isSome_iff, by simpa only [hmem] using hok.all_iff,
    hok.state⟩

/-- **The matrix shows what the evaluator does.**  For every state of the tables, in every order
of their rows, the catalogue lists each permission of a row or of the product once, by resource
and action; and under each of its capabilities a role that does not make its users administrators
has a cell, which shows the verdict on the general question for a user of this role alone. -/
theorem matrix_shows_verdicts (o : Orders) {db : Db} (h : RoleTables db) (now : Time) :
    Catalogued db (listCapabilities o db) ∧
    ∃ m, capabilityMatrix o db now = .ok m ∧ m.capabilities = listCapabilities o db ∧
      ∀ r ∈ db.iamRole, NoAdminRow db r.id → ∀ userId, BoundOnlyTo db userId r.id →
        ∃ id, identityForUser db userId.toText = .ok id ∧
          ∀ c ∈ listCapabilities o db, ∃ cell, cellAt m.cells c.permission r.name = some cell ∧
            cell.Shows (id.authorize c.permission none) := by
  obtain ⟨m, cells, hm, hcaps, hcells, hok⟩ := capabilityMatrix_isOk o h now
  refine ⟨catalogued_listCapabilities o db, m, hm, hcaps, ?_⟩
  intro r hr hadmin userId hbound
  obtain ⟨id, hid, hverdict⟩ := identityForUser_of_boundOnlyTo h hr hadmin hbound
  refine ⟨id, hid, fun c hc => ?_⟩
  obtain ⟨hallowed, hfull⟩ := hverdict c.permission
  have hcell := hok c.permission r.name
  have hrow : (∃ x ∈ roleRows db, IsRowOf c.permission r.name x) ↔
      (id.authorize c.permission none).allowed = true := by
    rw [hallowed, ← exists_roleRows_iff h hr]
    simp only [and_true]
  have hunscoped := exists_roleRows_iff h hr c.permission fun raw => parseScopeJSON raw = .ok []
  rw [hcells, cellAt_fillRows]
  cases hat : cellAt cells c.permission r.name with
  | none =>
    -- a gap, which is filled because the capability and the role are both listed
    have hlisted : c.permission ∈ (listCapabilities o db).map (·.permission) ∧
        ∃ s ∈ o.roles db.iamRole, s.name = r.name :=
      ⟨List.mem_map_of_mem hc, r, (o.roles_perm _).mem_iff.mpr hr, rfl⟩
    have hdenied : (id.authorize c.permission none).allowed = false := by
      rw [← Bool.not_eq_true, ← hrow, ← hcell.isSome_iff, hat]
      simp
    rw [if_pos hlisted]
    exact ⟨_, rfl, ⟨by simp [hdenied], by simp [hdenied], by simp [hdenied]⟩⟩
  | some cell =>
    have hyes : (id.authorize c.permission none).allowed = true := by
      rw [← hrow, ← hcell.isSome_iff, hat]
      rfl
    have hall : cell.state = .all ↔ (id.authorize c.permission none).isPartial = false := by
      rw [hcell.all_iff cell hat, hfull hyes, ← hunscoped]
    refine ⟨cell, rfl, ?_⟩
    rcases hcell.state cell hat with hstate | hstate
    · have hpartial := hall.mp hstate
      exact ⟨by simp [hstate, hyes], by simp [hstate, hyes, hpartial],
        by simp [hstate, hyes, hpartial]⟩
    · have hpartial : (id.authorize c.permission none).isPartial = true := by
        rw [← Bool.not_eq_false, ← hall, hstate]
        decide
      exact ⟨by simp [hstate, hyes], by simp [hstate, hyes, hpartial],
        by simp [hstate, hyes, hpartial]⟩

/-- Two rows of one role with different pairs and one permission string, the second in `dev`
only. -/
def collidingDb : Db where
  iamUser := [{ id := Uuid.replicate 1, oidcSubject := "alice" }]
  iamRole := [{ id := Uuid.replicate 2, name := "ops" }]
  iamRolePermission :=
    [{ roleId := Uuid.replicate 2, resource := "db", action := "table:drop" },
     { roleId := Uuid.replicate 2, resource := "db:table", action := "drop"
       scopeJson := some (.arr [.obj [("dimension", .str "env"), ("op", .str "in"),
         ("values", .arr [.str "dev"])]]) }]
  iamUserRoleBinding := [{ userId := Uuid.replicate 1, roleId := Uuid.replicate 2 }]

theorem matrix_shows_verdicts_colliding :
    ∃ m, capabilityMatrix {} collidingDb 0 = .ok m ∧
      ∃ id, identityForUser collidingDb (Uuid.replicate 1).toText = .ok id ∧
        ∀ c ∈ listCapabilities {} collidingDb, ∃ cell,
          cellAt m.cells c.permission "ops" = some cell ∧
            cell.Shows (id.authorize c.permission none) := by
  have htables : RoleTables collidingDb := by
    refine ⟨by decide, by decide, ?_⟩
    intro rp hrp
    simp only [collidingDb, List.mem_cons, List.not_mem_nil, or_false] at hrp
    rcases hrp with rfl | rfl
    · exact ⟨_, rfl⟩
    · exact ⟨_, rfl⟩
  obtain ⟨-, m, hm, -, hcells⟩ := matrix_shows_verdicts {} htables 0
  refine ⟨m, hm, hcells { id := Uuid.replicate 2, name := "ops" } (by decide) ?_
    (Uuid.replicate 1) ⟨by decide, by decide, by decide⟩⟩
  intro rp hrp _
  simp only [collidingDb, List.mem_cons, List.not_mem_nil, or_false] at hrp
  rcases hrp with rfl | rfl
  · decide
  · decide

end OpsPlatform.Iam
