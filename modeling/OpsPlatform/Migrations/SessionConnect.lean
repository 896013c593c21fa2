/-
The merge of the session capabilities (`migrations/0023_bastion_session_connect.sql`).

The rows `bastion.session:ssh` and `bastion.session:rdp` of a role become one row
`bastion.session:connect`.  Its scope is `NULL` unless all the rows it stands for have one and the
same scope, so that it is broader than each of them (`Broader`): this is what carries the
verdicts of the scope evaluator from one side to the other.
-/
import OpsPlatform.Iam.Identity
import OpsPlatform.Lib.Table
import Mathlib.Data.List.Dedup

namespace OpsPlatform.Migrations

open Lib Lib.Table Iam

/-- What the statement asks of the server about `jsonb`: the cast to `text`, and the aggregate
`min`, of which nothing is used but that it returns one of the values. -/
structure JsonbFunctions where
  text : Json → String
  min : List Json → Option Json
  min_mem : ∀ values, values ≠ [] → ∃ value ∈ values, min values = some value

/-- The row is one of `bastion.session` with the action. -/
def isSession (action : String) (rp : RolePermissionRow) : Bool :=
  rp.resource == "bastion.session" && rp.action == action

/-- `resource = 'bastion.session' AND action IN ('ssh', 'rdp')`. -/
def isSource (rp : RolePermissionRow) : Bool := isSession "ssh" rp || isSession "rdp" rp

/-- The scope of a group: the `CASE` of the `SELECT`. -/
def groupScope (fns : JsonbFunctions) (scopes : List (Option Json)) : Option Json :=
  if scopes.any (·.isNone) then none
  else if 1 < ((scopes.filterMap id).map fns.text).dedup.length then none
  else fns.min (scopes.filterMap id)

/-- The `CASE` of the conflict branch. -/
def conflictScope (fns : JsonbFunctions) (current excluded : Option Json) : Option Json :=
  match current, excluded with
  | some c, some e => if fns.text c ≠ fns.text e then none else some e
  | _, _ => none

/-- The scopes of the group of a role. -/
def groupOf (rows : List RolePermissionRow) (roleId : Uuid) : List (Option Json) :=
  (rows.filter fun rp => isSource rp && rp.roleId == roleId).map (·.scopeJson)

/-- `GROUP BY role_id`. -/
def groups (rows : List RolePermissionRow) : List Uuid :=
  ((rows.filter isSource).map (·.roleId)).dedup

/-- The row of one group is inserted, or merged into the row with its key. -/
def insertConnect (fns : JsonbFunctions) (scope : Uuid → Option Json)
    (rows : List RolePermissionRow) (roleId : Uuid) : List RolePermissionRow :=
  upsert (fun rp => isSession "connect" rp && rp.roleId == roleId) (fun _ => true)
    (fun rp => { rp with scopeJson := conflictScope fns rp.scopeJson (scope roleId) })
    { roleId, resource := "bastion.session", action := "connect", scopeJson := scope roleId } rows

/-- The `INSERT` and the `DELETE`.  What is selected is read before anything is inserted. -/
def mergeSessionRows (fns : JsonbFunctions) (rows : List RolePermissionRow) :
    List RolePermissionRow :=
  ((groups rows).foldl (insertConnect fns fun roleId => groupScope fns (groupOf rows roleId))
    rows).filter fun rp => !isSource rp

/-- Migration 0023. -/
def bastionSessionConnect (fns : JsonbFunctions) (db : Db) : Db :=
  { db with iamRolePermission := mergeSessionRows fns db.iamRolePermission }

/-! ### What the rows admit -/

/-- The scope column admits the attributes, as the program reads it. -/
def Admits (scopeJson : Option Json) (attrs : Attrs) : Prop :=
  ∃ scope, parseScopeJSON scopeJson = .ok scope ∧ Scope.matches scope attrs = true

/-- The role has a row of `bastion.session` with the action that admits the attributes. -/
def RowAdmits (rows : List RolePermissionRow) (roleId : Uuid) (action : String) (attrs : Attrs) :
    Prop :=
  ∃ rp ∈ rows, rp.roleId = roleId ∧ isSession action rp = true ∧ Admits rp.scopeJson attrs

/-- One of the three session rows of the role admits the attributes. -/
def SessionAdmits (rows : List RolePermissionRow) (roleId : Uuid) (attrs : Attrs) : Prop :=
  RowAdmits rows roleId "ssh" attrs ∨ RowAdmits rows roleId "rdp" attrs ∨
    RowAdmits rows roleId "connect" attrs

/-- The session rows of the role, under any of the three actions. -/
def IsSessionRowOf (roleId : Uuid) (rp : RolePermissionRow) : Prop :=
  rp.roleId = roleId ∧ (isSource rp = true ∨ isSession "connect" rp = true)

/-- The session rows of the role carry equal scopes: one value of the column, or scopes that are
all empty, however they are written. -/
def EqualScopes (rows : List RolePermissionRow) (roleId : Uuid) : Prop :=
  (∀ rp ∈ rows, ∀ rp' ∈ rows, IsSessionRowOf roleId rp → IsSessionRowOf roleId rp' →
    rp.scopeJson = rp'.scopeJson) ∨
  ∀ rp ∈ rows, IsSessionRowOf roleId rp → parseScopeJSON rp.scopeJson = .ok []

/-- The cast to `text` tells the stored scopes apart, since the text can be read back. -/
def TextFaithful (fns : JsonbFunctions) (rows : List RolePermissionRow) : Prop :=
  ∀ rp ∈ rows, ∀ rp' ∈ rows, ∀ c c', rp.scopeJson = some c → rp'.scopeJson = some c' →
    fns.text c = fns.text c' → c = c'

/-- A scope that stands for another one: the same, or none at all. -/
def Broader (merged scope : Option Json) : Prop := merged = none ∨ merged = scope

lemma admits_none (attrs : Attrs) : Admits none attrs := ⟨[], rfl, rfl⟩

lemma Broader.admits {merged scope : Option Json} (h : Broader merged scope) {attrs : Attrs}
    (hs : Admits scope attrs) : Admits merged attrs := by
  rcases h with rfl | rfl
  · exact admits_none attrs
  · exact hs

lemma Broader.trans {merged group scope : Option Json} (h : Broader merged group)
    (h' : Broader group scope) : Broader merged scope := by
  rcases h with rfl | rfl
  · exact Or.inl rfl
  · exact h'

lemma conflictScope_broader (fns : JsonbFunctions) {current excluded : Option Json}
    (htext : ∀ c e, current = some c → excluded = some e → fns.text c = fns.text e → c = e) :
    Broader (conflictScope fns current excluded) current ∧
      Broader (conflictScope fns current excluded) excluded := by
  cases current with
  | none => exact ⟨Or.inl rfl, Or.inl rfl⟩
  | some c =>
    cases excluded with
    | none => exact ⟨Or.inl rfl, Or.inl rfl⟩
    | some e =>
      rw [conflictScope]
      split
      · exact ⟨Or.inl rfl, Or.inl rfl⟩
      · next hsame =>
        rw [not_not] at hsame
        rw [htext c e rfl rfl hsame]
        exact ⟨Or.inr rfl, Or.inr rfl⟩

lemma eq_of_dedup_length {texts : List String} (h : ¬ 1 < texts.dedup.length) {s t : String}
    (hs : s ∈ texts) (ht : t ∈ texts) : s = t := by
  rw [← List.mem_dedup] at hs ht
  generalize texts.dedup = l at h hs ht
  rcases l with _ | ⟨a, _ | ⟨b, l⟩⟩
  · cases hs
  · rw [List.mem_singleton.mp hs, List.mem_singleton.mp ht]
  · simp at h

/-- The scope of a group is broader than the scope of each of its rows. -/
lemma groupScope_broader (fns : JsonbFunctions) {scopes : List (Option Json)}
    (htext : ∀ c c', some c ∈ scopes → some c' ∈ scopes → fns.text c = fns.text c' → c = c')
    {scope : Option Json} (h : scope ∈ scopes) : Broader (groupScope fns scopes) scope := by
  rw [groupScope]
  split
  · exact Or.inl rfl
  · next hsome =>
    split
    · exact Or.inl rfl
    · next hone =>
      -- the text is the same for all, so the value that `min` returns is the only one
      cases scope with
      | none => exact absurd (List.any_eq_true.mpr ⟨none, h, rfl⟩) hsome
      | some c =>
        have hc : c ∈ scopes.filterMap id := List.mem_filterMap.mpr ⟨some c, h, rfl⟩
        obtain ⟨e, he, hmin⟩ := fns.min_mem _ (List.ne_nil_of_mem hc)
        obtain ⟨e', he', rfl⟩ := List.mem_filterMap.mp he
        have hsame : fns.text c = fns.text e :=
          eq_of_dedup_length hone (List.mem_map_of_mem hc) (List.mem_map_of_mem he)
        refine Or.inr ?_
        rw [hmin, htext c e h he' hsame]

/-! ### The rows after the migration -/

section

variable {fns : JsonbFunctions} {scope : Uuid → Option Json} {rows rows' : List RolePermissionRow}
  {roleId : Uuid} {rp : RolePermissionRow}

/-- The row that a group inserts. -/
def connectRow (roleId : Uuid) (scopeJson : Option Json) : RolePermissionRow :=
  { roleId, resource := "bastion.session", action := "connect", scopeJson }

lemma isSource_eq_false_of_connect (h : isSession "connect" rp = true) : isSource rp = false := by
  simp only [isSession, Bool.and_eq_true, beq_iff_eq] at h
  simp [isSource, isSession, h.2]

/-- The rows of the role of a group: the merged ones, or a new one, and the others as they
were. -/
lemma mem_insertConnect : rp ∈ insertConnect fns scope rows roleId ↔
    (∃ r ∈ rows, isSession "connect" r = true ∧ r.roleId = roleId ∧
      rp = { r with scopeJson := conflictScope fns r.scopeJson (scope roleId) }) ∨
    ((∀ r ∈ rows, isSession "connect" r = true → r.roleId ≠ roleId) ∧
      rp = connectRow roleId (scope roleId)) ∨
    (rp ∈ rows ∧ ¬ (isSession "connect" rp = true ∧ rp.roleId = roleId)) := by
  rw [insertConnect, mem_upsert_iff, upsertReturning, or_assoc.symm]
  refine or_congr ?_ (by simp)
  split
  · next hany =>
    obtain ⟨r₀, hr₀, hhit⟩ := List.any_eq_true.mp hany
    rw [Bool.and_eq_true, beq_iff_eq] at hhit
    simp only [List.mem_map, List.mem_filter, Bool.and_true, Bool.and_eq_true, beq_iff_eq]
    constructor
    · rintro ⟨r, ⟨hr, hc, hid⟩, rfl⟩
      exact Or.inl ⟨r, hr, hc, hid, rfl⟩
    · rintro (⟨r, hr, hc, hid, rfl⟩ | ⟨hnone, -⟩)
      · exact ⟨r, ⟨hr, hc, hid⟩, rfl⟩
      · exact absurd hhit.2 (hnone r₀ hr₀ hhit.1)
  · next hnone =>
    rw [Bool.not_eq_true, List.any_eq_false] at hnone
    have hfree : ∀ r ∈ rows, isSession "connect" r = true → r.roleId ≠ roleId := by
      intro r hr hc hid
      exact hnone r hr (by simp [hc, hid])
    rw [List.mem_singleton]
    constructor
    · rintro rfl
      exact Or.inr ⟨hfree, rfl⟩
    · rintro (⟨r, hr, hc, hid, -⟩ | ⟨-, rfl⟩)
      · exact absurd hid (hfree r hr hc)
      · rfl

/-- The rows of other roles stay. -/
lemma mem_insertConnect_other (h : rp.roleId ≠ roleId) :
    rp ∈ insertConnect fns scope rows roleId ↔ rp ∈ rows := by
  rw [mem_insertConnect]
  constructor
  · rintro (⟨r, -, -, hid, rfl⟩ | ⟨-, rfl⟩ | ⟨hmem, -⟩)
    · exact absurd hid h
    · exact absurd rfl h
    · exact hmem
  · intro hmem
    exact Or.inr (Or.inr ⟨hmem, fun hc => h hc.2⟩)

/-- What a group writes depends on the rows of its role only. -/
lemma mem_insertConnect_congr (h : ∀ r : RolePermissionRow, r.roleId = roleId →
    (r ∈ rows ↔ r ∈ rows')) (hid : rp.roleId = roleId) :
    rp ∈ insertConnect fns scope rows roleId ↔ rp ∈ insertConnect fns scope rows' roleId := by
  rw [mem_insertConnect, mem_insertConnect]
  have hexists : ∀ P : RolePermissionRow → Prop, (∃ r ∈ rows, isSession "connect" r = true ∧
      r.roleId = roleId ∧ P r) ↔ ∃ r ∈ rows', isSession "connect" r = true ∧
        r.roleId = roleId ∧ P r := by
    intro P
    constructor
    · rintro ⟨r, hr, hc, hrid, hP⟩
      exact ⟨r, (h r hrid).mp hr, hc, hrid, hP⟩
    · rintro ⟨r, hr, hc, hrid, hP⟩
      exact ⟨r, (h r hrid).mpr hr, hc, hrid, hP⟩
  have hnone : (∀ r ∈ rows, isSession "connect" r = true → r.roleId ≠ roleId) ↔
      ∀ r ∈ rows', isSession "connect" r = true → r.roleId ≠ roleId := by
    have := not_congr (hexists fun _ => True)
    simpa only [and_true, not_exists, not_and, Ne] using this
  rw [hexists, hnone, h rp hid]

/-- The rows of a role after all groups: those that its own group leaves, if it has one. -/
lemma mem_insertConnects {gs : List Uuid} (hgs : gs.Nodup) :
    rp ∈ gs.foldl (insertConnect fns scope) rows ↔
      if rp.roleId ∈ gs then rp ∈ insertConnect fns scope rows rp.roleId else rp ∈ rows := by
  induction gs generalizing rows with
  | nil => simp
  | cons g gs ih =>
    rw [List.nodup_cons] at hgs
    rw [List.foldl_cons, ih hgs.2]
    by_cases hg : rp.roleId = g
    · have hnot : rp.roleId ∉ gs := hg ▸ hgs.1
      rw [if_neg hnot, if_pos (by simp [hg]), hg]
    · by_cases hin : rp.roleId ∈ gs
      · rw [if_pos hin, if_pos (List.mem_cons_of_mem g hin)]
        refine mem_insertConnect_congr (fun r hr => mem_insertConnect_other ?_) rfl
        rw [hr]
        exact hg
      · rw [if_neg hin, if_neg (by simp [hg, hin]), mem_insertConnect_other hg]

lemma mem_groups : roleId ∈ groups rows ↔ ∃ r ∈ rows, isSource r = true ∧ r.roleId = roleId := by
  simp [groups, and_assoc]

/-- The rows after the migration. -/
lemma mem_mergeSessionRows : rp ∈ mergeSessionRows fns rows ↔ isSource rp = false ∧
    if rp.roleId ∈ groups rows then rp ∈ insertConnect fns
      (fun roleId => groupScope fns (groupOf rows roleId)) rows rp.roleId else rp ∈ rows := by
  have hgroups : (groups rows).Nodup := List.nodup_dedup _
  rw [mergeSessionRows, List.mem_filter, mem_insertConnects hgroups, and_comm]
  simp

lemma mem_groupOf {s : Option Json} : s ∈ groupOf rows roleId ↔
    ∃ r ∈ rows, isSource r = true ∧ r.roleId = roleId ∧ r.scopeJson = s := by
  simp [groupOf, and_assoc]

/-- The scope of the group of a source is broader than that of the source. -/
lemma groupScope_broader_source (htext : TextFaithful fns rows) {source : RolePermissionRow}
    (hsource : source ∈ rows) (his : isSource source = true) :
    Broader (groupScope fns (groupOf rows source.roleId)) source.scopeJson := by
  refine groupScope_broader fns ?_ (mem_groupOf.mpr ⟨source, hsource, his, rfl, rfl⟩)
  intro c c' hc hc' heq
  obtain ⟨r, hr, -, -, hrc⟩ := mem_groupOf.mp hc
  obtain ⟨r', hr', -, -, hrc'⟩ := mem_groupOf.mp hc'
  exact htext r hr r' hr' c c' hrc hrc' heq

/-- A row `connect` of a role with a group, after the merge. -/
def mergedConnect (fns : JsonbFunctions) (rows : List RolePermissionRow) (r : RolePermissionRow) :
    RolePermissionRow :=
  let excluded := groupScope fns (groupOf rows r.roleId)
  { r with scopeJson := conflictScope fns r.scopeJson excluded }

/-- The merged row is broader than what it was and than the sources of its role. -/
lemma mergedConnect_broader (htext : TextFaithful fns rows) {r source : RolePermissionRow}
    (hr : r ∈ rows) (hsource : source ∈ rows) (his : isSource source = true)
    (hid : source.roleId = r.roleId) :
    Broader (mergedConnect fns rows r).scopeJson r.scopeJson ∧
      Broader (mergedConnect fns rows r).scopeJson source.scopeJson := by
  have hgroup := groupScope_broader_source htext hsource his
  rw [hid] at hgroup
  have hsame : ∀ c e, r.scopeJson = some c → groupScope fns (groupOf rows r.roleId) = some e →
      fns.text c = fns.text e → c = e := by
    intro c e hc he heq
    -- a scope of the group that is not `NULL` is the scope of the source
    rcases hgroup with hnone | hsource'
    · rw [hnone] at he
      cases he
    · exact htext r hr source hsource c e hc (hsource' ▸ he) heq
  obtain ⟨hcurrent, hexcluded⟩ := conflictScope_broader fns hsame
  exact ⟨hcurrent, hexcluded.trans hgroup⟩

lemma mergedConnect_mem {r : RolePermissionRow} (hr : r ∈ rows)
    (hc : isSession "connect" r = true) (hin : r.roleId ∈ groups rows) :
    mergedConnect fns rows r ∈ mergeSessionRows fns rows := by
  refine mem_mergeSessionRows.mpr ⟨isSource_eq_false_of_connect hc, ?_⟩
  show if r.roleId ∈ groups rows then _ else _
  rw [if_pos hin]
  exact mem_insertConnect.mpr (Or.inl ⟨r, hr, hc, rfl, rfl⟩)

/-- A role with a source has a row `connect` that is broader than the source. -/
lemma exists_connect_of_source (htext : TextFaithful fns rows) {source : RolePermissionRow}
    (hsource : source ∈ rows) (his : isSource source = true) :
    ∃ rp ∈ mergeSessionRows fns rows, rp.roleId = source.roleId ∧
      isSession "connect" rp = true ∧ Broader rp.scopeJson source.scopeJson := by
  have hin : source.roleId ∈ groups rows := mem_groups.mpr ⟨source, hsource, his, rfl⟩
  by_cases hconnect : ∃ r ∈ rows, isSession "connect" r = true ∧ r.roleId = source.roleId
  · obtain ⟨r, hr, hc, hid⟩ := hconnect
    exact ⟨mergedConnect fns rows r, mergedConnect_mem hr hc (hid ▸ hin), hid, hc,
      (mergedConnect_broader htext hr hsource his hid.symm).2⟩
  · push Not at hconnect
    refine ⟨connectRow source.roleId (groupScope fns (groupOf rows source.roleId)), ?_, rfl, rfl,
      groupScope_broader_source htext hsource his⟩
    refine mem_mergeSessionRows.mpr ⟨rfl, ?_⟩
    show if source.roleId ∈ groups rows then _ else _
    rw [if_pos hin]
    exact mem_insertConnect.mpr (Or.inr (Or.inl ⟨hconnect, rfl⟩))

/-- A row `connect` stays, or becomes broader. -/
lemma exists_connect_of_connect (htext : TextFaithful fns rows) {r : RolePermissionRow}
    (hr : r ∈ rows) (hc : isSession "connect" r = true) :
    ∃ rp ∈ mergeSessionRows fns rows, rp.roleId = r.roleId ∧ isSession "connect" rp = true ∧
      Broader rp.scopeJson r.scopeJson := by
  by_cases hin : r.roleId ∈ groups rows
  · obtain ⟨source, hsource, his, hid⟩ := mem_groups.mp hin
    exact ⟨mergedConnect fns rows r, mergedConnect_mem hr hc hin, rfl, hc,
      (mergedConnect_broader htext hr hsource his hid).1⟩
  · refine ⟨r, mem_mergeSessionRows.mpr ⟨isSource_eq_false_of_connect hc, ?_⟩, rfl, hc, Or.inr rfl⟩
    rw [if_neg hin]
    exact hr

/-- Where a row `connect` of the result comes from. -/
lemma connect_cases (h : rp ∈ mergeSessionRows fns rows) (hc : isSession "connect" rp = true) :
    rp ∈ rows ∨ ∃ source ∈ rows, isSource source = true ∧ source.roleId = rp.roleId ∧
      ((∃ r ∈ rows, isSession "connect" r = true ∧ r.roleId = rp.roleId ∧
          rp = mergedConnect fns rows r) ∨
        rp = connectRow rp.roleId (groupScope fns (groupOf rows rp.roleId))) := by
  obtain ⟨-, h⟩ := mem_mergeSessionRows.mp h
  split at h
  · next hin =>
    obtain ⟨source, hsource, his, hid⟩ := mem_groups.mp hin
    rcases mem_insertConnect.mp h with ⟨r, hr, hrc, hrid, heq⟩ | ⟨-, heq⟩ | ⟨-, hnot⟩
    · refine Or.inr ⟨source, hsource, his, hid, Or.inl ⟨r, hr, hrc, hrid, ?_⟩⟩
      rw [heq, mergedConnect, hrid]
    · exact Or.inr ⟨source, hsource, his, hid, Or.inr heq⟩
    · exact absurd ⟨hc, rfl⟩ hnot
  · exact Or.inl h

/-- The scope of a group whose rows have one scope is this scope. -/
lemma groupScope_of_forall_eq {scopes : List (Option Json)} {s : Option Json} (hne : scopes ≠ [])
    (h : ∀ x ∈ scopes, x = s) : groupScope fns scopes = s := by
  obtain ⟨n, rfl⟩ : ∃ n, scopes = List.replicate n s := ⟨_, List.eq_replicate_of_mem h⟩
  have hn : n ≠ 0 := by simpa using hne
  cases s with
  | none => simp [groupScope, hn]
  | some c =>
    have hvalues : (List.replicate n (some c)).filterMap id = List.replicate n c := by simp
    obtain ⟨e, he, hmin⟩ := fns.min_mem (List.replicate n c) (by simpa using hn)
    obtain rfl := List.eq_of_mem_replicate he
    rw [groupScope, hvalues, List.map_replicate, List.replicate_dedup hn, if_neg (by simp),
      if_neg (by simp), hmin]

/-- When the session rows of a role carry equal scopes, a row `connect` of the result admits what
one of them admitted. -/
lemma sessionAdmits_of_connect {attrs : Attrs} (heq : EqualScopes rows rp.roleId)
    (h : rp ∈ mergeSessionRows fns rows) (hc : isSession "connect" rp = true)
    (hadmits : Admits rp.scopeJson attrs) : SessionAdmits rows rp.roleId attrs := by
  have hsourceAdmits : ∀ source ∈ rows, isSource source = true → source.roleId = rp.roleId →
      Admits source.scopeJson attrs → SessionAdmits rows rp.roleId attrs := by
    intro source hsource his hid hs
    rw [isSource, Bool.or_eq_true] at his
    rcases his with hssh | hrdp
    · exact Or.inl ⟨source, hsource, hid, hssh, hs⟩
    · exact Or.inr (Or.inl ⟨source, hsource, hid, hrdp, hs⟩)
  -- a row of `connect` was there before, or the merge has written it
  rcases connect_cases h hc with hrp | ⟨source, hsource, his, hid, hwritten⟩
  · exact Or.inr (Or.inr ⟨rp, hrp, rfl, hc, hadmits⟩)
  · refine hsourceAdmits source hsource his hid ?_
    rcases heq with hsame | hempty
    · -- the group has the scope of the source, and so has what is made of it
      have hgroup : groupScope fns (groupOf rows rp.roleId) = source.scopeJson := by
        refine groupScope_of_forall_eq
          (List.ne_nil_of_mem (mem_groupOf.mpr ⟨source, hsource, his, hid, rfl⟩)) ?_
        intro x hx
        obtain ⟨r, hr, hris, hrid, rfl⟩ := mem_groupOf.mp hx
        exact hsame r hr source hsource ⟨hrid, Or.inl hris⟩ ⟨hid, Or.inl his⟩
      have hscope : rp.scopeJson = source.scopeJson := by
        rcases hwritten with ⟨r, hr, hrc, hrid, hrp⟩ | hrp
        · have hr' : r.scopeJson = source.scopeJson :=
            hsame r hr source hsource ⟨hrid, Or.inr hrc⟩ ⟨hid, Or.inl his⟩
          rw [hrp, mergedConnect, hrid, hgroup, hr']
          cases source.scopeJson with
          | none => rfl
          | some c => simp [conflictScope]
        · rw [hrp, connectRow, hgroup]
      rw [← hscope]
      exact hadmits
    · exact ⟨[], hempty source hsource ⟨hid, Or.inl his⟩, rfl⟩

/-! ### The other rows, and a second run -/

/-- The row is of another permission. -/
def isOther (rp : RolePermissionRow) : Bool := !(isSource rp || isSession "connect" rp)

lemma filter_insertConnect :
    (insertConnect fns scope rows roleId).filter isOther = rows.filter isOther := by
  rw [insertConnect, upsert]
  split
  · refine filter_updateWhere ?_ rows
    intro r hr
    simp only [Bool.and_eq_true, Bool.and_true] at hr
    have hnot : isOther r = false := by simp [isOther, hr.1]
    exact ⟨hnot, hnot⟩
  · rw [List.filter_append, List.filter_cons_of_neg (by simp [isOther, isSession]), List.filter_nil,
      List.append_nil]

lemma filter_mergeSessionRows :
    (mergeSessionRows fns rows).filter isOther = rows.filter isOther := by
  have hfold : ∀ (gs : List Uuid) (acc : List RolePermissionRow),
      (gs.foldl (insertConnect fns fun roleId => groupScope fns (groupOf rows roleId)) acc).filter
        isOther = acc.filter isOther := by
    intro gs
    induction gs with
    | nil => exact fun _ => rfl
    | cons g gs ih =>
      intro acc
      rw [List.foldl_cons, ih, filter_insertConnect]
  rw [mergeSessionRows, List.filter_filter, ← hfold (groups rows) rows]
  refine List.filter_congr fun r _ => ?_
  cases his : isSource r <;> simp [isOther, his]

/-- Without sources there is nothing to merge. -/
lemma mergeSessionRows_of_none (h : ∀ rp ∈ rows, isSource rp = false) :
    mergeSessionRows fns rows = rows := by
  have hgroups : groups rows = [] := by
    rw [List.eq_nil_iff_forall_not_mem]
    intro g hg
    obtain ⟨r, hr, his, -⟩ := mem_groups.mp hg
    rw [h r hr] at his
    cases his
  rw [mergeSessionRows, hgroups, List.foldl_nil, List.filter_eq_self]
  intro r hr
  simp [h r hr]

/-- `UNIQUE (role_id, resource, action)`. -/
def UniqueKey (rows : List RolePermissionRow) : Prop :=
  ∀ r ∈ rows, ∀ r' ∈ rows,
    (r.roleId, r.resource, r.action) = (r'.roleId, r'.resource, r'.action) → r = r'

lemma uniqueKey_mergeSessionRows (h : UniqueKey rows) : UniqueKey (mergeSessionRows fns rows) := by
  have hfold : ∀ (gs : List Uuid) (acc : List RolePermissionRow), UniqueKey acc →
      UniqueKey (gs.foldl (insertConnect fns fun roleId =>
        groupScope fns (groupOf rows roleId)) acc) := by
    intro gs
    induction gs with
    | nil => exact fun _ h => h
    | cons g gs ih =>
      intro acc hacc
      refine ih _
        (unique_upsert (k := (g, "bastion.session", "connect")) ?_ (fun _ => rfl) rfl hacc)
      intro r
      simp [isSession]
      tauto
  intro r hr r' hr' hkey
  exact hfold (groups rows) rows h r (List.mem_of_mem_filter hr) r' (List.mem_of_mem_filter hr')
    hkey

end

/-- **The merge never takes access away.**  For every table under its key no row
`bastion.session:ssh` or `bastion.session:rdp` is left after the migration; what one of the session
rows of a role admitted, its row `bastion.session:connect` admits, and nothing else if the rows
carried equal scopes; the rows of other permissions are as they were; and a second run changes
nothing. -/
theorem session_merge_keeps_access (fns : JsonbFunctions) {db : Db}
    (hkey : UniqueKey db.iamRolePermission) (htext : TextFaithful fns db.iamRolePermission) :
    (∀ rp ∈ (bastionSessionConnect fns db).iamRolePermission, isSource rp = false) ∧
    UniqueKey (bastionSessionConnect fns db).iamRolePermission ∧
    (∀ roleId attrs, SessionAdmits db.iamRolePermission roleId attrs →
      RowAdmits (bastionSessionConnect fns db).iamRolePermission roleId "connect" attrs) ∧
    (∀ roleId, EqualScopes db.iamRolePermission roleId → ∀ attrs,
      (RowAdmits (bastionSessionConnect fns db).iamRolePermission roleId "connect" attrs ↔
        SessionAdmits db.iamRolePermission roleId attrs)) ∧
    (bastionSessionConnect fns db).iamRolePermission.filter isOther =
      db.iamRolePermission.filter isOther ∧
    bastionSessionConnect fns (bastionSessionConnect fns db) = bastionSessionConnect fns db := by
  have hnone : ∀ rp ∈ mergeSessionRows fns db.iamRolePermission, isSource rp = false :=
    fun rp hrp => (mem_mergeSessionRows.mp hrp).1
  -- a source and a `connect` row both end in a row that is as broad
  have hkeeps : ∀ roleId attrs, SessionAdmits db.iamRolePermission roleId attrs →
      RowAdmits (mergeSessionRows fns db.iamRolePermission) roleId "connect" attrs := by
    have hsource : ∀ (rp : RolePermissionRow) attrs, rp ∈ db.iamRolePermission →
        isSource rp = true → Admits rp.scopeJson attrs →
        RowAdmits (mergeSessionRows fns db.iamRolePermission) rp.roleId "connect" attrs := by
      intro rp attrs hrp his hadmits
      obtain ⟨r, hr, hid, hc, hbroader⟩ := exists_connect_of_source htext hrp his
      exact ⟨r, hr, hid, hc, hbroader.admits hadmits⟩
    rintro roleId attrs (⟨rp, hrp, rfl, his, hadmits⟩ | ⟨rp, hrp, rfl, his, hadmits⟩ |
      ⟨rp, hrp, rfl, hc, hadmits⟩)
    · exact hsource rp attrs hrp (by simp [isSource, his]) hadmits
    · exact hsource rp attrs hrp (by simp [isSource, his]) hadmits
    · obtain ⟨r, hr, hid, hrc, hbroader⟩ := exists_connect_of_connect htext hrp hc
      exact ⟨r, hr, hid, hrc, hbroader.admits hadmits⟩
  refine ⟨hnone, uniqueKey_mergeSessionRows hkey, hkeeps, ?_, filter_mergeSessionRows, ?_⟩
  · intro roleId heq attrs
    refine ⟨?_, hkeeps roleId attrs⟩
    rintro ⟨rp, hrp, rfl, hc, hadmits⟩
    exact sessionAdmits_of_connect heq hrp hc hadmits
  · rw [bastionSessionConnect]
    congr 1
    exact mergeSessionRows_of_none hnone

/-- The scope `env in [dev]`, with its keys in the order of `jsonb`. -/
def devScope : Json :=
  .arr [.obj [("op", .str "in"), ("values", .arr [.str "dev"]), ("dimension", .str "env")]]

/-- Three roles: one whose session rows are all limited to `dev`, one with a source row that is not,
and one whose `connect` row is limited and meets a source row that is not. -/
def protocolDb : Db where
  iamRolePermission :=
    [{ roleId := Uuid.replicate 1, resource := "bastion.session", action := "ssh"
       scopeJson := some devScope },
     { roleId := Uuid.replicate 1, resource := "bastion.session", action := "rdp"
       scopeJson := some devScope },
     { roleId := Uuid.replicate 1, resource := "bastion.session", action := "connect"
       scopeJson := some devScope },
     { roleId := Uuid.replicate 2, resource := "bastion.session", action := "ssh"
       scopeJson := some devScope },
     { roleId := Uuid.replicate 2, resource := "bastion.session", action := "rdp" },
     { roleId := Uuid.replicate 3, resource := "bastion.session", action := "connect"
       scopeJson := some devScope },
     { roleId := Uuid.replicate 3, resource := "bastion.session", action := "rdp" },
     { roleId := Uuid.replicate 3, resource := "cmdb.asset", action := "read" }]

theorem session_merge_keeps_access_protocolDb :
    ∃ fns : JsonbFunctions, fns.text = Json.text ∧
      (bastionSessionConnect fns protocolDb).iamRolePermission.map
          (fun rp => (rp.roleId, rp.action, rp.scopeJson)) =
        [(Uuid.replicate 1, "connect", some devScope), (Uuid.replicate 3, "connect", none),
         (Uuid.replicate 3, "read", none), (Uuid.replicate 2, "connect", none)] ∧
      (∀ roleId attrs, SessionAdmits protocolDb.iamRolePermission roleId attrs →
        RowAdmits (bastionSessionConnect fns protocolDb).iamRolePermission roleId "connect"
          attrs) ∧
      ∀ attrs, RowAdmits (bastionSessionConnect fns protocolDb).iamRolePermission
        (Uuid.replicate 1) "connect" attrs ↔
          SessionAdmits protocolDb.iamRolePermission (Uuid.replicate 1) attrs := by
  have hmin : ∀ values : List Json, values ≠ [] → ∃ value ∈ values, values.head? = some value := by
    rintro (_ | ⟨value, values⟩) hne
    · exact absurd rfl hne
    · exact ⟨value, List.mem_cons_self, rfl⟩
  have hkey : UniqueKey protocolDb.iamRolePermission := by
    simp [UniqueKey, protocolDb]
    decide
  have hscope : ∀ rp ∈ protocolDb.iamRolePermission, ∀ c, rp.scopeJson = some c → c = devScope := by
    simp [protocolDb]
  have hother : Uuid.replicate 2 ≠ Uuid.replicate 1 ∧ Uuid.replicate 3 ≠ Uuid.replicate 1 := by
    decide
  have hdev : ∀ rp ∈ protocolDb.iamRolePermission, rp.roleId = Uuid.replicate 1 →
      rp.scopeJson = some devScope := by
    simp [protocolDb, hother]
  have hkeeps := session_merge_keeps_access ⟨Json.text, List.head?, hmin⟩ hkey ?_
  · refine ⟨⟨Json.text, List.head?, hmin⟩, rfl, rfl, hkeeps.2.2.1,
      hkeeps.2.2.2.1 _ (Or.inl ?_)⟩
    intro rp hrp rp' hrp' hof hof'
    rw [hdev rp hrp hof.1, hdev rp' hrp' hof'.1]
  · intro rp hrp rp' hrp' c c' hc hc' _
    rw [hscope rp hrp c hc, hscope rp' hrp' c' hc']

end OpsPlatform.Migrations
