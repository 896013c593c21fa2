/-
SQL tables as lists of rows.

A table is a list in no meaningful order.  A `WHERE` clause is a Boolean predicate, an
`UPDATE` is `updateWhere`, an `INSERT .. ON CONFLICT` is `upsert`, `ORDER BY .. LIMIT 1` is
`firstBy`, and `ORDER BY .. LIMIT .. OFFSET ..` is `pageBy`.
-/
import Mathlib.Tactic.Common
import Mathlib.Data.List.Basic
import Mathlib.Data.List.Sort

namespace Lib.Table

variable {α : Type*}

/-- `UPDATE rows SET f WHERE p`. -/
def updateWhere (p : α → Bool) (f : α → α) (rows : List α) : List α :=
  rows.map fun r => if p r then f r else r

lemma mem_updateWhere {p : α → Bool} {f : α → α} {rows : List α} {r : α} :
    r ∈ updateWhere p f rows ↔
      ∃ r₀ ∈ rows, (p r₀ = true ∧ r = f r₀) ∨ (p r₀ = false ∧ r = r₀) := by
  rw [updateWhere, List.mem_map]
  constructor
  · rintro ⟨r₀, hr₀, rfl⟩
    refine ⟨r₀, hr₀, ?_⟩
    cases h : p r₀ <;> simp
  · rintro ⟨r₀, hr₀, ⟨hp, rfl⟩ | ⟨hp, rfl⟩⟩
    · exact ⟨r₀, hr₀, by simp [hp]⟩
    · exact ⟨r, hr₀, by simp [hp]⟩

/-- An update of a single row. -/
lemma mem_updateWhere_of_unique {p : α → Bool} {f : α → α} {rows : List α} {a r : α} (ha : a ∈ rows)
    (hp : p a = true) (hone : ∀ b ∈ rows, p b = true → b = a) :
    r ∈ updateWhere p f rows ↔ r = f a ∨ (r ∈ rows ∧ r ≠ a) := by
  rw [mem_updateWhere]
  constructor
  · rintro ⟨r₀, hr₀, ⟨hhit, rfl⟩ | ⟨hmiss, rfl⟩⟩
    · exact Or.inl (by rw [hone r₀ hr₀ hhit])
    · refine Or.inr ⟨hr₀, ?_⟩
      rintro rfl
      rw [hp] at hmiss
      cases hmiss
  · rintro (rfl | ⟨hr, hne⟩)
    · exact ⟨a, ha, Or.inl ⟨hp, rfl⟩⟩
    · exact ⟨r, hr, Or.inr ⟨Bool.eq_false_iff.mpr fun h => hne (hone r hr h), rfl⟩⟩

/-- An update keeps every quantity that its assignment keeps. -/
lemma map_updateWhere {β : Type*} {p : α → Bool} {f : α → α} {g : α → β}
    (h : ∀ r, p r = true → g (f r) = g r) (rows : List α) :
    (updateWhere p f rows).map g = rows.map g := by
  rw [updateWhere, List.map_map]
  refine List.map_congr_left fun r _ => ?_
  by_cases hp : p r = true
  · simp [hp, h r hp]
  · simp [hp]

/-- Keys stay unique in an update that keeps them. -/
lemma nodup_map_updateWhere {β : Type*} {p : α → Bool} {f : α → α} {key : α → β} {rows : List α}
    (h : ∀ r, p r = true → key (f r) = key r) (hkey : (rows.map key).Nodup) :
    ((updateWhere p f rows).map key).Nodup := by
  rw [map_updateWhere h]
  exact hkey

/-- `INSERT new ON CONFLICT DO UPDATE SET f WHERE guard`; `conflict` says which rows have the key
of the new one. -/
def upsert (conflict guard : α → Bool) (f : α → α) (new : α) (rows : List α) : List α :=
  if rows.any conflict then updateWhere (fun r => conflict r && guard r) f rows else rows ++ [new]

/-- The rows that an upsert writes, as its `RETURNING` clause gives them. -/
def upsertReturning (conflict guard : α → Bool) (f : α → α) (new : α) (rows : List α) : List α :=
  if rows.any conflict then (rows.filter fun r => conflict r && guard r).map f else [new]

/-- The rows after an upsert: those it writes, and the others. -/
lemma mem_upsert_iff {conflict guard : α → Bool} {f : α → α} {new r : α} {rows : List α} :
    r ∈ upsert conflict guard f new rows ↔ r ∈ upsertReturning conflict guard f new rows ∨
      (r ∈ rows ∧ (conflict r && guard r) = false) := by
  rw [upsert, upsertReturning]
  split
  · rw [mem_updateWhere, List.mem_map]
    constructor
    · rintro ⟨r₀, hr₀, ⟨hhit, rfl⟩ | ⟨hhit, rfl⟩⟩
      · exact Or.inl ⟨r₀, List.mem_filter.mpr ⟨hr₀, hhit⟩, rfl⟩
      · exact Or.inr ⟨hr₀, hhit⟩
    · rintro (⟨r₀, hr₀, rfl⟩ | ⟨hr, hhit⟩)
      · obtain ⟨hr₀, hhit⟩ := List.mem_filter.mp hr₀
        exact ⟨r₀, hr₀, Or.inl ⟨hhit, rfl⟩⟩
      · exact ⟨r, hr, Or.inr ⟨hhit, rfl⟩⟩
  · next hnone =>
    rw [List.mem_append, or_comm]
    refine or_congr_right ⟨fun hr => ⟨hr, ?_⟩, And.left⟩
    rw [Bool.not_eq_true, List.any_eq_false] at hnone
    simp [hnone r hr]

lemma mem_upsertReturning {conflict guard : α → Bool} {f : α → α} {new r : α} {rows : List α}
    (h : r ∈ upsertReturning conflict guard f new rows) :
    r = new ∨ ∃ r₀ ∈ rows, conflict r₀ = true ∧ guard r₀ = true ∧ r = f r₀ := by
  rw [upsertReturning] at h
  split at h
  · obtain ⟨r₀, hr₀, rfl⟩ := List.mem_map.mp h
    obtain ⟨hr₀, hhit⟩ := List.mem_filter.mp hr₀
    rw [Bool.and_eq_true] at hhit
    exact Or.inr ⟨r₀, hr₀, hhit.1, hhit.2, rfl⟩
  · exact Or.inl (List.mem_singleton.mp h)

/-- An upsert writes something when no row is in conflict, or one that the guard admits. -/
lemma exists_mem_upsertReturning {conflict guard : α → Bool} {f : α → α} {new : α}
    {rows : List α} : (∃ r, r ∈ upsertReturning conflict guard f new rows) ↔
      (∀ r ∈ rows, conflict r = false) ∨ ∃ r ∈ rows, conflict r = true ∧ guard r = true := by
  rw [upsertReturning]
  split
  · next hany =>
    obtain ⟨r₁, hr₁, hconflict⟩ := List.any_eq_true.mp hany
    constructor
    · rintro ⟨r, hr⟩
      obtain ⟨r₀, hr₀, -⟩ := List.mem_map.mp hr
      obtain ⟨hr₀, hhit⟩ := List.mem_filter.mp hr₀
      rw [Bool.and_eq_true] at hhit
      exact Or.inr ⟨r₀, hr₀, hhit⟩
    · rintro (hnone | ⟨r₀, hr₀, hhit⟩)
      · rw [hnone r₁ hr₁] at hconflict
        cases hconflict
      · rw [← Bool.and_eq_true] at hhit
        exact ⟨_, List.mem_map_of_mem (List.mem_filter.mpr ⟨hr₀, hhit⟩)⟩
  · next hnone =>
    rw [Bool.not_eq_true, List.any_eq_false] at hnone
    refine iff_of_true ⟨new, List.mem_singleton_self new⟩ (Or.inl fun r hr => ?_)
    simpa using hnone r hr

/-- The rows after an upsert: the new one, assigned ones and old ones. -/
lemma mem_upsert {conflict guard : α → Bool} {f : α → α} {new r : α} {rows : List α}
    (h : r ∈ upsert conflict guard f new rows) :
    r = new ∨ (∃ r₀ ∈ rows, r = f r₀) ∨ r ∈ rows := by
  rcases mem_upsert_iff.mp h with hwritten | ⟨hr, -⟩
  · rcases mem_upsertReturning hwritten with rfl | ⟨r₀, hr₀, -, -, rfl⟩
    · exact Or.inl rfl
    · exact Or.inr (Or.inl ⟨r₀, hr₀, rfl⟩)
  · exact Or.inr (Or.inr hr)

/-- The order of the rows does not matter to an upsert. -/
lemma mem_upsert_congr {conflict guard : α → Bool} {f : α → α} {new : α} {rows rows' : List α}
    (h : ∀ r, r ∈ rows ↔ r ∈ rows') (r : α) :
    r ∈ upsert conflict guard f new rows ↔ r ∈ upsert conflict guard f new rows' := by
  have hany : rows.any conflict = rows'.any conflict := by
    rw [Bool.eq_iff_iff, List.any_eq_true, List.any_eq_true]
    simp only [h]
  rw [upsert, upsert, hany]
  split
  · simp only [mem_updateWhere, h]
  · simp only [List.mem_append, h]

/-- Keys stay unique in an upsert under the key. -/
lemma unique_upsert {β : Type*} {key : α → β} {k : β} {conflict guard : α → Bool} {f : α → α}
    {new : α} {rows : List α} (hconflict : ∀ r, conflict r = true ↔ key r = k)
    (hf : ∀ r, key (f r) = key r) (hnew : key new = k)
    (h : ∀ r ∈ rows, ∀ r' ∈ rows, key r = key r' → r = r') :
    ∀ r ∈ upsert conflict guard f new rows, ∀ r' ∈ upsert conflict guard f new rows,
      key r = key r' → r = r' := by
  intro r hr r' hr' hkey
  rw [upsert] at hr hr'
  by_cases hany : rows.any conflict = true
  · rw [if_pos hany, mem_updateWhere] at hr hr'
    obtain ⟨r₀, hr₀, hcase⟩ := hr
    obtain ⟨r₁, hr₁, hcase'⟩ := hr'
    have hkept : ∀ {r r₀}, ((conflict r₀ && guard r₀) = true ∧ r = f r₀ ∨
        (conflict r₀ && guard r₀) = false ∧ r = r₀) → key r = key r₀ := by
      rintro r r₀ (⟨-, rfl⟩ | ⟨-, rfl⟩)
      · exact hf r₀
      · rfl
    -- both come from one row, and an update sends it to one row
    obtain rfl := h r₀ hr₀ r₁ hr₁ ((hkept hcase).symm.trans (hkey.trans (hkept hcase')))
    rcases hcase with ⟨hhit, rfl⟩ | ⟨hhit, rfl⟩
    · rcases hcase' with ⟨-, rfl⟩ | ⟨hhit', -⟩
      · rfl
      · rw [hhit] at hhit'
        cases hhit'
    · rcases hcase' with ⟨hhit', -⟩ | ⟨-, rfl⟩
      · rw [hhit] at hhit'
        cases hhit'
      · rfl
  · rw [if_neg hany] at hr hr'
    have hfresh : ∀ r ∈ rows, key r ≠ k := by
      intro r hr hk
      exact hany (List.any_eq_true.mpr ⟨r, hr, (hconflict r).mpr hk⟩)
    simp only [List.mem_append, List.mem_singleton] at hr hr'
    rcases hr with hr | rfl
    · rcases hr' with hr' | rfl
      · exact h r hr r' hr' hkey
      · exact absurd (hkey.trans hnew) (hfresh r hr)
    · rcases hr' with hr' | rfl
      · exact absurd (hkey.symm.trans hnew) (hfresh r' hr')
      · rfl

/-- The rows after an upsert under a key. -/
lemma mem_upsert_key {β : Type*} [DecidableEq β] {key : α → β} {k : β} {guard : α → Bool}
    {f : α → α} {new r : α} {rows : List α} :
    r ∈ upsert (key · == k) guard f new rows ↔
      (∃ r₀ ∈ rows, key r₀ = k ∧ guard r₀ = true ∧ r = f r₀) ∨
        (r ∈ rows ∧ (key r = k → guard r = false)) ∨
        ((∀ r₀ ∈ rows, key r₀ ≠ k) ∧ r = new) := by
  rw [upsert]
  split
  · next hany =>
    obtain ⟨r₁, hr₁, hkey⟩ := List.any_eq_true.mp hany
    rw [beq_iff_eq] at hkey
    have hheld : ¬ ∀ r₀ ∈ rows, key r₀ ≠ k := fun hnone => hnone r₁ hr₁ hkey
    have hmiss : ∀ r, (key r == k && guard r) = false ↔ (key r = k → guard r = false) := by
      intro r
      rw [Bool.and_eq_false_imp, beq_iff_eq]
    rw [mem_updateWhere]
    -- a row of the key is there: the guard decides whether it is assigned
    constructor
    · rintro ⟨r₀, hr₀, ⟨hhit, rfl⟩ | ⟨hr₀miss, rfl⟩⟩
      · rw [Bool.and_eq_true, beq_iff_eq] at hhit
        exact Or.inl ⟨r₀, hr₀, hhit.1, hhit.2, rfl⟩
      · exact Or.inr (Or.inl ⟨hr₀, (hmiss r).mp hr₀miss⟩)
    · rintro (⟨r₀, hr₀, hk, hguard, rfl⟩ | ⟨hr, hk⟩ | ⟨hnone, -⟩)
      · exact ⟨r₀, hr₀, Or.inl ⟨by simp [hk, hguard], rfl⟩⟩
      · exact ⟨r, hr, Or.inr ⟨(hmiss r).mpr hk, rfl⟩⟩
      · exact absurd hnone hheld
  · next hany =>
    have hnone : ∀ r₀ ∈ rows, key r₀ ≠ k := by simpa using hany
    rw [List.mem_append, List.mem_singleton]
    constructor
    · rintro (hr | rfl)
      · exact Or.inr (Or.inl ⟨hr, fun hk => absurd hk (hnone r hr)⟩)
      · exact Or.inr (Or.inr ⟨hnone, rfl⟩)
    · rintro (⟨r₀, hr₀, hk, -⟩ | ⟨hr, -⟩ | ⟨-, rfl⟩)
      · exact absurd hk (hnone r₀ hr₀)
      · exact Or.inl hr
      · exact Or.inr rfl

/-- What a loop of statements returns: `write` is what one of them returns, and `next` what it
leaves behind. -/
def loopReturning {ι σ ρ : Type*} (write : σ → ι → List ρ) (next : σ → ι → σ) :
    σ → List ι → List ρ
  | _, [] => []
  | s, i :: is => write s i ++ loopReturning write next (next s i) is

lemma mem_loopReturning {ι σ ρ : Type*} {write : σ → ι → List ρ} {next : σ → ι → σ} {s : σ}
    {is : List ι} {r : ρ} : r ∈ loopReturning write next s is ↔
      ∃ before i after, is = before ++ i :: after ∧ r ∈ write (before.foldl next s) i := by
  induction is generalizing s with
  | nil => simp [loopReturning]
  | cons i is ih =>
    rw [loopReturning, List.mem_append, ih]
    constructor
    · rintro (hr | ⟨before, j, after, rfl, hr⟩)
      · exact ⟨[], i, is, rfl, hr⟩
      · exact ⟨i :: before, j, after, rfl, hr⟩
    · rintro ⟨before, j, after, hsplit, hr⟩
      rcases before with _ | ⟨k, before⟩
      · obtain ⟨rfl, rfl⟩ := List.cons.inj hsplit
        exact Or.inl hr
      · obtain ⟨rfl, rfl⟩ := List.cons.inj hsplit
        exact Or.inr ⟨before, j, after, rfl, hr⟩

/-- A selection does not see an update of rows that it leaves out before and after. -/
lemma filter_updateWhere {p q : α → Bool} {f : α → α}
    (h : ∀ r, p r = true → q r = false ∧ q (f r) = false) (rows : List α) :
    (updateWhere p f rows).filter q = rows.filter q := by
  induction rows with
  | nil => rfl
  | cons r rows ih =>
    rw [updateWhere] at ih ⊢
    rw [List.map_cons]
    by_cases hp : p r = true
    · rw [if_pos hp, List.filter_cons_of_neg (by simp [(h r hp).2]),
        List.filter_cons_of_neg (by simp [(h r hp).1]), ih]
    · rw [if_neg hp, List.filter_cons, List.filter_cons, ih]

/-- Keys stay unique when a row with a new key is inserted. -/
lemma nodup_map_append {β : Type*} {key : α → β} {rows : List α} {r : α}
    (hkey : (rows.map key).Nodup) (hfresh : ∀ r' ∈ rows, key r' ≠ key r) :
    ((rows ++ [r]).map key).Nodup := by
  rw [List.map_append, List.nodup_append]
  refine ⟨hkey, by simp, ?_⟩
  intro k hk k' hk'
  obtain ⟨r', hr', rfl⟩ := List.mem_map.mp hk
  obtain rfl : k' = key r := by simpa using hk'
  exact hfresh r' hr'

/-- A lookup by a predicate that only rows with the key of `r` satisfy finds `r`. -/
lemma find?_eq_of_nodup {β : Type*} {key : α → β} {rows : List α} {p : α → Bool} {r : α}
    (hkey : (rows.map key).Nodup) (hr : r ∈ rows) (hp : p r = true)
    (honly : ∀ r' ∈ rows, p r' = true → key r' = key r) : rows.find? p = some r := by
  obtain ⟨r', hr'⟩ := Option.isSome_iff_exists.mp (List.find?_isSome.mpr ⟨r, hr, hp⟩)
  have hmem := List.mem_of_find?_eq_some hr'
  have heq := List.inj_on_of_nodup_map hkey hmem hr (honly r' hmem (List.find?_some hr'))
  rw [hr', heq]

/-- An update that keeps what a lookup goes by is found where the old row was. -/
lemma find?_updateWhere {p q : α → Bool} {f : α → α} (h : ∀ r, p r = true → q (f r) = q r)
    (rows : List α) : (updateWhere p f rows).find? q =
      (rows.find? q).map fun r => if p r = true then f r else r := by
  have hq : ∀ r, q (if p r = true then f r else r) = q r := by
    intro r
    by_cases hp : p r = true
    · rw [if_pos hp, h r hp]
    · rw [if_neg hp]
  rw [updateWhere, List.find?_map]
  congr 2
  funext r
  exact hq r

/-- What is found under the key of an upsert. -/
lemma find?_upsert_self {β : Type*} [BEq β] [LawfulBEq β] {key : α → β} {k : β} {f : α → α}
    {new : α} (hf : ∀ r, key (f r) = key r) (hnew : key new = k) (rows : List α) :
    (upsert (key · == k) (fun _ => true) f new rows).find? (key · == k) =
      some (((rows.find? (key · == k)).map f).getD new) := by
  rw [upsert]
  split
  · next hany =>
    rw [find?_updateWhere fun r _ => by rw [hf]]
    obtain ⟨r, hr⟩ := Option.isSome_iff_exists.mp (List.find?_isSome.mpr (List.any_eq_true.mp hany))
    have hkey : key r = k := by simpa using List.find?_some hr
    rw [hr, Option.map_some, Option.map_some, Option.getD_some, if_pos (by simp [hkey])]
  · next hnone =>
    have hfind : rows.find? (key · == k) = none := by
      rw [List.find?_eq_none]
      simpa using hnone
    rw [List.find?_append, hfind]
    simp [hnew]

/-- What is found under another key. -/
lemma find?_upsert_of_ne {β : Type*} [BEq β] [LawfulBEq β] {key : α → β} {k k' : β} {f : α → α}
    {new : α} (hf : ∀ r, key (f r) = key r) (hnew : key new = k) (hne : k' ≠ k) (rows : List α) :
    (upsert (key · == k) (fun _ => true) f new rows).find? (key · == k') =
      rows.find? (key · == k') := by
  rw [upsert]
  split
  · rw [find?_updateWhere fun r _ => by rw [hf]]
    cases hr : rows.find? (key · == k') with
    | none => rfl
    | some r =>
      have hkey : key r = k' := by simpa using List.find?_some hr
      rw [Option.map_some, if_neg (by simp [hkey, hne])]
  · rw [List.find?_append]
    have hmiss : (key new == k') = false := beq_eq_false_iff_ne.mpr (by rw [hnew]; exact hne.symm)
    simp [hmiss]

/-- `SELECT .. WHERE p ORDER BY .. LIMIT 1`: the first of the matching rows in the order
`le`. -/
def firstBy (le : α → α → Prop) [DecidableRel le] (p : α → Bool) (rows : List α) : Option α :=
  ((rows.filter p).insertionSort le).head?

lemma mem_of_firstBy {le : α → α → Prop} [DecidableRel le] {p : α → Bool} {rows : List α}
    {r : α} (h : firstBy le p rows = some r) : r ∈ rows ∧ p r = true := by
  have hmem : r ∈ (rows.filter p).insertionSort le := List.mem_of_mem_head? h
  rw [List.mem_insertionSort, List.mem_filter] at hmem
  exact hmem

lemma firstBy_eq_none_iff {le : α → α → Prop} [DecidableRel le] {p : α → Bool}
    {rows : List α} : firstBy le p rows = none ↔ ∀ r ∈ rows, p r = false := by
  rw [firstBy, List.head?_eq_none_iff, ← List.length_eq_zero_iff, List.length_insertionSort,
    List.length_eq_zero_iff, List.filter_eq_nil_iff]
  simp

/-- The one matching row is found. -/
lemma firstBy_eq_some {le : α → α → Prop} [DecidableRel le] {p : α → Bool} {rows : List α} {r : α}
    (hr : r ∈ rows) (hp : p r = true) (hone : ∀ r' ∈ rows, p r' = true → r' = r) :
    firstBy le p rows = some r := by
  cases hfirst : firstBy le p rows with
  | none =>
    rw [firstBy_eq_none_iff.mp hfirst r hr] at hp
    cases hp
  | some r' =>
    obtain ⟨hr', hp'⟩ := mem_of_firstBy hfirst
    rw [hone r' hr' hp']

/-- The row that is found comes before every other matching row. -/
lemma firstBy_le {le : α → α → Prop} [DecidableRel le] [Std.Total le] [IsTrans α le]
    {p : α → Bool} {rows : List α} {r r' : α} (h : firstBy le p rows = some r) (hr' : r' ∈ rows)
    (hp : p r' = true) : le r r' := by
  have hsorted := List.pairwise_insertionSort le (rows.filter p)
  have hmem : r' ∈ (rows.filter p).insertionSort le := by
    rw [List.mem_insertionSort, List.mem_filter]
    exact ⟨hr', hp⟩
  rw [firstBy] at h
  generalize (rows.filter p).insertionSort le = sorted at h hsorted hmem
  rcases sorted with _ | ⟨a, as⟩
  · cases h
  · obtain rfl := Option.some.inj h
    rcases List.mem_cons.mp hmem with rfl | hmem
    · exact (Std.Total.total r' r').elim id id
    · exact (List.pairwise_cons.mp hsorted).1 r' hmem

/-- `SELECT .. WHERE p ORDER BY .. LIMIT limit OFFSET offset`: rows that the order does not tell
apart stay in the order of the table. -/
def pageBy (le : α → α → Prop) [DecidableRel le] (p : α → Bool) (limit offset : ℕ)
    (rows : List α) : List α :=
  (((rows.filter p).insertionSort le).drop offset).take limit

lemma mem_of_pageBy {le : α → α → Prop} [DecidableRel le] {p : α → Bool} {limit offset : ℕ}
    {rows : List α} {r : α} (h : r ∈ pageBy le p limit offset rows) : r ∈ rows ∧ p r = true := by
  have hmem := List.mem_of_mem_drop (List.mem_of_mem_take h)
  rw [List.mem_insertionSort, List.mem_filter] at hmem
  exact hmem

/-- Every matching row is on some page. -/
lemma exists_pageBy (le : α → α → Prop) [DecidableRel le] {p : α → Bool} {rows : List α} {r : α}
    (hr : r ∈ rows) (hp : p r = true) : ∃ offset, r ∈ pageBy le p 1 offset rows := by
  have hmem : r ∈ (rows.filter p).insertionSort le := by
    rw [List.mem_insertionSort, List.mem_filter]
    exact ⟨hr, hp⟩
  obtain ⟨before, after, hsplit⟩ := List.append_of_mem hmem
  refine ⟨before.length, ?_⟩
  rw [pageBy, hsplit, List.drop_left]
  simp

/-- Where the rows with `q` come first, they are the first ones. -/
lemma take_countP_of_pairwise {q : α → Bool} {rows : List α}
    (h : rows.Pairwise fun r r' => q r' = true → q r = true) :
    rows.take (rows.countP q) = rows.filter q := by
  induction rows with
  | nil => rfl
  | cons r rows ih =>
    obtain ⟨hr, hrows⟩ := List.pairwise_cons.mp h
    cases hq : q r with
    | true =>
      rw [List.countP_cons_of_pos hq, List.take_succ_cons, List.filter_cons_of_pos hq, ih hrows]
    | false =>
      have hnone : ∀ r' ∈ rows, ¬ q r' = true := by
        intro r' hr' hq'
        rw [hr r' hr' hq'] at hq
        cases hq
      rw [List.countP_cons_of_neg (by simp [hq]), List.filter_cons_of_neg (by simp [hq]),
        List.countP_eq_zero.mpr hnone, List.filter_eq_nil_iff.mpr hnone]
      rfl

/-- When the rows with `q` come before all others, a page for as many rows has just these. -/
lemma mem_take_insertionSort {le : α → α → Prop} [DecidableRel le] [Std.Total le] [IsTrans α le]
    {q : α → Bool} {rows : List α}
    (h : ∀ r ∈ rows, ∀ r' ∈ rows, q r = true → q r' = false → ¬ le r' r) {r : α} :
    r ∈ (rows.insertionSort le).take (rows.countP q) ↔ r ∈ rows ∧ q r = true := by
  have hfirst : (rows.insertionSort le).Pairwise fun r r' => q r' = true → q r = true := by
    refine (List.pairwise_insertionSort le rows).imp_of_mem ?_
    intro r r' hr hr' hle hq'
    rw [List.mem_insertionSort] at hr hr'
    by_contra hq
    exact h r' hr' r hr hq' (Bool.eq_false_iff.mpr hq) hle
  rw [← (List.perm_insertionSort le rows).countP_eq, take_countP_of_pairwise hfirst,
    List.mem_filter, List.mem_insertionSort]

/-- A page only depends on rows that satisfy something its condition implies. -/
lemma pageBy_congr {le : α → α → Prop} [DecidableRel le] {p q : α → Bool} {rows rows' : List α}
    (hpq : ∀ r, p r = true → q r = true) (h : rows.filter q = rows'.filter q)
    (limit offset : ℕ) : pageBy le p limit offset rows = pageBy le p limit offset rows' := by
  have hfilter : ∀ rows : List α, rows.filter p = (rows.filter q).filter p := by
    intro rows
    rw [List.filter_filter]
    refine List.filter_congr fun r _ => ?_
    cases hp : p r with
    | false => simp
    | true => simp [hpq r hp]
  rw [pageBy, pageBy, hfilter rows, hfilter rows', h]

/-- Where at most one row matches, it may be looked up before or after a further condition. -/
lemma filter_find? {p q : α → Bool} {rows : List α}
    (hone : ∀ r ∈ rows, ∀ r' ∈ rows, p r = true → p r' = true → r = r') :
    (rows.find? p).filter q = (rows.filter q).find? p := by
  cases hfind : rows.find? p with
  | none =>
    rw [List.find?_eq_none] at hfind
    symm
    rw [Option.filter_none, List.find?_eq_none]
    exact fun r hr => hfind r (List.mem_of_mem_filter hr)
  | some r =>
    have hmem := List.mem_of_find?_eq_some hfind
    have hp := List.find?_some hfind
    cases hq : q r with
    | true =>
      rw [Option.filter_some_pos hq]
      obtain ⟨r', hr'⟩ := Option.isSome_iff_exists.mp
        (List.find?_isSome.mpr ⟨r, List.mem_filter.mpr ⟨hmem, hq⟩, hp⟩)
      have hmem' := List.mem_of_mem_filter (List.mem_of_find?_eq_some hr')
      rw [hr', hone r hmem r' hmem' hp (List.find?_some hr')]
    | false =>
      rw [Option.filter_some_neg (by simp [hq])]
      symm
      rw [List.find?_eq_none]
      intro r' hr' hp'
      obtain ⟨hmem', hq'⟩ := List.mem_filter.mp hr'
      rw [hone r hmem r' hmem' hp hp', hq'] at hq
      cases hq

/-! ### Tables that are only edited and added to -/

/-- Every row is kept or edited, to a row that `keep` relates it to, and at most one row is added,
which is `fresh` for the rows before. -/
def Revised (keep : α → α → Prop) (fresh : List α → α → Prop) (rows rows' : List α) : Prop :=
  ∃ g : α → α, (∀ r, keep r (g r)) ∧
    (rows' = rows.map g ∨ ∃ new, fresh rows new ∧ rows' = rows.map g ++ [new])

section

variable {keep : α → α → Prop} {fresh : List α → α → Prop} {rows rows' : List α}

lemma Revised.refl (hkeep : ∀ r, keep r r) (rows : List α) : Revised keep fresh rows rows :=
  ⟨id, hkeep, Or.inl (List.map_id _).symm⟩

lemma Revised.updateWhere (hkeep : ∀ r, keep r r) {p : α → Bool} {f : α → α}
    (hf : ∀ r, p r = true → keep r (f r)) (rows : List α) :
    Revised keep fresh rows (updateWhere p f rows) := by
  refine ⟨_, fun r => ?_, Or.inl rfl⟩
  by_cases hp : p r = true
  · rw [if_pos hp]
    exact hf r hp
  · rw [if_neg hp]
    exact hkeep r

lemma Revised.append (hkeep : ∀ r, keep r r) {new : α} (hnew : fresh rows new) :
    Revised keep fresh rows (rows ++ [new]) :=
  ⟨id, hkeep, Or.inr ⟨new, hnew, by rw [List.map_id]⟩⟩

/-- An edit of all rows may follow. -/
lemma Revised.map (h : Revised keep fresh rows rows') {k : α → α}
    (hkeep : ∀ r s, keep r s → keep r (k s)) (hfresh : ∀ s, fresh rows s → fresh rows (k s)) :
    Revised keep fresh rows (rows'.map k) := by
  obtain ⟨g, hg, hrows⟩ := h
  refine ⟨k ∘ g, fun r => hkeep r (g r) (hg r), ?_⟩
  rcases hrows with rfl | ⟨new, hnew, rfl⟩
  · exact Or.inl (List.map_map ..)
  · refine Or.inr ⟨k new, hfresh new hnew, ?_⟩
    rw [List.map_append, List.map_map]
    rfl

/-- A row is there from before, or is the new one. -/
lemma Revised.mem_cases (h : Revised keep fresh rows rows') {r' : α} (hr' : r' ∈ rows') :
    (∃ r ∈ rows, keep r r') ∨ fresh rows r' := by
  obtain ⟨g, hg, hrows⟩ := h
  have hmapped : r' ∈ rows.map g → ∃ r ∈ rows, keep r r' := by
    intro hmem
    obtain ⟨r, hr, rfl⟩ := List.mem_map.mp hmem
    exact ⟨r, hr, hg r⟩
  rcases hrows with rfl | ⟨new, hnew, rfl⟩
  · exact Or.inl (hmapped hr')
  · rw [List.mem_append, List.mem_singleton] at hr'
    rcases hr' with hold | rfl
    · exact Or.inl (hmapped hold)
    · exact Or.inr hnew

/-- No row is deleted. -/
lemma Revised.exists_mem (h : Revised keep fresh rows rows') {r : α} (hr : r ∈ rows) :
    ∃ r' ∈ rows', keep r r' := by
  obtain ⟨g, hg, hrows⟩ := h
  refine ⟨g r, ?_, hg r⟩
  rcases hrows with rfl | ⟨new, -, rfl⟩
  · exact List.mem_map_of_mem hr
  · exact List.mem_append_left _ (List.mem_map_of_mem hr)

end

end Lib.Table
