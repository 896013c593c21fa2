/-
Loops of upserts.

`upsertAll` writes one and the same thing under a list of keys, which may have repetitions;
`upsertEach` writes what each of its targets says under the key of the target.  A loop that finds
a row for every key inserts nothing.
-/
import OpsPlatform.Lib.Table

namespace Lib.Table

variable {α : Type*}

/-! ### Loops over keys -/

/-- A loop of upserts under the keys `ks`. -/
def upsertAll {β : Type*} [DecidableEq β] (key : α → β) (f : α → α) (new : β → α) (rows : List α)
    (ks : List β) : List α :=
  ks.foldl (fun rows k => upsert (key · == k) (fun _ => true) f (new k) rows) rows

section

variable {β : Type*} [DecidableEq β] {key : α → β} {f : α → α} {new : β → α} {rows : List α}
  {ks : List β}

/-- The assignment of a loop of upserts keeps the key and can be repeated, and a new row is as if
it was assigned. -/
structure UpsertsByKey (key : α → β) (f : α → α) (new : β → α) : Prop where
  key_assign : ∀ r, key (f r) = key r
  assign_assign : ∀ r, f (f r) = f r
  key_new : ∀ k, key (new k) = k
  assign_new : ∀ k, f (new k) = new k

lemma upsertAll_append (ks ks' : List β) : upsertAll key f new rows (ks ++ ks') =
    upsertAll key f new (upsertAll key f new rows ks) ks' := List.foldl_append ..

/-- The rows after a loop of upserts: those that had one of the keys are assigned, the others are
as they were, and a row is new where no row had the key. -/
lemma mem_upsertAll (h : UpsertsByKey key f new) {r : α} :
    r ∈ upsertAll key f new rows ks ↔
      (∃ r₀ ∈ rows, key r₀ ∈ ks ∧ r = f r₀) ∨ (r ∈ rows ∧ key r ∉ ks) ∨
        ∃ k ∈ ks, (∀ r₀ ∈ rows, key r₀ ≠ k) ∧ r = new k := by
  -- on the keys, for all rows: what the first key writes is what the others find
  induction ks generalizing rows with
  | nil => simp [upsertAll]
  | cons k ks ih =>
    have hstep : upsertAll key f new rows (k :: ks) = upsertAll key f new
        (upsert (key · == k) (fun _ => true) f (new k) rows) ks := rfl
    rw [hstep, ih]
    simp only [mem_upsert_key, true_and, Bool.true_eq_false, imp_false]
    constructor
    · rintro (⟨r₁, hr₁, hks, rfl⟩ | ⟨hr, hks⟩ | ⟨k', hk', hfresh, rfl⟩)
      · rcases hr₁ with ⟨r₀, hr₀, hk, rfl⟩ | ⟨hr₀, -⟩ | ⟨hnone, rfl⟩
        · exact Or.inl ⟨r₀, hr₀, by simp [hk], h.assign_assign r₀⟩
        · exact Or.inl ⟨r₁, hr₀, List.mem_cons_of_mem k hks, rfl⟩
        · exact Or.inr (Or.inr ⟨k, List.mem_cons_self, hnone, h.assign_new k⟩)
      · rcases hr with ⟨r₀, hr₀, hk, rfl⟩ | ⟨hr₀, hk⟩ | ⟨hnone, rfl⟩
        · exact Or.inl ⟨r₀, hr₀, by simp [hk], rfl⟩
        · exact Or.inr (Or.inl ⟨hr₀, by simp [hk, hks]⟩)
        · exact Or.inr (Or.inr ⟨k, List.mem_cons_self, hnone, rfl⟩)
      · refine Or.inr (Or.inr ⟨k', List.mem_cons_of_mem k hk', ?_, rfl⟩)
        intro r₀ hr₀ hkey
        by_cases hk : key r₀ = k
        · exact hfresh (f r₀) (Or.inl ⟨r₀, hr₀, hk, rfl⟩) ((h.key_assign r₀).trans hkey)
        · exact hfresh r₀ (Or.inr (Or.inl ⟨hr₀, hk⟩)) hkey
    · rintro (⟨r₀, hr₀, hks, rfl⟩ | ⟨hr, hks⟩ | ⟨k', hk', hfresh, rfl⟩)
      · by_cases hk : key r₀ = k
        · by_cases hagain : k ∈ ks
          · exact Or.inl ⟨f r₀, Or.inl ⟨r₀, hr₀, hk, rfl⟩, by rwa [h.key_assign, hk],
              (h.assign_assign r₀).symm⟩
          · exact Or.inr (Or.inl ⟨Or.inl ⟨r₀, hr₀, hk, rfl⟩, by rwa [h.key_assign, hk]⟩)
        · have hks' : key r₀ ∈ ks := (List.mem_cons.mp hks).resolve_left hk
          exact Or.inl ⟨r₀, Or.inr (Or.inl ⟨hr₀, hk⟩), hks', rfl⟩
      · rw [List.mem_cons, not_or] at hks
        exact Or.inr (Or.inl ⟨Or.inr (Or.inl ⟨hr, hks.1⟩), hks.2⟩)
      · by_cases hk : k' = k
        · subst hk
          by_cases hagain : k' ∈ ks
          · exact Or.inl ⟨new k', Or.inr (Or.inr ⟨hfresh, rfl⟩), by rwa [h.key_new],
              (h.assign_new k').symm⟩
          · exact Or.inr (Or.inl ⟨Or.inr (Or.inr ⟨hfresh, rfl⟩), by rwa [h.key_new]⟩)
        · have hks : k' ∈ ks := (List.mem_cons.mp hk').resolve_left hk
          refine Or.inr (Or.inr ⟨k', hks, ?_, rfl⟩)
          rintro r₁ (⟨r₀, hr₀, -, rfl⟩ | ⟨hr₀, -⟩ | ⟨-, rfl⟩) hkey
          · exact hfresh r₀ hr₀ ((h.key_assign r₀).symm.trans hkey)
          · exact hfresh r₁ hr₀ hkey
          · exact hk (hkey.symm.trans (h.key_new k))

/-- There is a row for every key afterwards. -/
lemma exists_mem_upsertAll (h : UpsertsByKey key f new) {k : β} (hk : k ∈ ks) :
    ∃ r ∈ upsertAll key f new rows ks, key r = k := by
  by_cases hheld : ∃ r₀ ∈ rows, key r₀ = k
  · obtain ⟨r₀, hr₀, rfl⟩ := hheld
    exact ⟨f r₀, (mem_upsertAll h).mpr (Or.inl ⟨r₀, hr₀, hk, rfl⟩), h.key_assign r₀⟩
  · have hfresh : ∀ r₀ ∈ rows, key r₀ ≠ k := fun r₀ hr₀ hkey => hheld ⟨r₀, hr₀, hkey⟩
    refine ⟨new k, (mem_upsertAll h).mpr ?_, h.key_new k⟩
    exact Or.inr (Or.inr ⟨k, hk, hfresh, rfl⟩)

/-- When there is a row for every key, a loop of upserts keeps what its assignment keeps. -/
lemma map_upsertAll_of_held {γ : Type*} {g : α → γ} (h : UpsertsByKey key f new)
    (hg : ∀ r, g (f r) = g r) (hheld : ∀ k ∈ ks, ∃ r ∈ rows, key r = k) :
    (upsertAll key f new rows ks).map g = rows.map g := by
  induction ks generalizing rows with
  | nil => rfl
  | cons k ks ih =>
    obtain ⟨r, hr, hk⟩ := hheld k List.mem_cons_self
    have hstep : upsert (key · == k) (fun _ => true) f (new k) rows =
        updateWhere (fun r => key r == k && true) f rows := by
      rw [upsert, if_pos (List.any_eq_true.mpr ⟨r, hr, by simpa using hk⟩)]
    have hkeys : (updateWhere (fun r => key r == k && true) f rows).map key = rows.map key :=
      map_updateWhere (fun r _ => h.key_assign r) rows
    show (upsertAll key f new (upsert (key · == k) (fun _ => true) f (new k) rows) ks).map g = _
    rw [hstep, ih, map_updateWhere fun r _ => hg r]
    intro k' hk'
    obtain ⟨r', hr', hkey⟩ := hheld k' (List.mem_cons_of_mem k hk')
    have hmem : k' ∈ rows.map key := List.mem_map.mpr ⟨r', hr', hkey⟩
    rw [← hkeys] at hmem
    exact List.mem_map.mp hmem

end

/-! ### Loops over targets

Each target has a key, and says what is written under it. -/

/-- A loop of upserts, one for each of the targets `xs`. -/
def upsertEach {ι β : Type*} [DecidableEq β] (key : α → β) (target : ι → β) (guard : α → Bool)
    (f : ι → α → α) (new : ι → α) (rows : List α) (xs : List ι) : List α :=
  xs.foldl (fun rows x => upsert (key · == target x) guard (f x) (new x) rows) rows

/-- What the loop makes of a row that is there. -/
def assignEach {ι β : Type*} [DecidableEq β] (key : α → β) (target : ι → β) (guard : α → Bool)
    (f : ι → α → α) (xs : List ι) (r : α) : α :=
  match xs.find? fun x => target x == key r with
  | some x => if guard r then f x r else r
  | none => r

section

variable {ι β : Type*} [DecidableEq β] {key : α → β} {target : ι → β} {guard : α → Bool}
  {f : ι → α → α} {new : ι → α} {rows : List α} {xs : List ι} {r : α}

lemma assignEach_of_mem (hxs : (xs.map target).Nodup) {x : ι} (hx : x ∈ xs)
    (hkey : key r = target x) :
    assignEach key target guard f xs r = if guard r then f x r else r := by
  have hfind : (xs.find? fun x => target x == key r) = some x := by
    refine find?_eq_of_nodup hxs hx (by simp [hkey]) ?_
    intro y _ hy
    rw [eq_of_beq hy, hkey]
  rw [assignEach, hfind]

lemma assignEach_of_forall_ne (h : ∀ x ∈ xs, key r ≠ target x) :
    assignEach key target guard f xs r = r := by
  have hfind : (xs.find? fun x => target x == key r) = none := by
    rw [List.find?_eq_none]
    intro x hx
    simpa using (h x hx).symm
  rw [assignEach, hfind]

/-- The rows after the loop: those with the key of a target are assigned, when the guard admits
them, the others are as they were, and a row is new where no row had the key. -/
lemma mem_upsertEach (hf : ∀ x r, key (f x r) = key r) (hnew : ∀ x, key (new x) = target x)
    (hxs : (xs.map target).Nodup) : r ∈ upsertEach key target guard f new rows xs ↔
      (∃ x ∈ xs, ∃ r₀ ∈ rows, key r₀ = target x ∧ guard r₀ = true ∧ r = f x r₀) ∨
        (r ∈ rows ∧ ∀ x ∈ xs, key r = target x → guard r = false) ∨
        ∃ x ∈ xs, (∀ r₀ ∈ rows, key r₀ ≠ target x) ∧ r = new x := by
  -- on the items, for all rows: no later item has the key of the first
  induction xs generalizing rows with
  | nil => simp [upsertEach]
  | cons x xs ih =>
    rw [List.map_cons, List.nodup_cons] at hxs
    have hother : ∀ y ∈ xs, target y ≠ target x := fun y hy heq =>
      hxs.1 (List.mem_map.mpr ⟨y, hy, heq⟩)
    have hstep : upsertEach key target guard f new rows (x :: xs) =
        upsertEach key target guard f new
          (upsert (key · == target x) guard (f x) (new x) rows) xs := rfl
    rw [hstep, ih hxs.2]
    simp only [mem_upsert_key]
    constructor
    · rintro (⟨y, hy, r₁, hr₁, hkey, hguard, rfl⟩ | ⟨hr, hmiss⟩ | ⟨y, hy, hfresh, rfl⟩)
      · rcases hr₁ with ⟨r₀, -, hk, -, rfl⟩ | ⟨hr₀, -⟩ | ⟨-, rfl⟩
        · exact absurd (hkey.symm.trans ((hf x r₀).trans hk)) (hother y hy)
        · exact Or.inl ⟨y, List.mem_cons_of_mem x hy, r₁, hr₀, hkey, hguard, rfl⟩
        · exact absurd (hkey.symm.trans (hnew x)) (hother y hy)
      · rcases hr with ⟨r₀, hr₀, hk, hguard, rfl⟩ | ⟨hr₀, hk⟩ | ⟨hnone, rfl⟩
        · exact Or.inl ⟨x, List.mem_cons_self, r₀, hr₀, hk, hguard, rfl⟩
        · refine Or.inr (Or.inl ⟨hr₀, ?_⟩)
          intro y hy hkey
          rcases List.mem_cons.mp hy with rfl | hy
          · exact hk hkey
          · exact hmiss y hy hkey
        · exact Or.inr (Or.inr ⟨x, List.mem_cons_self, hnone, rfl⟩)
      · refine Or.inr (Or.inr ⟨y, List.mem_cons_of_mem x hy, ?_, rfl⟩)
        intro r₀ hr₀ hkey
        refine hfresh r₀ (Or.inr (Or.inl ⟨hr₀, fun hk => ?_⟩)) hkey
        exact absurd (hkey.symm.trans hk) (hother y hy)
    · rintro (⟨y, hy, r₀, hr₀, hkey, hguard, rfl⟩ | ⟨hr, hmiss⟩ | ⟨y, hy, hfresh, rfl⟩)
      · rcases List.mem_cons.mp hy with rfl | hy
        · refine Or.inr (Or.inl ⟨Or.inl ⟨r₀, hr₀, hkey, hguard, rfl⟩, ?_⟩)
          intro z hz hz'
          exact absurd (hz'.symm.trans ((hf y r₀).trans hkey)) (hother z hz)
        · refine Or.inl ⟨y, hy, r₀, Or.inr (Or.inl ⟨hr₀, fun hk => ?_⟩), hkey, hguard, rfl⟩
          exact absurd (hkey.symm.trans hk) (hother y hy)
      · refine Or.inr (Or.inl ⟨Or.inr (Or.inl ⟨hr, hmiss x List.mem_cons_self⟩), ?_⟩)
        exact fun y hy => hmiss y (List.mem_cons_of_mem x hy)
      · rcases List.mem_cons.mp hy with rfl | hy
        · refine Or.inr (Or.inl ⟨Or.inr (Or.inr ⟨hfresh, rfl⟩), ?_⟩)
          intro z hz hz'
          exact absurd (hz'.symm.trans (hnew y)) (hother z hz)
        · refine Or.inr (Or.inr ⟨y, hy, ?_, rfl⟩)
          rintro r₁ (⟨r₀, hr₀, -, -, rfl⟩ | ⟨hr₀, -⟩ | ⟨-, rfl⟩) hkey
          · exact hfresh r₀ hr₀ ((hf x r₀).symm.trans hkey)
          · exact hfresh r₁ hr₀ hkey
          · exact hother y hy (hkey.symm.trans (hnew x))

/-- There is a row for every target afterwards. -/
lemma exists_mem_upsertEach (hf : ∀ x r, key (f x r) = key r) (hnew : ∀ x, key (new x) = target x)
    (hxs : (xs.map target).Nodup) {x : ι} (hx : x ∈ xs) :
    ∃ r ∈ upsertEach key target guard f new rows xs, key r = target x := by
  by_cases hheld : ∃ r₀ ∈ rows, key r₀ = target x
  · obtain ⟨r₀, hr₀, hkey⟩ := hheld
    cases hguard : guard r₀ with
    | true =>
      refine ⟨f x r₀, (mem_upsertEach hf hnew hxs).mpr ?_, (hf x r₀).trans hkey⟩
      exact Or.inl ⟨x, hx, r₀, hr₀, hkey, hguard, rfl⟩
    | false =>
      refine ⟨r₀, (mem_upsertEach hf hnew hxs).mpr ?_, hkey⟩
      exact Or.inr (Or.inl ⟨hr₀, fun _ _ _ => hguard⟩)
  · refine ⟨new x, (mem_upsertEach hf hnew hxs).mpr ?_, hnew x⟩
    exact Or.inr (Or.inr ⟨x, hx, fun r₀ hr₀ hkey => hheld ⟨r₀, hr₀, hkey⟩, rfl⟩)

/-- When there is a row for every target, the loop changes rows in their places. -/
lemma upsertEach_of_held (hf : ∀ x r, key (f x r) = key r) (hxs : (xs.map target).Nodup)
    (hheld : ∀ x ∈ xs, ∃ r ∈ rows, key r = target x) :
    upsertEach key target guard f new rows xs =
      rows.map (assignEach key target guard f xs) := by
  induction xs generalizing rows with
  | nil =>
    have hid : assignEach key target guard f [] = id := rfl
    rw [hid, List.map_id]
    rfl
  | cons x xs ih =>
    rw [List.map_cons, List.nodup_cons] at hxs
    obtain ⟨r₁, hr₁, hkey₁⟩ := hheld x List.mem_cons_self
    have hany : rows.any (key · == target x) = true :=
      List.any_eq_true.mpr ⟨r₁, hr₁, beq_iff_eq.mpr hkey₁⟩
    have hstep : upsertEach key target guard f new rows (x :: xs) =
        upsertEach key target guard f new
          (updateWhere (fun r => key r == target x && guard r) (f x) rows) xs := by
      show upsertEach key target guard f new (upsert _ guard (f x) (new x) rows) xs = _
      rw [upsert, if_pos hany]
    have hkeys : (updateWhere (fun r => key r == target x && guard r) (f x) rows).map key =
        rows.map key := map_updateWhere (fun r _ => hf x r) rows
    rw [hstep, ih hxs.2]
    · rw [updateWhere, List.map_map]
      refine List.map_congr_left fun r _ => ?_
      rw [Function.comp_apply]
      by_cases hkey : key r = target x
      · have hrest : ∀ r', key r' = target x →
            assignEach key target guard f xs r' = r' := by
          intro r' hr'
          refine assignEach_of_forall_ne fun y hy heq => ?_
          exact hxs.1 (List.mem_map.mpr ⟨y, hy, heq.symm.trans hr'⟩)
        have hfirst : assignEach key target guard f (x :: xs) r =
            if guard r then f x r else r := by
          rw [assignEach, List.find?_cons_of_pos (by simp [hkey])]
        rw [hfirst]
        cases hguard : guard r with
        | true =>
          rw [if_pos (by simp [hkey]), if_pos rfl]
          exact hrest _ ((hf x r).trans hkey)
        | false =>
          rw [if_neg (by simp), if_neg (by simp)]
          exact hrest r hkey
      · rw [if_neg (by simp [hkey]), assignEach, assignEach,
          List.find?_cons_of_neg (by simpa using Ne.symm hkey)]
    · intro y hy
      obtain ⟨r, hr, hkey⟩ := hheld y (List.mem_cons_of_mem x hy)
      have hmem : target y ∈ rows.map key := List.mem_map.mpr ⟨r, hr, hkey⟩
      rw [← hkeys] at hmem
      exact List.mem_map.mp hmem

end

end Lib.Table
