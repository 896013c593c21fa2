/-
Queries as maps: `url.Values` of Go's `net/url`.

What separates the pieces of a query occurs in no escaped component, so that a query that was
written with any escaping is read back as the pairs it was written from.
-/
import OpsPlatform.Lib.Assoc
import OpsPlatform.Lib.UrlQuery
import Mathlib.Data.List.Sort

namespace Lib.UrlQuery

open Utf8

/-! ### Escapings -/

/-- A way to write the components of a query. -/
structure Escaping where
  escape : Bytes → Bytes
  unescape : ∀ s, queryUnescape (escape s) = some s
  encoded : ∀ s, ∀ b ∈ escape s, encodedByte b = true

namespace Escaping

variable (e : Escaping)

lemma not_mem {sep : UInt8} (h : encodedByte sep = false) (s : Bytes) : sep ∉ e.escape s := by
  intro hmem
  rw [e.encoded s sep hmem] at h
  cases h

def pair (p : Bytes × Bytes) : Bytes := e.escape p.1 ++ 61 :: e.escape p.2

/-- The pairs as one query. -/
def join (pairs : List (Bytes × Bytes)) : Bytes := List.intercalate [38] (pairs.map e.pair)

lemma not_mem_pair {sep : UInt8} (h : encodedByte sep = false) (hsep : sep ≠ 61)
    (p : Bytes × Bytes) : sep ∉ e.pair p := by
  rw [pair, List.mem_append, List.mem_cons, not_or, not_or]
  exact ⟨e.not_mem h _, hsep, e.not_mem h _⟩

lemma pair_ne_nil (p : Bytes × Bytes) : e.pair p ≠ [] := by simp [pair]

lemma readPair_pair (p : Bytes × Bytes) : readPair (e.pair p) = some p := by
  have hsemicolon : (e.pair p).contains 59 = false := by
    rw [Bool.eq_false_iff, Ne, List.contains_iff_mem]
    exact e.not_mem_pair (by decide) (by decide) p
  have hempty : (e.pair p).isEmpty = false := List.isEmpty_eq_false_iff.mpr (e.pair_ne_nil p)
  have hcut : cut 61 (e.pair p) = (e.escape p.1, e.escape p.2) :=
    cut_append (e.not_mem (by decide) _) _
  simp only [readPair, hsemicolon, hempty, hcut, e.unescape, Bool.or_self, Bool.false_eq_true,
    if_false]

/-- **A query is read back as the pairs it was written from.** -/
theorem parseQuery_join (pairs : List (Bytes × Bytes)) : parseQuery (e.join pairs) = pairs := by
  induction pairs with
  | nil =>
    rw [join, List.map_nil, parseQuery]
    rfl
  | cons p pairs ih =>
    have hpair : (38 : UInt8) ∉ e.pair p := e.not_mem_pair (by decide) (by decide) p
    rcases pairs with _ | ⟨q, pairs⟩
    · rw [join, List.map_singleton, List.intercalate_singleton,
        parseQuery_of_not_mem hpair (e.pair_ne_nil p), readPair_pair]
      rfl
    · have hjoin : e.join (p :: q :: pairs) = e.pair p ++ 38 :: e.join (q :: pairs) := by
        rw [join, join, List.map_cons, List.map_cons, List.intercalate_cons_cons,
          List.append_assoc, List.singleton_append]
      rw [hjoin, parseQuery_append hpair, readPair_pair, ih]
      rfl

/-- What occurs in no component, and is none of the separators, occurs in no query. -/
lemma not_mem_join {sep : UInt8} (h : encodedByte sep = false) (hpair : sep ≠ 61)
    (hsep : sep ≠ 38) (pairs : List (Bytes × Bytes)) : sep ∉ e.join pairs := by
  induction pairs with
  | nil => exact List.not_mem_nil
  | cons p pairs ih =>
    rcases pairs with _ | ⟨q, pairs⟩
    · rw [join, List.map_singleton, List.intercalate_singleton]
      exact e.not_mem_pair h hpair p
    · rw [join, List.map_cons, List.map_cons, List.intercalate_cons_cons, List.mem_append,
        List.mem_append, List.mem_singleton]
      rintro ((hp | rfl) | hrest)
      · exact e.not_mem_pair h hpair p hp
      · exact hsep rfl
      · exact ih hrest

end Escaping

/-- A component as `URLSearchParams` writes it. -/
def formEscaping : Escaping :=
  ⟨formEncode, queryUnescape_encoded, fun _ _ => encodedByte_of_formEncode⟩

lemma searchParams_eq_join (pairs : List (Bytes × Bytes)) :
    searchParams pairs = formEscaping.join pairs := rfl

/-- A byte as `url.QueryEscape` writes it. -/
def queryByte (b : UInt8) : Bytes :=
  if isAlnum b || (ascii "-_.~".toList).contains b then [b]
  else if b = 32 then [43]
  else percentEncode b

/-- `url.QueryEscape`. -/
def queryEscape (s : Bytes) : Bytes := s.flatMap queryByte

lemma queryUnescape_percentEncode (b : UInt8) (rest : Bytes) :
    queryUnescape (percentEncode b ++ rest) = (queryUnescape rest).map (b :: ·) := by
  obtain ⟨hhigh, hlow⟩ := percentEncode_facts b
  have hvalue : UInt8.ofNat (16 * (b.toNat / 16) + b.toNat % 16) = b := by
    rw [Nat.div_add_mod, UInt8.ofNat_toNat]
  simp only [percentEncode, List.cons_append, List.nil_append, queryUnescape, if_true, hhigh, hlow,
    hvalue]

lemma queryUnescape_queryByte (b : UInt8) (rest : Bytes) :
    queryUnescape (queryByte b ++ rest) = (queryUnescape rest).map (b :: ·) := by
  rw [queryByte]
  split
  · next hsafe =>
    have hpercent : b ≠ 37 := by
      rintro rfl
      exact absurd hsafe (by decide)
    have hplus : b ≠ 43 := by
      rintro rfl
      exact absurd hsafe (by decide)
    rw [List.singleton_append, queryUnescape_cons hpercent, if_neg hplus]
  · split
    · next hspace =>
      rw [List.singleton_append, queryUnescape_cons (by decide), if_pos rfl, hspace]
    · exact queryUnescape_percentEncode b rest

lemma queryUnescape_queryEscape (s : Bytes) : queryUnescape (queryEscape s) = some s := by
  have hread : ∀ rest, queryUnescape (queryEscape s ++ rest) =
      (queryUnescape rest).map (s ++ ·) := by
    intro rest
    induction s with
    | nil => simp [queryEscape]
    | cons b s ih =>
      have hsplit : queryEscape (b :: s) = queryByte b ++ queryEscape s := rfl
      rw [hsplit, List.append_assoc, queryUnescape_queryByte, ih, Option.map_map]
      rfl
  have hnil := hread []
  simpa [queryUnescape] using hnil

lemma encodedByte_of_queryEscape {s : Bytes} {x : UInt8} (h : x ∈ queryEscape s) :
    encodedByte x = true := by
  obtain ⟨b, -, hx⟩ := List.mem_flatMap.mp h
  rw [queryByte] at hx
  split at hx
  · next hsafe =>
    obtain rfl := List.mem_singleton.mp hx
    exact encodedByte_of_marks (by decide) hsafe
  · split at hx
    · obtain rfl := List.mem_singleton.mp hx
      decide
    · exact encodedByte_of_percentEncode hx

/-- A component as Go writes it. -/
def queryEscaping : Escaping :=
  ⟨queryEscape, queryUnescape_queryEscape, fun _ _ => encodedByte_of_queryEscape⟩

/-! ### Values -/

/-- `m[key]`. -/
def find {κ β : Type} [DecidableEq κ] (m : List (κ × β)) (key : κ) : Option β := m.lookup key

lemma find_set {κ β : Type} [DecidableEq κ] (m : List (κ × β)) (key key' : κ) (value : β) :
    find (Assoc.set key value m) key' = if key' = key then some value else find m key' :=
  Assoc.lookup_set key key' value m

/-- `url.Values`: the values of each key; no key occurs twice. -/
abbrev Values := List (Bytes × List Bytes)

namespace Values

/-- `m[key] = append(m[key], value)`. -/
def add (m : Values) (p : Bytes × Bytes) : Values :=
  Assoc.set p.1 ((find m p.1).getD [] ++ [p.2]) m

/-- `url.ParseQuery`, as a map. -/
def ofQuery (query : Bytes) : Values := (parseQuery query).foldl add []

/-- `Set`. -/
def set (m : Values) (key value : Bytes) : Values := Assoc.set key [value] m

/-- `Get`. -/
def get (m : Values) (key : Bytes) : Bytes := ((find m key).bind List.head?).getD []

/-- `Encode`: the keys in their order. -/
def encode (m : Values) : Bytes :=
  queryEscaping.join ((m.insertionSort fun x y => ¬ y.1 < x.1).flatMap fun x =>
    x.2.map fun value => (x.1, value))

end Values

/-- The keys of a map are distinct. -/
def Distinct (m : Values) : Prop := (m.map Prod.fst).Nodup

section

variable {m m' : Values} {key value : Bytes}

lemma distinct_set (h : Distinct m) (key value : Bytes) : Distinct (m.set key value) :=
  Assoc.nodup_set h

lemma distinct_ofQuery (query : Bytes) : Distinct (Values.ofQuery query) := by
  have hfold : ∀ (pairs : List (Bytes × Bytes)) (m : Values), Distinct m →
      Distinct (pairs.foldl Values.add m) := by
    intro pairs
    induction pairs with
    | nil => exact fun m h => h
    | cons p pairs ih => exact fun m h => ih _ (Assoc.nodup_set h)
  exact hfold _ [] List.nodup_nil

lemma get_set (m : Values) (key key' value : Bytes) :
    (m.set key value).get key' = if key' = key then value else m.get key' := by
  rw [Values.get, Values.set, find_set]
  split <;> rfl

/-- The pairs of a map, in which each key has its first value first. -/
lemma valuesGet_flatMap (h : Distinct m) (key : Bytes) :
    valuesGet (m.flatMap fun x => x.2.map fun value => (x.1, value)) key = m.get key := by
  induction m with
  | nil => rfl
  | cons x m ih =>
    obtain ⟨k, values⟩ := x
    rw [Distinct, List.map_cons, List.nodup_cons] at h
    rw [valuesGet, List.flatMap_cons, List.find?_append, Values.get, find,
      Assoc.lookup_cons_eq]
    by_cases hk : key = k
    · subst hk
      rcases values with _ | ⟨v, values⟩
      · -- a key without values is found nowhere else
        have hnone : ∀ p ∈ m.flatMap fun x => x.2.map fun value => (x.1, value),
            ¬ (p.1 == key) = true := by
          intro p hp heq
          obtain ⟨x, hx, hp⟩ := List.mem_flatMap.mp hp
          obtain ⟨v, -, rfl⟩ := List.mem_map.mp hp
          exact h.1 (List.mem_map.mpr ⟨x, hx, beq_iff_eq.mp heq⟩)
        simp [List.find?_eq_none.mpr hnone]
      · simp
    · have hnone : (values.map fun value => (k, value)).find? (·.1 == key) = none := by
        rw [List.find?_eq_none]
        intro p hp
        obtain ⟨v, -, rfl⟩ := List.mem_map.mp hp
        simpa using fun heq => hk heq.symm
      rw [hnone, Option.none_or, if_neg hk]
      exact ih h.2

lemma get_of_perm (h : Distinct m) (hperm : m.Perm m') (key : Bytes) :
    m'.get key = m.get key := by
  have h' : Distinct m' := (hperm.map Prod.fst).nodup_iff.mp h
  have hlookup : find m' key = find m key := by
    ext values
    rw [find, find, Assoc.lookup_eq_some_iff h', Assoc.lookup_eq_some_iff h, hperm.mem_iff]
  rw [Values.get, Values.get, hlookup]

/-- **A map is read back from its query.** -/
theorem valuesGet_encode (h : Distinct m) (key : Bytes) :
    valuesGet (parseQuery m.encode) key = m.get key := by
  have hperm := (List.perm_insertionSort (fun x y : Bytes × List Bytes => ¬ y.1 < x.1) m).symm
  have h' := (hperm.map Prod.fst).nodup_iff.mp h
  rw [Values.encode, Escaping.parseQuery_join, valuesGet_flatMap h', get_of_perm h hperm]

/-- What a query says of a key is the value of the key in its map. -/
lemma get_ofQuery (query key : Bytes) :
    (Values.ofQuery query).get key = valuesGet (parseQuery query) key := by
  have hfold : ∀ (pairs : List (Bytes × Bytes)) (m : Values),
      (find (pairs.foldl Values.add m) key).getD [] =
        (find m key).getD [] ++ (pairs.filter (·.1 == key)).map Prod.snd := by
    intro pairs
    induction pairs with
    | nil => simp
    | cons p pairs ih =>
      intro m
      rw [List.foldl_cons, ih, Values.add, find_set, List.filter_cons]
      by_cases hk : key = p.1
      · simp [hk]
      · simp [hk, Ne.symm hk]
  have hget : ∀ m : Values, m.get key = ((find m key).getD []).head?.getD [] := by
    intro m
    rw [Values.get]
    cases find m key <;> rfl
  rw [hget, Values.ofQuery, hfold, valuesGet, ← List.head?_filter]
  cases (parseQuery query).filter (·.1 == key) <;> rfl

end

end Lib.UrlQuery
