/-
URL queries: how a browser writes them (`URLSearchParams`, `encodeURIComponent`) and how Go's
`net/url` reads them.
-/
import OpsPlatform.Lib.Utf8

namespace Lib.UrlQuery

open Utf8

/-! ### Writing -/

def isAlnum (b : UInt8) : Bool :=
  (48 ≤ b && b ≤ 57) || (65 ≤ b && b ≤ 90) || (97 ≤ b && b ≤ 122)

/-- An upper-case hexadecimal digit. -/
def hexDigit (n : ℕ) : UInt8 := if n < 10 then UInt8.ofNat (48 + n) else UInt8.ofNat (55 + n)

def percentEncode (b : UInt8) : Bytes := [37, hexDigit (b.toNat / 16), hexDigit (b.toNat % 16)]

/-- A byte in `application/x-www-form-urlencoded`. -/
def formByte (b : UInt8) : Bytes :=
  if isAlnum b || (ascii "*-._".toList).contains b then [b]
  else if b = 32 then [43]
  else percentEncode b

/-- A name or a value as `URLSearchParams` writes it. -/
def formEncode (s : Bytes) : Bytes := s.flatMap formByte

/-- `encodeURIComponent`. -/
def encodeURIComponent (s : Bytes) : Bytes :=
  s.flatMap fun b =>
    if isAlnum b || (ascii "-_.!~*'()".toList).contains b then [b] else percentEncode b

def formPair (pair : Bytes × Bytes) : Bytes := formEncode pair.1 ++ 61 :: formEncode pair.2

/-- `URLSearchParams.toString`. -/
def searchParams (pairs : List (Bytes × Bytes)) : Bytes :=
  List.intercalate [38] (pairs.map formPair)

/-! ### Reading -/

/-- `strings.Cut`, without the flag. -/
def cut (sep : UInt8) : Bytes → Bytes × Bytes
  | [] => ([], [])
  | b :: s => if b = sep then ([], s) else (b :: (cut sep s).1, (cut sep s).2)

def unhex (b : UInt8) : Option ℕ :=
  if 48 ≤ b ∧ b ≤ 57 then some (b.toNat - 48)
  else if 65 ≤ b ∧ b ≤ 70 then some (b.toNat - 55)
  else if 97 ≤ b ∧ b ≤ 102 then some (b.toNat - 87)
  else none

/-- `url.QueryUnescape`, with `none` for its errors. -/
def queryUnescape : Bytes → Option Bytes
  | [] => some []
  | b :: s =>
    if b = 37 then
      match s with
      | h :: l :: rest =>
        match unhex h, unhex l with
        | some x, some y => (queryUnescape rest).map (UInt8.ofNat (16 * x + y) :: ·)
        | _, _ => none
      | _ => none
    else (queryUnescape s).map ((if b = 43 then 32 else b) :: ·)

/-- The pair of one piece of a query, unless it is malformed. -/
def readPair (piece : Bytes) : Option (Bytes × Bytes) :=
  if piece.contains 59 || piece.isEmpty then none
  else
    let (key, value) := cut 61 piece
    match queryUnescape key, queryUnescape value with
    | some key, some value => some (key, value)
    | _, _ => none

lemma length_cut_le (sep : UInt8) (s : Bytes) : (cut sep s).2.length ≤ s.length := by
  induction s with
  | nil => exact Nat.le_refl _
  | cons b s ih =>
    rw [cut]
    split
    · exact Nat.le_succ _
    · exact Nat.le_succ_of_le ih

lemma length_cut_lt (sep : UInt8) {s : Bytes} (h : s ≠ []) : (cut sep s).2.length < s.length := by
  rcases s with _ | ⟨b, s⟩
  · exact absurd rfl h
  · rw [cut]
    split
    · exact Nat.lt_succ_self _
    · exact Nat.lt_succ_of_le (length_cut_le sep s)

/-- `url.ParseQuery`: the pairs in their order, without the malformed ones. -/
def parseQuery (query : Bytes) : List (Bytes × Bytes) :=
  if _h : query = [] then []
  else (readPair (cut 38 query).1).toList ++ parseQuery (cut 38 query).2
termination_by query.length
decreasing_by exact length_cut_lt 38 _h

/-- `Values.Get`: the first value of the key, or the empty string. -/
def valuesGet (pairs : List (Bytes × Bytes)) (key : Bytes) : Bytes :=
  ((pairs.find? (·.1 == key)).map (·.2)).getD []

/-! ### What was written is read -/

lemma cut_append {sep : UInt8} {s : Bytes} (h : sep ∉ s) (rest : Bytes) :
    cut sep (s ++ sep :: rest) = (s, rest) := by
  induction s with
  | nil => simp [cut]
  | cons b s ih =>
    rw [List.mem_cons, not_or] at h
    rw [List.cons_append, cut, if_neg (Ne.symm h.1), ih h.2]

lemma cut_of_not_mem {sep : UInt8} {s : Bytes} (h : sep ∉ s) : cut sep s = (s, []) := by
  induction s with
  | nil => rfl
  | cons b s ih =>
    rw [List.mem_cons, not_or] at h
    rw [cut, if_neg (Ne.symm h.1), ih h.2]

lemma parseQuery_append {piece : Bytes} (h : (38 : UInt8) ∉ piece) (rest : Bytes) :
    parseQuery (piece ++ 38 :: rest) = (readPair piece).toList ++ parseQuery rest := by
  rw [parseQuery, dif_neg (by simp), cut_append h]

lemma parseQuery_of_not_mem {piece : Bytes} (h : (38 : UInt8) ∉ piece) (hne : piece ≠ []) :
    parseQuery piece = (readPair piece).toList := by
  rw [parseQuery, dif_neg hne, cut_of_not_mem h, parseQuery, dif_pos rfl, List.append_nil]

lemma hexDigit_facts : ∀ n < 16, unhex (hexDigit n) = some n ∧ isAlnum (hexDigit n) = true := by
  decide

lemma percentEncode_facts (b : UInt8) :
    unhex (hexDigit (b.toNat / 16)) = some (b.toNat / 16) ∧
      unhex (hexDigit (b.toNat % 16)) = some (b.toNat % 16) := by
  have hlt := b.toNat_lt
  exact ⟨(hexDigit_facts _ (by omega)).1, (hexDigit_facts _ (by omega)).1⟩

lemma queryUnescape_cons {b : UInt8} (h : b ≠ 37) (s : Bytes) :
    queryUnescape (b :: s) = (queryUnescape s).map ((if b = 43 then 32 else b) :: ·) := by
  rcases s with _ | ⟨c, _ | ⟨d, s⟩⟩
  · simp [queryUnescape, h]
  · simp [queryUnescape, h]
  · simp [queryUnescape, h]

lemma queryUnescape_formByte (b : UInt8) (rest : Bytes) :
    queryUnescape (formByte b ++ rest) = (queryUnescape rest).map (b :: ·) := by
  rw [formByte]
  split
  · next hsafe =>
    have hpercent : b ≠ 37 := by
      rintro rfl
      exact absurd hsafe (by decide)
    have hplus : b ≠ 43 := by
      rintro rfl
      exact absurd hsafe (by decide)
    rw [List.singleton_append, queryUnescape_cons hpercent, if_neg hplus]
  · split
    · next hspace =>
      rw [List.singleton_append, queryUnescape_cons (by decide), if_pos rfl, hspace]
    · obtain ⟨hhigh, hlow⟩ := percentEncode_facts b
      have hvalue : UInt8.ofNat (16 * (b.toNat / 16) + b.toNat % 16) = b := by
        rw [Nat.div_add_mod, UInt8.ofNat_toNat]
      simp only [percentEncode, List.cons_append, List.nil_append, queryUnescape, if_true, hhigh,
        hlow, hvalue]

/-- A component is read back from its encoding. -/
lemma queryUnescape_formEncode (s rest : Bytes) :
    queryUnescape (formEncode s ++ rest) = (queryUnescape rest).map (s ++ ·) := by
  induction s with
  | nil => simp [formEncode]
  | cons b s ih =>
    have hsplit : formEncode (b :: s) = formByte b ++ formEncode s := rfl
    rw [hsplit, List.append_assoc, queryUnescape_formByte, ih, Option.map_map]
    rfl

lemma queryUnescape_encoded (s : Bytes) : queryUnescape (formEncode s) = some s := by
  have hread := queryUnescape_formEncode s []
  simpa [queryUnescape] using hread

/-- The bytes that occur in encodings. -/
def encodedByte (b : UInt8) : Bool :=
  isAlnum b || (ascii "-_.!~*'()+%".toList).contains b

lemma encodedByte_of_percentEncode {b x : UInt8} (h : x ∈ percentEncode b) :
    encodedByte x = true := by
  have hlt := b.toNat_lt
  simp only [percentEncode, List.mem_cons, List.not_mem_nil, or_false] at h
  rcases h with rfl | rfl | rfl
  · decide
  · rw [encodedByte, (hexDigit_facts _ (by omega)).2, Bool.true_or]
  · rw [encodedByte, (hexDigit_facts _ (by omega)).2, Bool.true_or]

/-- Bytes that an encoding leaves as they are. -/
lemma encodedByte_of_marks {marks : String}
    (hmarks : ascii marks.toList ⊆ ascii "-_.!~*'()+%".toList) {b : UInt8}
    (h : (isAlnum b || (ascii marks.toList).contains b) = true) :
    encodedByte b = true := by
  rw [encodedByte, Bool.or_eq_true]
  rcases Bool.or_eq_true_iff.mp h with halnum | hmark
  · exact Or.inl halnum
  · exact Or.inr (List.contains_iff_mem.mpr (hmarks (List.contains_iff_mem.mp hmark)))

lemma encodedByte_of_formEncode {s : Bytes} {x : UInt8} (h : x ∈ formEncode s) :
    encodedByte x = true := by
  obtain ⟨b, -, hx⟩ := List.mem_flatMap.mp h
  rw [formByte] at hx
  split at hx
  · next hsafe =>
    obtain rfl := List.mem_singleton.mp hx
    exact encodedByte_of_marks (by decide) hsafe
  · split at hx
    · obtain rfl := List.mem_singleton.mp hx
      decide
    · exact encodedByte_of_percentEncode hx

lemma encodedByte_of_encodeURIComponent {s : Bytes} {x : UInt8} (h : x ∈ encodeURIComponent s) :
    encodedByte x = true := by
  obtain ⟨b, -, hx⟩ := List.mem_flatMap.mp h
  split at hx
  · next hsafe =>
    obtain rfl := List.mem_singleton.mp hx
    exact encodedByte_of_marks (by decide) hsafe
  · exact encodedByte_of_percentEncode hx

/-- A byte that occurs in no encoding separates encodings. -/
lemma not_mem_formEncode {sep : UInt8} (h : encodedByte sep = false) (s : Bytes) :
    sep ∉ formEncode s := by
  intro hmem
  rw [encodedByte_of_formEncode hmem] at h
  cases h

lemma not_mem_formPair {sep : UInt8} (h : encodedByte sep = false) (hsep : sep ≠ 61)
    (pair : Bytes × Bytes) : sep ∉ formPair pair := by
  rw [formPair, List.mem_append, List.mem_cons, not_or, not_or]
  exact ⟨not_mem_formEncode h _, hsep, not_mem_formEncode h _⟩

/-- A piece that starts with the encoding of a key and an equals sign. -/
lemma readPair_of_key {key rest value : Bytes} (hrest : (59 : UInt8) ∉ rest)
    (hvalue : queryUnescape rest = some value) :
    readPair (formEncode key ++ 61 :: rest) = some (key, value) := by
  have hsemicolon : (formEncode key ++ 61 :: rest).contains 59 = false := by
    rw [Bool.eq_false_iff, Ne, List.contains_iff_mem, List.mem_append, List.mem_cons]
    rintro (hmem | heq | hmem)
    · exact not_mem_formEncode (by decide) key hmem
    · exact absurd heq (by decide)
    · exact hrest hmem
  have hempty : (formEncode key ++ 61 :: rest).isEmpty = false := by simp
  have hequals : (61 : UInt8) ∉ formEncode key := not_mem_formEncode (by decide) key
  simp only [readPair, hsemicolon, hempty, cut_append hequals, queryUnescape_encoded, hvalue,
    Bool.or_self, Bool.false_eq_true, if_false]

/-- A pair is read back from its piece. -/
lemma readPair_formPair (pair : Bytes × Bytes) : readPair (formPair pair) = some pair :=
  readPair_of_key (not_mem_formEncode (by decide) _) (queryUnescape_encoded pair.2)

end Lib.UrlQuery
