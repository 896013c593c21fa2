/-
Byte strings and their runes, as Go's `unicode/utf8` reads them.

A rune is a Unicode scalar value, and its encoding is that of Lean's own strings.  Decoding is
total: a byte that begins no encoding counts as one rune, U+FFFD.
-/
import Mathlib.Tactic.Common
import Mathlib.Data.List.Basic

namespace Lib.Utf8

abbrev Bytes := List UInt8

/-- `utf8.RuneError`. -/
def runeError : Char := Char.ofNat 0xFFFD

/-- The rune whose encoding begins the bytes. -/
def decodeChar (s : Bytes) : Option Char := s.toByteArray.utf8DecodeChar? 0

/-- `utf8.DecodeRune`: the rune and its width. -/
def decodeRune (s : Bytes) : Char × ℕ :=
  if s = [] then (runeError, 0)
  else
    match decodeChar s with
    | some c => (c, c.utf8Size)
    | none => (runeError, 1)

/-- The bytes of a list of runes. -/
def encode (cs : List Char) : Bytes := cs.flatMap String.utf8EncodeChar

lemma encode_append (cs ds : List Char) : encode (cs ++ ds) = encode cs ++ encode ds :=
  List.flatMap_append

/-- The bytes are the encoding of a list of runes. -/
def Valid (s : Bytes) : Prop := ∃ cs, s = encode cs

/-- The bytes of an ASCII text. -/
def ascii (cs : List Char) : Bytes := cs.map fun c => UInt8.ofNat c.toNat

lemma encode_of_ascii {c : Char} (h : c.toNat < 128) : encode [c] = ascii [c] := by
  have hle : c.val.toNat ≤ 127 := Nat.le_of_lt_succ h
  rw [encode, List.flatMap_singleton, String.utf8EncodeChar, if_pos hle]
  rfl

lemma encode_eq_ascii {cs : List Char} (h : ∀ c ∈ cs, c.toNat < 128) : encode cs = ascii cs := by
  induction cs with
  | nil => rfl
  | cons c cs ih =>
    rw [List.forall_mem_cons] at h
    rw [← List.singleton_append, encode_append, encode_of_ascii h.1, ih h.2]
    rfl

/-- Bytes read one by one. -/
def latin1 (s : Bytes) : List Char := s.map fun b => Char.ofNat b.toNat

lemma latin1_ascii {cs : List Char} (h : ∀ c ∈ cs, c.toNat < 128) : latin1 (ascii cs) = cs := by
  rw [latin1, ascii, List.map_map]
  conv_rhs => rw [← List.map_id cs]
  refine List.map_congr_left fun c hc => ?_
  have hlt := h c hc
  rw [Function.comp_apply, UInt8.toNat_ofNat', Nat.mod_eq_of_lt (by omega), Char.ofNat_toNat, id]

lemma ascii_latin1 (s : Bytes) : ascii (latin1 s) = s := by
  rw [latin1, ascii, List.map_map]
  conv_rhs => rw [← List.map_id s]
  refine List.map_congr_left fun b _ => ?_
  have hlt := b.toNat_lt
  have hvalid : b.toNat.isValidChar := Or.inl (by omega)
  have hchar : (Char.ofNat b.toNat).toNat = b.toNat := by
    rw [Char.ofNat, dif_pos hvalid]
    rfl
  rw [Function.comp_apply, hchar, UInt8.ofNat_toNat, id]

/-- ASCII bytes are valid. -/
lemma valid_of_ascii {s : Bytes} (h : ∀ b ∈ s, b.toNat < 128) : Valid s := by
  refine ⟨latin1 s, ?_⟩
  rw [encode_eq_ascii, ascii_latin1]
  intro c hc
  obtain ⟨b, hb, rfl⟩ := List.mem_map.mp hc
  have hlt := h b hb
  have hvalid : b.toNat.isValidChar := Or.inl (by omega)
  rw [Char.ofNat, dif_pos hvalid]
  exact hlt

/-! ### One rune -/

lemma toByteArray_append (s t : Bytes) :
    (s ++ t).toByteArray = s.toByteArray ++ t.toByteArray := by
  apply ByteArray.ext
  simp

lemma decodeChar_append (c : Char) (rest : Bytes) :
    decodeChar (String.utf8EncodeChar c ++ rest) = some c := by
  rw [decodeChar, toByteArray_append]
  exact ByteArray.utf8DecodeChar?_utf8EncodeChar_append

lemma decodeChar_eq_some_iff {s : Bytes} {c : Char} :
    decodeChar s = some c ↔ ∃ rest, s = String.utf8EncodeChar c ++ rest := by
  constructor
  · intro h
    obtain ⟨l, hl⟩ := ByteArray.exists_of_utf8DecodeChar?_eq_some h
    refine ⟨l.data.toList, ?_⟩
    have hdata := congrArg (fun b => b.data.toList) hl
    simpa using hdata
  · rintro ⟨rest, rfl⟩
    exact decodeChar_append c rest

lemma decodeRune_append (c : Char) (rest : Bytes) :
    decodeRune (String.utf8EncodeChar c ++ rest) = (c, c.utf8Size) := by
  rw [decodeRune, if_neg, decodeChar_append]
  simp [String.utf8EncodeChar_ne_nil]

/-- A rune takes at least one byte, and no more than there are. -/
lemma decodeRune_size {s : Bytes} (h : s ≠ []) :
    0 < (decodeRune s).2 ∧ (decodeRune s).2 ≤ s.length := by
  rw [decodeRune, if_neg h]
  cases hd : decodeChar s with
  | none => exact ⟨Nat.one_pos, List.length_pos_iff.mpr h⟩
  | some c =>
    obtain ⟨rest, rfl⟩ := decodeChar_eq_some_iff.mp hd
    refine ⟨c.utf8Size_pos, ?_⟩
    simp

/-- After the first byte of an encoding no byte is ASCII. -/
lemma not_ascii_of_mem_tail {c : Char} {b : UInt8} (h : b ∈ (String.utf8EncodeChar c).tail) :
    128 ≤ b.toNat := by
  have hcont : ∀ v : ℕ, 128 ≤ (UInt8.ofNat (v % 64 + 128)).toNat := by
    intro v
    rw [UInt8.toNat_ofNat']
    omega
  rw [String.utf8EncodeChar] at h
  split_ifs at h <;> simp only [List.tail_cons, List.mem_cons, List.not_mem_nil, or_false] at h
  · rw [h]
    exact hcont _
  · rcases h with rfl | rfl
    · exact hcont _
    · exact hcont _
  · rcases h with rfl | rfl | rfl
    · exact hcont _
    · exact hcont _
    · exact hcont _

/-- An ASCII byte that follows does not change the rune. -/
lemma decodeChar_append_ascii {s : Bytes} (h : s ≠ []) {a : UInt8} (ha : a.toNat < 128)
    (rest : Bytes) : decodeChar (s ++ a :: rest) = decodeChar s := by
  rw [Option.ext_iff]
  intro c
  rw [decodeChar_eq_some_iff, decodeChar_eq_some_iff]
  constructor
  · rintro ⟨r, hr⟩
    rcases List.append_eq_append_iff.mp hr with ⟨t, ht, hrest⟩ | ⟨t, hs, -⟩
    · -- otherwise the byte would be inside the encoding
      rcases t with _ | ⟨b, t⟩
      · exact ⟨[], by simpa using ht.symm⟩
      · obtain ⟨rfl, -⟩ := List.cons.inj hrest
        rcases s with _ | ⟨b₀, s⟩
        · exact absurd rfl h
        · have hmem : a ∈ (String.utf8EncodeChar c).tail := by
            rw [ht]
            simp
          exact absurd (not_ascii_of_mem_tail hmem) (by omega)
    · exact ⟨t, hs⟩
  · rintro ⟨r, rfl⟩
    exact ⟨r ++ a :: rest, by simp⟩

lemma decodeRune_append_ascii {s : Bytes} (h : s ≠ []) {a : UInt8} (ha : a.toNat < 128)
    (rest : Bytes) : decodeRune (s ++ a :: rest) = decodeRune s := by
  rw [decodeRune, decodeRune, if_neg h, if_neg (by simp), decodeChar_append_ascii h ha]

/-! ### All runes -/

/-- The runes of a string, as `for range` goes through them. -/
def runes (s : Bytes) : List Char :=
  if _h : s = [] then [] else (decodeRune s).1 :: runes (s.drop (decodeRune s).2)
termination_by s.length
decreasing_by
  have := decodeRune_size _h
  rw [List.length_drop]
  omega

/-- The string with U+FFFD in the place of each ill-formed byte. -/
def toValid (s : Bytes) : Bytes := encode (runes s)

@[simp] lemma runes_nil : runes [] = [] := by
  rw [runes, dif_pos rfl]

lemma runes_of_ne_nil {s : Bytes} (h : s ≠ []) :
    runes s = (decodeRune s).1 :: runes (s.drop (decodeRune s).2) := by
  rw [runes, dif_neg h]

lemma runes_eq_nil_iff {s : Bytes} : runes s = [] ↔ s = [] := by
  constructor
  · intro h
    by_contra hs
    rw [runes_of_ne_nil hs] at h
    cases h
  · rintro rfl
    exact runes_nil

lemma runes_encode_append (cs : List Char) (s : Bytes) :
    runes (encode cs ++ s) = cs ++ runes s := by
  induction cs with
  | nil => rfl
  | cons c cs ih =>
    have hsplit : encode (c :: cs) ++ s = String.utf8EncodeChar c ++ (encode cs ++ s) :=
      List.append_assoc _ _ _
    have hne : encode (c :: cs) ++ s ≠ [] := by
      rw [hsplit]
      simp [String.utf8EncodeChar_ne_nil]
    rw [runes_of_ne_nil hne, hsplit, decodeRune_append,
      List.drop_left' (String.length_utf8EncodeChar c), ih, List.cons_append]

lemma runes_encode (cs : List Char) : runes (encode cs) = cs := by
  have h := runes_encode_append cs []
  rwa [List.append_nil, runes_nil, List.append_nil] at h

/-- A valid string stays as it is. -/
lemma toValid_of_valid {s : Bytes} (h : Valid s) : toValid s = s := by
  obtain ⟨cs, rfl⟩ := h
  rw [toValid, runes_encode]

lemma valid_iff_toValid {s : Bytes} : Valid s ↔ toValid s = s :=
  ⟨toValid_of_valid, fun h => ⟨runes s, h.symm⟩⟩

/-- Behind a valid string the bytes are read as they are read alone. -/
lemma valid_append_iff {s t : Bytes} (hs : Valid s) : Valid (s ++ t) ↔ Valid t := by
  obtain ⟨cs, rfl⟩ := hs
  rw [valid_iff_toValid, valid_iff_toValid, toValid, runes_encode_append, encode_append,
    List.append_right_inj, toValid]

/-- The first rune is read, or the first byte is ill-formed and becomes three. -/
lemma toValid_cases {s : Bytes} (h : s ≠ []) :
    (∃ c rest, s = String.utf8EncodeChar c ++ rest ∧ s.drop (decodeRune s).2 = rest ∧
        toValid s = String.utf8EncodeChar c ++ toValid rest) ∨
      (toValid s).length = 3 + (toValid (s.drop (decodeRune s).2)).length ∧
        (decodeRune s).2 = 1 := by
  have hsplit : toValid s = String.utf8EncodeChar (decodeRune s).1 ++
      toValid (s.drop (decodeRune s).2) := by
    rw [toValid, runes_of_ne_nil h]
    rfl
  cases hd : decodeChar s with
  | some c =>
    obtain ⟨rest, rfl⟩ := decodeChar_eq_some_iff.mp hd
    rw [decodeRune_append, List.drop_left' (String.length_utf8EncodeChar c)] at hsplit ⊢
    exact Or.inl ⟨c, rest, rfl, rfl, hsplit⟩
  | none =>
    have hrune : decodeRune s = (runeError, 1) := by rw [decodeRune, if_neg h, hd]
    rw [hrune] at hsplit ⊢
    refine Or.inr ⟨?_, rfl⟩
    rw [hsplit, List.length_append, String.length_utf8EncodeChar]
    rfl

/-- Ill-formed bytes make a string longer. -/
lemma length_le_toValid (s : Bytes) : s.length ≤ (toValid s).length := by
  fun_induction runes s with
  | case1 => exact Nat.zero_le _
  | case2 s h ih =>
    rcases toValid_cases h with ⟨c, rest, hs, hrest, hvalid⟩ | ⟨hlength, hone⟩
    · rw [hrest] at ih
      rw [hvalid, hs, List.length_append, List.length_append]
      omega
    · rw [hone, List.length_drop] at ih
      rw [hone] at hlength
      omega

lemma valid_of_length_toValid {s : Bytes} (hle : (toValid s).length ≤ s.length) : Valid s := by
  fun_induction runes s with
  | case1 => exact ⟨[], rfl⟩
  | case2 s h ih =>
    rcases toValid_cases h with ⟨c, rest, hs, hrest, hvalid⟩ | ⟨hlength, hone⟩
    · rw [hrest] at ih
      rw [hvalid, hs, List.length_append, List.length_append] at hle
      rw [hs]
      exact (valid_append_iff ⟨[c], by simp [encode]⟩).mpr (ih (by omega))
    · have hrest := length_le_toValid (s.drop (decodeRune s).2)
      rw [hone, List.length_drop] at hrest
      rw [hone] at hlength
      omega

/-- Pieces that are made valid one by one are what they were exactly when each of them was
valid. -/
lemma flatten_toValid_iff {pieces : List Bytes} :
    (pieces.map toValid).flatten = pieces.flatten ↔ ∀ p ∈ pieces, Valid p := by
  constructor
  · intro h p hp
    -- no piece has become shorter, so none has become longer
    have hsum : ∀ ps : List Bytes, ps.flatten.length ≤ ((ps.map toValid).flatten).length := by
      intro ps
      induction ps with
      | nil => exact Nat.le_refl _
      | cons q ps ih =>
        rw [List.map_cons, List.flatten_cons, List.flatten_cons, List.length_append,
          List.length_append]
        exact Nat.add_le_add (length_le_toValid q) ih
    obtain ⟨before, after, rfl⟩ := List.append_of_mem hp
    have hlength := congrArg List.length h
    simp only [List.map_append, List.map_cons, List.flatten_append, List.flatten_cons,
      List.length_append] at hlength
    have hbefore := hsum before
    have hafter := hsum after
    exact valid_of_length_toValid (by omega)
  · intro h
    congr 1
    conv_rhs => rw [← List.map_id pieces]
    exact List.map_congr_left fun p hp => toValid_of_valid (h p hp)

/-- Every piece is valid exactly when no cut is inside a character. -/
lemma valid_pieces_iff {pieces : List Bytes} :
    (∀ p ∈ pieces, Valid p) ↔ ∀ n, Valid (pieces.take n).flatten := by
  induction pieces with
  | nil => exact iff_of_true (by simp) fun n => ⟨[], by simp [encode]⟩
  | cons p ps ih =>
    constructor
    · intro h n
      have hrest := ih.mp fun q hq => h q (List.mem_cons_of_mem p hq)
      cases n with
      | zero => exact ⟨[], rfl⟩
      | succ n =>
        rw [List.take_succ_cons, List.flatten_cons, valid_append_iff (h p List.mem_cons_self)]
        exact hrest n
    · intro h
      have hp : Valid p := by simpa using h 1
      refine List.forall_mem_cons.mpr ⟨hp, ih.mpr fun n => ?_⟩
      have hn := h (n + 1)
      rwa [List.take_succ_cons, List.flatten_cons, valid_append_iff hp] at hn

/-- The runes are at most as many as the bytes. -/
lemma length_runes_le (s : Bytes) : (runes s).length ≤ s.length := by
  fun_induction runes s with
  | case1 => simp
  | case2 s h ih =>
    have := decodeRune_size h
    rw [List.length_drop] at ih
    rw [List.length_cons]
    omega

end Lib.Utf8
