/-
JavaScript strings: sequences of UTF-16 code units, with the operations that a reader of
line-based texts uses.
-/
import Mathlib.Tactic.Common
import Mathlib.Data.List.Basic
import Mathlib.Data.List.Lex

namespace Lib.Utf16

abbrev JsString := List UInt16

/-- The code units of a character. -/
def utf16Char (c : Char) : JsString :=
  if c.toNat < 0x10000 then [UInt16.ofNat c.toNat]
  else
    [UInt16.ofNat (0xD800 + (c.toNat - 0x10000) / 0x400),
     UInt16.ofNat (0xDC00 + (c.toNat - 0x10000) % 0x400)]

def utf16 (cs : List Char) : JsString := cs.flatMap utf16Char

def lf : UInt16 := 10

def cr : UInt16 := 13

/-- The first string of a list, with one more unit in front. -/
def consHead (c : UInt16) : List JsString → List JsString
  | [] => [[c]]
  | l :: ls => (c :: l) :: ls

/-- `s.split(/\r?\n/)`. -/
def splitLines : JsString → List JsString
  | [] => [[]]
  | [c] => if c = lf then [[], []] else [[c]]
  | c :: d :: s =>
    if c = lf then [] :: splitLines (d :: s)
    else if c = cr ∧ d = lf then [] :: splitLines s
    else consHead c (splitLines (d :: s))

/-- White space and line terminators. -/
def isSpace (c : UInt16) : Bool :=
  let n := c.toNat
  (9 ≤ n && n ≤ 13) || n == 0x20 || n == 0xA0 || n == 0x1680 || (0x2000 ≤ n && n ≤ 0x200A) ||
    n == 0x2028 || n == 0x2029 || n == 0x202F || n == 0x205F || n == 0x3000 || n == 0xFEFF

/-- `s.trim()`. -/
def trim (s : JsString) : JsString :=
  (((s.dropWhile isSpace).reverse).dropWhile isSpace).reverse

/-! ### Lines -/

lemma utf16_append (cs ds : List Char) : utf16 (cs ++ ds) = utf16 cs ++ utf16 ds :=
  List.flatMap_append

lemma utf16_cons (c : Char) (cs : List Char) : utf16 (c :: cs) = utf16Char c ++ utf16 cs := rfl

/-- No code unit of a printable character is a control character. -/
lemma le_of_mem_utf16Char {c : Char} (hc : 32 ≤ c.toNat) {u : UInt16} (hu : u ∈ utf16Char c) :
    32 ≤ u.toNat := by
  have hlt : c.toNat < 0x110000 := by
    have := c.valid
    rcases this with h | ⟨-, h⟩
    · exact Nat.lt_trans h (by decide)
    · exact h
  rw [utf16Char] at hu
  split at hu
  · next hbmp =>
    obtain rfl := List.mem_singleton.mp hu
    rw [UInt16.toNat_ofNat', Nat.mod_eq_of_lt (by omega)]
    exact hc
  · next hbmp =>
    simp only [List.mem_cons, List.not_mem_nil, or_false] at hu
    rcases hu with rfl | rfl
    · rw [UInt16.toNat_ofNat', Nat.mod_eq_of_lt (by omega)]
      omega
    · rw [UInt16.toNat_ofNat', Nat.mod_eq_of_lt (by omega)]
      omega

lemma le_of_mem_utf16 {cs : List Char} (hcs : ∀ c ∈ cs, 32 ≤ c.toNat) {u : UInt16}
    (hu : u ∈ utf16 cs) : 32 ≤ u.toNat := by
  obtain ⟨c, hc, hu⟩ := List.mem_flatMap.mp hu
  exact le_of_mem_utf16Char (hcs c hc) hu

lemma ne_of_le {u : UInt16} (hu : 32 ≤ u.toNat) : u ≠ lf ∧ u ≠ cr := by
  refine ⟨?_, ?_⟩
  · rintro rfl
    exact absurd hu (by decide)
  · rintro rfl
    exact absurd hu (by decide)

lemma splitLines_lf (s : JsString) : splitLines (lf :: s) = [] :: splitLines s := by
  cases s with
  | nil => rfl
  | cons d s => rw [splitLines, if_pos rfl]

/-- A unit that ends no line belongs to the first one. -/
lemma splitLines_cons {c : UInt16} (hlf : c ≠ lf) (hcr : c ≠ cr) (s : JsString) :
    splitLines (c :: s) = consHead c (splitLines s) := by
  cases s with
  | nil => simp [splitLines, hlf, consHead]
  | cons d s => rw [splitLines, if_neg hlf, if_neg fun h => hcr h.1]

/-- A line is what stands before its end. -/
lemma splitLines_line {line : JsString} (h : ∀ u ∈ line, 32 ≤ u.toNat) (rest : JsString) :
    splitLines (line ++ lf :: rest) = line :: splitLines rest := by
  induction line with
  | nil => exact splitLines_lf rest
  | cons c line ih =>
    obtain ⟨hlf, hcr⟩ := ne_of_le (h c List.mem_cons_self)
    rw [List.cons_append, splitLines_cons hlf hcr, ih fun u hu => h u (List.mem_cons_of_mem c hu)]
    rfl

lemma splitLines_lines {lines : List JsString} (h : ∀ l ∈ lines, ∀ u ∈ l, 32 ≤ u.toNat) :
    splitLines (lines.flatMap fun l => l ++ [lf]) = lines ++ [[]] := by
  induction lines with
  | nil => rfl
  | cons l lines ih =>
    rw [List.flatMap_cons, List.append_assoc, List.singleton_append,
      splitLines_line (h l List.mem_cons_self), ih fun l' hl' => h l' (List.mem_cons_of_mem l hl')]
    rfl

/-! ### `trim` -/

/-- A string that does not begin with white space still begins with the same unit. -/
lemma head?_trim {c : UInt16} (hc : isSpace c = false) (s : JsString) :
    (trim (c :: s)).head? = some c := by
  rw [trim, List.dropWhile_cons_of_neg (by simp [hc]), List.reverse_cons,
    List.dropWhile_append]
  split
  · rw [List.dropWhile_cons_of_neg (by simp [hc])]
    rfl
  · simp

/-- A string between two units that are no white space stays as it is. -/
lemma trim_of_ends {c d : UInt16} (hc : isSpace c = false) (hd : isSpace d = false)
    (s : JsString) : trim (c :: s ++ [d]) = c :: s ++ [d] := by
  rw [trim, List.cons_append, List.dropWhile_cons_of_neg (by simp [hc]), ← List.cons_append,
    List.reverse_append, List.reverse_singleton, List.singleton_append,
    List.dropWhile_cons_of_neg (by simp [hd])]
  simp

/-! ### Order -/

/-- The code units as numbers. -/
def units (s : JsString) : List ℕ := s.map UInt16.toNat

/-- The order of `<` on strings and of `sort()`, by code units. -/
def lt (s t : JsString) : Prop := units s < units t

def le (s t : JsString) : Prop := units s ≤ units t

instance : DecidableRel le := fun s t => inferInstanceAs (Decidable (units s ≤ units t))

instance : Std.Total le := ⟨fun s t => le_total (units s) (units t)⟩

instance : IsTrans JsString le := ⟨fun _ _ _ => le_trans⟩

lemma units_inj {s t : JsString} (h : units s = units t) : s = t :=
  List.map_injective_iff.mpr (fun _ _ => UInt16.toNat_inj.mp) h

lemma lt_of_le {s t : JsString} (h : le s t) (hne : s ≠ t) : lt s t :=
  h.lt_of_ne fun heq => hne (units_inj heq)

end Lib.Utf16
