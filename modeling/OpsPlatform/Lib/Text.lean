/-
The functions of Go's `strings` package that the program uses, on Unicode text.

`trimSpace`, `toLower` and `equalFold` follow `strings.TrimSpace`, `strings.ToLower` and
`strings.EqualFold`.  The case tables are the simple (one rune to one rune) mappings of the
Unicode character database, written as ranges; ASCII does not go through them.
-/
import Mathlib.Tactic.Common
import Mathlib.Data.List.Basic
import Mathlib.Data.List.DropRight

namespace Lib.Text

/-! ### White space -/

/-- `unicode.IsSpace`. -/
def isSpace (c : Char) : Bool :=
  let n := c.toNat
  (9 ≤ n && n ≤ 13) || n == 32 || n == 0x85 || n == 0xa0 || n == 0x1680 ||
    (0x2000 ≤ n && n ≤ 0x200a) || n == 0x2028 || n == 0x2029 || n == 0x202f ||
    n == 0x205f || n == 0x3000

/-- The characters without the white space at both ends. -/
def trimChars (cs : List Char) : List Char :=
  ((cs.dropWhile isSpace).reverse.dropWhile isSpace).reverse

/-- `strings.TrimSpace`. -/
def trimSpace (s : String) : String := String.ofList (trimChars s.toList)

lemma dropWhile_eq_self {p : Char → Bool} {cs : List Char} (h : ∀ c ∈ cs, p c = false) :
    cs.dropWhile p = cs := by
  cases cs with
  | nil => rfl
  | cons c cs => simp [h c (by simp)]

/-- A text without white space is its own trimming. -/
lemma trimSpace_eq_self {s : String} (h : ∀ c ∈ s.toList, isSpace c = false) :
    trimSpace s = s := by
  have hrev : ∀ c ∈ s.toList.reverse, isSpace c = false := fun c hc => h c (by simpa using hc)
  rw [trimSpace, trimChars, dropWhile_eq_self h, dropWhile_eq_self hrev, List.reverse_reverse,
    String.ofList_toList]

/-- What is trimmed at the front stays so when it is trimmed at the back. -/
lemma dropWhile_rdropWhile {p : Char → Bool} {cs : List Char} (h : cs.dropWhile p = cs) :
    (cs.rdropWhile p).dropWhile p = cs.rdropWhile p := by
  cases hr : cs.rdropWhile p with
  | nil => rfl
  | cons c ds =>
    obtain ⟨es, rfl⟩ : c :: ds <+: cs := hr ▸ List.rdropWhile_prefix p cs
    have hc : ¬ p c = true := by
      intro hpc
      rw [List.cons_append, List.dropWhile_cons_of_pos hpc] at h
      have hlength := congrArg List.length h
      have hle := (List.dropWhile_suffix p (l := ds ++ es)).length_le
      rw [List.length_cons] at hlength
      omega
    exact List.dropWhile_cons_of_neg hc

/-- A text that was trimmed has nothing left to trim. -/
@[simp] lemma trimSpace_trimSpace (s : String) : trimSpace (trimSpace s) = trimSpace s := by
  have hchars : ∀ cs, trimChars cs = (cs.dropWhile isSpace).rdropWhile isSpace := fun _ => rfl
  rw [trimSpace, trimSpace, String.toList_ofList, hchars, hchars,
    dropWhile_rdropWhile (List.dropWhile_idempotent _ _), List.rdropWhile_idempotent]

/-- Nothing is trimmed from a text that has no white space at its ends. -/
lemma trimChars_eq_self_iff {cs : List Char} : trimChars cs = cs ↔
    (∀ c ∈ cs.head?, isSpace c = false) ∧ ∀ c ∈ cs.getLast?, isSpace c = false := by
  have hchars : trimChars cs = (cs.dropWhile isSpace).rdropWhile isSpace := rfl
  have hhead : cs.dropWhile isSpace = cs ↔ ∀ c ∈ cs.head?, isSpace c = false := by
    cases cs with
    | nil => simp
    | cons c cs => rw [List.dropWhile_eq_self_iff]; simp
  have hlast : cs.rdropWhile isSpace = cs ↔ ∀ c ∈ cs.getLast?, isSpace c = false := by
    rw [List.rdropWhile_eq_self_iff]
    by_cases hcs : cs = []
    · simp [hcs]
    · simp [List.getLast?_eq_getLast_of_ne_nil hcs, hcs]
  rw [← hhead, ← hlast, hchars]
  constructor
  · intro h
    have hle := (List.rdropWhile_prefix isSpace (cs.dropWhile isSpace)).length_le
    have hdrop : cs.dropWhile isSpace = cs := by
      rw [h] at hle
      exact (List.dropWhile_suffix isSpace).eq_of_length_le hle
    exact ⟨hdrop, by rw [hdrop] at h; exact h⟩
  · rintro ⟨hdrop, hrdrop⟩
    rw [hdrop, hrdrop]

lemma trimSpace_eq_self_iff {s : String} : trimSpace s = s ↔ trimChars s.toList = s.toList := by
  rw [trimSpace, ← String.toList_inj, String.toList_ofList]

/-- Nothing is left of a text that is white space. -/
lemma trimSpace_eq_empty_iff {s : String} :
    trimSpace s = "" ↔ ∀ c ∈ s.toList, isSpace c = true := by
  have hchars : trimChars s.toList = (s.toList.dropWhile isSpace).rdropWhile isSpace := rfl
  rw [trimSpace, ← String.toList_inj, String.toList_ofList, hchars, String.toList_empty,
    List.rdropWhile_eq_nil_iff]
  constructor
  · intro h
    rw [← List.dropWhile_eq_nil_iff]
    cases hd : s.toList.dropWhile isSpace with
    | nil => rfl
    | cons c cs =>
      have hc := h c (hd ▸ List.mem_cons_self)
      have hhead :
          isSpace ((s.toList.dropWhile isSpace).head (hd ▸ List.cons_ne_nil c cs)) = false :=
        List.head_dropWhile_not isSpace _
      simp only [hd, List.head_cons] at hhead
      rw [hc] at hhead
      cases hhead
  · intro h c hc
    exact h c ((List.dropWhile_suffix isSpace).subset hc)

/-- A validator reports nothing when the first of its checks does not and the others do not. -/
lemma ite_text_eq_empty {p : Prop} [Decidable p] {message rest : String} (h : message ≠ "") :
    (if p then message else rest) = "" ↔ ¬ p ∧ rest = "" := by
  by_cases hp : p <;> simp [hp, h]

/-- Two texts that are joined by a separator can be told apart when the first has none in it. -/
lemma append_cons_inj {c : Char} {xs xs' ys ys' : List Char} (hxs : c ∉ xs) (hxs' : c ∉ xs')
    (h : xs ++ c :: ys = xs' ++ c :: ys') : xs = xs' ∧ ys = ys' := by
  induction xs generalizing xs' with
  | nil =>
    rcases xs' with _ | ⟨x, xs'⟩
    · exact ⟨rfl, (List.cons.inj h).2⟩
    · exact absurd ((List.cons.inj h).1 ▸ List.mem_cons_self) hxs'
  | cons x xs ih =>
    rcases xs' with _ | ⟨x', xs'⟩
    · exact absurd ((List.cons.inj h).1 ▸ List.mem_cons_self) hxs
    · obtain ⟨rfl, htail⟩ := List.cons.inj h
      obtain ⟨rfl, rfl⟩ := ih (fun hmem => hxs (List.mem_cons_of_mem _ hmem))
        (fun hmem => hxs' (List.mem_cons_of_mem _ hmem)) htail
      exact ⟨rfl, rfl⟩

/-- They can be told apart, too, when the separator is in neither part of one of them. -/
lemma append_cons_inj_of_right {c : Char} {u v u' v' : List Char} (hu : c ∉ u') (hv : c ∉ v')
    (h : u ++ c :: v = u' ++ c :: v') : u = u' ∧ v = v' := by
  rcases List.append_eq_append_iff.mp h with ⟨w, rfl, hw⟩ | ⟨w, rfl, hw⟩
  · rcases w with _ | ⟨d, w⟩
    · exact ⟨(List.append_nil u).symm, (List.cons.inj hw).2⟩
    · obtain rfl := (List.cons.inj hw).1
      simp at hu
  · rcases w with _ | ⟨d, w⟩
    · exact ⟨List.append_nil u', (List.cons.inj hw).2.symm⟩
    · obtain rfl : v' = w ++ c :: v := (List.cons.inj hw).2
      simp at hv

/-! ### Pieces -/

section

variable {α : Type} [BEq α] [LawfulBEq α] {a : α} {xs p q : List α}

/-- A piece has no separator in it. -/
lemma not_mem_of_mem_splitOn (h : p ∈ xs.splitOn a) : a ∉ p := by
  induction xs generalizing p with
  | nil =>
    rw [List.splitOn_nil, List.mem_singleton] at h
    simp [h]
  | cons x xs ih =>
    rw [List.splitOn_cons_eq_if_modifyHead] at h
    split at h
    · rcases List.mem_cons.mp h with rfl | htail
      · exact List.not_mem_nil
      · exact ih htail
    · next hx =>
      obtain ⟨head, tail, hsplit⟩ := List.exists_cons_of_ne_nil (List.splitOn_ne_nil a xs)
      rw [hsplit, List.modifyHead_cons] at h
      rcases List.mem_cons.mp h with rfl | htail
      · rw [List.mem_cons, not_or]
        refine ⟨?_, ih (hsplit ▸ List.mem_cons_self)⟩
        rintro rfl
        simp at hx
      · exact ih (hsplit ▸ List.mem_cons_of_mem _ htail)

/-- There are two pieces when there is one separator. -/
lemma splitOn_eq_pair_iff : xs.splitOn a = [p, q] ↔ xs = p ++ a :: q ∧ a ∉ p ∧ a ∉ q := by
  constructor
  · intro h
    refine ⟨?_, not_mem_of_mem_splitOn (h ▸ List.mem_cons_self),
      not_mem_of_mem_splitOn (h ▸ List.mem_cons_of_mem _ List.mem_cons_self)⟩
    have hjoin := (List.intercalate_splitOn a : [a].intercalate (xs.splitOn a) = xs)
    rw [h] at hjoin
    simpa using hjoin.symm
  · rintro ⟨rfl, hp, hq⟩
    rw [List.splitOn_append_cons_self_of_not_mem hp, List.splitOn_eq_singleton hq]

end

/-! ### Case -/

/-- The simple lower-case mappings outside ASCII: first code point, last code point, stride,
image of the first. -/
def lowerRanges : List (ℕ × ℕ × ℕ × ℕ) :=
  [(0xc0, 0xd6, 1, 0xe0), (0xd8, 0xde, 1, 0xf8), (0x100, 0x12e, 2, 0x101),
   (0x130, 0x130, 1, 0x69), (0x132, 0x136, 2, 0x133), (0x139, 0x147, 2, 0x13a),
   (0x14a, 0x176, 2, 0x14b), (0x178, 0x178, 1, 0xff), (0x179, 0x17d, 2, 0x17a),
   (0x181, 0x181, 1, 0x253), (0x182, 0x184, 2, 0x183), (0x186, 0x186, 1, 0x254),
   (0x187, 0x187, 1, 0x188), (0x189, 0x18a, 1, 0x256), (0x18b, 0x18b, 1, 0x18c),
   (0x18e, 0x18e, 1, 0x1dd), (0x18f, 0x18f, 1, 0x259), (0x190, 0x190, 1, 0x25b),
   (0x191, 0x191, 1, 0x192), (0x193, 0x193, 1, 0x260), (0x194, 0x194, 1, 0x263),
   (0x196, 0x196, 1, 0x269), (0x197, 0x197, 1, 0x268), (0x198, 0x198, 1, 0x199),
   (0x19c, 0x19c, 1, 0x26f), (0x19d, 0x19d, 1, 0x272), (0x19f, 0x19f, 1, 0x275),
   (0x1a0, 0x1a4, 2, 0x1a1), (0x1a6, 0x1a6, 1, 0x280), (0x1a7, 0x1a7, 1, 0x1a8),
   (0x1a9, 0x1a9, 1, 0x283), (0x1ac, 0x1ac, 1, 0x1ad), (0x1ae, 0x1ae, 1, 0x288),
   (0x1af, 0x1af, 1, 0x1b0), (0x1b1, 0x1b2, 1, 0x28a), (0x1b3, 0x1b5, 2, 0x1b4),
   (0x1b7, 0x1b7, 1, 0x292), (0x1b8, 0x1b8, 1, 0x1b9), (0x1bc, 0x1bc, 1, 0x1bd),
   (0x1c4, 0x1c4, 1, 0x1c6), (0x1c5, 0x1c5, 1, 0x1c6), (0x1c7, 0x1c7, 1, 0x1c9),
   (0x1c8, 0x1c8, 1, 0x1c9), (0x1ca, 0x1ca, 1, 0x1cc), (0x1cb, 0x1db, 2, 0x1cc),
   (0x1de, 0x1ee, 2, 0x1df), (0x1f1, 0x1f1, 1, 0x1f3), (0x1f2, 0x1f4, 2, 0x1f3),
   (0x1f6, 0x1f6, 1, 0x195), (0x1f7, 0x1f7, 1, 0x1bf), (0x1f8, 0x21e, 2, 0x1f9),
   (0x220, 0x220, 1, 0x19e), (0x222, 0x232, 2, 0x223), (0x23a, 0x23a, 1, 0x2c65),
   (0x23b, 0x23b, 1, 0x23c), (0x23d, 0x23d, 1, 0x19a), (0x23e, 0x23e, 1, 0x2c66),
   (0x241, 0x241, 1, 0x242), (0x243, 0x243, 1, 0x180), (0x244, 0x244, 1, 0x289),
   (0x245, 0x245, 1, 0x28c), (0x246, 0x24e, 2, 0x247), (0x370, 0x372, 2, 0x371),
   (0x376, 0x376, 1, 0x377), (0x37f, 0x37f, 1, 0x3f3), (0x386, 0x386, 1, 0x3ac),
   (0x388, 0x38a, 1, 0x3ad), (0x38c, 0x38c, 1, 0x3cc), (0x38e, 0x38f, 1, 0x3cd),
   (0x391, 0x3a1, 1, 0x3b1), (0x3a3, 0x3ab, 1, 0x3c3), (0x3cf, 0x3cf, 1, 0x3d7),
   (0x3d8, 0x3ee, 2, 0x3d9), (0x3f4, 0x3f4, 1, 0x3b8), (0x3f7, 0x3f7, 1, 0x3f8),
   (0x3f9, 0x3f9, 1, 0x3f2), (0x3fa, 0x3fa, 1, 0x3fb), (0x3fd, 0x3ff, 1, 0x37b),
   (0x400, 0x40f, 1, 0x450), (0x410, 0x42f, 1, 0x430), (0x460, 0x480, 2, 0x461),
   (0x48a, 0x4be, 2, 0x48b), (0x4c0, 0x4c0, 1, 0x4cf), (0x4c1, 0x4cd, 2, 0x4c2),
   (0x4d0, 0x52e, 2, 0x4d1), (0x531, 0x556, 1, 0x561), (0x10a0, 0x10c5, 1, 0x2d00),
   (0x10c7, 0x10c7, 1, 0x2d27), (0x10cd, 0x10cd, 1, 0x2d2d), (0x13a0, 0x13ef, 1, 0xab70),
   (0x13f0, 0x13f5, 1, 0x13f8), (0x1c90, 0x1cba, 1, 0x10d0), (0x1cbd, 0x1cbf, 1, 0x10fd),
   (0x1e00, 0x1e94, 2, 0x1e01), (0x1e9e, 0x1e9e, 1, 0xdf), (0x1ea0, 0x1efe, 2, 0x1ea1),
   (0x1f08, 0x1f0f, 1, 0x1f00), (0x1f18, 0x1f1d, 1, 0x1f10), (0x1f28, 0x1f2f, 1, 0x1f20),
   (0x1f38, 0x1f3f, 1, 0x1f30), (0x1f48, 0x1f4d, 1, 0x1f40), (0x1f59, 0x1f5f, 2, 0x1f51),
   (0x1f68, 0x1f6f, 1, 0x1f60), (0x1f88, 0x1f8f, 1, 0x1f80), (0x1f98, 0x1f9f, 1, 0x1f90),
   (0x1fa8, 0x1faf, 1, 0x1fa0), (0x1fb8, 0x1fb9, 1, 0x1fb0), (0x1fba, 0x1fbb, 1, 0x1f70),
   (0x1fbc, 0x1fbc, 1, 0x1fb3), (0x1fc8, 0x1fcb, 1, 0x1f72), (0x1fcc, 0x1fcc, 1, 0x1fc3),
   (0x1fd8, 0x1fd9, 1, 0x1fd0), (0x1fda, 0x1fdb, 1, 0x1f76), (0x1fe8, 0x1fe9, 1, 0x1fe0),
   (0x1fea, 0x1feb, 1, 0x1f7a), (0x1fec, 0x1fec, 1, 0x1fe5), (0x1ff8, 0x1ff9, 1, 0x1f78),
   (0x1ffa, 0x1ffb, 1, 0x1f7c), (0x1ffc, 0x1ffc, 1, 0x1ff3), (0x2126, 0x2126, 1, 0x3c9),
   (0x212a, 0x212a, 1, 0x6b), (0x212b, 0x212b, 1, 0xe5), (0x2132, 0x2132, 1, 0x214e),
   (0x2160, 0x216f, 1, 0x2170), (0x2183, 0x2183, 1, 0x2184), (0x24b6, 0x24cf, 1, 0x24d0),
   (0x2c00, 0x2c2f, 1, 0x2c30), (0x2c60, 0x2c60, 1, 0x2c61), (0x2c62, 0x2c62, 1, 0x26b),
   (0x2c63, 0x2c63, 1, 0x1d7d), (0x2c64, 0x2c64, 1, 0x27d), (0x2c67, 0x2c6b, 2, 0x2c68),
   (0x2c6d, 0x2c6d, 1, 0x251), (0x2c6e, 0x2c6e, 1, 0x271), (0x2c6f, 0x2c6f, 1, 0x250),
   (0x2c70, 0x2c70, 1, 0x252), (0x2c72, 0x2c72, 1, 0x2c73), (0x2c75, 0x2c75, 1, 0x2c76),
   (0x2c7e, 0x2c7f, 1, 0x23f), (0x2c80, 0x2ce2, 2, 0x2c81), (0x2ceb, 0x2ced, 2, 0x2cec),
   (0x2cf2, 0x2cf2, 1, 0x2cf3), (0xa640, 0xa66c, 2, 0xa641), (0xa680, 0xa69a, 2, 0xa681),
   (0xa722, 0xa72e, 2, 0xa723), (0xa732, 0xa76e, 2, 0xa733), (0xa779, 0xa77b, 2, 0xa77a),
   (0xa77d, 0xa77d, 1, 0x1d79), (0xa77e, 0xa786, 2, 0xa77f), (0xa78b, 0xa78b, 1, 0xa78c),
   (0xa78d, 0xa78d, 1, 0x265), (0xa790, 0xa792, 2, 0xa791), (0xa796, 0xa7a8, 2, 0xa797),
   (0xa7aa, 0xa7aa, 1, 0x266), (0xa7ab, 0xa7ab, 1, 0x25c), (0xa7ac, 0xa7ac, 1, 0x261),
   (0xa7ad, 0xa7ad, 1, 0x26c), (0xa7ae, 0xa7ae, 1, 0x26a), (0xa7b0, 0xa7b0, 1, 0x29e),
   (0xa7b1, 0xa7b1, 1, 0x287), (0xa7b2, 0xa7b2, 1, 0x29d), (0xa7b3, 0xa7b3, 1, 0xab53),
   (0xa7b4, 0xa7c2, 2, 0xa7b5), (0xa7c4, 0xa7c4, 1, 0xa794), (0xa7c5, 0xa7c5, 1, 0x282),
   (0xa7c6, 0xa7c6, 1, 0x1d8e), (0xa7c7, 0xa7c9, 2, 0xa7c8), (0xa7d0, 0xa7d0, 1, 0xa7d1),
   (0xa7d6, 0xa7d8, 2, 0xa7d7), (0xa7f5, 0xa7f5, 1, 0xa7f6), (0xff21, 0xff3a, 1, 0xff41),
   (0x10400, 0x10427, 1, 0x10428), (0x104b0, 0x104d3, 1, 0x104d8),
   (0x10570, 0x1057a, 1, 0x10597), (0x1057c, 0x1058a, 1, 0x105a3),
   (0x1058c, 0x10592, 1, 0x105b3), (0x10594, 0x10595, 1, 0x105bb),
   (0x10c80, 0x10cb2, 1, 0x10cc0), (0x118a0, 0x118bf, 1, 0x118c0),
   (0x16e40, 0x16e5f, 1, 0x16e60), (0x1e900, 0x1e921, 1, 0x1e922)]

/-- `unicode.ToLower`. -/
def lowerChar (c : Char) : Char :=
  let n := c.toNat
  if n < 128 then if 65 ≤ n ∧ n ≤ 90 then Char.ofNat (n + 32) else c
  else
    match lowerRanges.find? fun r => r.1 ≤ n && n ≤ r.2.1 && (n - r.1) % r.2.2.1 == 0 with
    | some (lo, _, _, image) => Char.ofNat (n - lo + image)
    | none => c

/-- No image of a range is white space. -/
lemma lowerRanges_clear : ∀ r ∈ lowerRanges, (32 < r.2.2.2 ∧ r.2.1 - r.1 + r.2.2.2 < 0x85) ∨
    (0xa0 < r.2.2.2 ∧ r.2.1 - r.1 + r.2.2.2 < 0x1680) ∨
    (0x1680 < r.2.2.2 ∧ r.2.1 - r.1 + r.2.2.2 < 0x2000) ∨
    (0x205f < r.2.2.2 ∧ r.2.1 - r.1 + r.2.2.2 < 0x3000) ∨ 0x3000 < r.2.2.2 := by
  decide +kernel

lemma toNat_ofNat_cases (n : ℕ) : (Char.ofNat n).toNat = n ∨ (Char.ofNat n).toNat = 0 := by
  by_cases hn : n.isValidChar
  · exact Or.inl (by rw [Char.ofNat, dif_pos hn]; rfl)
  · exact Or.inr (by rw [Char.ofNat, dif_neg hn]; rfl)

/-- A character that is not white space is none in lower case. -/
lemma isSpace_lowerChar {c : Char} (h : isSpace (lowerChar c) = true) : isSpace c = true := by
  rw [lowerChar] at h
  split at h
  · split at h
    · next hupper =>
      rcases toNat_ofNat_cases (c.toNat + 32) with heq | heq <;>
      · simp only [isSpace, heq, Bool.or_eq_true, Bool.and_eq_true, decide_eq_true_eq,
          beq_iff_eq] at h
        omega
    · exact h
  · split at h
    · next lo hi stride image hfind =>
      have hmem := lowerRanges_clear _ (List.mem_of_find?_eq_some hfind)
      have hhit := List.find?_some hfind
      simp only [Bool.and_eq_true, decide_eq_true_eq] at hhit hmem
      rcases toNat_ofNat_cases (c.toNat - lo + image) with heq | heq <;>
      · simp only [isSpace, heq, Bool.or_eq_true, Bool.and_eq_true, decide_eq_true_eq,
          beq_iff_eq] at h
        omega
    · exact h

/-- `strings.ToLower`. -/
def toLower (s : String) : String := String.ofList (s.toList.map lowerChar)

/-- Something is left of a text in lower case. -/
lemma trimSpace_toLower_ne {s : String} (h : trimSpace s ≠ "") : trimSpace (toLower s) ≠ "" := by
  rw [Ne, trimSpace_eq_empty_iff] at h ⊢
  intro hall
  refine h fun c hc => isSpace_lowerChar (hall _ ?_)
  rw [toLower, String.toList_ofList]
  exact List.mem_map_of_mem hc

/-- The code points that case folding, but not lower-casing, sends elsewhere. -/
def foldExceptions : List (ℕ × ℕ) :=
  [(0xb5, 0x3bc), (0x130, 0x130), (0x17f, 0x73), (0x345, 0x3b9), (0x3c2, 0x3c3),
   (0x3d0, 0x3b2), (0x3d1, 0x3b8), (0x3d5, 0x3c6), (0x3d6, 0x3c0), (0x3f0, 0x3ba),
   (0x3f1, 0x3c1), (0x3f5, 0x3b5), (0x1c80, 0x432), (0x1c81, 0x434), (0x1c82, 0x43e),
   (0x1c83, 0x441), (0x1c84, 0x442), (0x1c85, 0x442), (0x1c86, 0x44a), (0x1c87, 0x463),
   (0x1c88, 0xa64b), (0x1e9b, 0x1e61), (0x1fbe, 0x3b9)]

/-- A representative of the orbit of a character under `unicode.SimpleFold`. -/
def foldChar (c : Char) : Char :=
  match foldExceptions.lookup c.toNat with
  | some n => Char.ofNat n
  | none => lowerChar c

/-- Two runes of one `unicode.SimpleFold` orbit. -/
def sameFold (c d : Char) : Bool := c == d || foldChar c == foldChar d

def equalFoldChars : List Char → List Char → Bool
  | [], [] => true
  | c :: cs, d :: ds => sameFold c d && equalFoldChars cs ds
  | _, _ => false

/-- `strings.EqualFold`. -/
def equalFold (s t : String) : Bool := equalFoldChars s.toList t.toList

lemma equalFold_self (s : String) : equalFold s s = true := by
  have hchars : ∀ cs, equalFoldChars cs cs = true := by
    intro cs
    induction cs with
    | nil => rfl
    | cons c cs ih =>
      rw [equalFoldChars, sameFold, ih]
      simp
  exact hchars s.toList

example : equalFold " Prod" "prod" = false ∧ equalFold "PROD" "prod" = true := by decide

example : toLower "SSH Key" = "ssh key" ∧ trimSpace "\t ssh " = "ssh" := by decide

end Lib.Text
