/-
UUID values, their canonical text and PostgreSQL's text input for them.

`toText` is the output of the type (`id::text`): lower-case hexadecimal digits in groups of
8-4-4-4-12.  `parse` is its input (`$1::uuid`), which accepts more: digits of either case,
one pair of braces around the whole, and a hyphen or none after every fourth digit.  The two
fit together (`parse_toText`), but `parse` is far from injective, and a comparison of texts is
not a comparison of values.
-/
import Mathlib.Tactic.Common
import Mathlib.Algebra.Ring.Nat
import Mathlib.Data.List.Basic
import Mathlib.Data.Fin.Basic
import OpsPlatform.Lib.Text

namespace Lib

/-- A UUID: 32 hexadecimal digits. -/
structure Uuid where
  digits : List (Fin 16)
  length_digits : digits.length = 32
deriving DecidableEq

namespace Uuid

@[ext] lemma ext {u v : Uuid} (h : u.digits = v.digits) : u = v := by
  cases u; cases v; simp_all

instance neZeroSixteen : NeZero 16 := ⟨by decide⟩

/-- The UUID whose digits are all `d`, for concrete states. -/
def replicate (d : Fin 16) : Uuid := ⟨List.replicate 32 d, List.length_replicate⟩

/-! ### The canonical text -/

/-- The lower-case hexadecimal digit. -/
def hexChar (d : Fin 16) : Char :=
  ['0', '1', '2', '3', '4', '5', '6', '7', '8', '9', 'a', 'b', 'c', 'd', 'e', 'f'].get d

/-- The text of the last `n` bytes.  A hyphen follows the bytes 4, 6, 8 and 10, after which
12, 10, 8 and 6 bytes remain. -/
def writeBytes : ℕ → List (Fin 16) → List Char
  | n + 1, d₁ :: d₂ :: ds =>
    hexChar d₁ :: hexChar d₂ ::
      ((if n = 12 ∨ n = 10 ∨ n = 8 ∨ n = 6 then ['-'] else []) ++ writeBytes n ds)
  | _, _ => []

/-- `id::text`. -/
def toText (u : Uuid) : String := String.ofList (writeBytes 16 u.digits)

/-! ### Text input -/

/-- The value of a hexadecimal digit of either case. -/
def hexVal (c : Char) : Option (Fin 16) :=
  if '0' ≤ c ∧ c ≤ '9' then some (Fin.ofNat 16 (c.toNat - 48))
  else if 'a' ≤ c ∧ c ≤ 'f' then some (Fin.ofNat 16 (c.toNat - 87))
  else if 'A' ≤ c ∧ c ≤ 'F' then some (Fin.ofNat 16 (c.toNat - 55))
  else none

/-- One hyphen is skipped after every second byte but the last; `n` bytes remain. -/
def skipHyphen (n : ℕ) : List Char → List Char
  | c :: cs => if c = '-' ∧ n % 2 = 0 ∧ 0 < n then cs else c :: cs
  | [] => []

/-- Reads `n` bytes, two digits each, and returns what follows them. -/
def readBytes : ℕ → List Char → Option (List (Fin 16) × List Char)
  | 0, cs => some ([], cs)
  | n + 1, c₁ :: c₂ :: cs =>
    match hexVal c₁, hexVal c₂, readBytes n (skipHyphen n cs) with
    | some d₁, some d₂, some (ds, rest) => some (d₁ :: d₂ :: ds, rest)
    | _, _, _ => none
  | _ + 1, _ => none

/-- Reads 16 bytes and requires that `closing` is all that follows. -/
def readAll (closing cs : List Char) : Option (List (Fin 16)) :=
  match readBytes 16 cs with
  | some (ds, rest) => if rest = closing then some ds else none
  | none => none

/-- The digits of a text, with or without braces. -/
def readDigits : List Char → Option (List (Fin 16))
  | '{' :: cs => readAll ['}'] cs
  | cs => readAll [] cs

lemma length_of_readBytes {n : ℕ} {cs rest : List Char} {ds : List (Fin 16)}
    (h : readBytes n cs = some (ds, rest)) : ds.length = 2 * n := by
  induction n generalizing cs rest ds with
  | zero =>
    simp only [readBytes, Option.some.injEq, Prod.mk.injEq] at h
    simp [← h.1]
  | succ n ih =>
    match cs with
    | [] => simp [readBytes] at h
    | [_] => simp [readBytes] at h
    | c₁ :: c₂ :: cs =>
      rw [readBytes] at h
      split at h
      · next d₁ d₂ ds' rest' _ _ hr =>
        simp only [Option.some.injEq, Prod.mk.injEq] at h
        rw [← h.1]
        simp only [List.length_cons, ih hr]
        omega
      · simp at h

lemma length_of_readDigits {cs : List Char} {ds : List (Fin 16)}
    (h : readDigits cs = some ds) : ds.length = 32 := by
  have key : ∀ closing cs', readAll closing cs' = some ds → ds.length = 32 := by
    intro closing cs' h
    unfold readAll at h
    split at h
    · next ds' rest hr =>
      split at h
      · simp only [Option.some.injEq] at h
        rw [← h]
        exact length_of_readBytes hr
      · simp at h
    · simp at h
  unfold readDigits at h
  split at h
  · exact key _ _ h
  · exact key _ _ h

/-- `$1::uuid`; `none` is the input syntax error. -/
def parse (s : String) : Option Uuid :=
  match h : readDigits s.toList with
  | some ds => some ⟨ds, length_of_readDigits h⟩
  | none => none

/-! ### Reading back the canonical text -/

@[simp] lemma hexVal_hexChar (d : Fin 16) : hexVal (hexChar d) = some d := by
  revert d; decide

lemma hexChar_ne_hyphen (d : Fin 16) : hexChar d ≠ '-' := by
  revert d; decide

lemma hexChar_ne_brace (d : Fin 16) : hexChar d ≠ '{' := by
  revert d; decide

/-- Where the canonical text has a hyphen the input skips one, and where it has none the next
character is a digit. -/
lemma skipHyphen_writeBytes (n : ℕ) (ds : List (Fin 16)) (h : ds.length = 2 * n) :
    skipHyphen n ((if n = 12 ∨ n = 10 ∨ n = 8 ∨ n = 6 then ['-'] else []) ++ writeBytes n ds)
      = writeBytes n ds := by
  split
  · next hn =>
    have : n % 2 = 0 ∧ 0 < n := by omega
    simp [skipHyphen, this]
  · match n, ds, h with
    | 0, _, _ => simp [writeBytes, skipHyphen]
    | n + 1, d₁ :: d₂ :: ds, _ => simp [writeBytes, skipHyphen, hexChar_ne_hyphen]

lemma readBytes_writeBytes (n : ℕ) (ds : List (Fin 16)) (h : ds.length = 2 * n) :
    readBytes n (writeBytes n ds) = some (ds, []) := by
  induction n generalizing ds with
  | zero =>
    have : ds = [] := List.length_eq_zero_iff.mp (by simpa using h)
    subst this
    rfl
  | succ n ih =>
    match ds, h with
    | d₁ :: d₂ :: ds, h =>
      have hlen : ds.length = 2 * n := by
        simp only [List.length_cons] at h
        omega
      rw [writeBytes, readBytes, skipHyphen_writeBytes n ds hlen, ih ds hlen]
      simp

lemma readDigits_writeBytes (ds : List (Fin 16)) (h : ds.length = 32) :
    readDigits (writeBytes 16 ds) = some ds := by
  have hall : readAll [] (writeBytes 16 ds) = some ds := by
    simp [readAll, readBytes_writeBytes 16 ds h]
  match ds, h with
  | d₁ :: d₂ :: ds, _ =>
    rw [writeBytes] at hall ⊢
    unfold readDigits
    split
    · next heq =>
      exact absurd (List.cons.inj heq).1 (hexChar_ne_brace d₁)
    · exact hall

lemma parse_eq_some_iff {s : String} {u : Uuid} :
    parse s = some u ↔ readDigits s.toList = some u.digits := by
  unfold parse
  split
  · next ds h =>
    constructor
    · intro hu
      exact h.trans (congrArg (fun v => some v.digits) (Option.some.inj hu))
    · intro hd
      exact congrArg some (Uuid.ext (Option.some.inj (h.symm.trans hd)))
  · next h => simp [h]

/-- **The canonical text is read back as the value it was written from.** -/
@[simp] theorem parse_toText (u : Uuid) : parse u.toText = some u := by
  rw [parse_eq_some_iff, toText, String.toList_ofList]
  exact readDigits_writeBytes u.digits u.length_digits

lemma toText_injective : Function.Injective toText := by
  intro u v h
  have := congrArg parse h
  simpa using this

lemma toText_ne_empty (u : Uuid) : u.toText ≠ "" := by
  intro h
  have hnone : parse "" = none := by decide
  rw [← h, parse_toText] at hnone
  cases hnone

@[simp] lemma toText_inj {u v : Uuid} : u.toText = v.toText ↔ u = v :=
  toText_injective.eq_iff

/-! ### Accepted texts hold no white space -/

lemma isSpace_of_hexVal {c : Char} {d : Fin 16} (h : hexVal c = some d) :
    Text.isSpace c = false := by
  have hn : (48 ≤ c.toNat ∧ c.toNat ≤ 57) ∨ (97 ≤ c.toNat ∧ c.toNat ≤ 102) ∨
      (65 ≤ c.toNat ∧ c.toNat ≤ 70) := by
    unfold hexVal at h
    split at h
    · next hc => exact Or.inl hc
    · split at h
      · next hc => exact Or.inr (Or.inl hc)
      · split at h
        · next hc => exact Or.inr (Or.inr hc)
        · simp at h
  simp only [Text.isSpace, Bool.or_eq_false_iff, Bool.and_eq_false_iff, decide_eq_false_iff_not,
    beq_eq_false_iff_ne]
  omega

lemma isSpace_of_skipHyphen {n : ℕ} {cs : List Char}
    (h : ∀ c ∈ skipHyphen n cs, Text.isSpace c = false) : ∀ c ∈ cs, Text.isSpace c = false := by
  match cs with
  | [] => simp
  | c :: cs =>
    rw [skipHyphen] at h
    split at h
    · next hc =>
      intro x hx
      rcases List.mem_cons.mp hx with rfl | hx
      · rw [hc.1]; decide
      · exact h x hx
    · exact h

lemma isSpace_of_readBytes {n : ℕ} {cs rest : List Char} {ds : List (Fin 16)}
    (h : readBytes n cs = some (ds, rest)) (hrest : ∀ c ∈ rest, Text.isSpace c = false) :
    ∀ c ∈ cs, Text.isSpace c = false := by
  induction n generalizing cs ds with
  | zero =>
    simp only [readBytes, Option.some.injEq, Prod.mk.injEq] at h
    rwa [h.2]
  | succ n ih =>
    match cs with
    | [] => simp
    | [_] => simp [readBytes] at h
    | c₁ :: c₂ :: cs =>
      rw [readBytes] at h
      split at h
      · next d₁ d₂ ds' rest' h₁ h₂ hr =>
        simp only [Option.some.injEq, Prod.mk.injEq] at h
        obtain ⟨-, rfl⟩ := h
        intro c hc
        rcases List.mem_cons.mp hc with rfl | hc
        · exact isSpace_of_hexVal h₁
        · rcases List.mem_cons.mp hc with rfl | hc
          · exact isSpace_of_hexVal h₂
          · exact isSpace_of_skipHyphen (ih hr) c hc
      · simp at h

lemma isSpace_of_readAll {closing cs : List Char} {ds : List (Fin 16)}
    (h : readAll closing cs = some ds) (hclosing : ∀ c ∈ closing, Text.isSpace c = false) :
    ∀ c ∈ cs, Text.isSpace c = false := by
  unfold readAll at h
  split at h
  · next ds' rest hr =>
    split at h
    · next hrest => exact isSpace_of_readBytes hr (by rwa [hrest])
    · simp at h
  · simp at h

/-- The input accepts no surrounding white space, so trimming changes no accepted text. -/
lemma trimSpace_of_parse {s : String} {u : Uuid} (h : parse s = some u) :
    Text.trimSpace s = s := by
  rw [parse_eq_some_iff] at h
  refine Text.trimSpace_eq_self ?_
  unfold readDigits at h
  split at h
  · next cs hcs =>
    intro c hc
    rw [hcs] at hc
    rcases List.mem_cons.mp hc with rfl | hc
    · decide
    · refine isSpace_of_readAll h ?_ c hc
      intro d hd
      obtain rfl := List.mem_singleton.mp hd
      decide
  · exact isSpace_of_readAll h (by simp)

@[simp] lemma trimSpace_toText (u : Uuid) : Text.trimSpace u.toText = u.toText :=
  trimSpace_of_parse (parse_toText u)

/-- A text whose trimming is the canonical text of `v` is read, if at all, as `v`. -/
lemma eq_of_trimSpace_eq_toText {s : String} {u v : Uuid} (h : parse s = some u)
    (hs : Text.trimSpace s = v.toText) : u = v := by
  have hu := h
  rw [← trimSpace_of_parse h, hs, parse_toText] at hu
  exact (Option.some.inj hu).symm

end Uuid

end Lib
