/-
JSON texts as Go's `encoding/json` writes them, and the values that a JavaScript program has
after `JSON.parse`.

Go writes a value on one line: every control character inside a string is escaped.  How it
formats a `float64` is a parameter.
-/
import OpsPlatform.Lib.Utf16
import OpsPlatform.Lib.Strconv
import Mathlib.Data.Rat.Defs

namespace Lib.JsonText

open Utf16

/-- What is handed to `json.Marshal`.  The fields of an object stand in the order in which they
are written; those of a Go map are sorted by their keys. -/
inductive Value where
  | int (n : ℤ)
  | float (x : ℚ)
  | str (s : List Char)
  | arr (items : List Value)
  | obj (fields : List (List Char × Value))

/-! ### Strings -/

def quote : Char := Char.ofNat 34

def backslash : Char := Char.ofNat 92

/-- The four hexadecimal digits after `\u`. -/
def hex4 (n : ℕ) : List Char :=
  [Nat.digitChar (n / 4096 % 16), Nat.digitChar (n / 256 % 16), Nat.digitChar (n / 16 % 16),
   Nat.digitChar (n % 16)]

/-- The letter of the short escape of a control character. -/
def shortEscape (c : Char) : Option Char :=
  if c.toNat = 8 then some 'b'
  else if c.toNat = 12 then some 'f'
  else if c.toNat = 10 then some 'n'
  else if c.toNat = 13 then some 'r'
  else if c.toNat = 9 then some 't'
  else none

/-- The characters that are escaped for HTML and for JavaScript. -/
def escaped (c : Char) : Bool :=
  c.toNat < 32 || c == '<' || c == '>' || c == '&' || c.toNat == 0x2028 || c.toNat == 0x2029

def escapeChar (c : Char) : List Char :=
  if c = quote ∨ c = backslash then [backslash, c]
  else
    match shortEscape c with
    | some letter => [backslash, letter]
    | none => if escaped c then [backslash, 'u'] ++ hex4 c.toNat else [c]

def marshalString (s : List Char) : List Char := quote :: s.flatMap escapeChar ++ [quote]

/-! ### Reading a string -/

def hexValue (c : Char) : Option ℕ :=
  if '0' ≤ c ∧ c ≤ '9' then some (c.toNat - 48)
  else if 'a' ≤ c ∧ c ≤ 'f' then some (c.toNat - 87)
  else if 'A' ≤ c ∧ c ≤ 'F' then some (c.toNat - 55)
  else none

/-- The character of a short escape. -/
def escapeLetter (c : Char) : Option Char :=
  if c = quote ∨ c = backslash ∨ c = '/' then some c
  else if c = 'b' then some (Char.ofNat 8)
  else if c = 'f' then some (Char.ofNat 12)
  else if c = 'n' then some (Char.ofNat 10)
  else if c = 'r' then some (Char.ofNat 13)
  else if c = 't' then some (Char.ofNat 9)
  else none

def hex4Value (a b c d : Char) : Option ℕ := do
  let a ← hexValue a
  let b ← hexValue b
  let c ← hexValue c
  let d ← hexValue d
  some (4096 * a + 256 * b + 16 * c + d)

/-- What stands after the opening quote of a string literal, up to the closing one at the end of the
text.  Surrogates, which Go does not escape, are not read. -/
def readBody : List Char → Option (List Char)
  | [] => none
  | c :: rest =>
    if c = quote then if rest = [] then some [] else none
    else if c = backslash then
      match rest with
      | 'u' :: a :: b :: c :: d :: rest => do
        let n ← hex4Value a b c d
        let s ← readBody rest
        some (Char.ofNat n :: s)
      | e :: rest => do
        let c ← escapeLetter e
        let s ← readBody rest
        some (c :: s)
      | [] => none
    else do
      let s ← readBody rest
      some (c :: s)

/-- The value of a string literal. -/
def readString : List Char → Option (List Char)
  | c :: rest => if c = quote then readBody rest else none
  | [] => none

lemma hexValue_digitChar : ∀ n < 16, hexValue (Nat.digitChar n) = some n := by decide

lemma hex4Value_hex4 {n : ℕ} (hn : n < 65536) :
    hex4Value (Nat.digitChar (n / 4096 % 16)) (Nat.digitChar (n / 256 % 16))
      (Nat.digitChar (n / 16 % 16)) (Nat.digitChar (n % 16)) = some n := by
  rw [hex4Value, hexValue_digitChar _ (Nat.mod_lt _ (by decide)),
    hexValue_digitChar _ (Nat.mod_lt _ (by decide)),
    hexValue_digitChar _ (Nat.mod_lt _ (by decide)),
    hexValue_digitChar _ (Nat.mod_lt _ (by decide))]
  refine congrArg some ?_
  omega

/-- The letter of a short escape stands for the character. -/
lemma escapeLetter_shortEscape {c letter : Char} (h : shortEscape c = some letter) :
    escapeLetter letter = some c ∧ letter ≠ 'u' := by
  have hc : ∀ n, c.toNat = n → c = Char.ofNat n := by
    rintro n rfl
    exact (Char.ofNat_toNat c).symm
  rw [shortEscape] at h
  split_ifs at h with h8 h12 h10 h13 h9 <;> obtain rfl := Option.some.inj h
  · exact ⟨by rw [hc _ h8]; decide, by decide⟩
  · exact ⟨by rw [hc _ h12]; decide, by decide⟩
  · exact ⟨by rw [hc _ h10]; decide, by decide⟩
  · exact ⟨by rw [hc _ h13]; decide, by decide⟩
  · exact ⟨by rw [hc _ h9]; decide, by decide⟩

lemma toNat_lt_of_escaped {c : Char} (h : escaped c = true) : c.toNat < 65536 := by
  simp only [escaped, Bool.or_eq_true, decide_eq_true_eq, beq_iff_eq] at h
  rcases h with ((((h | rfl) | rfl) | rfl) | h) | h
  · omega
  · decide
  · decide
  · decide
  · omega
  · omega

lemma readBody_plain {c : Char} (hquote : c ≠ quote) (hbackslash : c ≠ backslash)
    (rest : List Char) : readBody (c :: rest) = (readBody rest).map (c :: ·) := by
  rw [readBody.eq_def]
  simp only [if_neg hquote, if_neg hbackslash]
  cases readBody rest <;> rfl

lemma readBody_letter {e c : Char} (he : escapeLetter e = some c) (hu : e ≠ 'u')
    (rest : List Char) : readBody (backslash :: e :: rest) = (readBody rest).map (c :: ·) := by
  rw [readBody.eq_def]
  simp only [if_neg (show backslash ≠ quote by decide), if_true]
  split
  · next heq => exact absurd (List.cons.inj heq).1 hu
  · next heq =>
    obtain ⟨rfl, rfl⟩ := List.cons.inj heq
    rw [he]
    cases readBody rest <;> rfl
  · next heq => cases heq

lemma readBody_hex4 {n : ℕ} (hn : n < 65536) (rest : List Char) :
    readBody (backslash :: 'u' :: (hex4 n ++ rest)) =
      (readBody rest).map (Char.ofNat n :: ·) := by
  rw [readBody.eq_def]
  simp only [if_neg (show backslash ≠ quote by decide), if_true, hex4, List.cons_append,
    List.nil_append, hex4Value_hex4 hn]
  cases readBody rest <;> rfl

/-- An escaped character is read as itself. -/
lemma readBody_escapeChar (c : Char) (rest : List Char) :
    readBody (escapeChar c ++ rest) = (readBody rest).map (c :: ·) := by
  rw [escapeChar]
  split
  · next h =>
    have hletter : escapeLetter c = some c := by
      rcases h with rfl | rfl <;> decide
    have hu : c ≠ 'u' := by
      rcases h with rfl | rfl <;> decide
    exact readBody_letter hletter hu rest
  · next h =>
    obtain ⟨hquote, hbackslash⟩ := not_or.mp h
    split
    · next letter hshort =>
      obtain ⟨hletter, hu⟩ := escapeLetter_shortEscape hshort
      exact readBody_letter hletter hu rest
    · split
      · next hescaped =>
        have hread := readBody_hex4 (toNat_lt_of_escaped hescaped) rest
        rw [Char.ofNat_toNat] at hread
        exact hread
      · exact readBody_plain hquote hbackslash rest

/-- What Go writes for a string is read as the string. -/
lemma readString_marshalString (s : List Char) : readString (marshalString s) = some s := by
  change readBody (s.flatMap escapeChar ++ [quote]) = some s
  induction s with
  | nil => rfl
  | cons c s ih =>
    rw [List.flatMap_cons, List.append_assoc, readBody_escapeChar, ih]
    rfl

/-! ### Values -/

def marshalInt (n : ℤ) : List Char :=
  if n < 0 then '-' :: Nat.toDigits 10 n.natAbs else Nat.toDigits 10 n.natAbs

section Marshal

variable (formatFloat : ℚ → List Char)

mutual

/-- `json.Marshal`. -/
def marshal : Value → List Char
  | .int n => marshalInt n
  | .float x => formatFloat x
  | .str s => marshalString s
  | .arr items => Char.ofNat 91 :: [','].intercalate (marshalItems items) ++ [Char.ofNat 93]
  | .obj fields => Char.ofNat 123 :: [','].intercalate (marshalFields fields) ++ [Char.ofNat 125]

def marshalItems : List Value → List (List Char)
  | [] => []
  | v :: vs => marshal v :: marshalItems vs

def marshalFields : List (List Char × Value) → List (List Char)
  | [] => []
  | (key, v) :: fields => (marshalString key ++ ':' :: marshal v) :: marshalFields fields

end

end Marshal

/-! ### A value is written on one line -/

/-- No control character. -/
def OneLine (text : List Char) : Prop := ∀ c ∈ text, 32 ≤ c.toNat

lemma OneLine.append {s t : List Char} (hs : OneLine s) (ht : OneLine t) : OneLine (s ++ t) :=
  List.forall_mem_append.mpr ⟨hs, ht⟩

lemma OneLine.cons {c : Char} (hc : 32 ≤ c.toNat) {t : List Char} (ht : OneLine t) :
    OneLine (c :: t) := List.forall_mem_cons.mpr ⟨hc, ht⟩

lemma oneLine_nil : OneLine [] := fun c hc => by cases hc

lemma le_digitChar : ∀ n < 16, 32 ≤ (Nat.digitChar n).toNat := by decide

lemma oneLine_escapeChar (c : Char) : OneLine (escapeChar c) := by
  rw [escapeChar]
  split
  · next h =>
    refine OneLine.cons (by decide) (OneLine.cons ?_ oneLine_nil)
    rcases h with rfl | rfl <;> decide
  · split
    · next letter h =>
      refine OneLine.cons (by decide) (OneLine.cons ?_ oneLine_nil)
      rw [shortEscape] at h
      split_ifs at h <;> obtain rfl := Option.some.inj h <;> decide
    · split
      · refine OneLine.append (OneLine.cons (by decide) (OneLine.cons (by decide) oneLine_nil)) ?_
        intro d hd
        simp only [hex4, List.mem_cons, List.not_mem_nil, or_false] at hd
        rcases hd with rfl | rfl | rfl | rfl <;> exact le_digitChar _ (Nat.mod_lt _ (by decide))
      · next h =>
        refine OneLine.cons ?_ oneLine_nil
        simp only [escaped, Bool.or_eq_true, not_or, decide_eq_true_eq] at h
        exact Nat.le_of_not_lt h.1.1.1.1.1

lemma oneLine_marshalString (s : List Char) : OneLine (marshalString s) := by
  refine OneLine.cons (by decide) (OneLine.append ?_ (OneLine.cons (by decide) oneLine_nil))
  intro d hd
  obtain ⟨c, -, hd⟩ := List.mem_flatMap.mp hd
  exact oneLine_escapeChar c d hd

lemma oneLine_marshalInt (n : ℤ) : OneLine (marshalInt n) := by
  have hdigits : OneLine (Nat.toDigits 10 n.natAbs) := by
    intro c hc
    have := Strconv.toNat_of_isDigit (Strconv.isDigit_toDigits hc)
    omega
  rw [marshalInt]
  split
  · exact OneLine.cons (by decide) hdigits
  · exact hdigits

/-- The texts of the items of a list, with commas between them. -/
lemma oneLine_intercalate {texts : List (List Char)} (h : ∀ t ∈ texts, OneLine t) :
    OneLine ([','].intercalate texts) := by
  induction texts with
  | nil => exact oneLine_nil
  | cons t ts ih =>
    have hts := ih fun t' ht' => h t' (List.mem_cons_of_mem t ht')
    cases ts with
    | nil => simpa [List.intercalate] using h t List.mem_cons_self
    | cons t' ts =>
      have hcomma : OneLine [','] := OneLine.cons (by decide) oneLine_nil
      rw [List.intercalate_cons_cons]
      exact ((h t List.mem_cons_self).append hcomma).append hts

section

variable {formatFloat : ℚ → List Char}

mutual

lemma oneLine_marshal (hformat : ∀ x, OneLine (formatFloat x)) (v : Value) :
    OneLine (marshal formatFloat v) := by
  cases v with
  | int n => rw [marshal]; exact oneLine_marshalInt n
  | float x => rw [marshal]; exact hformat x
  | str s => rw [marshal]; exact oneLine_marshalString s
  | arr items =>
    rw [marshal]
    exact OneLine.cons (by decide) ((oneLine_intercalate
      (oneLine_marshalItems hformat items)).append (OneLine.cons (by decide) oneLine_nil))
  | obj fields =>
    rw [marshal]
    exact OneLine.cons (by decide) ((oneLine_intercalate
      (oneLine_marshalFields hformat fields)).append (OneLine.cons (by decide) oneLine_nil))

lemma oneLine_marshalItems (hformat : ∀ x, OneLine (formatFloat x)) (items : List Value) :
    ∀ t ∈ marshalItems formatFloat items, OneLine t := by
  cases items with
  | nil => intro t ht; cases ht
  | cons v vs =>
    rw [marshalItems]
    exact List.forall_mem_cons.mpr ⟨oneLine_marshal hformat v, oneLine_marshalItems hformat vs⟩

lemma oneLine_marshalFields (hformat : ∀ x, OneLine (formatFloat x))
    (fields : List (List Char × Value)) :
    ∀ t ∈ marshalFields formatFloat fields, OneLine t := by
  cases fields with
  | nil => intro t ht; cases ht
  | cons field fields =>
    obtain ⟨key, v⟩ := field
    rw [marshalFields]
    exact List.forall_mem_cons.mpr ⟨(oneLine_marshalString key).append
      (OneLine.cons (by decide) (oneLine_marshal hformat v)),
      oneLine_marshalFields hformat fields⟩

end

end

/-! ### Values of JavaScript -/

/-- What `JSON.parse` returns.  A number is the exact value of its double. -/
inductive JsValue where
  | null
  | bool (b : Bool)
  | num (x : ℚ)
  | str (s : JsString)
  | arr (items : List JsValue)
  | obj (fields : List (JsString × JsValue))

mutual

/-- The value that a text of Go denotes. -/
def Value.toJs : Value → JsValue
  | .int n => .num n
  | .float x => .num x
  | .str s => .str (utf16 s)
  | .arr items => .arr (toJsItems items)
  | .obj fields => .obj (toJsFields fields)

def toJsItems : List Value → List JsValue
  | [] => []
  | v :: vs => v.toJs :: toJsItems vs

def toJsFields : List (List Char × Value) → List (JsString × JsValue)
  | [] => []
  | (key, v) :: fields => (utf16 key, v.toJs) :: toJsFields fields

end

namespace JsValue

/-- `v.key`: `none` is `undefined`, and on `null` there is a `TypeError`. -/
def get (key : JsString) : JsValue → Except Unit (Option JsValue)
  | null => .error ()
  | obj fields => .ok ((fields.reverse.find? (·.1 == key)).map Prod.snd)
  | _ => .ok none

/-- The values that `||` passes on. -/
def truthy : JsValue → Bool
  | null => false
  | bool b => b
  | num x => x != 0
  | str s => s != []
  | arr _ => true
  | obj _ => true

/-- `v || d`, where `v` may be `undefined`. -/
def orElse (v : Option JsValue) (d : JsValue) : JsValue :=
  match v with
  | none => d
  | some v => if v.truthy then v else d

/-- `v === x`. -/
def isNum (x : ℚ) : Option JsValue → Bool
  | some (num y) => y == x
  | _ => false

/-- `v === s`. -/
def isStr (s : JsString) : Option JsValue → Bool
  | some (str t) => t == s
  | _ => false

end JsValue

end Lib.JsonText
