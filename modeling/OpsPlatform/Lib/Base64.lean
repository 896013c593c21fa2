/-
`base64.RawURLEncoding` of Go's `encoding/base64`: the URL-safe alphabet without padding.

The decoder is lenient: it skips line breaks and does not look at the bits that the last digit has
in excess.  What the encoder writes has neither, and is read back.
-/
import OpsPlatform.Lib.Utf8

namespace Lib.Base64

open Utf8 (Bytes)

/-! ### Digits -/

/-- The digit with the value. -/
def digit (n : ℕ) : UInt8 :=
  UInt8.ofNat (if n < 26 then n + 65 else if n < 52 then n + 71 else if n < 62 then n - 4
    else if n = 62 then 45 else 95)

/-- The value of a digit. -/
def value (b : UInt8) : Option ℕ :=
  let n := b.toNat
  if 65 ≤ n ∧ n ≤ 90 then some (n - 65)
  else if 97 ≤ n ∧ n ≤ 122 then some (n - 71)
  else if 48 ≤ n ∧ n ≤ 57 then some (n + 4)
  else if n = 45 then some 62
  else if n = 95 then some 63
  else none

/-- The bytes that the decoder skips. -/
def isLineBreak (b : UInt8) : Bool := b == 10 || b == 13

lemma value_digit {n : ℕ} (h : n < 64) : value (digit n) = some n := by
  have hall : ∀ i : Fin 64, value (digit i) = some i.val := by decide
  exact hall ⟨n, h⟩

lemma isLineBreak_eq_false {b : UInt8} {n : ℕ} (h : value b = some n) : isLineBreak b = false := by
  rw [Bool.eq_false_iff, isLineBreak, Ne, Bool.or_eq_true, beq_iff_eq, beq_iff_eq]
  rintro (rfl | rfl) <;> cases h

/-! ### Encoding -/

/-- `EncodeToString`. -/
def encode : Bytes → Bytes
  | [] => []
  | [a] => [digit (a.toNat / 4), digit (a.toNat % 4 * 16)]
  | [a, b] =>
    [digit (a.toNat / 4), digit (a.toNat % 4 * 16 + b.toNat / 16), digit (b.toNat % 16 * 4)]
  | a :: b :: c :: rest =>
    digit (a.toNat / 4) :: digit (a.toNat % 4 * 16 + b.toNat / 16) ::
      digit (b.toNat % 16 * 4 + c.toNat / 64) :: digit (c.toNat % 64) :: encode rest

/-- The bytes of the values of digits. -/
def ofValues : List ℕ → Option Bytes
  | [] => some []
  | [_] => none
  | [v, w] => some [UInt8.ofNat (v * 4 + w / 16)]
  | [v, w, x] => some [UInt8.ofNat (v * 4 + w / 16), UInt8.ofNat (w % 16 * 16 + x / 4)]
  | v :: w :: x :: y :: rest =>
    (ofValues rest).map fun bytes =>
      UInt8.ofNat (v * 4 + w / 16) :: UInt8.ofNat (w % 16 * 16 + x / 4) ::
        UInt8.ofNat (x % 4 * 64 + y) :: bytes

/-- `DecodeString`. -/
def decode (s : Bytes) : Option Bytes :=
  ((s.filter fun b => !isLineBreak b).mapM value).bind ofValues

/-! ### The round trip -/

/-- What the encoder writes are digits. -/
lemma exists_value_of_mem_encode (s : Bytes) : ∀ b ∈ encode s, ∃ n, value b = some n := by
  have hdigit : ∀ n < 64, ∃ v, value (digit n) = some v := fun n h => ⟨n, value_digit h⟩
  induction s using encode.induct with
  | case1 => exact fun b hb => absurd hb List.not_mem_nil
  | case2 a =>
    have ha := a.toNat_lt
    intro b hb
    simp only [encode, List.mem_cons, List.not_mem_nil, or_false] at hb
    rcases hb with rfl | rfl <;> exact hdigit _ (by omega)
  | case3 a b =>
    have ha := a.toNat_lt
    have hb := b.toNat_lt
    intro c hc
    simp only [encode, List.mem_cons, List.not_mem_nil, or_false] at hc
    rcases hc with rfl | rfl | rfl <;> exact hdigit _ (by omega)
  | case4 a b c rest ih =>
    have ha := a.toNat_lt
    have hb := b.toNat_lt
    have hc := c.toNat_lt
    intro d hd
    simp only [encode, List.mem_cons] at hd
    rcases hd with rfl | rfl | rfl | rfl | hd
    · exact hdigit _ (by omega)
    · exact hdigit _ (by omega)
    · exact hdigit _ (by omega)
    · exact hdigit _ (by omega)
    · exact ih d hd

/-- A byte that is no digit is not in what the encoder writes. -/
lemma not_mem_encode {b : UInt8} (h : value b = none) (s : Bytes) : b ∉ encode s := by
  intro hb
  obtain ⟨n, hn⟩ := exists_value_of_mem_encode s b hb
  rw [h] at hn
  cases hn

lemma ofNat_eq {b : UInt8} {n : ℕ} (h : n = b.toNat) : UInt8.ofNat n = b := by
  rw [h, UInt8.ofNat_toNat]

lemma bind_mapM_encode (s : Bytes) : ((encode s).mapM value).bind ofValues = some s := by
  induction s using encode.induct with
  | case1 => rfl
  | case2 a =>
    have ha := a.toNat_lt
    simp only [encode, List.mapM_cons, List.mapM_nil, value_digit (by omega : a.toNat / 4 < 64),
      value_digit (by omega : a.toNat % 4 * 16 < 64)]
    exact congrArg (fun b => some [b]) (ofNat_eq (by omega))
  | case3 a b =>
    have ha := a.toNat_lt
    have hb := b.toNat_lt
    simp only [encode, List.mapM_cons, List.mapM_nil, value_digit (by omega : a.toNat / 4 < 64),
      value_digit (by omega : a.toNat % 4 * 16 + b.toNat / 16 < 64),
      value_digit (by omega : b.toNat % 16 * 4 < 64)]
    exact congrArg₂ (fun a b => some [a, b]) (ofNat_eq (by omega)) (ofNat_eq (by omega))
  -- three bytes are four digits, from which each byte is put together again
  | case4 a b c rest ih =>
    have ha := a.toNat_lt
    have hb := b.toNat_lt
    have hc := c.toNat_lt
    obtain ⟨values, hvalues, hrest⟩ := Option.bind_eq_some_iff.mp ih
    simp only [encode, List.mapM_cons, value_digit (by omega : a.toNat / 4 < 64),
      value_digit (by omega : a.toNat % 4 * 16 + b.toNat / 16 < 64),
      value_digit (by omega : b.toNat % 16 * 4 + c.toNat / 64 < 64),
      value_digit (by omega : c.toNat % 64 < 64), hvalues]
    have hfirst : UInt8.ofNat (a.toNat / 4 * 4 + (a.toNat % 4 * 16 + b.toNat / 16) / 16) = a :=
      ofNat_eq (by omega)
    have hsecond : UInt8.ofNat ((a.toNat % 4 * 16 + b.toNat / 16) % 16 * 16 +
        (b.toNat % 16 * 4 + c.toNat / 64) / 4) = b := ofNat_eq (by omega)
    have hthird : UInt8.ofNat ((b.toNat % 16 * 4 + c.toNat / 64) % 4 * 64 + c.toNat % 64) = c :=
      ofNat_eq (by omega)
    change ofValues (_ :: _ :: _ :: _ :: values) = some (a :: b :: c :: rest)
    rw [ofValues, hrest, Option.map_some, hfirst, hsecond, hthird]

/-- What is encoded is decoded. -/
@[simp] lemma decode_encode (s : Bytes) : decode (encode s) = some s := by
  have hkept : (encode s).filter (fun b => !isLineBreak b) = encode s := by
    rw [List.filter_eq_self]
    intro b hb
    obtain ⟨n, hn⟩ := exists_value_of_mem_encode s b hb
    rw [isLineBreak_eq_false hn, Bool.not_false]
  rw [decode, hkept, bind_mapM_encode]

end Lib.Base64
