/-
The Guacamole text protocol (`internal/guacproxy/protocol.go`).

An element is written as the number of its runes, a dot and its bytes.  The reader takes the
length, then as many runes from the stream, and counts ill-formed bytes as the writer does: the
separator after an element is ASCII, so that it never belongs to a rune of the element.
-/
import OpsPlatform.Lib.Outcome
import OpsPlatform.Lib.Strconv
import OpsPlatform.Lib.Utf8

namespace OpsPlatform.GuacProxy

open Lib Lib.Utf8 Lib.Strconv

/-- `Instruction`. -/
structure Instruction where
  opcode : Bytes
  args : List Bytes
deriving DecidableEq

def dot : UInt8 := 46

def comma : UInt8 := 44

def semicolon : UInt8 := 59

/-! ### Writing -/

/-- `writeElem`. -/
def writeElem (s : Bytes) : Bytes := ascii (Nat.toDigits 10 (runes s).length) ++ dot :: s

/-- What `Encode` writes after the opcode. -/
def writeArgs (args : List Bytes) : Bytes :=
  args.flatMap (fun a => comma :: writeElem a) ++ [semicolon]

/-- `Encode`. -/
def Instruction.encode (ins : Instruction) : Bytes := writeElem ins.opcode ++ writeArgs ins.args

/-! ### Reading -/

inductive ReadError where
  | eof
  | invalidLength (lenStr : Bytes)
  | negativeLength (n : Int)
  | unexpectedSeparator (sep : Char)
deriving DecidableEq

/-- `r.ReadString`, without the delimiter. -/
def readString (delim : UInt8) : Bytes → Except ReadError (Bytes × Bytes)
  | [] => .error .eof
  | b :: s =>
    if b = delim then .ok ([], s)
    else do
      let (text, rest) ← readString delim s
      .ok (b :: text, rest)

/-- `r.ReadRune`. -/
def readRune (s : Bytes) : Except ReadError (Char × Bytes) :=
  if s = [] then .error .eof else .ok ((decodeRune s).1, s.drop (decodeRune s).2)

/-- The loop of `readElement`. -/
def readRunes : ℕ → Bytes → Except ReadError (List Char × Bytes)
  | 0, s => .ok ([], s)
  | n + 1, s => do
    let (c, s) ← readRune s
    let (cs, s) ← readRunes n s
    .ok (c :: cs, s)

/-- `readElement`: the value, the separator and what is left of the stream. -/
def readElement (s : Bytes) : Except ReadError (Bytes × Char × Bytes) := do
  let (lenStr, s) ← readString dot s
  match atoi (latin1 lenStr) with
  | none => .error (.invalidLength lenStr)
  | some n =>
    if n < 0 then .error (.negativeLength n)
    else do
      let (value, s) ← readRunes n.toNat s
      let (sep, s) ← readRune s
      .ok (Utf8.encode value, sep, s)

/-! ### What a read consumes -/

lemma readString_eq_ok {delim : UInt8} {s text rest : Bytes}
    (h : readString delim s = .ok (text, rest)) : s = text ++ delim :: rest ∧ delim ∉ text := by
  induction s generalizing text with
  | nil => cases h
  | cons b s ih =>
    rw [readString] at h
    split at h
    · next hb =>
      simp only [Except.ok.injEq, Prod.mk.injEq] at h
      obtain ⟨rfl, rfl⟩ := h
      rw [hb]
      exact ⟨rfl, List.not_mem_nil⟩
    · next hb =>
      rw [Except.bind_eq_ok] at h
      obtain ⟨⟨text', rest'⟩, hread, h⟩ := h
      simp only [Except.ok.injEq, Prod.mk.injEq] at h
      obtain ⟨rfl, rfl⟩ := h
      obtain ⟨rfl, hnot⟩ := ih hread
      refine ⟨rfl, ?_⟩
      rw [List.mem_cons, not_or]
      exact ⟨fun heq => hb heq.symm, hnot⟩

lemma readString_append {delim : UInt8} {text : Bytes} (h : delim ∉ text) (rest : Bytes) :
    readString delim (text ++ delim :: rest) = .ok (text, rest) := by
  induction text with
  | nil => simp [readString]
  | cons b text ih =>
    rw [List.mem_cons, not_or] at h
    rw [List.cons_append, readString, if_neg (Ne.symm h.1), ih h.2]
    rfl

lemma readRune_eq_ok {s rest : Bytes} {c : Char} (h : readRune s = .ok (c, rest)) :
    s ≠ [] ∧ c = (decodeRune s).1 ∧ rest = s.drop (decodeRune s).2 := by
  rw [readRune, Except.ite_error_eq_ok] at h
  obtain ⟨hne, h⟩ := h
  simp only [Except.ok.injEq, Prod.mk.injEq] at h
  exact ⟨hne, h.1.symm, h.2.symm⟩

lemma readElement_eq_ok {s value rest : Bytes} {sep : Char}
    (h : readElement s = .ok (value, sep, rest)) :
    ∃ lenStr s₁, ∃ n : ℕ, ∃ cs s₂, readString dot s = .ok (lenStr, s₁) ∧
      atoi (latin1 lenStr) = some (n : Int) ∧ readRunes n s₁ = .ok (cs, s₂) ∧
      value = Utf8.encode cs ∧ readRune s₂ = .ok (sep, rest) := by
  rw [readElement, Except.bind_eq_ok] at h
  obtain ⟨⟨lenStr, s₁⟩, hlen, h⟩ := h
  dsimp only at h
  split at h
  · cases h
  · next n hn =>
    rw [Except.ite_error_eq_ok, Except.bind_eq_ok] at h
    obtain ⟨hneg, ⟨cs, s₂⟩, hcs, h⟩ := h
    rw [Except.bind_eq_ok] at h
    obtain ⟨⟨sep', s₃⟩, hsep, h⟩ := h
    simp only [Except.ok.injEq, Prod.mk.injEq] at h
    obtain ⟨rfl, rfl, rfl⟩ := h
    refine ⟨lenStr, s₁, n.toNat, cs, s₂, hlen, ?_, hcs, rfl, hsep⟩
    rw [hn, Int.toNat_of_nonneg (Int.not_lt.mp hneg)]

lemma readElement_of_parts {s lenStr s₁ s₂ rest : Bytes} {n : ℕ} {cs : List Char} {sep : Char}
    (hlen : readString dot s = .ok (lenStr, s₁)) (hn : atoi (latin1 lenStr) = some (n : Int))
    (hcs : readRunes n s₁ = .ok (cs, s₂)) (hsep : readRune s₂ = .ok (sep, rest)) :
    readElement s = .ok (Utf8.encode cs, sep, rest) := by
  have hneg : ¬ (n : Int) < 0 := by omega
  simp only [readElement, bind, Except.bind, hlen, hn, if_neg hneg, Int.toNat_natCast, hcs, hsep]

/-- The first rune is read, and then the others. -/
lemma readRunes_succ_eq_ok {n : ℕ} {s rest : Bytes} {cs : List Char}
    (h : readRunes (n + 1) s = .ok (cs, rest)) :
    s ≠ [] ∧ ∃ cs', cs = (decodeRune s).1 :: cs' ∧
      readRunes n (s.drop (decodeRune s).2) = .ok (cs', rest) := by
  rw [readRunes, Except.bind_eq_ok] at h
  obtain ⟨⟨c, s₁⟩, hc, h⟩ := h
  rw [Except.bind_eq_ok] at h
  obtain ⟨⟨cs', s₂⟩, hcs, h⟩ := h
  simp only [Except.ok.injEq, Prod.mk.injEq] at h
  obtain ⟨rfl, rfl⟩ := h
  obtain ⟨hne, rfl, rfl⟩ := readRune_eq_ok hc
  exact ⟨hne, cs', rfl, hcs⟩

lemma length_readRunes_le {n : ℕ} {s rest : Bytes} {cs : List Char}
    (h : readRunes n s = .ok (cs, rest)) : rest.length ≤ s.length := by
  induction n generalizing s cs with
  | zero =>
    simp only [readRunes, Except.ok.injEq, Prod.mk.injEq] at h
    exact Nat.le_of_eq (congrArg List.length h.2.symm)
  | succ n ih =>
    obtain ⟨-, cs', -, hcs⟩ := readRunes_succ_eq_ok h
    have hle := ih hcs
    rw [List.length_drop] at hle
    omega

lemma length_readElement_lt {s value rest : Bytes} {sep : Char}
    (h : readElement s = .ok (value, sep, rest)) : rest.length < s.length := by
  obtain ⟨lenStr, s₁, n, cs, s₂, hlen, -, hcs, -, hsep⟩ := readElement_eq_ok h
  obtain ⟨rfl, -⟩ := readString_eq_ok hlen
  obtain ⟨-, -, rfl⟩ := readRune_eq_ok hsep
  have hle := length_readRunes_le hcs
  simp only [List.length_drop, List.length_append, List.length_cons]
  omega

/-- The value of an element is the opcode of a new instruction, or one more argument. -/
def Instruction.push (ins : Option Instruction) (value : Bytes) : Instruction :=
  match ins with
  | none => ⟨value, []⟩
  | some ins => { ins with args := ins.args ++ [value] }

/-- The loop of `ReadInstruction`; there is no instruction before the first element. -/
def readLoop (ins : Option Instruction) (s : Bytes) : Except ReadError (Instruction × Bytes) :=
  match _h : readElement s with
  | .error e => .error e
  | .ok (value, sep, rest) =>
    -- the instruction ends here
    if sep = ';' then .ok (Instruction.push ins value, rest)
    else if sep ≠ ',' then .error (.unexpectedSeparator sep)
    else readLoop (some (Instruction.push ins value)) rest
termination_by s.length
decreasing_by exact length_readElement_lt _h

/-- `ReadInstruction`. -/
def readInstruction (s : Bytes) : Except ReadError (Instruction × Bytes) := readLoop none s

/-! ### Spellings -/

/-- An element as it stands in a stream. -/
structure Element where
  lenStr : Bytes
  value : Bytes

def Element.bytes (e : Element) : Bytes := e.lenStr ++ dot :: e.value

/-- The text before the first dot is some spelling of the number of runes. -/
def Element.Accepted (e : Element) : Prop :=
  dot ∉ e.lenStr ∧ atoi (latin1 e.lenStr) = some ((runes e.value).length : Int)

/-- The rest of an instruction as it stands in a stream. -/
def argBytes (args : List Element) : Bytes :=
  args.flatMap (fun e => comma :: e.bytes) ++ [semicolon]

/-- The bytes start with an ASCII byte. -/
def StartsAscii (s : Bytes) : Prop := ∃ a rest, s = a :: rest ∧ a.toNat < 128

lemma startsAscii_argBytes (args : List Element) (rest : Bytes) :
    StartsAscii (argBytes args ++ rest) := by
  rcases args with _ | ⟨e, args⟩
  · exact ⟨semicolon, rest, rfl, by decide⟩
  · exact ⟨comma, e.bytes ++ argBytes args ++ rest, by simp [argBytes], by decide⟩

/-- The value of an element, as it is read, with U+FFFD in the place of each ill-formed byte. -/
lemma readRunes_runes {rest : Bytes} (h : StartsAscii rest) (v : Bytes) :
    readRunes (runes v).length (v ++ rest) = .ok (runes v, rest) := by
  obtain ⟨a, rest, rfl, ha⟩ := h
  fun_induction runes v with
  | case1 => rfl
  | case2 v h ih =>
    have hsize := decodeRune_size h
    have hread : readRune (v ++ a :: rest) =
        .ok ((decodeRune v).1, v.drop (decodeRune v).2 ++ a :: rest) := by
      rw [readRune, if_neg (by simp), decodeRune_append_ascii h ha,
        List.drop_append_of_le_length hsize.2]
    simp only [List.length_cons, readRunes, hread, bind, Except.bind, ih]

lemma readRune_encode (c : Char) (rest : Bytes) :
    readRune (String.utf8EncodeChar c ++ rest) = .ok (c, rest) := by
  rw [readRune, if_neg (by simp [String.utf8EncodeChar_ne_nil]), decodeRune_append,
    List.drop_left' (String.length_utf8EncodeChar c)]

lemma encode_semicolon : String.utf8EncodeChar ';' = [semicolon] := rfl

lemma encode_comma : String.utf8EncodeChar ',' = [comma] := rfl

/-- An element is read from any spelling of it; `sep` is an ASCII separator. -/
lemma readElement_bytes {e : Element} (h : e.Accepted) {sep : Char} {a : UInt8}
    (hsep : String.utf8EncodeChar sep = [a]) (ha : a.toNat < 128) (rest : Bytes) :
    readElement (e.bytes ++ a :: rest) = .ok (Utf8.toValid e.value, sep, rest) := by
  have hrune : readRune (a :: rest) = .ok (sep, rest) := by
    have hencode := readRune_encode sep rest
    rw [hsep] at hencode
    exact hencode
  have hsplit : e.bytes ++ a :: rest = e.lenStr ++ dot :: (e.value ++ a :: rest) := by
    simp [Element.bytes]
  rw [hsplit]
  exact readElement_of_parts (readString_append h.1 _) h.2
    (readRunes_runes ⟨a, rest, rfl, ha⟩ e.value) hrune

lemma readLoop_of_readElement {ins : Option Instruction} {s value rest : Bytes} {sep : Char}
    (h : readElement s = .ok (value, sep, rest)) :
    readLoop ins s =
      if sep = ';' then .ok (Instruction.push ins value, rest)
      else if sep ≠ ',' then .error (.unexpectedSeparator sep)
      else readLoop (some (Instruction.push ins value)) rest := by
  rw [readLoop]
  split
  · next heq =>
    rw [h] at heq
    cases heq
  · next heq =>
    rw [h] at heq
    cases heq
    rfl

/-- The instruction with further arguments. -/
def Instruction.pushAll (ins : Instruction) (values : List Bytes) : Instruction :=
  { ins with args := ins.args ++ values }

/-- The loop reads an element and the arguments after it. -/
lemma readLoop_bytes {e : Element} {args : List Element} (he : e.Accepted)
    (hargs : ∀ a ∈ args, a.Accepted) (ins : Option Instruction) (rest : Bytes) :
    readLoop ins (e.bytes ++ (argBytes args ++ rest)) =
      .ok ((Instruction.push ins (Utf8.toValid e.value)).pushAll
        (args.map fun a => Utf8.toValid a.value), rest) := by
  induction args generalizing e ins with
  | nil =>
    have hread := readElement_bytes he encode_semicolon (by decide) rest
    have hnil : argBytes [] ++ rest = semicolon :: rest := rfl
    rw [hnil, readLoop_of_readElement hread, if_pos rfl]
    simp [Instruction.pushAll]
  | cons a args ih =>
    have hsplit : argBytes (a :: args) ++ rest = comma :: (a.bytes ++ (argBytes args ++ rest)) := by
      simp [argBytes]
    have hread := readElement_bytes he encode_comma (by decide)
      (a.bytes ++ (argBytes args ++ rest))
    rw [hsplit, readLoop_of_readElement hread, if_neg (by decide), if_neg (by simp),
      ih (hargs a List.mem_cons_self) fun b hb => hargs b (List.mem_cons_of_mem _ hb)]
    simp [Instruction.pushAll, Instruction.push]

/-! ### Reading what was written -/

/-- The instruction with U+FFFD in the place of each ill-formed byte. -/
def Instruction.toValid (ins : Instruction) : Instruction :=
  ⟨Utf8.toValid ins.opcode, ins.args.map Utf8.toValid⟩

/-- All strings of the instruction are valid UTF-8. -/
def Instruction.Valid (ins : Instruction) : Prop := ∀ s ∈ ins.opcode :: ins.args, Utf8.Valid s

/-- All strings of the instruction have a length that fits in `int`, as every string in Go
has. -/
def Instruction.Fits (ins : Instruction) : Prop := ∀ s ∈ ins.opcode :: ins.args, s.length < 2 ^ 63

/-- The spelling that `writeElem` writes. -/
def Element.written (s : Bytes) : Element := ⟨ascii (Nat.toDigits 10 (runes s).length), s⟩

lemma not_mem_ascii_toDigits (n : ℕ) : dot ∉ ascii (Nat.toDigits 10 n) := by
  intro h
  obtain ⟨c, hc, heq⟩ := List.mem_map.mp h
  have hrange := toNat_of_isDigit (isDigit_toDigits hc)
  have hnat := congrArg UInt8.toNat heq
  rw [UInt8.toNat_ofNat', Nat.mod_eq_of_lt (by omega)] at hnat
  have hdot : dot.toNat = 46 := rfl
  omega

lemma latin1_toDigits (n : ℕ) : latin1 (ascii (Nat.toDigits 10 n)) = Nat.toDigits 10 n := by
  refine latin1_ascii fun c hc => ?_
  have hrange := toNat_of_isDigit (isDigit_toDigits hc)
  omega

lemma accepted_written {s : Bytes} (h : s.length < 2 ^ 63) : (Element.written s).Accepted := by
  refine ⟨not_mem_ascii_toDigits _, ?_⟩
  rw [Element.written, latin1_toDigits, atoi_toDigits (Nat.lt_of_le_of_lt (length_runes_le s) h)]

lemma writeArgs_eq (args : List Bytes) : writeArgs args = argBytes (args.map Element.written) := by
  rw [writeArgs, argBytes, List.flatMap_map]
  rfl

/-- One instruction is read back from its encoding, and nothing after it. -/
lemma readInstruction_encode {ins : Instruction} (h : ins.Fits) (rest : Bytes) :
    readInstruction (ins.encode ++ rest) = .ok (ins.toValid, rest) := by
  have hargs : ∀ e ∈ ins.args.map Element.written, e.Accepted := by
    intro e he
    obtain ⟨a, ha, rfl⟩ := List.mem_map.mp he
    exact accepted_written (h a (List.mem_cons_of_mem _ ha))
  have hread := readLoop_bytes (accepted_written (h _ List.mem_cons_self)) hargs none rest
  rw [← writeArgs_eq, List.map_map, ← List.append_assoc] at hread
  exact hread

lemma Instruction.toValid_of_valid {ins : Instruction} (h : ins.Valid) : ins.toValid = ins := by
  have hargs : ins.args.map Utf8.toValid = ins.args := by
    conv_rhs => rw [← List.map_id ins.args]
    exact List.map_congr_left fun a ha => Utf8.toValid_of_valid (h a (List.mem_cons_of_mem _ ha))
  rw [Instruction.toValid, hargs, Utf8.toValid_of_valid (h _ List.mem_cons_self)]

/-! ### Streams -/

/-- `ReadInstruction` called `n` times: the instructions, each with the bytes that its call has
consumed, and what is left of the stream. -/
def readMany : ℕ → Bytes → Except ReadError (List (Instruction × Bytes) × Bytes)
  | 0, s => .ok ([], s)
  | n + 1, s => do
    let (ins, rest) ← readInstruction s
    let (later, unread) ← readMany n rest
    .ok ((ins, s.take (s.length - rest.length)) :: later, unread)

lemma readMany_flatMap_encode (inss : List Instruction) (trailing : Bytes)
    (hfits : ∀ ins ∈ inss, ins.Fits) :
    readMany inss.length (inss.flatMap Instruction.encode ++ trailing) =
      .ok (inss.map fun ins => (ins.toValid, ins.encode), trailing) := by
  induction inss with
  | nil => rfl
  | cons ins inss ih =>
    rw [List.flatMap_cons, List.append_assoc, List.length_cons, readMany,
      readInstruction_encode (hfits ins List.mem_cons_self)]
    show (readMany _ _ >>= _) = _
    rw [ih fun ins' h => hfits ins' (List.mem_cons_of_mem _ h)]
    have hconsumed : (ins.encode ++ (inss.flatMap Instruction.encode ++ trailing)).take
        ((ins.encode ++ (inss.flatMap Instruction.encode ++ trailing)).length -
          (inss.flatMap Instruction.encode ++ trailing).length) = ins.encode := by
      rw [List.length_append, Nat.add_sub_cancel, List.take_left]
    show Except.ok _ = Except.ok _
    rw [hconsumed]
    rfl

/-- **The codec round trip on streams.**  From the encodings of any instructions, followed by any
bytes, as many calls of `ReadInstruction` give the instructions back, with U+FFFD for each
ill-formed byte; each call consumes the encoding of its instruction, and the bytes after the last
one stay unread.  Instructions of valid strings come back as they were. -/
theorem readMany_encode (inss : List Instruction) (trailing : Bytes)
    (hfits : ∀ ins ∈ inss, ins.Fits) :
    readMany inss.length (inss.flatMap Instruction.encode ++ trailing) =
        .ok (inss.map fun ins => (ins.toValid, ins.encode), trailing) ∧
      ∀ ins ∈ inss, ins.Valid → ins.toValid = ins :=
  ⟨readMany_flatMap_encode inss trailing hfits, fun _ _ => Instruction.toValid_of_valid⟩

/-- `error` with an argument of one ill-formed byte. -/
def illFormedError : Instruction := ⟨ascii "error".toList, [[0xFF]]⟩

theorem readMany_illFormedError :
    readMany 1 (illFormedError.encode ++ ascii "4.s".toList) =
      .ok ([(illFormedError.toValid, illFormedError.encode)], ascii "4.s".toList) := by
  have hfits : ∀ ins ∈ [illFormedError], ins.Fits := by
    intro ins hins s hs
    obtain rfl := List.mem_singleton.mp hins
    rcases List.mem_cons.mp hs with rfl | hs
    · decide
    · obtain rfl := List.mem_singleton.mp hs
      decide
  have hround := (readMany_encode [illFormedError] (ascii "4.s".toList) hfits).1
  simpa using hround

end OpsPlatform.GuacProxy
