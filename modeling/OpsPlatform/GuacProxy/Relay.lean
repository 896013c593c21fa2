/-
The pump from guacd to the browser (`bridge` in `internal/guacproxy/handler.go`) and the
recording of what it sends (`internal/guacproxy/recorder.go`).

The pump does not copy bytes.  It decodes an instruction and encodes it again, and what it sends
is what it has read exactly when every length was spelled as `Itoa` spells it and every value was
valid UTF-8.
-/
import OpsPlatform.GuacProxy.Protocol
import OpsPlatform.Lib.Run

namespace OpsPlatform.GuacProxy

open Lib Lib.Run Lib.Utf8 Lib.Strconv

/-- `Recorder`, with what its file holds. -/
structure Recorder where
  file : Bytes := []
  closed : Bool := false
  /-- 0 is no limit -/
  maxBytes : Int := 0
  written : Int := 0
  truncated : Bool := false

/-- `Write`; a recorder that is nil is `none`.  A file write that fails has stored some bytes
before, `failsAfter`. -/
def Recorder.write (r : Option Recorder) (payload : Bytes) (failsAfter : Option ℕ) :
    Option Recorder :=
  r.map fun r =>
    if payload.length = 0 then r
    else if r.closed = true ∨ r.truncated = true then r
    else if 0 < r.maxBytes ∧ r.maxBytes < r.written + payload.length then
      { r with truncated := true }
    else
      let stored := payload.take (failsAfter.getD payload.length)
      { r with file := r.file ++ stored, written := r.written + stored.length }

inductive PumpError where
  | read (e : ReadError)
  | send

/-- The state of the pump. -/
structure Pump where
  /-- what guacd sends and the pump has not read yet -/
  stream : Bytes
  sent : List Bytes := []
  recorder : Option Recorder := none
  outTotal : ℕ := 0
  ended : Option PumpError := none

/-- What meets one iteration of the pump: a file write and a `WriteMessage` may fail. -/
structure Iteration where
  failsAfter : Option ℕ := none
  sendFails : Bool := false

/-- One iteration of the pump. -/
def Pump.step (p : Pump) (it : Iteration) : Pump :=
  if p.ended.isSome then p
  else
    match readInstruction p.stream with
    | .error e => { p with ended := some (.read e) }
    | .ok (ins, rest) =>
      let payload := ins.encode
      let p := { p with
        stream := rest, outTotal := p.outTotal + payload.length
        recorder := Recorder.write p.recorder payload it.failsAfter }
      if it.sendFails then { p with ended := some .send }
      else { p with sent := p.sent ++ [payload] }

/-- The pump after `n` iterations in which nothing failed but perhaps a read, with a recorder
that has no limit. -/
def pumped (s : Bytes) (n : ℕ) : Pump :=
  run Pump.step { stream := s, recorder := some {} } (List.replicate n {})

/-- The bytes of the stream that have been read. -/
def consumed (s : Bytes) (n : ℕ) : Bytes := s.take (s.length - (pumped s n).stream.length)

/-- What was sent and what was recorded are the bytes that have been read. -/
def Identical (s : Bytes) (n : ℕ) : Prop :=
  (pumped s n).sent.flatten = consumed s n ∧
    ∃ r, (pumped s n).recorder = some r ∧ r.file = consumed s n

/-! ### Instructions as they stand in the stream -/

structure RawInstruction where
  opcode : Element
  args : List Element

namespace RawInstruction

variable (raw : RawInstruction)

def elements : List Element := raw.opcode :: raw.args

def bytes : Bytes := raw.opcode.bytes ++ argBytes raw.args

/-- What is read from it. -/
def toInstruction : Instruction :=
  ⟨Utf8.toValid raw.opcode.value, raw.args.map fun e => Utf8.toValid e.value⟩

end RawInstruction

/-- The length is spelled as `Itoa` spells it, and the value is valid UTF-8. -/
def Element.Canonical (e : Element) : Prop :=
  Strconv.Canonical (latin1 e.lenStr) ∧ Utf8.Valid e.value

/-- The stream begins with `n` instructions that are accepted, and `rest` follows. -/
structure Spells (raws : List RawInstruction) (n : ℕ) (s rest : Bytes) : Prop where
  length_eq : raws.length = n
  accepted : ∀ raw ∈ raws, ∀ e ∈ raw.elements, e.Accepted
  stream_eq : s = raws.flatMap RawInstruction.bytes ++ rest

/-! ### What the pump sends -/

section

variable {raw : RawInstruction} {raws : List RawInstruction} {s rest : Bytes} {n : ℕ}

lemma readInstruction_bytes (h : ∀ e ∈ raw.elements, e.Accepted) (rest : Bytes) :
    readInstruction (raw.bytes ++ rest) = .ok (raw.toInstruction, rest) := by
  rw [readInstruction, RawInstruction.bytes, List.append_assoc,
    readLoop_bytes (h _ List.mem_cons_self) fun e he => h e (List.mem_cons_of_mem _ he)]
  rfl

/-- The recorder takes all that it is given. -/
def Recorder.Open (r : Recorder) : Prop := r.closed = false ∧ r.truncated = false ∧ r.maxBytes = 0

lemma Recorder.write_of_open {r : Recorder} (h : r.Open) (payload : Bytes) :
    ∃ r', Recorder.write (some r) payload none = some r' ∧ r'.Open ∧
      r'.file = r.file ++ payload := by
  obtain ⟨hclosed, htruncated, hmax⟩ := h
  rw [Recorder.write, Option.map_some]
  split
  · next hempty =>
    refine ⟨r, rfl, ⟨hclosed, htruncated, hmax⟩, ?_⟩
    rw [List.length_eq_zero_iff.mp hempty, List.append_nil]
  · rw [if_neg (by simp [hclosed, htruncated]), if_neg (by simp [hmax])]
    refine ⟨_, rfl, ⟨hclosed, htruncated, hmax⟩, ?_⟩
    simp

lemma pump_step (h : ∀ e ∈ raw.elements, e.Accepted) {p : Pump} (hended : p.ended = none)
    (hstream : p.stream = raw.bytes ++ rest) {r : Recorder} (hr : p.recorder = some r)
    (hopen : r.Open) : ∃ r' : Recorder, r'.Open ∧
      r'.file = r.file ++ raw.toInstruction.encode ∧ (p.step {}).recorder = some r' ∧
      (p.step {}).stream = rest ∧ (p.step {}).ended = none ∧
      (p.step {}).sent = p.sent ++ [raw.toInstruction.encode] := by
  obtain ⟨r', hwrite, hopen', hfile⟩ := Recorder.write_of_open hopen raw.toInstruction.encode
  refine ⟨r', hopen', hfile, ?_⟩
  rw [Pump.step, hended, hstream, readInstruction_bytes h, hr]
  exact ⟨hwrite, rfl, rfl, rfl⟩

/-- The pump sends and records the encodings of the instructions that it has read. -/
lemma pump_run (h : ∀ raw ∈ raws, ∀ e ∈ raw.elements, e.Accepted) {p : Pump}
    (hended : p.ended = none) (hstream : p.stream = raws.flatMap RawInstruction.bytes ++ rest)
    {r : Recorder} (hr : p.recorder = some r) (hopen : r.Open) :
    ∃ p', run Pump.step p (List.replicate raws.length {}) = p' ∧ p'.stream = rest ∧
      p'.sent.flatten = p.sent.flatten ++ raws.flatMap (·.toInstruction.encode) ∧
      ∃ r', p'.recorder = some r' ∧
        r'.file = r.file ++ raws.flatMap (·.toInstruction.encode) := by
  induction raws generalizing p r with
  | nil => exact ⟨p, rfl, hstream, by simp, r, hr, by simp⟩
  | cons raw raws ih =>
    rw [List.flatMap_cons, List.append_assoc] at hstream
    obtain ⟨r₁, hopen₁, hfile₁, hr₁, hstream₁, hended₁, hsent₁⟩ :=
      pump_step (h raw List.mem_cons_self) hended hstream hr hopen
    obtain ⟨p', hrun, hrest, hsent, r', hr', hfile⟩ :=
      ih (fun raw' hraw' => h raw' (List.mem_cons_of_mem _ hraw')) hended₁ hstream₁ hr₁ hopen₁
    refine ⟨p', hrun, hrest, ?_, r', hr', ?_⟩
    · rw [hsent, hsent₁]
      simp
    · rw [hfile, hfile₁]
      simp

lemma pumped_of_spells (h : Spells raws n s rest) :
    consumed s n = raws.flatMap RawInstruction.bytes ∧
      (Identical s n ↔ raws.flatMap (·.toInstruction.encode) =
        raws.flatMap RawInstruction.bytes) := by
  obtain ⟨rfl, haccepted, rfl⟩ := h
  obtain ⟨p', hrun, hrest, hsent, r', hr', hfile⟩ := pump_run haccepted
    (p := { stream := raws.flatMap RawInstruction.bytes ++ rest, recorder := some {} })
    rfl rfl rfl ⟨rfl, rfl, rfl⟩
  have hconsumed : consumed (raws.flatMap RawInstruction.bytes ++ rest) raws.length =
      raws.flatMap RawInstruction.bytes := by
    rw [consumed, pumped, hrun, hrest, List.length_append, Nat.add_sub_cancel, List.take_left]
  refine ⟨hconsumed, ?_⟩
  rw [Identical, hconsumed, pumped, hrun, hsent, hr']
  simp [hfile]

/-! ### When an encoding is what was read -/

/-- What is written for an element is its spelling, if this is canonical. -/
lemma writeElem_of_canonical {e : Element} (haccepted : e.Accepted) (h : e.Canonical) :
    writeElem (Utf8.toValid e.value) = e.bytes := by
  have hlen := (canonical_iff haccepted.2).mp h.1
  rw [toValid_of_valid h.2, writeElem, ← hlen, ascii_latin1]
  rfl

/-- Conversely, in streams that go on with a separator. -/
lemma canonical_of_writeElem {e : Element} (haccepted : e.Accepted) {t t' : Bytes}
    (ht : StartsAscii t) (ht' : StartsAscii t')
    (h : writeElem (Utf8.toValid e.value) ++ t = e.bytes ++ t') : e.Canonical ∧ t = t' := by
  have hcount : runes (Utf8.toValid e.value) = runes e.value := runes_encode _
  -- the lengths end with the first dot
  have hlen : ascii (Nat.toDigits 10 (runes e.value).length) = e.lenStr ∧
      Utf8.toValid e.value ++ t = e.value ++ t' := by
    have hread := readString_append (not_mem_ascii_toDigits (runes e.value).length)
      (Utf8.toValid e.value ++ t)
    have hread' := readString_append haccepted.1 (e.value ++ t')
    rw [writeElem, Element.bytes, hcount, List.append_assoc, List.append_assoc, List.cons_append,
      List.cons_append] at h
    rw [h, hread'] at hread
    simp only [Except.ok.injEq, Prod.mk.injEq] at hread
    exact ⟨hread.1.symm, hread.2.symm⟩
  -- and the values with the last of their runes
  have ht : t = t' := by
    have hread := readRunes_runes ht (Utf8.toValid e.value)
    rw [hcount, hlen.2, readRunes_runes ht'] at hread
    simp only [Except.ok.injEq, Prod.mk.injEq] at hread
    exact hread.2.symm
  refine ⟨⟨?_, runes e.value, ?_⟩, ht⟩
  · rw [canonical_iff haccepted.2, ← hlen.1, latin1_toDigits]
  · rw [ht] at hlen
    exact (List.append_cancel_right hlen.2).symm

lemma canonical_of_writeArgs {es : List Element} (haccepted : ∀ e ∈ es, e.Accepted) {t t' : Bytes}
    (h : writeArgs (es.map fun e => Utf8.toValid e.value) ++ t = argBytes es ++ t') :
    (∀ e ∈ es, e.Canonical) ∧ t = t' := by
  induction es with
  | nil => exact ⟨by simp, List.cons.inj h |>.2⟩
  | cons e es ih =>
    have hsplit : writeArgs ((e :: es).map fun e => Utf8.toValid e.value) ++ t =
        comma :: (writeElem (Utf8.toValid e.value) ++
          (writeArgs (es.map fun e => Utf8.toValid e.value) ++ t)) := by
      simp [writeArgs]
    have hsplit' : argBytes (e :: es) ++ t' = comma :: (e.bytes ++ (argBytes es ++ t')) := by
      simp [argBytes]
    rw [hsplit, hsplit'] at h
    have hstarts := startsAscii_argBytes
      ((es.map fun e => Utf8.toValid e.value).map Element.written) t
    rw [← writeArgs_eq] at hstarts
    obtain ⟨hcanonical, hrest⟩ := canonical_of_writeElem (haccepted e List.mem_cons_self) hstarts
      (startsAscii_argBytes es t') (List.cons.inj h).2
    obtain ⟨hall, ht⟩ := ih (fun e' he' => haccepted e' (List.mem_cons_of_mem _ he')) hrest
    exact ⟨List.forall_mem_cons.mpr ⟨hcanonical, hall⟩, ht⟩

lemma canonical_of_encode (haccepted : ∀ e ∈ raw.elements, e.Accepted) {t t' : Bytes}
    (h : raw.toInstruction.encode ++ t = raw.bytes ++ t') :
    (∀ e ∈ raw.elements, e.Canonical) ∧ t = t' := by
  rw [Instruction.encode, RawInstruction.bytes, List.append_assoc, List.append_assoc] at h
  have hstarts := startsAscii_argBytes
    ((raw.args.map fun e => Utf8.toValid e.value).map Element.written) t
  rw [← writeArgs_eq] at hstarts
  obtain ⟨hcanonical, hrest⟩ := canonical_of_writeElem (haccepted _ List.mem_cons_self) hstarts
    (startsAscii_argBytes raw.args t') h
  obtain ⟨hall, ht⟩ := canonical_of_writeArgs
    (fun e he => haccepted e (List.mem_cons_of_mem _ he)) hrest
  exact ⟨List.forall_mem_cons.mpr ⟨hcanonical, hall⟩, ht⟩

lemma encode_of_canonical (haccepted : ∀ e ∈ raw.elements, e.Accepted)
    (h : ∀ e ∈ raw.elements, e.Canonical) : raw.toInstruction.encode = raw.bytes := by
  have hargs :
      (raw.args.map fun e => Utf8.toValid e.value).flatMap (fun a => comma :: writeElem a) =
        raw.args.flatMap fun e => comma :: e.bytes := by
    rw [List.flatMap_map]
    refine List.flatMap_congr fun e he => ?_
    rw [writeElem_of_canonical (haccepted e (List.mem_cons_of_mem _ he))
      (h e (List.mem_cons_of_mem _ he))]
  rw [Instruction.encode, RawInstruction.bytes, RawInstruction.toInstruction, writeArgs, argBytes,
    hargs, writeElem_of_canonical (haccepted _ List.mem_cons_self) (h _ List.mem_cons_self)]

/-- The encodings of what was read are the stream exactly when it was spelled canonically. -/
lemma encodes_iff_canonical (haccepted : ∀ raw ∈ raws, ∀ e ∈ raw.elements, e.Accepted) :
    raws.flatMap (·.toInstruction.encode) = raws.flatMap RawInstruction.bytes ↔
      ∀ raw ∈ raws, ∀ e ∈ raw.elements, e.Canonical := by
  induction raws with
  | nil => simp
  | cons raw raws ih =>
    have hih := ih fun raw' hraw' => haccepted raw' (List.mem_cons_of_mem _ hraw')
    have hraw := haccepted raw List.mem_cons_self
    rw [List.flatMap_cons, List.flatMap_cons, List.forall_mem_cons]
    constructor
    · intro h
      obtain ⟨hcanonical, hrest⟩ := canonical_of_encode hraw h
      exact ⟨hcanonical, hih.mp hrest⟩
    · rintro ⟨hcanonical, hall⟩
      rw [encode_of_canonical hraw hcanonical, hih.mpr hall]

/-! ### Every stream that is accepted -/

/-- The runes that were read are those of the bytes before the next ASCII byte. -/
lemma exists_of_readRunes {cs : List Char} {s₂ : Bytes} (h : readRunes n s = .ok (cs, s₂))
    (hs₂ : StartsAscii s₂) : ∃ v, s = v ++ s₂ ∧ runes v = cs ∧ cs.length = n := by
  induction n generalizing s cs with
  | zero =>
    simp only [readRunes, Except.ok.injEq, Prod.mk.injEq] at h
    obtain ⟨rfl, rfl⟩ := h
    exact ⟨[], rfl, runes_nil, rfl⟩
  | succ n ih =>
    rw [readRunes, Except.bind_eq_ok] at h
    obtain ⟨⟨c, s'⟩, hc, h⟩ := h
    rw [Except.bind_eq_ok] at h
    obtain ⟨⟨cs', s₃⟩, hcs, h⟩ := h
    simp only [Except.ok.injEq, Prod.mk.injEq] at h
    obtain ⟨rfl, rfl⟩ := h
    obtain ⟨hne, rfl, rfl⟩ := readRune_eq_ok hc
    obtain ⟨v, hv, rfl, hlen⟩ := ih hcs
    have hsize := decodeRune_size hne
    have htake : (s.take (decodeRune s).2).length = (decodeRune s).2 := by
      rw [List.length_take]
      omega
    have hstream : s = s.take (decodeRune s).2 ++ v ++ s₃ := by
      rw [List.append_assoc, ← hv, List.take_append_drop]
    have hnonempty : s.take (decodeRune s).2 ++ v ≠ [] := by
      intro hnil
      have hzero := congrArg List.length hnil
      rw [List.length_append, htake, List.length_nil] at hzero
      omega
    -- the separator does not change how the first rune is read
    have hdecode : decodeRune (s.take (decodeRune s).2 ++ v) = decodeRune s := by
      obtain ⟨a, t, rfl, ha⟩ := hs₂
      rw [← decodeRune_append_ascii hnonempty ha t, ← hstream]
    refine ⟨s.take (decodeRune s).2 ++ v, hstream, ?_, ?_⟩
    · rw [runes_of_ne_nil hnonempty, hdecode, List.drop_left' htake]
    · rw [List.length_cons, hlen]

lemma eq_of_readRune {sep : Char} {a : UInt8} (hsep : String.utf8EncodeChar sep = [a])
    (hne : sep ≠ runeError) (h : readRune s = .ok (sep, rest)) : s = a :: rest := by
  obtain ⟨hnil, hc, rfl⟩ := readRune_eq_ok h
  rw [decodeRune, if_neg hnil] at hc ⊢
  cases hd : decodeChar s with
  | none =>
    rw [hd] at hc
    exact absurd hc hne
  | some c =>
    rw [hd] at hc
    obtain rfl : sep = c := hc
    obtain ⟨t, rfl⟩ := decodeChar_eq_some_iff.mp hd
    have hsize : sep.utf8Size = 1 := by
      rw [← String.length_utf8EncodeChar, hsep]
      rfl
    rw [hsep]
    simp [hsize]

lemma exists_of_readElement {value : Bytes} {sep : Char} {a : UInt8}
    (hsep : String.utf8EncodeChar sep = [a]) (ha : a.toNat < 128) (hne : sep ≠ runeError)
    (h : readElement s = .ok (value, sep, rest)) :
    ∃ e : Element, e.Accepted ∧ s = e.bytes ++ a :: rest ∧ value = Utf8.toValid e.value := by
  obtain ⟨lenStr, s₁, n, cs, s₂, hlen, hn, hcs, rfl, hrune⟩ := readElement_eq_ok h
  obtain ⟨rfl, hdot⟩ := readString_eq_ok hlen
  obtain rfl := eq_of_readRune hsep hne hrune
  obtain ⟨v, rfl, rfl, hcount⟩ := exists_of_readRunes hcs ⟨a, rest, rfl, ha⟩
  refine ⟨⟨lenStr, v⟩, ⟨hdot, ?_⟩, ?_, rfl⟩
  · rw [hn, hcount]
  · simp [Element.bytes]

lemma exists_of_readLoop {ins : Option Instruction} {ins' : Instruction}
    (h : readLoop ins s = .ok (ins', rest)) : ∃ raw : RawInstruction,
      (∀ e ∈ raw.elements, e.Accepted) ∧ s = raw.bytes ++ rest := by
  fun_induction readLoop ins s with
  | case1 => cases h
  | case2 ins s value rest' hread =>
    simp only [Except.ok.injEq, Prod.mk.injEq] at h
    obtain ⟨-, rfl⟩ := h
    obtain ⟨e, he, rfl, -⟩ := exists_of_readElement encode_semicolon (by decide) (by decide) hread
    refine ⟨⟨e, []⟩, ?_, ?_⟩
    · intro e' he'
      obtain rfl := List.mem_singleton.mp he'
      exact he
    · simp [RawInstruction.bytes, argBytes]
  | case3 => cases h
  | case4 ins s value sep rest' hread hsemicolon hcomma ih =>
    obtain rfl : sep = ',' := not_not.mp hcomma
    obtain ⟨e, he, rfl, -⟩ := exists_of_readElement encode_comma (by decide) (by decide) hread
    obtain ⟨raw, hraw, rfl⟩ := ih h
    refine ⟨⟨e, raw.elements⟩, ?_, ?_⟩
    · intro e' he'
      rcases List.mem_cons.mp he' with rfl | he'
      · exact he
      · exact hraw e' he'
    · simp [RawInstruction.bytes, RawInstruction.elements, argBytes]

/-- A stream from which `n` instructions are read spells `n` instructions. -/
lemma exists_spells {reads : List (Instruction × Bytes)}
    (h : readMany n s = .ok (reads, rest)) : ∃ raws, Spells raws n s rest := by
  induction n generalizing s reads with
  | zero =>
    simp only [readMany, Except.ok.injEq, Prod.mk.injEq] at h
    obtain ⟨-, rfl⟩ := h
    exact ⟨[], rfl, by simp, rfl⟩
  | succ n ih =>
    rw [readMany, Except.bind_eq_ok] at h
    obtain ⟨⟨ins, s₁⟩, hins, h⟩ := h
    rw [Except.bind_eq_ok] at h
    obtain ⟨⟨later, unread⟩, hlater, h⟩ := h
    simp only [Except.ok.injEq, Prod.mk.injEq] at h
    obtain ⟨-, rfl⟩ := h
    obtain ⟨raw, hraw, rfl⟩ := exists_of_readLoop hins
    obtain ⟨raws, rfl, haccepted, rfl⟩ := ih hlater
    refine ⟨raw :: raws, rfl, List.forall_mem_cons.mpr ⟨hraw, haccepted⟩, ?_⟩
    rw [List.flatMap_cons, List.append_assoc]

/-- What is spelled is read. -/
lemma readMany_of_spells (h : Spells raws n s rest) :
    readMany n s = .ok (raws.map fun raw => (raw.toInstruction, raw.bytes), rest) := by
  obtain ⟨rfl, haccepted, rfl⟩ := h
  induction raws with
  | nil => rfl
  | cons raw raws ih =>
    have hraw := readInstruction_bytes (haccepted raw List.mem_cons_self)
      (raws.flatMap RawInstruction.bytes ++ rest)
    have hraws := ih fun raw' hraw' => haccepted raw' (List.mem_cons_of_mem _ hraw')
    rw [List.flatMap_cons, List.append_assoc, List.length_cons, readMany, hraw, Except.ok_bind]
    dsimp only
    rw [hraws, Except.ok_bind]
    simp

lemma identical_iff_of_spells (h : Spells raws n s rest) :
    Identical s n ↔ ∀ raw ∈ raws, ∀ e ∈ raw.elements, e.Canonical := by
  rw [(pumped_of_spells h).2, encodes_iff_canonical h.accepted]

end

/-- **The relay is not a copy.**  A stream from which `n` instructions are read spells `n`
instructions, and what the pump has sent and recorded of them is what it has read exactly when
every length is spelled as `Itoa` spells it and every value is valid UTF-8. -/
theorem relay_identical_iff {s rest : Bytes} {n : ℕ} {reads : List (Instruction × Bytes)}
    (h : readMany n s = .ok (reads, rest)) :
    (∃ raws, Spells raws n s rest) ∧ ∀ raws, Spells raws n s rest →
      (Identical s n ↔ ∀ raw ∈ raws, ∀ e ∈ raw.elements, e.Canonical) :=
  ⟨exists_spells h, fun _ hraws => identical_iff_of_spells hraws⟩

/-- An element as the texts spell it. -/
def spelled (lenStr value : String) : Element := ⟨ascii lenStr.toList, Utf8.encode value.toList⟩

lemma accepted_spelled {lenStr value : String} (hdot : dot ∉ ascii lenStr.toList)
    (hlen : atoi (latin1 (ascii lenStr.toList)) = some (value.toList.length : Int)) :
    (spelled lenStr value).Accepted := by
  refine ⟨hdot, ?_⟩
  show atoi (latin1 (ascii lenStr.toList)) = some ((runes (Utf8.encode value.toList)).length : Int)
  rw [hlen, runes_encode]

/-- Two instructions with arguments, one of which is not ASCII. -/
def sizeAndName : List RawInstruction :=
  [⟨spelled "4" "size", [spelled "4" "1024", spelled "3" "768"]⟩,
   ⟨spelled "4" "name", [spelled "4" "José", spelled "0" ""]⟩]

theorem relay_identical_iff_sizeAndName :
    Identical (Utf8.encode "4.size,4.1024,3.768;4.name,4.José,0.;4.sync".toList) 2 := by
  have hspells : Spells sizeAndName 2
      (Utf8.encode "4.size,4.1024,3.768;4.name,4.José,0.;4.sync".toList)
      (Utf8.encode "4.sync".toList) := by
    refine ⟨rfl, ?_, by decide⟩
    simp only [sizeAndName, RawInstruction.elements, List.forall_mem_cons, List.not_mem_nil,
      IsEmpty.forall_iff, implies_true, and_true]
    exact ⟨⟨accepted_spelled (by decide) (by decide), accepted_spelled (by decide) (by decide),
      accepted_spelled (by decide) (by decide)⟩, accepted_spelled (by decide) (by decide),
      accepted_spelled (by decide) (by decide), accepted_spelled (by decide) (by decide)⟩
  refine ((relay_identical_iff (readMany_of_spells hspells)).2 _ hspells).mpr ?_
  simp only [sizeAndName, RawInstruction.elements, List.forall_mem_cons, List.not_mem_nil,
    IsEmpty.forall_iff, implies_true, and_true]
  exact ⟨⟨⟨by decide, _, rfl⟩, ⟨by decide, _, rfl⟩, ⟨by decide, _, rfl⟩⟩, ⟨by decide, _, rfl⟩,
    ⟨by decide, _, rfl⟩, ⟨by decide, _, rfl⟩⟩

/-- The instruction `abc` without arguments, its length spelled by the text. -/
def abcSpelled (lenStr : String) : RawInstruction := ⟨spelled lenStr "abc", []⟩

lemma spells_abc {lenStr : String} (hdot : dot ∉ ascii lenStr.toList)
    (hlen : atoi (latin1 (ascii lenStr.toList)) = some 3) :
    Spells [abcSpelled lenStr] 1 (abcSpelled lenStr).bytes [] := by
  refine ⟨rfl, ?_, by simp⟩
  intro raw hraw e he
  obtain rfl := List.mem_singleton.mp hraw
  obtain rfl := List.mem_singleton.mp he
  exact accepted_spelled hdot hlen

/-- `03.abc;` is accepted, and `3.abc;` is sent. -/
theorem relay_respells_length :
    Spells [abcSpelled "03"] 1 (ascii "03.abc;".toList) [] ∧
      ¬ Identical (ascii "03.abc;".toList) 1 := by
  have hbytes : (abcSpelled "03").bytes = ascii "03.abc;".toList := by decide
  have hspells : Spells [abcSpelled "03"] 1 (abcSpelled "03").bytes [] :=
    spells_abc (by decide) (by decide)
  rw [hbytes] at hspells
  refine ⟨hspells, ?_⟩
  rw [identical_iff_of_spells hspells]
  intro hcanonical
  have hlen := (hcanonical _ List.mem_cons_self _ List.mem_cons_self).1
  revert hlen
  decide

end OpsPlatform.GuacProxy
