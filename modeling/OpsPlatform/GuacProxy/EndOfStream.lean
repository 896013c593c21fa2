/-
How a session with guacd ends (`ReadInstruction` and `readElement` in
`internal/guacproxy/protocol.go`, `isClosedErr` and `ServeWS` in `handler.go`).

`readElement` hands on the `io.EOF` of every read, whether the stream ends before an element or
inside one.  `isClosedErr` takes it for a clean close, so that the browser is told nothing of a
session that was cut off.
-/
import OpsPlatform.GuacProxy.Bridge
import OpsPlatform.GuacProxy.Relay

namespace OpsPlatform.GuacProxy

open Lib Lib.Run Lib.Utf8 Lib.Strconv

/-! ### The end of a stream -/

/-- The bytes end before an element and its separator do: in the length, or after fewer runes
than the length says, or before the separator. -/
def CutElement (t : Bytes) : Prop :=
  dot ∉ t ∨ ∃ lenStr v, ∃ n : ℕ, t = lenStr ++ dot :: v ∧ dot ∉ lenStr ∧
    atoi (latin1 lenStr) = some (n : Int) ∧ (runes v).length ≤ n

/-- After whole elements, each with a comma, the stream ends before the next element does. -/
def EndsInElement (s : Bytes) : Prop :=
  ∃ (whole : List Element) (t : Bytes), (∀ e ∈ whole, e.Accepted) ∧
    s = whole.flatMap (fun e => e.bytes ++ [comma]) ++ t ∧ CutElement t

/-- The bytes of the stream run out inside an instruction. -/
def RunsOut (s : Bytes) : Prop := s ≠ [] ∧ EndsInElement s

/-- The stream is the beginning of an instruction without its end. -/
def Truncated (s : Bytes) : Prop :=
  s ≠ [] ∧ ∃ raw : RawInstruction, (∀ e ∈ raw.elements, e.Accepted) ∧
    ∃ more, more ≠ [] ∧ raw.bytes = s ++ more

/-- The error of a read under its text; only `io.EOF` itself wraps `io.EOF`. -/
def ReadError.bridgeErr (e : ReadError) (message : String) : Bridge.BridgeErr :=
  { message, isEOF := e = .eof }

/-- When guacd's end of the session fails first, the browser is sent an error instruction. -/
def Reported (e : ReadError) : Prop :=
  ∀ (message : String) (b : Bridge.State), b.phase .pump = .waiting → b.phase .main = .waiting →
    b.errCh = [] → (run Bridge.step b
      [.guacdFails (e.bridgeErr message), .bridgeReturns]).phase .main = .holding (.error message)

/-- `io.EOF` is the end between two instructions, and a session that was cut off is reported. -/
structure EndsCleanly (s : Bytes) : Prop where
  eof_iff : readInstruction s = .error .eof ↔ s = []
  truncated : Truncated s → ∃ e, readInstruction s = .error e ∧
    (∀ message, Bridge.isClosedErr (e.bridgeErr message) = false) ∧ Reported e

/-! ### Where each read meets the end -/

lemma readString_eq_error_iff {delim : UInt8} {s : Bytes} {e : ReadError} :
    readString delim s = .error e ↔ e = .eof ∧ delim ∉ s := by
  induction s with
  | nil => simp [readString, eq_comm]
  | cons b s ih =>
    rw [readString]
    split
    · next hb => simp [hb]
    · next hb =>
      cases hs : readString delim s with
      | error e' =>
        rw [hs] at ih
        simpa [bind, Except.bind, Ne.symm hb] using ih
      | ok p =>
        rw [hs] at ih
        have hmem : ¬ (e = .eof ∧ delim ∉ s) := fun h => by cases ih.mpr h
        simpa [bind, Except.bind, Ne.symm hb] using hmem

lemma readRune_eq_error_iff {s : Bytes} {e : ReadError} :
    readRune s = .error e ↔ e = .eof ∧ s = [] := by
  rw [readRune]
  split
  · next hs => simp [hs, eq_comm]
  · next hs => simp [hs]

/-- The runes that were read are the first ones of the stream. -/
lemma runes_of_readRunes {n : ℕ} {s rest : Bytes} {cs : List Char}
    (h : readRunes n s = .ok (cs, rest)) : runes s = cs ++ runes rest ∧ cs.length = n := by
  induction n generalizing s cs with
  | zero =>
    simp only [readRunes, Except.ok.injEq, Prod.mk.injEq] at h
    obtain ⟨rfl, rfl⟩ := h
    exact ⟨rfl, rfl⟩
  | succ n ih =>
    obtain ⟨hne, cs', rfl, hcs⟩ := readRunes_succ_eq_ok h
    obtain ⟨hrunes, hlen⟩ := ih hcs
    rw [runes_of_ne_nil hne, hrunes, List.length_cons, hlen]
    exact ⟨rfl, rfl⟩

lemma readRunes_eq_error_iff {n : ℕ} {s : Bytes} {e : ReadError} :
    readRunes n s = .error e ↔ e = .eof ∧ (runes s).length < n := by
  induction n generalizing s with
  | zero => simp [readRunes]
  | succ n ih =>
    rw [readRunes]
    by_cases hs : s = []
    · simp [hs, readRune, bind, Except.bind, runes_nil, eq_comm]
    · have hrune : readRune s = .ok ((decodeRune s).1, s.drop (decodeRune s).2) := if_neg hs
      rw [hrune, runes_of_ne_nil hs, List.length_cons, Nat.add_lt_add_iff_right, ← ih]
      cases hrest : readRunes n (s.drop (decodeRune s).2) with
      | error e' => simp [bind, Except.bind, hrest]
      | ok p => simp [bind, Except.bind, hrest]

/-- The value and the separator meet the end of the stream exactly when no rune is left for the
separator. -/
lemma readValue_eq_eof_iff {n : ℕ} {s : Bytes} :
    (readRunes n s >>= fun p => readRune p.2 >>= fun q =>
      (.ok (Utf8.encode p.1, q.1, q.2) : Except ReadError (Bytes × Char × Bytes))) = .error .eof ↔
      (runes s).length ≤ n := by
  cases hcs : readRunes n s with
  | error e =>
    obtain ⟨rfl, hlt⟩ := readRunes_eq_error_iff.mp hcs
    simp [bind, Except.bind, hlt.le]
  | ok p =>
    obtain ⟨cs, rest⟩ := p
    obtain ⟨hrunes, hcount⟩ := runes_of_readRunes hcs
    have hle : (runes s).length ≤ n ↔ rest = [] := by
      rw [hrunes, List.length_append, hcount, ← runes_eq_nil_iff, ← List.length_eq_zero_iff]
      omega
    rw [hle]
    show (readRune rest >>= _) = _ ↔ _
    cases hsep : readRune rest with
    | error e =>
      obtain ⟨rfl, hnil⟩ := readRune_eq_error_iff.mp hsep
      simp [bind, Except.bind, hnil]
    | ok q =>
      obtain ⟨sep, unread⟩ := q
      have hne := (readRune_eq_ok hsep).1
      simp [bind, Except.bind, hne]

/-- The length of an element stands before the first dot. -/
lemma cutElement_iff_of_dot {lenStr v : Bytes} (h : dot ∉ lenStr) :
    CutElement (lenStr ++ dot :: v) ↔
      ∃ n : ℕ, atoi (latin1 lenStr) = some (n : Int) ∧ (runes v).length ≤ n := by
  constructor
  · rintro (hnot | ⟨lenStr', v', n, heq, hdot, hn, hle⟩)
    · simp at hnot
    · have hread := readString_append hdot v'
      rw [← heq, readString_append h v] at hread
      simp only [Except.ok.injEq, Prod.mk.injEq] at hread
      obtain ⟨rfl, rfl⟩ := hread
      exact ⟨n, hn, hle⟩
  · rintro ⟨n, hn, hle⟩
    exact Or.inr ⟨lenStr, v, n, rfl, h, hn, hle⟩

/-- A read of an element meets the end of the stream exactly when the stream ends before the
element does. -/
lemma readElement_eq_eof_iff {s : Bytes} : readElement s = .error .eof ↔ CutElement s := by
  cases hlen : readString dot s with
  | error e =>
    obtain ⟨rfl, hdot⟩ := readString_eq_error_iff.mp hlen
    simp [readElement, hlen, bind, Except.bind, CutElement, hdot]
  | ok p =>
    obtain ⟨lenStr, v⟩ := p
    obtain ⟨rfl, hdot⟩ := readString_eq_ok hlen
    rw [cutElement_iff_of_dot hdot, readElement, hlen]
    cases hatoi : atoi (latin1 lenStr) with
    | none => simp [bind, Except.bind, hatoi]
    | some i =>
      -- a negative length is an error of its own, wherever the stream ends
      by_cases hneg : i < 0
      · have hnat : ∀ n : ℕ, i ≠ (n : Int) := fun n => by omega
        simp [bind, Except.bind, hatoi, hneg, hnat]
      · obtain ⟨n, rfl⟩ := Int.eq_ofNat_of_zero_le (Int.not_lt.mp hneg)
        have hexists : (∃ m : ℕ, some (n : Int) = some (m : Int) ∧ (runes v).length ≤ m) ↔
            (runes v).length ≤ n := by
          constructor
          · rintro ⟨m, heq, hle⟩
            rwa [Int.ofNat.inj (Option.some.inj heq)]
          · exact fun hle => ⟨n, rfl, hle⟩
        rw [hexists, ← readValue_eq_eof_iff]
        simp [bind, Except.bind, hatoi, hneg]

lemma cutElement_nil : CutElement [] := Or.inl List.not_mem_nil

/-- The loop meets the end of the stream exactly when the stream ends inside an element. -/
lemma readLoop_eq_eof_iff {ins : Option Instruction} {s : Bytes} :
    readLoop ins s = .error .eof ↔ EndsInElement s := by
  constructor
  · intro h
    -- on the elements that the loop reads: the comma that each ends with goes along
    fun_induction readLoop ins s with
    | case1 ins s e hread =>
      cases h
      exact ⟨[], s, by simp, rfl, readElement_eq_eof_iff.mp hread⟩
    | case2 => cases h
    | case3 => cases h
    | case4 ins s value sep rest hread hsemicolon hcomma ih =>
      obtain rfl : sep = ',' := not_not.mp hcomma
      obtain ⟨e, he, rfl, -⟩ := exists_of_readElement encode_comma (by decide) (by decide) hread
      obtain ⟨whole, t, hwhole, rfl, ht⟩ := ih h
      refine ⟨e :: whole, t, List.forall_mem_cons.mpr ⟨he, hwhole⟩, ?_, ht⟩
      simp
  · rintro ⟨whole, t, hwhole, rfl, ht⟩
    induction whole generalizing ins with
    | nil =>
      have hread : readElement t = .error .eof := readElement_eq_eof_iff.mpr ht
      rw [List.flatMap_nil, List.nil_append, readLoop]
      split
      · next heq =>
        rw [hread] at heq
        cases heq
        rfl
      · next heq =>
        rw [hread] at heq
        cases heq
    | cons e whole ih =>
      obtain ⟨he, hwhole⟩ := List.forall_mem_cons.mp hwhole
      have hread := readElement_bytes he encode_comma (by decide)
        (whole.flatMap (fun e => e.bytes ++ [comma]) ++ t)
      have hsplit : (e :: whole).flatMap (fun e => e.bytes ++ [comma]) ++ t =
          e.bytes ++ comma :: (whole.flatMap (fun e => e.bytes ++ [comma]) ++ t) := by simp
      rw [hsplit, readLoop_of_readElement hread, if_neg (by decide), if_neg (by simp)]
      exact ih hwhole

/-! ### Streams that were cut off -/

/-- No instruction is read from the beginning of one. -/
lemma error_of_truncated {s : Bytes} (h : Truncated s) : ∃ e, readInstruction s = .error e := by
  obtain ⟨-, raw, hraw, more, hmore, heq⟩ := h
  cases hread : readInstruction s with
  | error e => exact ⟨e, rfl⟩
  | ok p =>
    obtain ⟨ins, rest⟩ := p
    obtain ⟨raw', hraw', rfl⟩ := exists_of_readLoop hread
    -- whatever comes after an instruction stays unread
    have hlong := readInstruction_bytes hraw' (rest ++ more)
    have hshort := readInstruction_bytes hraw []
    rw [List.append_nil, heq, List.append_assoc, hlong] at hshort
    simp only [Except.ok.injEq, Prod.mk.injEq, List.append_eq_nil_iff] at hshort
    exact absurd hshort.2.2 hmore

lemma isClosedErr_bridgeErr (e : ReadError) (message : String) :
    Bridge.isClosedErr (e.bridgeErr message) = true ↔ e = .eof := by
  simp [Bridge.isClosedErr, ReadError.bridgeErr]

lemma reported_of_ne {e : ReadError} (h : e ≠ .eof) : Reported e := by
  intro message b hpump hmain herr
  have hclosed : ¬ Bridge.isClosedErr (e.bridgeErr message) = true := by
    rwa [isClosedErr_bridgeErr]
  simp only [run, List.foldl_cons, List.foldl_nil, Bridge.step, if_pos hpump,
    Bridge.State.pumpFails, Bridge.State.move, herr, List.nil_append,
    Function.update_of_ne (by decide : Bridge.Goroutine.main ≠ .pump), if_pos hmain,
    Bridge.State.afterBridge, if_neg hclosed, Function.update_self]
  rfl

/-- **The end of a stream.**  A stream of guacd ends as the documentation of `ReadInstruction`
says, with `io.EOF` for an end between instructions and an error in the browser for any other,
exactly when its bytes do not run out inside an instruction. -/
theorem endsCleanly_iff (s : Bytes) : EndsCleanly s ↔ ¬ RunsOut s := by
  constructor
  · rintro hclean ⟨hne, hends⟩
    exact hne (hclean.eof_iff.mp (readLoop_eq_eof_iff.mpr hends))
  · intro h
    have heof : readInstruction s = .error .eof → s = [] := fun hread =>
      by_contra fun hne => h ⟨hne, readLoop_eq_eof_iff.mp hread⟩
    refine ⟨⟨heof, ?_⟩, ?_⟩
    · rintro rfl
      exact readLoop_eq_eof_iff.mpr ⟨[], [], by simp, rfl, cutElement_nil⟩
    -- a cut stream that does not run out has met an error of another kind before
    · intro htruncated
      obtain ⟨e, hread⟩ := error_of_truncated htruncated
      have hne : e ≠ .eof := by
        rintro rfl
        exact htruncated.1 (heof hread)
      refine ⟨e, hread, fun message => ?_, reported_of_ne hne⟩
      rwa [← Bool.not_eq_true, isClosedErr_bridgeErr]

/-- `sync` without its end. -/
def cutSync : Bytes := ascii "4.sy".toList

theorem cut_instruction_ends_as_eof :
    Truncated cutSync ∧ readInstruction cutSync = .error .eof ∧
      Bridge.isClosedErr (ReadError.eof.bridgeErr "EOF") = true ∧ ¬ EndsCleanly cutSync := by
  have hcut : CutElement cutSync :=
    Or.inr ⟨ascii "4".toList, ascii "sy".toList, 4, by decide, by decide, by decide,
      (length_runes_le _).trans (by decide)⟩
  have hends : EndsInElement cutSync := ⟨[], cutSync, by simp, rfl, hcut⟩
  have hread : readInstruction cutSync = .error .eof := readLoop_eq_eof_iff.mpr hends
  have hne : cutSync ≠ [] := by decide
  have haccepted : (Element.mk (ascii "4".toList) (Utf8.encode "sync".toList)).Accepted := by
    refine ⟨by decide, ?_⟩
    rw [runes_encode]
    decide
  refine ⟨⟨hne, ⟨⟨ascii "4".toList, Utf8.encode "sync".toList⟩, []⟩, ?_,
    ascii "nc;".toList, by decide, by decide⟩,
    hread, rfl, fun hclean => hne (hclean.eof_iff.mp hread)⟩
  intro e he
  obtain rfl := List.mem_singleton.mp he
  exact haccepted

end OpsPlatform.GuacProxy
