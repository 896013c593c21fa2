/-
The pump of the output of a shell (`pump` in `runSession`, `internal/terminal/handler.go`).

Every chunk that is read becomes a JSON string of its own, once for the cast and once for the
websocket.  A character whose bytes are in two chunks is ill-formed in both of them.
-/
import OpsPlatform.Terminal.Recorder

namespace OpsPlatform.Terminal

open Lib Lib.Run Lib.Utf8 Lib.JsonText

/-- The frame that is sent for a chunk. -/
def dataFrame (chunk : Bytes) : Value :=
  .obj [("payload".toList, .str (runes chunk)), ("type".toList, .str "data".toList)]

/-- One iteration: what `Read` returns, and whether the frame can be sent. -/
structure PumpRead where
  seconds : ℚ := 0
  chunk : Bytes
  readErr : Bool := false
  sendFails : Bool := false

structure OutputPump where
  /-- the chunks that were read -/
  chunks : List Bytes := []
  /-- the calls of `WriteOutput` -/
  recorded : List OutputCall := []
  /-- the frames on the websocket -/
  sent : List Value := []
  ended : Bool := false

def OutputPump.step (p : OutputPump) (it : PumpRead) : OutputPump :=
  if p.ended then p
  else
    let p := { p with chunks := p.chunks ++ [it.chunk] }
    if it.chunk = [] then { p with ended := it.readErr }
    else
      let p := { p with recorded := p.recorded ++ [OutputCall.mk it.seconds it.chunk] }
      if it.sendFails then { p with ended := true }
      else { p with sent := p.sent ++ [dataFrame it.chunk], ended := it.readErr }

/-- The pump after reads and writes none of which fails. -/
def pumpedOutput (reads : List (ℚ × Bytes)) : OutputPump :=
  run OutputPump.step {} (reads.map fun r => { seconds := r.1, chunk := r.2 })

/-! ### What the frames decode to -/

/-- The payload of a data frame. -/
def payloadOf : Value → List Char
  | .obj fields =>
    match fields.find? (·.1 == "payload".toList) with
    | some (_, .str payload) => payload
    | _ => []
  | _ => []

/-- The output on a line of a cast; the header has none. -/
def outputOf : Value → List Char
  | .arr [_, .str kind, .str data] => if kind = "o".toList then data else []
  | _ => []

/-- The browser was sent what was read. -/
def OutputPump.Sent (p : OutputPump) : Prop :=
  Utf8.encode (p.sent.flatMap payloadOf) = p.chunks.flatten

/-- The cast of the calls of `WriteOutput` has what was read. -/
def OutputPump.Recorded (p : OutputPump) : Prop := ∀ cols rows timestamp,
  Utf8.encode ((castLines cols rows timestamp p.recorded).flatMap outputOf) = p.chunks.flatten

lemma payloadOf_dataFrame (chunk : Bytes) : payloadOf (dataFrame chunk) = runes chunk := rfl

/-- The header of a cast has no output, and its frames have that of their chunks. -/
lemma encode_output (cols rows timestamp : ℤ) (calls : List OutputCall) :
    Utf8.encode ((castLines cols rows timestamp calls).flatMap outputOf) =
      (calls.map fun c => toValid c.data).flatten := by
  rw [castLines, List.flatMap_cons, List.flatMap_map]
  show Utf8.encode ((nonEmpty calls).flatMap fun c => runes c.data) = _
  induction calls with
  | nil => rfl
  | cons c calls ih =>
    rw [List.map_cons, List.flatten_cons, ← ih]
    by_cases hc : c.data = []
    · have hskip : nonEmpty (c :: calls) = nonEmpty calls := List.filter_cons_of_neg (by simp [hc])
      rw [hskip, hc, toValid, runes_nil]
      rfl
    · have hkeep : nonEmpty (c :: calls) = c :: nonEmpty calls :=
        List.filter_cons_of_pos (by simp [hc])
      rw [hkeep, List.flatMap_cons, encode_append]
      rfl

/-! ### The run of the pump -/

/-- The pump runs, and all chunks but the empty ones were recorded and sent. -/
structure InStep (chunks : List Bytes) (p : OutputPump) : Prop where
  running : p.ended = false
  chunks_eq : p.chunks = chunks
  recorded_eq : (p.recorded.map fun c => toValid c.data).flatten = (chunks.map toValid).flatten
  sent_eq : Utf8.encode (p.sent.flatMap payloadOf) = (chunks.map toValid).flatten

lemma InStep.step {chunks : List Bytes} {p : OutputPump} (h : InStep chunks p) (seconds : ℚ)
    (chunk : Bytes) : InStep (chunks ++ [chunk]) (p.step { seconds, chunk }) := by
  obtain ⟨hrunning, hchunks, hrecorded, hsent⟩ := h
  rw [OutputPump.step, hrunning, if_neg (by simp)]
  by_cases hc : chunk = []
  · rw [if_pos hc]
    have hnone : ((chunks ++ [chunk]).map toValid).flatten = (chunks.map toValid).flatten := by
      simp [hc, toValid, Utf8.encode]
    exact ⟨rfl, by rw [hchunks], by rw [hnone]; exact hrecorded, by rw [hnone]; exact hsent⟩
  · rw [if_neg hc, if_neg (by simp)]
    refine ⟨rfl, by rw [hchunks], ?_, ?_⟩
    · simp [hrecorded]
    · rw [List.flatMap_append, encode_append, hsent]
      simp [payloadOf_dataFrame, toValid]

lemma InStep.run {chunks : List Bytes} {p : OutputPump} (h : InStep chunks p)
    (reads : List (ℚ × Bytes)) : InStep (chunks ++ reads.map Prod.snd)
      (run OutputPump.step p (reads.map fun r => { seconds := r.1, chunk := r.2 })) := by
  induction reads generalizing chunks p with
  | nil => simpa using h
  | cons r reads ih =>
    have hrest := ih (h.step r.1 r.2)
    rw [List.append_assoc, List.singleton_append] at hrest
    exact hrest

/-- What was read arrives exactly when every chunk is valid on its own. -/
lemma faithful_iff (reads : List (ℚ × Bytes)) :
    ((pumpedOutput reads).Sent ∧ (pumpedOutput reads).Recorded) ↔
      ∀ p ∈ reads.map Prod.snd, Valid p := by
  have hinit : InStep [] {} := ⟨rfl, rfl, rfl, rfl⟩
  obtain ⟨-, hchunks, hrecorded, hsent⟩ : InStep (reads.map Prod.snd) (pumpedOutput reads) :=
    hinit.run reads
  simp only [OutputPump.Sent, OutputPump.Recorded, encode_output, hsent, hrecorded, hchunks,
    flatten_toValid_iff, forall_const, and_self]

/-- **Output arrives as it was written.**  However the output of a shell is cut into chunks, what
the browser was sent and what the cast has is what was read, after every number of reads,
exactly when no read ends inside a character. -/
theorem output_faithful_iff (reads : List (ℚ × Bytes)) :
    (∀ n, (pumpedOutput (reads.take n)).Sent ∧ (pumpedOutput (reads.take n)).Recorded) ↔
      ∀ n, Valid ((reads.map Prod.snd).take n).flatten := by
  rw [← valid_pieces_iff]
  constructor
  · intro h p hp
    have hall := (faithful_iff _).mp (h reads.length)
    rw [List.take_length] at hall
    exact hall p hp
  · intro h n
    refine (faithful_iff _).mpr fun p hp => h p ?_
    rw [List.map_take] at hp
    exact List.mem_of_mem_take hp

/-- The first byte of a character is no character. -/
lemma not_valid_lead : ¬ Valid [0xC3] := by
  rintro ⟨cs, hcs⟩
  have hnone : decodeChar [0xC3] = none := by decide
  rcases cs with _ | ⟨c, cs⟩
  · cases hcs
  · have hsome := decodeChar_append c (Utf8.encode cs)
    rw [show String.utf8EncodeChar c ++ Utf8.encode cs = [0xC3] from hcs.symm, hnone] at hsome
    cases hsome

/-- The two bytes of `é` come in two reads. -/
def cutReads : List (ℚ × Bytes) := [(0, [0xC3]), (0, [0xA9])]

/-- Neither of the bytes is a character, and neither the browser nor the cast gets the output. -/
theorem character_cut_in_two :
    Valid (cutReads.map Prod.snd).flatten ∧
      ¬ ((pumpedOutput cutReads).Sent ∧ (pumpedOutput cutReads).Recorded) := by
  refine ⟨⟨[Char.ofNat 0xE9], by decide⟩, ?_⟩
  rw [faithful_iff]
  intro h
  exact not_valid_lead (h [0xC3] List.mem_cons_self)

end OpsPlatform.Terminal
