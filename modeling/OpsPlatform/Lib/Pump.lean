/-
Pumps: loops that read a chunk from a source, count it and pass it on to a sink.

A pump has at most one chunk in hand, and an error may come with it.  A pump that fails ends and
hands its error out.  Whether the source has something to give and the sink takes it is not the
pump's affair: a system says which moves are open to a pump.
-/
import Mathlib.Tactic.Common
import Mathlib.Data.List.Basic

namespace Lib

variable {β ε : Type*}

inductive Pump.Phase (β ε : Type*) where
  | reading
  /-- a chunk was read, with an error or not, and is not counted -/
  | counting (chunk : List β) (after : Option ε)
  /-- what is left of a chunk -/
  | writing (rest : List β) (after : Option ε)
  | ended

structure Pump (β ε : Type*) where
  taken : List β := []
  given : List β := []
  counted : ℕ := 0
  phase : Pump.Phase β ε := .reading

namespace Pump

inductive Move (β ε : Type*) where
  /-- the read returns a chunk -/
  | take (chunk : List β) (after : Option ε)
  /-- the read returns only an error -/
  | fail (e : ε)
  | count
  /-- so much of the chunk gets to the sink -/
  | pass (n : ℕ)
  /-- the write returns -/
  | finish (failed : Option ε)

/-- The move gives something to the sink. -/
def Move.passes : Move β ε → Bool
  | .pass _ => true
  | .take _ _ | .fail _ | .count | .finish _ => false

/-- The chunk that the move takes from the source in the phase. -/
def Phase.reads : Phase β ε → Move β ε → Option (List β)
  | .reading, .take chunk _ => some chunk
  | _, _ => none

/-- The end of a round: the pump ends with the error, if there is one. -/
def endRound (p : Pump β ε) : Option ε → Pump β ε × Option ε
  | none => ({ p with phase := .reading }, none)
  | some e => ({ p with phase := .ended }, some e)

/-- A move, with the error that is handed out.  A write returns without an error only when all of
the chunk has got to the sink. -/
def move (p : Pump β ε) (m : Move β ε) : Pump β ε × Option ε :=
  match m, p.phase with
  | .take chunk after, .reading =>
    ({ p with taken := p.taken ++ chunk, phase := .counting chunk after }, none)
  | .fail e, .reading => p.endRound (some e)
  | .count, .counting chunk after =>
    ({ p with counted := p.counted + chunk.length, phase := .writing chunk after }, none)
  | .pass n, .writing rest after =>
    ({ p with given := p.given ++ rest.take n, phase := .writing (rest.drop n) after }, none)
  | .finish (some e), .writing _ _ => p.endRound (some e)
  | .finish none, .writing [] after => p.endRound after
  | _, _ => (p, none)

/-- What the pump has in hand and has not counted. -/
def Phase.uncounted : Phase β ε → ℕ
  | .reading => 0
  | .counting chunk _ => chunk.length
  | .writing _ _ => 0
  | .ended => 0

def Phase.isEnded : Phase β ε → Bool
  | .reading | .counting _ _ | .writing _ _ => false
  | .ended => true

/-- How many moves, other than passing on, are left when nothing more is read. -/
def Phase.movesLeft : Phase β ε → ℕ
  | .reading => 1
  | .counting _ _ => 3
  | .writing _ _ => 2
  | .ended => 0

/-- How many moves are left when nothing more is passed on and no empty chunk is read: a chunk that
is read is lost, and the pump ends with it. -/
def Phase.movesLost : Phase β ε → ℕ
  | .reading => 3
  | .counting chunk _ => if chunk.isEmpty then 5 else 2
  | .writing rest _ => if rest.isEmpty then 4 else 1
  | .ended => 0

lemma Phase.movesLeft_le (phase : Phase β ε) : phase.movesLeft ≤ 3 := by
  cases phase <;> simp [Phase.movesLeft]

lemma Phase.movesLost_le {phase : Phase β ε} (h : ∀ after, phase ≠ .counting [] after) :
    phase.movesLost ≤ 4 := by
  cases phase with
  | reading | ended => simp [Phase.movesLost]
  | counting chunk after =>
    cases chunk with
    | nil => exact absurd rfl (h after)
    | cons b chunk => simp [Phase.movesLost]
  | writing rest after => cases rest <;> simp [Phase.movesLost]

/-- The move is open in the phase. -/
def Phase.accepts : Phase β ε → Move β ε → Bool
  | .reading, .take _ _ | .reading, .fail _ => true
  | .counting _ _, .count => true
  | .writing _ _, .pass _ | .writing _ _, .finish (some _) => true
  | .writing rest _, .finish none => rest.isEmpty
  | _, _ => false

/-- **The books of a pump**: what was read is what was passed on and what is in hand. -/
def InBalance (p : Pump β ε) : Prop :=
  match p.phase with
  | .reading => p.given = p.taken ∧ p.counted = p.taken.length
  | .counting chunk _ => p.given ++ chunk = p.taken ∧ p.counted = p.given.length
  | .writing rest _ => p.given ++ rest = p.taken ∧ p.counted = p.taken.length
  | .ended => p.given <+: p.taken ∧ p.counted = p.taken.length

/-! ### Moves -/

/-- What a move does: to the pump, and the error that it hands out. -/
inductive Moves (p : Pump β ε) : Move β ε → Pump β ε → Option ε → Prop
  | take {chunk : List β} {after : Option ε} (h : p.phase = .reading) :
    Moves p (.take chunk after)
      { p with taken := p.taken ++ chunk, phase := .counting chunk after } none
  | fail {e : ε} (h : p.phase = .reading) : Moves p (.fail e) { p with phase := .ended } (some e)
  | count {chunk : List β} {after : Option ε} (h : p.phase = .counting chunk after) :
    Moves p .count
      { p with counted := p.counted + chunk.length, phase := .writing chunk after } none
  | pass {n : ℕ} {rest : List β} {after : Option ε} (h : p.phase = .writing rest after) :
    Moves p (.pass n)
      { p with given := p.given ++ rest.take n, phase := .writing (rest.drop n) after } none
  | finish (h : p.phase = .writing [] none) :
    Moves p (.finish none) { p with phase := .reading } none
  /-- the error is one of the write, or had come with the chunk -/
  | finishFails {failed after : Option ε} {e : ε} {rest : List β}
      (h : p.phase = .writing rest after) (he : failed.or after = some e) :
    Moves p (.finish failed) { p with phase := .ended } (some e)
  /-- the move is not open in the phase -/
  | stay {m : Move β ε} : Moves p m p none

lemma exists_moves (p : Pump β ε) (m : Move β ε) : ∃ q e, p.move m = (q, e) ∧ Moves p m q e := by
  unfold move
  split
  · next hphase => exact ⟨_, _, rfl, .take hphase⟩
  · next hphase => exact ⟨_, _, rfl, .fail hphase⟩
  · next hphase => exact ⟨_, _, rfl, .count hphase⟩
  · next hphase => exact ⟨_, _, rfl, .pass hphase⟩
  · next hphase => exact ⟨_, _, rfl, .finishFails hphase rfl⟩
  · next after hphase =>
    rcases after with _ | e
    · exact ⟨_, _, rfl, .finish hphase⟩
    · exact ⟨_, _, rfl, .finishFails hphase rfl⟩
  · exact ⟨_, _, rfl, .stay⟩

variable {p : Pump β ε} {m : Move β ε}

lemma inBalance_start : InBalance ({} : Pump β ε) := ⟨rfl, rfl⟩

/-- **The step lemma.** -/
lemma InBalance.move (h : p.InBalance) (m : Move β ε) : (p.move m).1.InBalance := by
  obtain ⟨q, e, hmove, hmoves⟩ := exists_moves p m
  rw [hmove]
  cases hmoves with
  | take hphase =>
    rw [InBalance, hphase] at h
    exact ⟨by rw [h.1], by rw [h.1, h.2]⟩
  | fail hphase =>
    rw [InBalance, hphase] at h
    exact ⟨h.1 ▸ List.prefix_refl _, h.2⟩
  | count hphase =>
    rw [InBalance, hphase] at h
    exact ⟨h.1, by rw [← h.1, List.length_append, h.2]⟩
  | pass hphase =>
    rw [InBalance, hphase] at h
    exact ⟨by rw [List.append_assoc, List.take_append_drop, h.1], h.2⟩
  | finish hphase =>
    rw [InBalance, hphase] at h
    exact ⟨by rw [← h.1, List.append_nil], h.2⟩
  | finishFails hphase =>
    rw [InBalance, hphase] at h
    exact ⟨⟨_, h.1⟩, h.2⟩
  | stay => exact h

lemma reads_eq_some {chunk : List β} (h : p.phase.reads m = some chunk) :
    p.phase = .reading ∧ ∃ after, m = .take chunk after := by
  unfold Phase.reads at h
  split at h
  · next hphase => exact ⟨hphase, _, by rw [Option.some.inj h]⟩
  · cases h

variable (p m) in
/-- A move takes the chunk that it reads. -/
lemma taken_move : (p.move m).1.taken = p.taken ++ (p.phase.reads m).getD [] := by
  cases hreads : p.phase.reads m with
  | some chunk =>
    obtain ⟨hphase, after, rfl⟩ := reads_eq_some hreads
    simp only [move, hphase, Option.getD_some]
  | none =>
    obtain ⟨q, e, hmove, hmoves⟩ := exists_moves p m
    rw [hmove, Option.getD_none, List.append_nil]
    cases hmoves with
    | take hphase =>
      rw [hphase] at hreads
      cases hreads
    | _ => rfl

/-- Only a write gives something. -/
lemma given_move (h : ∀ n, m ≠ .pass n) : (p.move m).1.given = p.given := by
  obtain ⟨q, e, hmove, hmoves⟩ := exists_moves p m
  rw [hmove]
  cases hmoves with
  | pass => exact absurd rfl (h _)
  | _ => rfl

lemma taken_prefix_move : p.taken <+: (p.move m).1.taken := by
  rw [taken_move]
  exact List.prefix_append _ _

/-- Chunks of a bounded size leave so much uncounted at most. -/
lemma uncounted_move {bound : ℕ} (h : p.phase.uncounted ≤ bound)
    (hm : ∀ chunk after, m = .take chunk after → chunk.length ≤ bound) :
    (p.move m).1.phase.uncounted ≤ bound := by
  obtain ⟨q, e, hmove, hmoves⟩ := exists_moves p m
  rw [hmove]
  cases hmoves with
  | take => exact hm _ _ rfl
  | stay => exact h
  | _ => exact Nat.zero_le _

/-- No empty chunk is waiting to be counted, if none is read. -/
lemma counting_move (h : ∀ after, p.phase ≠ .counting [] after)
    (hm : p.phase.reads m ≠ some []) (after : Option ε) :
    (p.move m).1.phase ≠ .counting [] after := by
  obtain ⟨q, e, hmove, hmoves⟩ := exists_moves p m
  rw [hmove]
  cases hmoves with
  | take hphase =>
    rintro ⟨⟩
    exact hm (by rw [hphase]; rfl)
  | stay => exact h after
  | _ => rintro ⟨⟩

/-- Every error that is handed out ends the pump, and nothing else does. -/
lemma toNat_isEnded_move :
    (p.move m).1.phase.isEnded.toNat = p.phase.isEnded.toNat + (p.move m).2.toList.length := by
  obtain ⟨q, e, hmove, hmoves⟩ := exists_moves p m
  rw [hmove]
  cases hmoves with
  | stay => rfl
  | take hphase | fail hphase | count hphase | pass hphase | finish hphase | finishFails hphase =>
    rw [hphase]
    rfl

/-- A move that passes nothing on uses up one of the moves that are left; a read brings three. -/
lemma movesLeft_move (h : p.phase.accepts m = true) (hm : m.passes = false) :
    (p.move m).1.phase.movesLeft + 1 ≤
      p.phase.movesLeft + 3 * (p.phase.reads m).toList.length := by
  unfold Phase.accepts at h
  split at h
  · next hphase => simp [move, hphase, Phase.movesLeft, Phase.reads]
  · next hphase => simp [move, hphase, endRound, Phase.movesLeft, Phase.reads]
  · next hphase => simp [move, hphase, Phase.movesLeft, Phase.reads]
  · cases hm
  · next hphase => simp [move, hphase, endRound, Phase.movesLeft, Phase.reads]
  · next rest after hphase =>
    obtain rfl := List.isEmpty_iff.mp h
    cases after <;> simp [move, hphase, endRound, Phase.movesLeft, Phase.reads]
  · cases h

/-- The same when a chunk that is read cannot be passed on. -/
lemma movesLost_move (h : p.phase.accepts m = true) (hm : m.passes = false)
    (hreads : p.phase.reads m ≠ some []) :
    (p.move m).1.phase.movesLost + 1 ≤ p.phase.movesLost := by
  unfold Phase.accepts at h
  split at h
  · next chunk after hphase =>
    have hchunk : chunk ≠ [] := by
      rintro rfl
      exact hreads (by rw [hphase]; rfl)
    simp [move, hphase, Phase.movesLost, hchunk]
  · next hphase => simp [move, hphase, endRound, Phase.movesLost]
  · next chunk after hphase => cases chunk <;> simp [move, hphase, Phase.movesLost]
  · cases hm
  · next rest after e hphase => cases rest <;> simp [move, hphase, endRound, Phase.movesLost]
  · next rest after hphase =>
    obtain rfl := List.isEmpty_iff.mp h
    cases after <;> simp [move, hphase, endRound, Phase.movesLost]
  · cases h

lemma move_of_not_accepts (h : p.phase.accepts m = false) : p.move m = (p, none) := by
  unfold move
  split
  · next hphase => rw [hphase] at h; cases h
  · next hphase => rw [hphase] at h; cases h
  · next hphase => rw [hphase] at h; cases h
  · next hphase => rw [hphase] at h; cases h
  · next hphase => rw [hphase] at h; cases h
  · next hphase => rw [hphase] at h; cases h
  · rfl

lemma reads_of_not_accepts (h : p.phase.accepts m = false) : p.phase.reads m = none := by
  unfold Phase.reads
  split
  · next hphase => rw [hphase] at h; cases h
  · rfl

lemma given_of_not_passes (hm : m.passes = false) : (p.move m).1.given = p.given := by
  refine given_move fun n hpass => ?_
  rw [hpass] at hm
  cases hm

/-- A pump that has not ended can move although nothing is read or passed on. -/
lemma exists_accepts (e : ε) (h : p.phase.isEnded = false) :
    ∃ m, p.phase.accepts m = true ∧ m.passes = false ∧ ∀ chunk after, m ≠ .take chunk after := by
  cases hphase : p.phase with
  | reading => exact ⟨.fail e, rfl, rfl, by simp⟩
  | counting chunk after => exact ⟨.count, rfl, rfl, by simp⟩
  | writing rest after => exact ⟨.finish (some e), rfl, rfl, by simp⟩
  | ended =>
    rw [hphase] at h
    cases h

/-- What was passed on is a prefix of what was read. -/
lemma InBalance.given_prefix (h : p.InBalance) : p.given <+: p.taken := by
  rw [InBalance] at h
  split at h
  · exact h.1 ▸ List.prefix_refl _
  · exact ⟨_, h.1⟩
  · exact ⟨_, h.1⟩
  · exact h.1

/-- All that was passed on was counted. -/
lemma InBalance.given_le (h : p.InBalance) : p.given.length ≤ p.counted := by
  have hprefix := h.given_prefix.length_le
  rw [InBalance] at h
  split at h
  · rwa [h.2]
  · exact Nat.le_of_eq h.2.symm
  · rwa [h.2]
  · rwa [h.2]

/-- All that was read is counted or in hand. -/
lemma InBalance.taken_eq (h : p.InBalance) : p.taken.length = p.counted + p.phase.uncounted := by
  rw [InBalance] at h
  split at h
  · next hphase => rw [hphase, h.2, Phase.uncounted, Nat.add_zero]
  · next hphase => rw [hphase, ← h.1, List.length_append, h.2, Phase.uncounted]
  · next hphase => rw [hphase, h.2, Phase.uncounted, Nat.add_zero]
  · next hphase => rw [hphase, h.2, Phase.uncounted, Nat.add_zero]

end Pump

end Lib
