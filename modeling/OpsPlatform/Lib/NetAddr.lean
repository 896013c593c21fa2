/-
Network addresses as text: `net.JoinHostPort` and `net.SplitHostPort` of Go's standard library.
-/
import Mathlib.Data.List.TakeWhile
import Mathlib.Tactic.Common

namespace Lib.NetAddr

/-- `net.JoinHostPort`: a host with a colon is an IPv6 literal and is put in brackets. -/
def joinHostPort (host port : String) : String :=
  if ':' ∈ host.toList then "[" ++ host ++ "]:" ++ port else host ++ ":" ++ port

/-- `net.SplitHostPort`, with `none` for its errors.  The port starts after the last colon; a
host in brackets ends with the first closing bracket, just before that colon. -/
def splitHostPort (hostport : String) : Option (String × String) :=
  let cs := hostport.toList
  let port := (cs.reverse.takeWhile (· ≠ ':')).reverse
  let before := cs.take (cs.length - port.length - 1)
  if ':' ∉ cs then none
  else
    match before with
    | '[' :: rest =>
      let inner := rest.takeWhile (· ≠ ']')
      if rest = inner ++ [']'] ∧ '[' ∉ inner ∧ '[' ∉ port ∧ ']' ∉ port then
        some (String.ofList inner, String.ofList port)
      else none
    | _ =>
      if ':' ∈ before ∨ '[' ∈ cs ∨ ']' ∈ cs then none
      else some (String.ofList before, String.ofList port)

lemma takeWhile_append {c : Char} {l : List Char} (h : c ∉ l) (rest : List Char) :
    (l ++ c :: rest).takeWhile (· ≠ c) = l := by
  rw [List.takeWhile_append_of_pos]
  · simp
  · intro a ha
    simpa using fun heq : a = c => h (heq ▸ ha)

/-- The port is what follows the last colon. -/
lemma eq_of_splitHostPort {hostport host port : String}
    (h : splitHostPort hostport = some (host, port)) :
    port = String.ofList (hostport.toList.reverse.takeWhile (· ≠ ':')).reverse := by
  simp only [splitHostPort] at h
  split at h
  · cases h
  · split at h
    · split at h
      · cases h
        rfl
      · cases h
    · split at h
      · cases h
      · cases h
        rfl

/-! ### Splitting what was joined -/

/-- The text of a host that `SplitHostPort` takes from an address of `JoinHostPort`: without
brackets or, when there is no colon to add brackets for, in one pair of them. -/
def Splits (host : List Char) : Prop :=
  ('[' ∉ host ∧ ']' ∉ host) ∨
    ':' ∉ host ∧ ∃ inner, host = '[' :: (inner ++ [']']) ∧ '[' ∉ inner ∧ ']' ∉ inner

/-- The text of a port has no character that separates. -/
def PlainPort (port : List Char) : Prop := ':' ∉ port ∧ '[' ∉ port ∧ ']' ∉ port

/-- A closing bracket ends what stands before it unless there is one in it. -/
lemma append_eq_takeWhile_iff {c : Char} {l : List Char} :
    l ++ [c] = (l ++ [c]).takeWhile (· ≠ c) ++ [c] ↔ c ∉ l := by
  constructor
  · intro heq hmem
    rw [List.append_cancel_right_eq] at heq
    rw [heq] at hmem
    simpa using List.mem_takeWhile_imp hmem
  · intro hnot
    rw [takeWhile_append hnot]

/-- The port of an address, and what stands before its colon. -/
lemma portParts (before : List Char) {port : List Char} (h : ':' ∉ port) :
    ((before ++ ':' :: port).reverse.takeWhile (· ≠ ':')).reverse = port ∧
      (before ++ ':' :: port).take ((before ++ ':' :: port).length - port.length - 1) = before := by
  constructor
  · have hrev : (before ++ ':' :: port).reverse = port.reverse ++ ':' :: before.reverse := by simp
    rw [hrev, takeWhile_append fun hmem => h (List.mem_reverse.mp hmem), List.reverse_reverse]
  · have hlen : (before ++ ':' :: port).length - port.length - 1 = before.length := by
      simp only [List.length_append, List.length_cons]
      omega
    rw [hlen, List.take_left]

lemma isSome_splitHostPort_bracket {rest port : List Char} (h : PlainPort port)
    {hostport : String} (hlist : hostport.toList = ('[' :: rest) ++ ':' :: port) :
    (splitHostPort hostport).isSome ↔
      rest = rest.takeWhile (· ≠ ']') ++ [']'] ∧ '[' ∉ rest.takeWhile (· ≠ ']') := by
  obtain ⟨hport, hbefore⟩ := portParts ('[' :: rest) h.1
  have hmem : ¬ ':' ∉ ('[' :: rest) ++ ':' :: port := by simp
  rw [splitHostPort, hlist]
  dsimp only
  rw [if_neg hmem, hport, hbefore]
  split
  · next rest' heq =>
    obtain rfl := (List.cons.inj heq).2
    split
    · next hcond => exact ⟨fun _ => ⟨hcond.1, hcond.2.1⟩, fun _ => rfl⟩
    · next hcond =>
      constructor
      · intro hnone
        cases hnone
      · rintro ⟨hrest, hopen⟩
        exact absurd ⟨hrest, hopen, h.2⟩ hcond
  · next hne => exact absurd rfl (hne rest)

lemma isSome_splitHostPort_plain {before port : List Char} (h : PlainPort port)
    (hne : ∀ rest, before ≠ '[' :: rest) {hostport : String}
    (hlist : hostport.toList = before ++ ':' :: port) :
    (splitHostPort hostport).isSome ↔ ':' ∉ before ∧ '[' ∉ before ∧ ']' ∉ before := by
  obtain ⟨hport, hbefore⟩ := portParts before h.1
  have hmem : ¬ ':' ∉ before ++ ':' :: port := by simp
  rw [splitHostPort, hlist]
  dsimp only
  rw [if_neg hmem, hport, hbefore]
  split
  · next rest => exact absurd rfl (hne rest)
  · simp [h.2, not_or]

/-- A joined address is split again unless the host has brackets in the wrong place. -/
lemma isSome_splitHostPort_joinHostPort {host port : String} (h : PlainPort port.toList) :
    (splitHostPort (joinHostPort host port)).isSome ↔ Splits host.toList := by
  -- `JoinHostPort` adds brackets exactly when the host has a colon
  by_cases hcolon : ':' ∈ host.toList
  · have hlist : (joinHostPort host port).toList =
        ('[' :: (host.toList ++ [']'])) ++ ':' :: port.toList := by
      simp [joinHostPort, hcolon]
    rw [isSome_splitHostPort_bracket h hlist, append_eq_takeWhile_iff]
    by_cases hclose : ']' ∈ host.toList
    · simp [hclose, hcolon, Splits]
    · rw [takeWhile_append hclose]
      simp [hclose, hcolon, Splits]
  · have hlist : (joinHostPort host port).toList = host.toList ++ ':' :: port.toList := by
      simp [joinHostPort, hcolon]
    -- without one, a host that opens with a bracket has to close it at its end
    by_cases hopen : ∃ rest, host.toList = '[' :: rest
    · obtain ⟨rest, hrest⟩ := hopen
      rw [hrest] at hlist
      rw [isSome_splitHostPort_bracket h hlist, Splits, hrest]
      constructor
      · rintro ⟨heq, hnot⟩
        refine Or.inr ⟨hrest ▸ hcolon, _, congrArg _ heq, hnot, ?_⟩
        intro hmem
        simpa using List.mem_takeWhile_imp hmem
      · rintro (⟨hnot, -⟩ | ⟨-, inner, heq, hnot, hclose⟩)
        · exact absurd List.mem_cons_self hnot
        · obtain rfl := (List.cons.inj heq).2
          rw [append_eq_takeWhile_iff, takeWhile_append hclose]
          exact ⟨hclose, hnot⟩
    · simp only [not_exists] at hopen
      have hone : ∀ inner, host.toList ≠ '[' :: (inner ++ [']']) := fun inner => hopen _
      rw [isSome_splitHostPort_plain h hopen hlist]
      simp [hcolon, hone, Splits]

example : splitHostPort (joinHostPort "fe80::1" "22") = some ("fe80::1", "22") := by decide

end Lib.NetAddr
