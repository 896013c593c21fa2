/-
Patterns of SQL's `LIKE`: `%` stands for any text, `_` for any character, and a backslash takes
the character after it as it is.
-/
import Mathlib.Tactic.Common
import Mathlib.Data.List.Infix

namespace Lib.Like

inductive Token where
  | any
  | one
  | lit (c : Char)
deriving DecidableEq

/-- An unescaped character. -/
def ofChar (c : Char) : Token := if c = '%' then .any else if c = '_' then .one else .lit c

/-- The tokens of a pattern, unless it ends with the escape character. -/
def tokens : List Char → Option (List Token)
  | [] => some []
  | c :: cs =>
    if c = '\\' then
      match cs with
      | [] => none
      | d :: ds => (tokens ds).map (.lit d :: ·)
    else (tokens cs).map (ofChar c :: ·)

def matchTokens : List Token → List Char → Bool
  | [], s => s.isEmpty
  | .any :: ts, s => s.tails.any (matchTokens ts)
  | .one :: _, [] => false
  | .one :: ts, _ :: s => matchTokens ts s
  | .lit _ :: _, [] => false
  | .lit c :: ts, d :: s => c == d && matchTokens ts s

/-- `s LIKE pattern`, with `none` for an invalid pattern. -/
def like (pattern s : List Char) : Option Bool := (tokens pattern).map (matchTokens · s)

/-- A character that stands for itself. -/
def Plain (c : Char) : Prop := c ≠ '\\' ∧ c ≠ '%' ∧ c ≠ '_'

/-! ### Matching -/

section

variable {ts us : List Token} {s : List Char}

lemma matchTokens_any : matchTokens (.any :: ts) s = true ↔
    ∃ u v, s = u ++ v ∧ matchTokens ts v = true := by
  rw [matchTokens, List.any_eq_true]
  constructor
  · rintro ⟨v, hv, hmatch⟩
    obtain ⟨u, rfl⟩ := (List.mem_tails v s).mp hv
    exact ⟨u, v, rfl, hmatch⟩
  · rintro ⟨u, v, rfl, hmatch⟩
    exact ⟨v, (List.mem_tails v _).mpr ⟨u, rfl⟩, hmatch⟩

/-- Patterns match one after the other. -/
lemma matchTokens_append : matchTokens (ts ++ us) s = true ↔
    ∃ u v, s = u ++ v ∧ matchTokens ts u = true ∧ matchTokens us v = true := by
  induction ts generalizing s with
  | nil =>
    constructor
    · exact fun h => ⟨[], s, rfl, rfl, h⟩
    · rintro ⟨u, v, rfl, hu, hv⟩
      rw [matchTokens, List.isEmpty_iff] at hu
      rwa [hu]
  | cons t ts ih =>
    cases t with
    | any =>
      rw [List.cons_append, matchTokens_any]
      constructor
      · rintro ⟨a, b, rfl, h⟩
        obtain ⟨u, v, rfl, hu, hv⟩ := ih.mp h
        exact ⟨a ++ u, v, (List.append_assoc a u v).symm, matchTokens_any.mpr ⟨a, u, rfl, hu⟩, hv⟩
      · rintro ⟨x, v, rfl, hx, hv⟩
        obtain ⟨a, u, rfl, hu⟩ := matchTokens_any.mp hx
        exact ⟨a, u ++ v, List.append_assoc a u v, ih.mpr ⟨u, v, rfl, hu, hv⟩⟩
    | one =>
      cases s with
      | nil =>
        constructor
        · exact nofun
        · rintro ⟨u, v, h, hu, -⟩
          obtain ⟨rfl, -⟩ := List.append_eq_nil_iff.mp h.symm
          cases hu
      | cons d s =>
        rw [List.cons_append, matchTokens, ih]
        constructor
        · rintro ⟨u, v, rfl, hu, hv⟩
          exact ⟨d :: u, v, rfl, hu, hv⟩
        · rintro ⟨u, v, h, hu, hv⟩
          cases u with
          | nil => cases hu
          | cons e u =>
            obtain ⟨rfl, rfl⟩ := List.cons.inj h
            exact ⟨u, v, rfl, hu, hv⟩
    | lit c =>
      cases s with
      | nil =>
        constructor
        · exact nofun
        · rintro ⟨u, v, h, hu, -⟩
          obtain ⟨rfl, -⟩ := List.append_eq_nil_iff.mp h.symm
          cases hu
      | cons d s =>
        rw [List.cons_append, matchTokens, Bool.and_eq_true, ih]
        constructor
        · rintro ⟨hc, u, v, rfl, hu, hv⟩
          exact ⟨d :: u, v, rfl, by rw [matchTokens, hc, hu]; rfl, hv⟩
        · rintro ⟨u, v, h, hu, hv⟩
          cases u with
          | nil => cases hu
          | cons e u =>
            obtain ⟨rfl, rfl⟩ := List.cons.inj h
            rw [matchTokens, Bool.and_eq_true] at hu
            exact ⟨hu.1, u, v, rfl, hu.2, hv⟩

lemma matchTokens_lits {cs : List Char} : matchTokens (cs.map .lit) s = true ↔ s = cs := by
  induction cs generalizing s with
  | nil => exact List.isEmpty_iff
  | cons c cs ih =>
    cases s with
    | nil => simp [matchTokens]
    | cons d s =>
      rw [List.map_cons, matchTokens, Bool.and_eq_true, ih, beq_iff_eq, List.cons.injEq, eq_comm]

/-- Between two `%` a pattern looks for a part that it matches. -/
lemma matchTokens_between : matchTokens (.any :: ts ++ [.any]) s = true ↔
    ∃ u v w, s = u ++ v ++ w ∧ matchTokens ts v = true := by
  have hany : ∀ w, matchTokens [.any] w = true := fun w =>
    matchTokens_any.mpr ⟨w, [], (List.append_nil w).symm, rfl⟩
  rw [List.cons_append, matchTokens_any]
  constructor
  · rintro ⟨u, x, rfl, h⟩
    obtain ⟨v, w, rfl, hv, -⟩ := matchTokens_append.mp h
    exact ⟨u, v, w, (List.append_assoc u v w).symm, hv⟩
  · rintro ⟨u, v, w, rfl, hv⟩
    exact ⟨u, v ++ w, List.append_assoc u v w, matchTokens_append.mpr ⟨v, w, rfl, hv, hany w⟩⟩

end

/-! ### Patterns -/

lemma tokens_cons {c : Char} (hc : c ≠ '\\') (cs : List Char) :
    tokens (c :: cs) = (tokens cs).map (ofChar c :: ·) := by
  rw [tokens.eq_def]
  exact if_neg hc

lemma tokens_escape (d : Char) (ds : List Char) :
    tokens ('\\' :: d :: ds) = (tokens ds).map (.lit d :: ·) := rfl

lemma tokens_append {cs ds : List Char} {ts : List Token} (h : tokens cs = some ts) :
    tokens (cs ++ ds) = (tokens ds).map (ts ++ ·) := by
  induction cs using tokens.induct generalizing ts with
  | case1 =>
    obtain rfl := Option.some.inj h
    exact Option.map_id'.symm
  | case2 => cases h
  | case3 d cs ih =>
    rw [tokens_escape, Option.map_eq_some_iff] at h
    obtain ⟨us, hus, rfl⟩ := h
    rw [List.cons_append, List.cons_append, tokens_escape, ih hus, Option.map_map]
    rfl
  | case4 c cs hc ih =>
    rw [tokens_cons hc, Option.map_eq_some_iff] at h
    obtain ⟨us, hus, rfl⟩ := h
    rw [List.cons_append, tokens_cons hc, ih hus, Option.map_map]
    rfl

/-- A pattern with one more character at its end is valid, whether its own end is an escape or
not. -/
lemma exists_tokens_append {c : Char} (hc : c ≠ '\\') (cs : List Char) :
    ∃ ts, tokens (cs ++ [c]) = some ts := by
  induction cs using tokens.induct with
  | case1 => exact ⟨_, tokens_cons hc []⟩
  | case2 => exact ⟨_, tokens_escape c []⟩
  | case3 d cs ih =>
    obtain ⟨ts, hts⟩ := ih
    exact ⟨.lit d :: ts, by rw [List.cons_append, List.cons_append, tokens_escape, hts]; rfl⟩
  | case4 d cs hd ih =>
    obtain ⟨ts, hts⟩ := ih
    exact ⟨ofChar d :: ts, by rw [List.cons_append, tokens_cons hd, hts]; rfl⟩

lemma tokens_of_plain {cs : List Char} (h : ∀ c ∈ cs, Plain c) :
    tokens cs = some (cs.map .lit) := by
  induction cs with
  | nil => rfl
  | cons c cs ih =>
    obtain ⟨hescape, hany, hone⟩ := h c List.mem_cons_self
    rw [tokens_cons hescape, ih fun d hd => h d (List.mem_cons_of_mem c hd), ofChar, if_neg hany,
      if_neg hone]
    rfl

/-- **A pattern between two `%`** looks for a part of the text that the pattern matches. -/
theorem like_between {cs s : List Char} {ts : List Token} (h : tokens cs = some ts) :
    like ('%' :: cs ++ ['%']) s = some true ↔
      ∃ u v w, s = u ++ v ++ w ∧ matchTokens ts v = true := by
  have hpattern : tokens ('%' :: cs ++ ['%']) = some (.any :: ts ++ [.any]) := by
    rw [List.cons_append, tokens_cons (by decide), tokens_append h]
    rfl
  rw [like, hpattern, Option.map_some, Option.some.injEq, matchTokens_between]

/-- Without special characters it looks for the text itself. -/
theorem like_between_plain {cs s : List Char} (h : ∀ c ∈ cs, Plain c) :
    like ('%' :: cs ++ ['%']) s = some true ↔ cs <:+: s := by
  rw [like_between (tokens_of_plain h)]
  constructor
  · rintro ⟨u, v, w, rfl, hv⟩
    exact ⟨u, w, by rw [matchTokens_lits.mp hv]⟩
  · rintro ⟨u, w, rfl⟩
    exact ⟨u, cs, w, rfl, matchTokens_lits.mpr rfl⟩

end Lib.Like
