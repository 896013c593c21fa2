/-
How a browser resolves a reference against the URL of a page that was loaded over HTTP: the basic
URL parser of the WHATWG standard, as far as scheme, host and port of the result depend on it.

Control characters and blanks at the ends are cut off, tabs and newlines are removed wherever they
stand, and a backslash counts as a slash.  A reference that then begins with two slashes names an
authority of its own; with one, it keeps the authority of the page.
-/
import Mathlib.Tactic.Common
import Mathlib.Data.List.DropRight

namespace Lib.Url

/-- Scheme, host and port of a URL; the default port of the scheme is `none`. -/
structure Origin where
  scheme : String
  host : String
  port : Option ℕ := none
deriving DecidableEq

/-- The origin of a page that was loaded over HTTP.  Its scheme is special, so that a backslash is a
slash. -/
structure Site extends Origin where
  http : scheme = "http" ∨ scheme = "https"

/-- ASCII tab or newline. -/
def tabOrNewline (c : Char) : Bool := c.toNat == 9 || c.toNat == 10 || c.toNat == 13

/-- C0 control or space. -/
def controlOrSpace (c : Char) : Bool := decide (c.toNat ≤ 32)

/-- A slash, in a URL with a special scheme. -/
def slash (c : Char) : Bool := c == '/' || c == '\\'

/-- The rest of an input, with its end and the tabs and newlines removed. -/
def cleanTail (rest : List Char) : List Char :=
  (rest.rdropWhile controlOrSpace).filter fun c => !tabOrNewline c

/-- The input as the states of the parser see it. -/
def clean (input : List Char) : List Char := cleanTail (input.dropWhile controlOrSpace)

/-- The parser's parts that are not spelled out. -/
structure Parser where
  /-- the authority of a URL with the scheme: credentials, host and port; `none` is a failure -/
  authority : String → List Char → Option (String × Option ℕ)
  /-- a reference that does not begin with a slash -/
  noSlash : Site → List Char → Option Origin

/-- What the authority states read after two slashes: further slashes are skipped. -/
def authorityText (rest : List Char) : List Char :=
  (rest.dropWhile slash).takeWhile fun c => !(slash c || c == '?' || c == '#')

/-- The origin of a URL with the authority. -/
def Parser.authorityOrigin (p : Parser) (site : Site) (text : List Char) : Option Origin :=
  (p.authority site.scheme text).map fun hp =>
    { scheme := site.scheme, host := hp.1, port := hp.2 }

/-- The relative slash state. -/
def Parser.relativeSlash (p : Parser) (site : Site) : List Char → Option Origin
  | [] => some site.toOrigin
  | c :: rest =>
    if slash c = true then p.authorityOrigin site (authorityText rest) else some site.toOrigin

/-- The origin of the URL to which the input resolves. -/
def Parser.resolve (p : Parser) (site : Site) (input : List Char) : Option Origin :=
  match clean input with
  | [] => p.noSlash site []
  | c :: rest => if slash c = true then p.relativeSlash site rest else p.noSlash site (c :: rest)

/-! ### References that begin with a slash -/

/-- Nothing in front of a character that stays is dropped. -/
lemma rdropWhile_append_of_neg {p : Char → Bool} {c : Char} (hc : ¬ p c = true)
    (front rest : List Char) :
    (front ++ c :: rest).rdropWhile p = front ++ c :: rest.rdropWhile p := by
  rw [List.rdropWhile, List.rdropWhile, List.reverse_append, List.reverse_cons, List.append_assoc,
    List.dropWhile_append]
  split
  · next h =>
    rw [List.isEmpty_iff.mp h, List.singleton_append, List.dropWhile_cons_of_neg hc]
    simp
  · simp

lemma slash_facts {c : Char} (h : slash c = true) :
    controlOrSpace c = false ∧ tabOrNewline c = false := by
  rw [slash, Bool.or_eq_true, beq_iff_eq, beq_iff_eq] at h
  rcases h with rfl | rfl <;> decide

/-- A slash behind tabs and newlines stands in front. -/
lemma cleanTail_append {ws : List Char} (hws : ∀ w ∈ ws, tabOrNewline w = true) {c : Char}
    (hc : slash c = true) (rest : List Char) :
    cleanTail (ws ++ c :: rest) = c :: cleanTail rest := by
  obtain ⟨hcontrol, hnewline⟩ := slash_facts hc
  have hremoved : (ws.filter fun w => !tabOrNewline w) = [] := by
    rw [List.filter_eq_nil_iff]
    intro w hw
    simp [hws w hw]
  rw [cleanTail, rdropWhile_append_of_neg (by simp [hcontrol]), List.filter_append, hremoved,
    List.nil_append, List.filter_cons_of_pos (by simp [hnewline]), cleanTail]

/-- Only tabs and newlines can have stood before the first character. -/
lemma exists_of_cleanTail_eq_cons {cs rest : List Char} {c : Char}
    (h : cleanTail cs = c :: rest) :
    ∃ ws tail, cs = ws ++ c :: tail ∧ ∀ w ∈ ws, tabOrNewline w = true := by
  rw [cleanTail, List.filter_eq_cons_iff] at h
  obtain ⟨ws, kept, hkept, hws, -, -⟩ := h
  obtain ⟨dropped, hdropped⟩ := List.rdropWhile_prefix controlOrSpace cs
  refine ⟨ws, kept ++ dropped, ?_, ?_⟩
  · rw [← hdropped, hkept, List.append_assoc, List.cons_append]
  · intro w hw
    simpa using hws w hw

/-- **A reference that begins with a slash** keeps the origin of the page, unless a second slash
follows behind tabs and newlines; then the authority has to be that of the page. -/
lemma resolve_slash_eq_some_iff (p : Parser) (site : Site) (rest : List Char) :
    p.resolve site ('/' :: rest) = some site.toOrigin ↔
      ∀ ws c tail, rest = ws ++ c :: tail → (∀ w ∈ ws, tabOrNewline w = true) → slash c = true →
        p.authorityOrigin site (authorityText (cleanTail tail)) = some site.toOrigin := by
  have hclean : clean ('/' :: rest) = '/' :: cleanTail rest := by
    rw [clean, List.dropWhile_cons_of_neg (by decide)]
    have hnone : ∀ w ∈ ([] : List Char), tabOrNewline w = true := by simp
    exact cleanTail_append hnone rfl rest
  have hresolve : p.resolve site ('/' :: rest) = p.relativeSlash site (cleanTail rest) := by
    rw [Parser.resolve, hclean]
    exact if_pos rfl
  rw [hresolve]
  constructor
  · rintro h ws c tail rfl hws hc
    rw [cleanTail_append hws hc, Parser.relativeSlash, if_pos hc] at h
    exact h
  · intro h
    cases hcs : cleanTail rest with
    | nil => rfl
    | cons c cs =>
      rw [Parser.relativeSlash]
      split
      · next hc =>
        obtain ⟨ws, tail, rfl, hws⟩ := exists_of_cleanTail_eq_cons hcs
        rw [cleanTail_append hws hc] at hcs
        rw [← (List.cons.inj hcs).2]
        exact h ws c tail rfl hws hc
      · rfl

end Lib.Url
