/-
Where a browser goes after an OIDC login (`OIDCLogin`, `OIDCCallback` and `sanitizeRedirectPath` in
`internal/iam/handler.go`).

The parameter `next` is kept when it begins with one slash, and the page of the callback assigns it
to `window.location.href`.  A browser takes more for a second slash than the handler does.
-/
import OpsPlatform.Lib.JsonText
import OpsPlatform.Lib.Text
import OpsPlatform.Lib.UrlReference
import OpsPlatform.Lib.Utf8

namespace OpsPlatform.Iam

open Lib Lib.Text Lib.Url

/-- `strings.HasPrefix`. -/
def hasPrefix (s start : String) : Bool := start.toList.isPrefixOf s.toList

/-- `sanitizeRedirectPath`. -/
def sanitizeRedirectPath (raw : String) : String :=
  let path := trimSpace raw
  if path = "" then ""
  else if ¬ hasPrefix path "/" = true ∨ hasPrefix path "//" = true then ""
  else path

/-- The `RedirectAfter` that `OIDCLogin` stores for the value of `next`.  A byte of it that is not
UTF-8 is the rune U+FFFD to `TrimSpace`, and `json.Marshal` writes it so. -/
def redirectAfter (next : Utf8.Bytes) : String :=
  let redirectAfter := sanitizeRedirectPath (String.ofList (Utf8.runes next))
  if redirectAfter = "" then "/portal/" else redirectAfter

/-- The literal in the script of the page that `OIDCCallback` writes. -/
def redirectJSON (redirectAfter : String) : List Char :=
  JsonText.marshalString redirectAfter.toList

/-- The origin to which the page goes: the value of the literal is assigned to
`window.location.href`. -/
def redirectOrigin (p : Parser) (site : Site) (next : Utf8.Bytes) : Option Origin := do
  let href ← JsonText.readString (redirectJSON (redirectAfter next))
  p.resolve site href

/-- The browser sees an authority in `next` that is not the site's: behind one slash, and tabs and
newlines, a second slash or a backslash follows. -/
def NamesOtherAuthority (p : Parser) (site : Site) (next : Utf8.Bytes) : Prop :=
  ∃ ws c tail, trimChars (Utf8.runes next) = '/' :: (ws ++ c :: tail) ∧
    (∀ w ∈ ws, tabOrNewline w = true) ∧ slash c = true ∧ (ws ≠ [] ∨ c ≠ '/') ∧
    p.authorityOrigin site (authorityText (cleanTail tail)) ≠ some site.toOrigin

/-! ### What is stored -/

/-- A path that begins with exactly one slash is kept, and anything else is rejected. -/
lemma sanitizeRedirectPath_cases (raw : String) :
    (∃ rest, trimChars raw.toList = '/' :: rest ∧ rest.head? ≠ some '/' ∧
        sanitizeRedirectPath raw = String.ofList ('/' :: rest)) ∨
      ((∀ rest, trimChars raw.toList = '/' :: rest → rest.head? = some '/') ∧
        sanitizeRedirectPath raw = "") := by
  rw [sanitizeRedirectPath]
  have hpath : (trimSpace raw).toList = trimChars raw.toList := String.toList_ofList
  cases hcs : trimChars raw.toList with
  | nil =>
    have hempty : trimSpace raw = "" := by rw [trimSpace, hcs]
    exact Or.inr ⟨by simp, if_pos hempty⟩
  | cons c rest =>
    rw [hcs] at hpath
    have hne : trimSpace raw ≠ "" := by
      intro h
      rw [h] at hpath
      cases hpath
    -- the two prefixes are the first character and the first two
    have hone : hasPrefix (trimSpace raw) "/" = true ↔ c = '/' := by
      rw [hasPrefix, hpath, eq_comm (a := c)]
      simp [List.isPrefixOf]
    have htwo : hasPrefix (trimSpace raw) "//" = true ↔ c = '/' ∧ rest.head? = some '/' := by
      rw [hasPrefix, hpath, eq_comm (a := c), eq_comm (a := rest.head?)]
      cases rest <;> simp [List.isPrefixOf]
    simp only [if_neg hne, hone, htwo]
    by_cases hc : c = '/'
    · subst hc
      by_cases hrest : rest.head? = some '/'
      · refine Or.inr ⟨?_, by simp [hrest]⟩
        rintro rest' heq
        rw [← (List.cons.inj heq).2]
        exact hrest
      · refine Or.inl ⟨rest, rfl, hrest, ?_⟩
        rw [if_neg (by simp [hrest]), ← hpath, String.ofList_toList]
    · refine Or.inr ⟨?_, by simp [hc]⟩
      rintro rest' heq
      exact absurd (List.cons.inj heq).1 hc

/-- What is stored begins with a slash: it is the path in `next`, or the portal. -/
lemma redirectAfter_cases (next : Utf8.Bytes) :
    (∃ rest, trimChars (Utf8.runes next) = '/' :: rest ∧ rest.head? ≠ some '/' ∧
        (redirectAfter next).toList = '/' :: rest) ∨
      ((∀ rest, trimChars (Utf8.runes next) = '/' :: rest → rest.head? = some '/') ∧
        (redirectAfter next).toList = '/' :: "portal/".toList) := by
  have hcases := sanitizeRedirectPath_cases (String.ofList (Utf8.runes next))
  rw [String.toList_ofList] at hcases
  rcases hcases with ⟨rest, hpath, hrest, hkept⟩ | ⟨hpath, hrejected⟩
  · refine Or.inl ⟨rest, hpath, hrest, ?_⟩
    have hne : String.ofList ('/' :: rest) ≠ "" := by simp
    simp only [redirectAfter, hkept, if_neg hne, String.toList_ofList]
  · refine Or.inr ⟨hpath, ?_⟩
    simp only [redirectAfter, hrejected]
    decide

/-- The page assigns what is stored. -/
lemma redirectOrigin_eq (p : Parser) (site : Site) (next : Utf8.Bytes) :
    redirectOrigin p site next = p.resolve site (redirectAfter next).toList := by
  simp only [redirectOrigin, redirectJSON, JsonText.readString_marshalString, bind,
    Option.bind_some]

/-- **The redirect after a login** stays on the site for every `next` in which the browser sees no
other authority. -/
theorem redirect_stays_on_site_iff (p : Parser) (site : Site) (next : Utf8.Bytes) :
    redirectOrigin p site next = some site.toOrigin ↔ ¬ NamesOtherAuthority p site next := by
  rw [redirectOrigin_eq]
  rcases redirectAfter_cases next with ⟨rest, hpath, hrest, hkept⟩ | ⟨hpath, hportal⟩
  · rw [hkept, resolve_slash_eq_some_iff]
    constructor
    · rintro h ⟨ws, c, tail, hnext, hws, hc, -, hother⟩
      rw [hpath, List.cons.injEq] at hnext
      exact hother (h ws c tail hnext.2 hws hc)
    · rintro h ws c tail rfl hws hc
      by_contra hother
      refine h ⟨ws, c, tail, hpath, hws, hc, ?_, hother⟩
      -- a slash right behind the first one was rejected
      by_contra hboth
      obtain ⟨hnil, hslash⟩ := not_or.mp hboth
      rw [not_not.mp hnil, not_not.mp hslash] at hrest
      exact hrest rfl
  · rw [hportal, resolve_slash_eq_some_iff]
    constructor
    · rintro - ⟨ws, c, tail, hnext, hws, hc, hfirst, -⟩
      have hhead := hpath _ hnext
      rcases ws with _ | ⟨w, ws⟩
      · exact hfirst.elim (fun h => h rfl) fun h => h (Option.some.inj hhead)
      · obtain rfl : w = '/' := Option.some.inj hhead
        exact absurd (hws '/' List.mem_cons_self) (by decide)
    · rintro - ws c tail heq hws hc
      -- the portal has no second slash in front
      rcases ws with _ | ⟨w, ws⟩
      · obtain rfl : 'p' = c := (List.cons.inj heq).1
        exact absurd hc (by decide)
      · obtain rfl : 'p' = w := (List.cons.inj heq).1
        exact absurd (hws 'p' List.mem_cons_self) (by decide)

/-- A parser that takes an authority for a host. -/
def hostParser : Parser where
  authority _ text := if text = [] then none else some (String.ofList text, none)
  noSlash site _ := some site.toOrigin

def opsSite : Site := { scheme := "https", host := "ops.example", http := Or.inr rfl }

/-- With a tab between two slashes the browser goes to another site. -/
theorem redirect_leaves_site_tab :
    redirectOrigin hostParser opsSite (Utf8.encode "/\t/evil.example".toList) =
        some { scheme := "https", host := "evil.example" } ∧
      redirectOrigin hostParser opsSite (Utf8.encode "/\t/evil.example".toList) ≠
        some opsSite.toOrigin := by
  have hstored : redirectAfter (Utf8.encode "/\t/evil.example".toList) = "/\t/evil.example" := by
    rw [redirectAfter, Utf8.runes_encode]
    decide
  rw [redirectOrigin_eq, hstored]
  decide

end OpsPlatform.Iam
