/-
The life of access requests and their grants, over whatever way the two tables are written.

A `Change` is what one call does to the tables when it takes effect: the rows that it installs,
and what it has made sure of before (`Enabled`).  `Consistent` ties the tables together, and
every enabled change keeps it; a request that has been decided keeps its decision.  The
condition of a change is about the rows under the keys that it writes and about nothing else
(`Enabled.congr`), so that a call which holds these rows can rely on it until it commits.
-/
import OpsPlatform.Bastion.Repository
import OpsPlatform.Lib.ReadCommitted

namespace OpsPlatform.Bastion

open Lib Lib.Table Lib.ReadCommitted

/-- `bastion_request` and `bastion_grant`. -/
@[ext] structure Tables where
  requests : List RequestRow
  grants : List GrantRow

abbrev findRequest (rows : List RequestRow) (id : Uuid) : Option RequestRow :=
  find RequestRow.id rows id

abbrev findGrant (rows : List GrantRow) (id : Uuid) : Option GrantRow := find GrantRow.id rows id

/-- The grants that were made for the request `id`. -/
def GrantRow.isFor (id : Uuid) (g : GrantRow) : Bool := g.requestId == some id

/-- The status of the request `id`, when there is one. -/
def Tables.status (t : Tables) (id : Uuid) : Option RequestStatus :=
  (findRequest t.requests id).map (·.status)

/-- The grant says what the request says, and the request names the grant. -/
structure Matches (r : RequestRow) (g : GrantRow) : Prop where
  requestId : g.requestId = some r.id
  grantId : r.grantId = some g.id
  userId : g.userId = r.userId
  assetId : g.assetId = r.assetId

/-- The two tables agree: a request has one grant if it is approved, and none otherwise. -/
structure Consistent (t : Tables) : Prop where
  requestKeys : (t.requests.map (·.id)).Nodup
  grantKeys : (t.grants.map (·.id)).Nodup
  known : ∀ g ∈ t.grants, ∀ id, g.requestId = some id → ∃ r ∈ t.requests, r.id = id
  undecided : ∀ r ∈ t.requests, r.status ≠ .approved → ∀ g ∈ t.grants, g.requestId ≠ some r.id
  approved : ∀ r ∈ t.requests, r.status = .approved →
    ∃ g ∈ t.grants, Matches r g ∧ ∀ g' ∈ t.grants, g'.requestId = some r.id → g' = g

lemma consistent_nil : Consistent ⟨[], []⟩ := by
  refine ⟨by simp, by simp, ?_, ?_, ?_⟩ <;> simp

/-! ### Changes -/

/-- What a call does to the tables. -/
inductive Change where
  | createRequest (r : RequestRow)
  | createGrant (g : GrantRow)
  | approve (r r' : RequestRow) (g : GrantRow)
  | decide (r r' : RequestRow)

namespace Change

/-- The versions of requests that are installed. -/
def requests : Change → List RequestRow
  | createRequest r => [r]
  | createGrant _ => []
  | approve _ r' _ => [r']
  | decide _ r' => [r']

/-- The versions of grants that are installed. -/
def grants : Change → List GrantRow
  | createRequest _ => []
  | createGrant g => [g]
  | approve _ _ g => [g]
  | decide _ _ => []

def apply (t : Tables) (c : Change) : Tables where
  requests := c.requests.foldl (install RequestRow.id) t.requests
  grants := c.grants.foldl (install GrantRow.id) t.grants

/-- What a call has made sure of when it takes effect. -/
def Enabled (t : Tables) : Change → Prop
  | createRequest r => findRequest t.requests r.id = none ∧ r.status = .pending
  | createGrant g => findGrant t.grants g.id = none ∧ g.requestId = none
  | approve r r' g =>
    findRequest t.requests r.id = some r ∧ r.status = .pending ∧ findGrant t.grants g.id = none ∧
      r'.id = r.id ∧ r'.status = .approved ∧ Matches r' g
  | decide r r' =>
    findRequest t.requests r.id = some r ∧ r.status = .pending ∧ r'.id = r.id ∧
      (r'.status = .rejected ∨ r'.status = .cancelled)

/-- Only the rows that are written matter. -/
lemma Enabled.congr {t t' : Tables} {c : Change} (h : Enabled t c)
    (hr : ∀ r ∈ c.requests, findRequest t'.requests r.id = findRequest t.requests r.id)
    (hg : ∀ g ∈ c.grants, findGrant t'.grants g.id = findGrant t.grants g.id) : Enabled t' c := by
  cases c with
  | createRequest r =>
    have hr := hr r List.mem_cons_self
    exact ⟨hr.trans h.1, h.2⟩
  | createGrant g =>
    have hg := hg g List.mem_cons_self
    exact ⟨hg.trans h.1, h.2⟩
  | approve r r' g =>
    obtain ⟨hfind, hpending, hfresh, hid, hrest⟩ := h
    have hr := hr r' List.mem_cons_self
    have hg := hg g List.mem_cons_self
    rw [hid] at hr
    exact ⟨hr.trans hfind, hpending, hg.trans hfresh, hid, hrest⟩
  | decide r r' =>
    obtain ⟨hfind, hpending, hid, hrest⟩ := h
    have hr := hr r' List.mem_cons_self
    rw [hid] at hr
    exact ⟨hr.trans hfind, hpending, hid, hrest⟩

end Change

/-! ### Consistency is kept -/

section

variable {t : Tables}

/-- A request without grants is replaced by one that is not approved. -/
lemma Consistent.install_request (h : Consistent t) {r' : RequestRow}
    (hstatus : r'.status ≠ .approved) (hnone : ∀ g ∈ t.grants, g.requestId ≠ some r'.id) :
    Consistent ⟨install RequestRow.id t.requests r', t.grants⟩ := by
  refine ⟨nodup_install h.requestKeys r', h.grantKeys, ?_, ?_, ?_⟩
  · intro g hg id hid
    obtain ⟨r, hr, rfl⟩ := h.known g hg id hid
    by_cases hkey : r.id = r'.id
    · exact ⟨r', mem_install.mpr (Or.inl rfl), hkey.symm⟩
    · exact ⟨r, mem_install.mpr (Or.inr ⟨hr, hkey⟩), rfl⟩
  · intro r hr hr' g hg
    rcases mem_install.mp hr with rfl | ⟨hr, -⟩
    · exact hnone g hg
    · exact h.undecided r hr hr' g hg
  · intro r hr hr'
    rcases mem_install.mp hr with rfl | ⟨hr, -⟩
    · exact absurd hr' hstatus
    · exact h.approved r hr hr'

/-- A grant without a request is added. -/
lemma Consistent.install_grant (h : Consistent t) {g : GrantRow}
    (hfresh : findGrant t.grants g.id = none) (hnone : g.requestId = none) :
    Consistent ⟨t.requests, install GrantRow.id t.grants g⟩ := by
  have hmem : ∀ g', g' ∈ install GrantRow.id t.grants g ↔ g' ∈ t.grants ∨ g' = g :=
    fun _ => mem_install_of_none hfresh
  refine ⟨h.requestKeys, nodup_install h.grantKeys g, ?_, ?_, ?_⟩
  · intro g' hg' id hid
    rcases (hmem g').mp hg' with hg' | rfl
    · exact h.known g' hg' id hid
    · rw [hnone] at hid
      cases hid
  · intro r hr hr' g' hg' hid
    rcases (hmem g').mp hg' with hg' | rfl
    · exact h.undecided r hr hr' g' hg' hid
    · rw [hnone] at hid
      cases hid
  · intro r hr hr'
    obtain ⟨g₀, hg₀, hmatches, honly⟩ := h.approved r hr hr'
    refine ⟨g₀, (hmem g₀).mpr (Or.inl hg₀), hmatches, ?_⟩
    intro g' hg' hid
    rcases (hmem g').mp hg' with hg' | rfl
    · exact honly g' hg' hid
    · rw [hnone] at hid
      cases hid

/-- A request without grants is replaced by an approved one, together with its grant. -/
lemma Consistent.install_approved (h : Consistent t) {r' : RequestRow} {g : GrantRow}
    (hfresh : findGrant t.grants g.id = none) (hstatus : r'.status = .approved)
    (hmatches : Matches r' g) (hnone : ∀ g' ∈ t.grants, g'.requestId ≠ some r'.id) :
    Consistent ⟨install RequestRow.id t.requests r', install GrantRow.id t.grants g⟩ := by
  have hmem : ∀ g', g' ∈ install GrantRow.id t.grants g ↔ g' ∈ t.grants ∨ g' = g :=
    fun _ => mem_install_of_none hfresh
  -- the keys, the requests of the grants, the undecided requests, the approved ones
  refine ⟨nodup_install h.requestKeys r', nodup_install h.grantKeys g, ?_, ?_, ?_⟩
  · intro g' hg' id hid
    rcases (hmem g').mp hg' with hg' | rfl
    · obtain ⟨r, hr, rfl⟩ := h.known g' hg' id hid
      by_cases hkey : r.id = r'.id
      · exact ⟨r', mem_install.mpr (Or.inl rfl), hkey.symm⟩
      · exact ⟨r, mem_install.mpr (Or.inr ⟨hr, hkey⟩), rfl⟩
    · rw [hmatches.requestId] at hid
      exact ⟨r', mem_install.mpr (Or.inl rfl), Option.some.inj hid⟩
  · intro r hr hr' g' hg' hid
    rcases mem_install.mp hr with rfl | ⟨hr, hkey⟩
    · exact hr' hstatus
    · rcases (hmem g').mp hg' with hg' | rfl
      · exact h.undecided r hr hr' g' hg' hid
      · rw [hmatches.requestId] at hid
        exact hkey (Option.some.inj hid).symm
  · intro r hr hr'
    rcases mem_install.mp hr with rfl | ⟨hr, hkey⟩
    · refine ⟨g, (hmem g).mpr (Or.inr rfl), hmatches, ?_⟩
      intro g' hg' hid
      rcases (hmem g').mp hg' with hg' | rfl
      · exact absurd hid (hnone g' hg')
      · rfl
    · obtain ⟨g₀, hg₀, hmatches₀, honly⟩ := h.approved r hr hr'
      refine ⟨g₀, (hmem g₀).mpr (Or.inl hg₀), hmatches₀, ?_⟩
      intro g' hg' hid
      rcases (hmem g').mp hg' with hg' | rfl
      · exact honly g' hg' hid
      · rw [hmatches.requestId] at hid
        exact absurd (Option.some.inj hid).symm hkey

/-- A pending request has no grants. -/
lemma Consistent.no_grant_of_pending (h : Consistent t) {r : RequestRow}
    (hr : findRequest t.requests r.id = some r) (hpending : r.status = .pending) :
    ∀ g ∈ t.grants, g.requestId ≠ some r.id :=
  h.undecided r (mem_of_find hr) (by rw [hpending]; decide)

/-- An enabled change keeps the tables consistent. -/
lemma Consistent.apply (h : Consistent t) {c : Change} (hc : c.Enabled t) :
    Consistent (c.apply t) := by
  cases c with
  | createRequest r =>
    obtain ⟨hfresh, hpending⟩ := hc
    refine h.install_request (by rw [hpending]; decide) ?_
    intro g hg hid
    -- a grant that named the request would have found it in the table
    obtain ⟨r₀, hr₀, hkey⟩ := h.known g hg r.id hid
    exact find_eq_none.mp hfresh r₀ hr₀ hkey
  | createGrant g => exact h.install_grant hc.1 hc.2
  | approve r r' g =>
    obtain ⟨hfind, hpending, hfresh, hid, hstatus, hmatches⟩ := hc
    refine h.install_approved hfresh hstatus hmatches ?_
    rw [hid]
    exact h.no_grant_of_pending hfind hpending
  | decide r r' =>
    obtain ⟨hfind, hpending, hid, hstatus⟩ := hc
    refine h.install_request ?_ ?_
    · rcases hstatus with hstatus | hstatus <;> rw [hstatus] <;> decide
    · rw [hid]
      exact h.no_grant_of_pending hfind hpending

/-- A request that has been decided keeps its decision. -/
lemma Change.Enabled.status_apply {c : Change} (hc : c.Enabled t) {id : Uuid} {st : RequestStatus}
    (hst : t.status id = some st) (hdecided : st ≠ .pending) : (c.apply t).status id = some st := by
  obtain ⟨r, hr, rfl⟩ := Option.map_eq_some_iff.mp hst
  -- a version that replaces the row would replace a pending one
  have hkeep : ∀ r₀ r' : RequestRow, findRequest t.requests r₀.id = some r₀ →
      r₀.status = .pending → r'.id = r₀.id →
      findRequest (install RequestRow.id t.requests r') id = some r := by
    intro r₀ r' hfind hpending hid
    have hne : r'.id ≠ id := by
      rintro rfl
      rw [hid, hfind] at hr
      obtain rfl := Option.some.inj hr
      exact hdecided hpending
    rw [findRequest, find_install, if_neg hne]
    exact hr
  have hfound : findRequest (c.apply t).requests id = some r := by
    cases c with
    | createRequest r' =>
      have hne : r'.id ≠ id := by
        rintro rfl
        have hnone : findRequest t.requests r'.id = none := hc.1
        rw [hnone] at hr
        cases hr
      show findRequest (install RequestRow.id t.requests r') id = some r
      rw [findRequest, find_install, if_neg hne]
      exact hr
    | createGrant g => exact hr
    | approve r₀ r' g => exact hkeep r₀ r' hc.1 hc.2.1 hc.2.2.2.1
    | decide r₀ r' => exact hkeep r₀ r' hc.1 hc.2.1 hc.2.2.1
  rw [Tables.status, hfound]
  rfl

/-- No request is lost. -/
lemma Change.status_apply_ne_none {id : Uuid} (h : t.status id ≠ none) (c : Change) :
    (c.apply t).status id ≠ none := by
  rw [Tables.status, ne_eq, Option.map_eq_none_iff] at h ⊢
  exact Store.find_foldl_install_ne_none h c.requests

/-- A request is approved exactly when one grant carries its id. -/
lemma Consistent.approved_iff (h : Consistent t) {r : RequestRow} (hr : r ∈ t.requests) :
    r.status = .approved ↔ t.grants.countP (GrantRow.isFor r.id) = 1 := by
  constructor
  · intro hstatus
    obtain ⟨g, hg, hmatches, honly⟩ := h.approved r hr hstatus
    have hnodup : t.grants.Nodup := List.Nodup.of_map _ h.grantKeys
    have hcount : t.grants.countP (GrantRow.isFor r.id) = t.grants.count g := by
      rw [List.count]
      refine List.countP_congr fun g' hg' => ?_
      simp only [GrantRow.isFor, beq_iff_eq]
      constructor
      · exact honly g' hg'
      · rintro rfl
        exact hmatches.requestId
    rw [hcount, List.count_eq_one_of_mem hnodup hg]
  · intro hcount
    by_contra hstatus
    have hzero : t.grants.countP (GrantRow.isFor r.id) = 0 := by
      rw [List.countP_eq_zero]
      intro g hg hfor
      exact h.undecided r hr hstatus g hg (by simpa [GrantRow.isFor] using hfor)
    omega

end

end OpsPlatform.Bastion
