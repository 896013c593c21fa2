/-
Requests that are served one after the other, as changes of the two tables.

`Bastion.Repository` models a call as one step on the database, `Bastion.Interleaving` as a
sequence of statements.  Both come down to the changes of `Bastion.Lifecycle`: a call that
succeeds makes one enabled change, or it revokes grants, and the tables stay consistent.
-/
import OpsPlatform.Bastion.Lifecycle
import OpsPlatform.Bastion.TwoPersonRule

namespace OpsPlatform.Bastion

open Lib Lib.Run Lib.Table Lib.ReadCommitted

/-- The two tables of the package. -/
def tablesOf (db : Db) : Tables := ⟨db.bastionRequest, db.bastionGrant⟩

/-- What a call that succeeds does to the tables: it makes a change, or it assigns to columns
of grants that their requests do not see. -/
inductive Effect (t : Tables) : Tables → Prop
  | change (c : Change) (h : c.Enabled t) : Effect t (c.apply t)
  | revoke (p : GrantRow → Bool) (f : GrantRow → GrantRow)
      (h : ∀ g, (f g).id = g.id ∧ (f g).requestId = g.requestId ∧ (f g).userId = g.userId ∧
        (f g).assetId = g.assetId) : Effect t ⟨t.requests, updateWhere p f t.grants⟩

/-! ### Consistency is kept -/

section

variable {t t' : Tables}

lemma Matches.revoke {r : RequestRow} {g g' : GrantRow} (h : Matches r g)
    (hg : g'.id = g.id ∧ g'.requestId = g.requestId ∧ g'.userId = g.userId ∧
      g'.assetId = g.assetId) : Matches r g' := by
  obtain ⟨hid, hrequest, huser, hasset⟩ := hg
  exact ⟨hrequest.trans h.requestId, by rw [hid, h.grantId], huser.trans h.userId,
    hasset.trans h.assetId⟩

lemma Consistent.revoke (h : Consistent t) {p : GrantRow → Bool} {f : GrantRow → GrantRow}
    (hf : ∀ g, (f g).id = g.id ∧ (f g).requestId = g.requestId ∧ (f g).userId = g.userId ∧
      (f g).assetId = g.assetId) : Consistent ⟨t.requests, updateWhere p f t.grants⟩ := by
  -- every row comes from one with the same request
  have hold : ∀ g' ∈ updateWhere p f t.grants, ∃ g ∈ t.grants, g'.requestId = g.requestId ∧
      g' = if p g then f g else g := by
    intro g' hg'
    obtain ⟨g, hg, ⟨hp, rfl⟩ | ⟨hp, rfl⟩⟩ := mem_updateWhere.mp hg'
    · exact ⟨g, hg, (hf g).2.1, by simp [hp]⟩
    · exact ⟨g', hg, rfl, by simp [hp]⟩
  refine ⟨h.requestKeys, nodup_map_updateWhere (fun g _ => (hf g).1) h.grantKeys, ?_, ?_, ?_⟩
  · intro g' hg' id hid
    obtain ⟨g, hg, hrequest, -⟩ := hold g' hg'
    exact h.known g hg id (hrequest.symm.trans hid)
  · intro r hr hstatus g' hg' hid
    obtain ⟨g, hg, hrequest, -⟩ := hold g' hg'
    exact h.undecided r hr hstatus g hg (hrequest.symm.trans hid)
  · intro r hr hstatus
    obtain ⟨g, hg, hmatches, honly⟩ := h.approved r hr hstatus
    refine ⟨if p g then f g else g, ?_, ?_, ?_⟩
    · refine mem_updateWhere.mpr ⟨g, hg, ?_⟩
      cases hp : p g with
      | true => exact Or.inl ⟨rfl, by simp⟩
      | false => exact Or.inr ⟨rfl, by simp⟩
    · split
      · exact hmatches.revoke (hf g)
      · exact hmatches
    · intro g' hg' hid
      obtain ⟨g₀, hg₀, hrequest, rfl⟩ := hold g' hg'
      rw [honly g₀ hg₀ (hrequest.symm.trans hid)]

lemma Consistent.effect (h : Consistent t) (he : Effect t t') : Consistent t' := by
  cases he with
  | change c hc => exact h.apply hc
  | revoke p f hf => exact h.revoke hf

end

/-! ### The calls -/

section

variable {db db' : Db} {now : Time} {newId : Uuid}

lemma createGrant_effect {input : CreateGrantInput} {granterID : Uuid} {g : GrantRow}
    (hdirect : input.requestID = "")
    (h : createGrant db now newId input granterID = .ok (db', g)) :
    Effect (tablesOf db) (tablesOf db') := by
  rw [createGrant, Except.bind_eq_ok] at h
  obtain ⟨g', hg', h⟩ := h
  obtain ⟨rfl, rfl, hfresh⟩ := insertGrant_eq_ok h
  have hnone : g.requestId = none := by
    have harg := (grantOfInput_eq_ok hg').2.2.2.2
    rw [hdirect] at harg
    exact (Except.ok.inj harg).symm
  have hfind : findGrant db.bastionGrant g.id = none := find_eq_none.mpr hfresh
  have happly : tablesOf { db with bastionGrant := db.bastionGrant ++ [g] } =
      (Change.createGrant g).apply (tablesOf db) :=
    Tables.ext rfl (install_of_none hfind).symm
  rw [happly]
  exact .change _ ⟨hfind, hnone⟩

lemma revokeGrant_effect {input : RevokeGrantInput} {revokerName : String}
    (h : revokeGrant db now input revokerName = .ok db') :
    Effect (tablesOf db) (tablesOf db') := by
  obtain ⟨id, -, -, rfl⟩ := revokeGrant_eq_ok h
  refine .revoke _ _ ?_
  exact fun g => ⟨rfl, rfl, rfl, rfl⟩

lemma createRequest_effect {input : CreateRequestInput} {r : RequestRow}
    (h : createRequest db now newId input = .ok (db', r)) :
    Effect (tablesOf db) (tablesOf db') := by
  obtain ⟨hr, hfresh, rfl⟩ := createRequest_eq_ok h
  obtain ⟨hid, -, hpending, -⟩ := requestOfInput_eq_ok hr
  have hfind : findRequest db.bastionRequest r.id = none := by
    rw [findRequest, find_eq_none, hid]
    exact hfresh
  have happly : tablesOf { db with bastionRequest := db.bastionRequest ++ [r] } =
      (Change.createRequest r).apply (tablesOf db) :=
    Tables.ext (install_of_none hfind).symm rfl
  rw [happly]
  exact .change _ ⟨hfind, hpending⟩

lemma approveRequest_effect {input : DecideRequestInput} {approverName : String} {r' : RequestRow}
    {g : GrantRow} (hkeys : (db.bastionRequest.map (·.id)).Nodup)
    (h : approveRequest db now newId input approverName = .ok (db', r', g)) :
    Effect (tablesOf db) (tablesOf db') := by
  obtain ⟨id, r, -, hfind, hpending, -, rfl, hfresh, rfl⟩ := approveRequest_eq_ok h
  obtain rfl : r.id = id := key_of_find hfind
  have hgrant : findGrant db.bastionGrant newId = none := find_eq_none.mpr hfresh
  have hinstall : install RequestRow.id db.bastionRequest (r.approve now newId input approverName) =
      updateWhere (·.id == r.id) (fun r => r.approve now newId input approverName)
        db.bastionRequest := by
    refine install_eq_updateWhere (f := fun r => r.approve now newId input approverName) hkeys
      (mem_of_find hfind) ?_ ?_ ?_
    · exact beq_self_eq_true r.id
    · intro r₀ _ hhit
      exact beq_iff_eq.mp hhit
    · rfl
  have happly : tablesOf { db with
        bastionGrant := db.bastionGrant ++ [grantOfRequest now newId input approverName r]
        bastionRequest := updateWhere (·.id == r.id)
          (fun r => r.approve now newId input approverName) db.bastionRequest } =
      (Change.approve r (r.approve now newId input approverName)
        (grantOfRequest now newId input approverName r)).apply (tablesOf db) :=
    Tables.ext hinstall.symm (install_of_none hgrant).symm
  rw [happly]
  exact .change _ ⟨hfind, hpending, hgrant, rfl, rfl, rfl, rfl, rfl, rfl⟩

/-- A rejection or a cancellation; `assign` are its assignments. -/
lemma decideRequest_effect {requestID : String} {guard : RequestRow → Bool}
    {assign : RequestRow → RequestRow} (hkeys : (db.bastionRequest.map (·.id)).Nodup)
    (hassign : ∀ r, (assign r).id = r.id ∧
      ((assign r).status = .rejected ∨ (assign r).status = .cancelled))
    (h : decideRequest db requestID guard assign = .ok db') :
    Effect (tablesOf db) (tablesOf db') := by
  obtain ⟨id, -, ⟨r, hr, rfl, hguard, hpending⟩, rfl⟩ := decideRequest_eq_ok h
  have hfind : findRequest db.bastionRequest r.id = some r := by
    refine find?_eq_of_nodup hkeys hr (by simp) ?_
    intro r₀ _ hr₀
    simpa using hr₀
  have hinstall : install RequestRow.id db.bastionRequest (assign r) =
      updateWhere (fun r₀ => r₀.id == r.id && guard r₀ && r₀.status == .pending) assign
        db.bastionRequest := by
    refine install_eq_updateWhere hkeys hr (by simp [hguard, hpending]) ?_ (hassign r).1
    intro r₀ _ hhit
    simp only [Bool.and_eq_true, beq_iff_eq] at hhit
    exact hhit.1.1
  have happly : tablesOf { db with
        bastionRequest := updateWhere
          (fun r₀ => r₀.id == r.id && guard r₀ && r₀.status == .pending) assign
          db.bastionRequest } = (Change.decide r (assign r)).apply (tablesOf db) :=
    Tables.ext hinstall.symm rfl
  rw [happly]
  exact .change _ ⟨hfind, hpending, hassign r⟩

/-- A request that is served with success has one effect on the tables. -/
lemma serve_effect {call : Call} (hkeys : (db.bastionRequest.map (·.id)).Nodup)
    (h : serve db call = .ok db') : Effect (tablesOf db) (tablesOf db') := by
  cases call with
  | createGrant identity body newId now =>
    obtain ⟨g, hg⟩ := Except.map_fst_eq_ok (gate_eq_ok h)
    obtain ⟨input, hdirect, hg⟩ := Handler.exists_createGrant hg
    exact createGrant_effect hdirect hg
  | revokeGrant identity grantID reason now =>
    exact revokeGrant_effect (Except.mapError_eq_ok.mp (gate_eq_ok h))
  | createRequest identity body newId now =>
    obtain ⟨r, hr⟩ := Except.map_fst_eq_ok (gate_eq_ok h)
    obtain ⟨input, hr⟩ := Handler.exists_createRequest hr
    exact createRequest_effect hr
  | cancelRequest identity requestID now =>
    refine decideRequest_effect hkeys ?_ (Except.mapError_eq_ok.mp (gate_eq_ok h))
    exact fun r => ⟨rfl, Or.inr rfl⟩
  | approveRequest identity requestID reason newId now =>
    obtain ⟨⟨r', g⟩, hg⟩ := Except.map_fst_eq_ok (gate_eq_ok h)
    exact approveRequest_effect hkeys (Handler.approveRequest_eq_ok hg).2
  | rejectRequest identity requestID reason now =>
    refine decideRequest_effect hkeys ?_ (Except.mapError_eq_ok.mp (gate_eq_ok h))
    exact fun r => ⟨rfl, Or.inl rfl⟩

end

/-- **Requests and grants agree.**  After every sequence of requests to the routes, from tables
that are consistent, such as empty ones, the tables are consistent. -/
theorem consistent_run {db : Db} (h : Consistent (tablesOf db)) (calls : List Call) :
    Consistent (tablesOf (run exec db calls)) := by
  refine invariant (I := fun db => Consistent (tablesOf db)) ?_ h calls
  intro db call hdb
  rw [exec]
  split
  · next db' hserve => exact hdb.effect (serve_effect hdb.requestKeys hserve)
  · exact hdb

end OpsPlatform.Bastion
