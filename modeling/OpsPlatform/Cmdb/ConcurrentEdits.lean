/-
Two calls of `UpdateAsset` at the same time (`internal/cmdb/repository.go`), among the statements
of a sync.

A call reads the whole row, puts the fields of its request into it and writes every column back,
in two statements without a transaction around them.  A call whose write comes between the two
statements of the other one is undone by it.
-/
import OpsPlatform.Cmdb.AwsWriter
import OpsPlatform.Lib.Run

namespace OpsPlatform.Cmdb

open Lib Lib.Run Lib.Table Lib.Text SshProxy

/-- The columns that a request can set. -/
inductive AssetField where
  | name
  | status
  | env
  | publicIP
  | privateIP
  | privateDNS
  | region
  | zone
  | accountID
  | instanceType
  | osImage
  | vpcID
  | subnetID
  | owner
  | businessUnit
  | criticality
  | expiresAt
  /-- set by `labels` and, in their absence, by `tags` -/
  | labels

namespace AssetField

def Value : AssetField → Type
  | expiresAt => Option Time
  | labels => Json
  | _ => String

def get (a : AssetRow) : (f : AssetField) → f.Value
  | name => a.name
  | status => a.status
  | env => a.env
  | publicIP => a.publicIp
  | privateIP => a.privateIp
  | privateDNS => a.privateDns
  | region => a.region
  | zone => a.zone
  | accountID => a.accountId
  | instanceType => a.instanceType
  | osImage => a.osImage
  | vpcID => a.vpcId
  | subnetID => a.subnetId
  | owner => a.owner
  | businessUnit => a.businessUnit
  | criticality => a.criticality
  | expiresAt => a.expiresAt
  | labels => a.labels

/-- The form in which a value is stored. -/
def normalise : (f : AssetField) → f.Value → f.Value
  | name, v => v
  | status, v => v
  | env, v => v
  | publicIP, v => trimSpace v
  | privateIP, v => trimSpace v
  | privateDNS, v => trimSpace v
  | region, v => trimSpace v
  | zone, v => trimSpace v
  | accountID, v => trimSpace v
  | instanceType, v => trimSpace v
  | osImage, v => trimSpace v
  | vpcID, v => trimSpace v
  | subnetID, v => trimSpace v
  | owner, v => trimSpace v
  | businessUnit, v => trimSpace v
  | criticality, v => trimSpace v
  | expiresAt, v => v
  | labels, v => v

/-- The value that the request has for the field. -/
def requested (req : UpdateAssetRequest) : (f : AssetField) → Option f.Value
  | name => req.name
  | status => req.status
  | env => req.env
  | publicIP => req.publicIP
  | privateIP => req.privateIP
  | privateDNS => req.privateDNS
  | region => req.region
  | zone => req.zone
  | accountID => req.accountID
  | instanceType => req.instanceType
  | osImage => req.osImage
  | vpcID => req.vpcID
  | subnetID => req.subnetID
  | owner => req.owner
  | businessUnit => req.businessUnit
  | criticality => req.criticality
  | expiresAt => req.expiresAt.map some
  | labels => (req.labels.or req.tags).map .obj

/-- The columns that a sync refreshes. -/
def observed : AssetField → Bool
  | region | accountID | owner | businessUnit | criticality | expiresAt | labels => false
  | _ => true

end AssetField

/-! ### The statements -/

/-- The `UPDATE` of `UpdateAsset`, with the asset that was read before. -/
def updateStatement (db : Db) (now : Time) (current : AssetRow) (req : UpdateAssetRequest) :
    Except String Db :=
  let hit : AssetRow → Bool := fun a => a.id == current.id && a.live
  let assign := assignAsset now (req.applyTo current)
  match db.cmdbAsset.find? hit with
  | none => .error errAssetNotFound
  | some row =>
    if violatesIndex db.cmdbAsset (assign row) then .error errDuplicateAsset
    else .ok { db with cmdbAsset := updateWhere hit assign db.cmdbAsset }

/-- Without anything in between, the two statements are the call. -/
lemma updateAsset_eq_statements (db : Db) (now : Time) (assetID : String)
    (req : UpdateAssetRequest) :
    updateAsset db now assetID req =
      (getAsset db assetID >>= fun current => updateStatement db now current req) := by
  rw [updateAsset]
  cases hget : getAsset db assetID with
  | error e => rfl
  | ok current =>
    have hfound : db.cmdbAsset.find? (fun a => a.id == current.id && a.live) = some current := by
      rw [getAsset, Except.bind_eq_ok] at hget
      obtain ⟨id, -, hget⟩ := hget
      split at hget
      · cases hget
      · next a ha =>
        obtain rfl := Except.ok.inj hget
        have hhit := List.find?_some ha
        rw [Bool.and_eq_true, beq_iff_eq] at hhit
        rw [hhit.1]
        exact ha
    simp only [bind, Except.bind, updateStatement, hfound]

/-- The two calls. -/
inductive Caller where
  | one
  | two
deriving DecidableEq

def Caller.other : Caller → Caller
  | one => two
  | two => one

/-- Where a call is. -/
inductive CallPhase where
  | start
  /-- the row was read -/
  | read (current : AssetRow)
  | returned (ok : Bool)

structure Race where
  db : Db
  phase : Caller → CallPhase := fun _ => .start
  /-- a sync has refreshed the row since the call wrote it -/
  refreshed : Caller → Bool := fun _ => false

/-- Both calls have succeeded. -/
def Race.Succeeded (s : Race) : Prop := ∀ w, s.phase w = .returned true

inductive RaceLabel where
  | select (w : Caller)
  | update (w : Caller) (now : Time)
  | upsertAsset (now : Time) (newId : Uuid) (item : AssetUpsert)

section

variable (assetID : String) (req : Caller → UpdateAssetRequest)

/-- The item goes to the row of the asset. -/
def hitsAsset (db : Db) (new : AssetRow) : Bool :=
  db.cmdbAsset.any fun a => some a.id == Uuid.parse assetID && a.cloudKey == new.cloudKey

def Race.step (s : Race) : RaceLabel → Race
  | .select w =>
    match s.phase w with
    | .start =>
      match getAsset s.db assetID with
      | .ok a => { s with phase := Function.update s.phase w (.read a) }
      | .error _ => { s with phase := Function.update s.phase w (.returned false) }
    | _ => s
  | .update w now =>
    match s.phase w with
    | .read current =>
      match updateStatement s.db now current (req w) with
      | .ok db' =>
        { db := db'
          phase := Function.update s.phase w (.returned true)
          refreshed := Function.update s.refreshed w false }
      | .error _ => { s with phase := Function.update s.phase w (.returned false) }
    | _ => s
  | .upsertAsset now newId item =>
    match upsertAsset s.db now newId item with
    | .ok db' =>
      { s with
        db := db'
        refreshed := fun w => s.refreshed w ||
          hitsAsset assetID s.db (observedAsset now newId item.withDefaults) }
    | .error _ => s

end

/-- No `UPDATE` comes between the two statements of the other call. -/
def Separate (s : Race) : RaceLabel → Prop
  | .update w _ => (∃ current, s.phase w = .read current) →
      ∀ current, s.phase w.other ≠ .read current
  | _ => True

/-- No column is set by both requests. -/
def DisjointRequests (req : Caller → UpdateAssetRequest) : Prop :=
  ∀ f : AssetField, f.requested (req .one) = none ∨ f.requested (req .two) = none

/-! ### The columns -/

namespace AssetField

/-- An update stores what the request has, or else what was read. -/
lemma get_assign (f : AssetField) (now : Time) (req : UpdateAssetRequest) (current row : AssetRow) :
    f.get (assignAsset now (req.applyTo current) row) =
      f.normalise ((f.requested req).getD (f.get current)) := by
  cases f with
  | expiresAt =>
    show req.expiresAt.or current.expiresAt = (req.expiresAt.map some).getD current.expiresAt
    cases req.expiresAt <;> rfl
  | labels =>
    show applyLabelsUpdate current.labels req =
      ((req.labels.or req.tags).map Json.obj).getD current.labels
    rw [applyLabelsUpdate]
    cases req.labels
    · cases req.tags <;> rfl
    · rfl
  | _ => rfl

lemma normalise_normalise (f : AssetField) (v : f.Value) :
    f.normalise (f.normalise v) = f.normalise v := by
  cases f with
  | name | status | env | expiresAt | labels => rfl
  | _ => exact trimSpace_trimSpace v

lemma get_refresh {f : AssetField} (h : f.observed = false) (now : Time) (excluded row : AssetRow) :
    f.get (refreshAsset now excluded row) = f.get row := by
  cases f <;> first | rfl | cases h

end AssetField

lemma Caller.other_ne (w : Caller) : w.other ≠ w := by
  cases w <;> decide

lemma Caller.eq_or_eq_other (w w' : Caller) : w' = w ∨ w' = w.other := by
  cases w <;> cases w' <;> decide

/-! ### The invariant -/

section

variable {assetID : String} {req : Caller → UpdateAssetRequest} {x : Uuid} {s : Race}

/-- The asset has what the call has set, but for columns that a sync has refreshed since. -/
def HeldIn (req : Caller → UpdateAssetRequest) (s : Race) (w : Caller) (a : AssetRow) : Prop :=
  ∀ (f : AssetField) (v : f.Value), f.requested (req w) = some v →
    (f.observed = true → s.refreshed w = false) → f.get a = f.normalise v

/-- A call that has returned is in the row, and in what the other one has read. -/
structure RaceInv (req : Caller → UpdateAssetRequest) (x : Uuid) (s : Race) : Prop where
  ids : (s.db.cmdbAsset.map (·.id)).Nodup
  row : ∃ a ∈ s.db.cmdbAsset, a.id = x ∧ a.live = true
  read : ∀ w current, s.phase w = .read current → current.id = x ∧
    (s.phase w.other = .returned true → HeldIn req s w.other current)
  held : ∀ w, s.phase w = .returned true → ∀ a ∈ s.db.cmdbAsset, a.id = x → HeldIn req s w a

/-- A call that has nothing to show leaves the invariant as it is. -/
lemma RaceInv.phase (h : RaceInv req x s) {w : Caller} {p : CallPhase} (hp : p ≠ .returned true)
    (hread : ∀ current, p = .read current → current.id = x ∧
      (s.phase w.other = .returned true → HeldIn req s w.other current)) :
    RaceInv req x { s with phase := Function.update s.phase w p } where
  ids := h.ids
  row := h.row
  read := by
    intro w' current hw'
    dsimp only at hw' ⊢
    rcases Caller.eq_or_eq_other w w' with rfl | rfl
    · rw [Function.update_self] at hw'
      rw [Function.update_of_ne w'.other_ne]
      exact hread current hw'
    · rw [Function.update_of_ne w.other_ne] at hw'
      refine ⟨(h.read _ current hw').1, ?_⟩
      have hback : w.other.other = w := by cases w <;> rfl
      rw [hback, Function.update_self]
      intro hreturned
      exact absurd hreturned hp
  held := by
    intro w' hw'
    dsimp only at hw' ⊢
    rcases Caller.eq_or_eq_other w w' with rfl | rfl
    · rw [Function.update_self] at hw'
      exact absurd hw' hp
    · rw [Function.update_of_ne w.other_ne] at hw'
      exact h.held _ hw'

lemma RaceInv.select (h : RaceInv req x s) (hx : Uuid.parse assetID = some x) (w : Caller) :
    RaceInv req x (s.step assetID req (.select w)) := by
  rw [Race.step]
  split
  · split
    · next a hget =>
      obtain ⟨hid, hmem, -⟩ := getAsset_eq_ok hget
      have hax : a.id = x := Option.some.inj (hid.symm.trans hx)
      refine h.phase (by simp) ?_
      rintro current ⟨⟩
      exact ⟨hax, fun hreturned => h.held _ hreturned a hmem hax⟩
    · exact h.phase (by simp) fun current hcurrent => by cases hcurrent
  · exact h

/-- The row of the asset after the `UPDATE`, and all other rows as they were. -/
lemma updateStatement_eq_ok {db db' : Db} {now : Time} {current : AssetRow}
    {r : UpdateAssetRequest} (h : updateStatement db now current r = .ok db') :
    db'.cmdbAsset = updateWhere (fun a => a.id == current.id && a.live)
      (assignAsset now (r.applyTo current)) db.cmdbAsset := by
  rw [updateStatement] at h
  split at h
  · cases h
  · rw [Except.ite_error_eq_ok] at h
    rw [← Except.ok.inj h.2]

lemma RaceInv.update (h : RaceInv req x s) (hdisjoint : DisjointRequests req) {w : Caller}
    {now : Time} (hsep : Separate s (.update w now)) :
    RaceInv req x (s.step assetID req (.update w now)) := by
  rw [Race.step]
  split
  · next current hphase =>
    split
    · next db' hok =>
      have hdb' := updateStatement_eq_ok hok
      obtain ⟨hid, hother⟩ := h.read w current hphase
      obtain ⟨a, ha, hax, hlive⟩ := h.row
      -- the one row that is written is the live row of the asset
      have hone : ∀ b ∈ s.db.cmdbAsset, (b.id == current.id && b.live) = true → b = a := by
        intro b hb hhit
        rw [Bool.and_eq_true, beq_iff_eq] at hhit
        exact List.inj_on_of_nodup_map h.ids hb ha (hhit.1.trans (hid.trans hax.symm))
      have hmem : ∀ b, b ∈ db'.cmdbAsset ↔
          b = assignAsset now ((req w).applyTo current) a ∨ (b ∈ s.db.cmdbAsset ∧ b ≠ a) := by
        intro b
        rw [hdb']
        exact mem_updateWhere_of_unique ha (by simp [hid, hax, hlive]) hone
      have hrow : ∀ b ∈ db'.cmdbAsset, b.id = x →
          b = assignAsset now ((req w).applyTo current) a := by
        intro b hb hbx
        rcases (hmem b).mp hb with hb | ⟨hb, hne⟩
        · exact hb
        · exact absurd (List.inj_on_of_nodup_map h.ids hb ha (hbx.trans hax.symm)) hne
      refine ⟨?_, ?_, ?_, ?_⟩
      · rw [hdb']
        refine nodup_map_updateWhere ?_ h.ids
        intro _ _
        rfl
      · exact ⟨_, (hmem _).mpr (Or.inl rfl), hax, hlive⟩
      · intro w' current' hw'
        dsimp only at hw'
        rcases Caller.eq_or_eq_other w w' with rfl | rfl
        · rw [Function.update_self] at hw'
          cases hw'
        · rw [Function.update_of_ne w.other_ne] at hw'
          exact absurd hw' (hsep ⟨current, hphase⟩ current')
      · intro w' hw' b hb hbx f v hv hfresh
        dsimp only at hw' hfresh
        rw [hrow b hb hbx, f.get_assign]
        rcases Caller.eq_or_eq_other w w' with rfl | rfl
        · rw [hv]
          rfl
        · rw [Function.update_of_ne w.other_ne] at hw'
          -- the field is not set by this call, so that it writes back what the other one has set
          have hnone : f.requested (req w) = none := by
            have hsome : f.requested (req w.other) ≠ none := by
              rw [hv]
              exact Option.some_ne_none v
            cases w with
            | one => exact (hdisjoint f).resolve_right hsome
            | two => exact (hdisjoint f).resolve_left hsome
          rw [Function.update_of_ne w.other_ne] at hfresh
          rw [hnone, Option.getD_none, hother hw' f v hv hfresh, f.normalise_normalise]
    · exact h.phase (by simp) fun current hcurrent => by cases hcurrent
  · exact h

/-- Less is said of a row that a sync has refreshed. -/
lemma HeldIn.mono {s' : Race} {w : Caller} {a : AssetRow} (h : HeldIn req s w a)
    (hmono : s'.refreshed w = false → s.refreshed w = false) : HeldIn req s' w a :=
  fun f v hv hfresh => h f v hv fun hobserved => hmono (hfresh hobserved)

lemma RaceInv.upsertAsset (h : RaceInv req x s) (hx : Uuid.parse assetID = some x) {now : Time}
    {newId : Uuid} {item : AssetUpsert} :
    RaceInv req x (s.step assetID req (.upsertAsset now newId item)) := by
  rw [Race.step]
  split
  · next db' hok =>
    obtain ⟨-, hstore⟩ := upsertAsset_eq_ok hok
    generalize observedAsset now newId item.withDefaults = new at *
    have hmono : ∀ w, (s.refreshed w || hitsAsset assetID s.db new) = false →
        s.refreshed w = false := fun w hw => (Bool.or_eq_false_iff.mp hw).1
    have hread : ∀ w current, s.phase w = .read current → current.id = x ∧
        (s.phase w.other = .returned true →
          HeldIn req { s with
            db := db', refreshed := fun w => s.refreshed w || hitsAsset assetID s.db new }
            w.other current) := by
      intro w current hw
      obtain ⟨hid, hother⟩ := h.read w current hw
      exact ⟨hid, fun hreturned => (hother hreturned).mono (hmono _)⟩
    obtain ⟨a, ha, hax, hlive⟩ := h.row
    rcases storeObserved_eq_ok hstore with ⟨hfresh, rfl⟩ | ⟨-, rfl⟩
    · refine ⟨?_, ?_, hread, ?_⟩
      · exact nodup_map_append h.ids fun b hb => (hfresh b hb).2
      · exact ⟨a, List.mem_append_left _ ha, hax, hlive⟩
      · intro w hw b hb hbx
        rcases List.mem_append.mp hb with hb | hb
        · exact (h.held w hw b hb hbx).mono (hmono w)
        · rw [List.mem_singleton.mp hb] at hbx
          exact absurd (hax.trans hbx.symm) (hfresh a ha).2
    · refine ⟨?_, ?_, hread, ?_⟩
      · refine nodup_map_updateWhere ?_ h.ids
        intro _ _
        rfl
      · by_cases hhit : (a.cloudKey == new.cloudKey) = true
        · exact ⟨_, mem_updateWhere.mpr ⟨a, ha, Or.inl ⟨hhit, rfl⟩⟩, hax, rfl⟩
        · rw [Bool.not_eq_true] at hhit
          exact ⟨a, mem_updateWhere.mpr ⟨a, ha, Or.inr ⟨hhit, rfl⟩⟩, hax, hlive⟩
      · intro w hw b hb hbx
        obtain ⟨b₀, hb₀, ⟨hhit, rfl⟩ | ⟨-, rfl⟩⟩ := mem_updateWhere.mp hb
        · intro f v hv hfresh
          -- the row of the asset was refreshed, which leaves only the other columns
          have hhits : hitsAsset assetID s.db new = true := by
            refine List.any_eq_true.mpr ⟨b₀, hb₀, ?_⟩
            rw [hhit, hx, Bool.and_true, beq_iff_eq]
            exact congrArg some hbx
          cases hobserved : f.observed with
          | true =>
            have hclear : (s.refreshed w || hitsAsset assetID s.db new) = false := hfresh hobserved
            rw [hhits, Bool.or_true] at hclear
            cases hclear
          | false =>
            rw [AssetField.get_refresh hobserved]
            refine h.held w hw b₀ hb₀ hbx f v hv ?_
            intro hyes
            rw [hobserved] at hyes
            cases hyes
        · exact (h.held w hw b hb₀ hbx).mono (hmono w)
  · exact h

lemma RaceInv.step (h : RaceInv req x s) (hx : Uuid.parse assetID = some x)
    (hdisjoint : DisjointRequests req) {l : RaceLabel} (hsep : Separate s l) :
    RaceInv req x (s.step assetID req l) := by
  cases l with
  | select w => exact h.select hx w
  | update w now => exact h.update hdisjoint hsep
  | upsertAsset now newId item => exact h.upsertAsset hx

end

/-- **Updates that do not overlap are not lost.**  Two calls of `UpdateAsset` for a live asset that
set different columns, and any number of `UpsertAsset` statements, are interleaved in any way in
which no `UPDATE` comes between the two statements of the other call.  If both succeed, the row
has in every column that one of them set the value of the request in its stored form, but for the
columns that a sync has refreshed since. -/
theorem updates_kept_of_separate {db : Db} (hids : (db.cmdbAsset.map (·.id)).Nodup)
    {assetID : String} {x : Uuid} (hx : Uuid.parse assetID = some x)
    (hrow : ∃ a ∈ db.cmdbAsset, a.id = x ∧ a.live = true) {req : Caller → UpdateAssetRequest}
    (hdisjoint : DisjointRequests req) {ls : List RaceLabel}
    (hsep : Along (Race.step assetID req) Separate { db } ls)
    (hok : (run (Race.step assetID req) { db } ls).Succeeded) :
    ∃ a ∈ (run (Race.step assetID req) { db } ls).db.cmdbAsset, a.id = x ∧ a.live = true ∧
      ∀ (w : Caller) (f : AssetField) (v : f.Value), f.requested (req w) = some v →
        (f.observed = true → (run (Race.step assetID req) { db } ls).refreshed w = false) →
          f.get a = f.normalise v := by
  have hinit : RaceInv req x { db } := by
    refine ⟨hids, hrow, ?_, ?_⟩
    · intro w current hw
      cases hw
    · intro w hw
      cases hw
  have hinv : RaceInv req x (run (Race.step assetID req) { db } ls) :=
    invariant_along (fun s l h hl => h.step hx hdisjoint hl) hinit hsep
  obtain ⟨a, ha, hax, hlive⟩ := hinv.row
  exact ⟨a, ha, hax, hlive, fun w f v => hinv.held w (hok w) a ha hax f v⟩

/-- An instance of the account 111. -/
def oneInstance : Db :=
  { cmdbAsset := [{ id := Uuid.replicate 1, type := "aws_ec2_instance", name := "web"
                    source := "aws", externalId := some "i-1", accountId := "111" }] }

/-- What a sync sees of it. -/
def instanceItem : AssetUpsert :=
  { assetType := "aws_ec2_instance", name := "web", externalID := "i-1", accountID := "111" }

/-- The requests of the two calls. -/
def requests (one two : UpdateAssetRequest) : Caller → UpdateAssetRequest
  | .one => one
  | .two => two

/-- `oneInstance` after two calls. -/
def raced (one two : UpdateAssetRequest) (ls : List RaceLabel) : Race :=
  run (Race.step (Uuid.replicate 1).toText (requests one two)) { db := oneInstance } ls

/-- One call after the other, and then a sync. -/
def serialThenSync : List RaceLabel :=
  [.select .one, .update .one 1, .select .two, .update .two 2,
    .upsertAsset 3 (Uuid.replicate 2) instanceItem]

theorem updates_kept_serialThenSync :
    ∃ a ∈ (raced { owner := some "platform" } { criticality := some "high" }
        serialThenSync).db.cmdbAsset,
      a.id = Uuid.replicate 1 ∧ a.owner = "platform" ∧ a.criticality = "high" := by
  have hrow : ∃ a ∈ oneInstance.cmdbAsset, a.id = Uuid.replicate 1 ∧ a.live = true :=
    ⟨_, List.mem_singleton_self _, rfl, rfl⟩
  have hdisjoint : DisjointRequests
      (requests { owner := some "platform" } { criticality := some "high" }) := by
    intro f
    cases f with
    | owner => exact Or.inr rfl
    | _ => exact Or.inl rfl
  have hsep : Along (Race.step (Uuid.replicate 1).toText
      (requests { owner := some "platform" } { criticality := some "high" })) Separate
      { db := oneInstance } serialThenSync := by
    refine ⟨trivial, ?_, trivial, ?_, trivial, trivial⟩
    · rintro - current ⟨⟩
    · rintro - current ⟨⟩
  obtain ⟨a, ha, hid, -, hkept⟩ := updates_kept_of_separate (by decide)
    (Uuid.parse_toText (Uuid.replicate 1)) hrow hdisjoint hsep fun w => by cases w <;> rfl
  refine ⟨a, ha, hid, ?_, ?_⟩
  · exact hkept .one .owner "platform" rfl fun hobserved => nomatch hobserved
  · exact hkept .two .criticality "high" rfl fun hobserved => nomatch hobserved

/-- Both calls in their first statements before either writes. -/
def overlapping : List RaceLabel :=
  [.select .one, .select .two, .update .one 1, .update .two 2]

/-- Both calls succeed, and the row does not have what they set: the second call writes back what
it read before the first one wrote; a sync refreshes the name; white space is trimmed; and `tags`
replaces `labels`. -/
theorem updates_lost :
    ((raced { owner := some "platform" } { criticality := some "high" } overlapping).Succeeded ∧
      ((raced { owner := some "platform" } { criticality := some "high" }
        overlapping).db.cmdbAsset.map fun a => (a.owner, a.criticality)) = [("", "high")]) ∧
    ((raced { name := some "db" } { criticality := some "high" } serialThenSync).Succeeded ∧
      ((raced { name := some "db" } { criticality := some "high" }
        serialThenSync).db.cmdbAsset.map fun a => (a.name, a.criticality)) = [("web", "high")]) ∧
    ((raced { owner := some " platform " } { criticality := some "high" }
        serialThenSync).Succeeded ∧
      ((raced { owner := some " platform " } { criticality := some "high" }
        serialThenSync).db.cmdbAsset.map fun a => (a.owner, a.criticality)) =
          [("platform", "high")]) ∧
    ((raced { labels := some [("team", .bool true)] } { tags := some [] }
        serialThenSync).Succeeded ∧
      ((raced { labels := some [("team", .bool true)] } { tags := some [] }
        serialThenSync).db.cmdbAsset.map fun a => a.labels) = [.obj []]) := by
  refine ⟨⟨?_, rfl⟩, ⟨?_, rfl⟩, ⟨?_, rfl⟩, ?_, rfl⟩
  all_goals
    intro w
    cases w <;> rfl

end OpsPlatform.Cmdb
