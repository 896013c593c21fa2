/-
`ReapplyPropagation`, statement by statement, among promotions and demotions.

A sync in any number of processes reads its targets, the promoted assets with their live
proxies, outside of a transaction; then it routes the peers of each target in a transaction of
its own.  In between, whole calls of `Promote` and `Demote` commit.  What a transaction has
written is not seen by the others until it commits, and a statement that needs the lock of a
row which another transaction has written does not move.

The list of targets is not looked at again: a proxy that was retired since is written into
connections all the same.
-/
import OpsPlatform.Cmdb.VpcIdentity
import OpsPlatform.Cmdb.VpcProxyInvariant
import Mathlib.Data.Fintype.Basic

namespace OpsPlatform.Cmdb.Reapply

open Lib Lib.Run Lib.Table SshProxy

/-- `target`. -/
structure Target where
  assetID : Uuid
  vpcID : String
  proxyID : Uuid
deriving DecidableEq

/-- The query of `ReapplyPropagation`. -/
def readTargets (db : Db) : List Target :=
  (propagationTargets db).map fun t => ⟨t.1.id, t.1.vpcId, t.2.id⟩

/-- Where a call of `ReapplyPropagation` stands. -/
inductive Phase where
  /-- not running, or returned -/
  | idle
  /-- before the transaction of the next target -/
  | looping (targets : List Target)
  /-- in the transaction of a target, with the peers that are left, the versions of connections
  that it has written and the keys that it has locked -/
  | writing (now : Time) (target : Target) (peers : List AssetRow) (written : List ConnectionRow)
      (locked : List Uuid) (rest : List Target)

namespace Phase

/-- The loop at its next target. -/
def next : List Target → Phase
  | [] => idle
  | targets => looping targets

/-- The targets that are still to be written. -/
def targets : Phase → List Target
  | idle => []
  | looping targets => targets
  | writing _ target _ _ _ rest => target :: rest

def written : Phase → List ConnectionRow
  | writing _ _ _ written _ _ => written
  | _ => []

def locked : Phase → List Uuid
  | writing _ _ _ _ locked _ => locked
  | _ => []

end Phase

/-- The committed tables, and the processes. -/
structure State (T : Type) where
  db : Db
  procs : T → Phase

/-- A step: a whole call of `Promote` or `Demote`, or the next statement of a process. -/
inductive Label (T : Type) where
  | promote (now : Time) (newProxyId : Uuid) (newId : Uuid → Uuid) (assetID : String)
      (opts : PromoteOptions)
  | demote (now : Time) (assetID : String)
  /-- the process reads its targets -/
  | start (t : T)
  /-- it begins the transaction of the next target and reads the peers -/
  | beginTx (t : T) (now : Time)
  /-- it routes the next peer -/
  | routePeer (t : T) (newId : Uuid → Uuid)
  | commit (t : T)
  /-- a statement fails: the transaction is rolled back and the call returns -/
  | fail (t : T)

/-- The connections as a transaction sees them: its own versions over the committed ones. -/
def overlay (written connections : List ConnectionRow) : List ConnectionRow :=
  connections.filter (fun c => !written.any (·.assetId == c.assetId)) ++ written

/-- The connections that `Promote` writes, by their assets. -/
def promoteKeys (db : Db) (assetID : String) : List Uuid :=
  match getAsset db assetID with
  | .ok a => a.id :: (peers db.cmdbAsset a.vpcId a.id).map (·.id)
  | .error _ => []

/-- The proxy that `Demote` retires. -/
def retiredProxy (db : Db) (assetID : String) : Option SshProxyRow :=
  match getAsset db assetID with
  | .ok a =>
    if a.isVpcProxy then db.cmdbSshProxy.find? fun p => p.sourceAssetId == some a.id && p.live
    else none
  | .error _ => none

/-- The connections that `Demote` writes. -/
def demoteKeys (db : Db) (assetID : String) : List Uuid :=
  match retiredProxy db assetID with
  | some p => (db.cmdbAssetConnection.filter fun c => c.proxyId == some p.id && c.autoManaged).map
      (·.assetId)
  | none => []

section

variable {T : Type} [DecidableEq T] [Fintype T]

/-- One of the keys is locked by a process. -/
def State.Blocked (s : State T) (keys : List Uuid) : Prop :=
  ∃ t, ∃ key ∈ keys, key ∈ (s.procs t).locked

instance (s : State T) (keys : List Uuid) : Decidable (s.Blocked keys) :=
  inferInstanceAs (Decidable (∃ t, ∃ key ∈ keys, key ∈ (s.procs t).locked))

/-- The key is locked by another process. -/
def State.LockedFor (s : State T) (t : T) (key : Uuid) : Prop :=
  ∃ t', t' ≠ t ∧ key ∈ (s.procs t').locked

instance (s : State T) (t : T) (key : Uuid) : Decidable (s.LockedFor t key) :=
  inferInstanceAs (Decidable (∃ t', t' ≠ t ∧ key ∈ (s.procs t').locked))

def State.setPhase (s : State T) (t : T) (phase : Phase) : State T :=
  { s with procs := Function.update s.procs t phase }

/-- A call that fails changes nothing. -/
def State.call (s : State T) (result : Except String Db) : State T :=
  match result with
  | .ok db => { s with db }
  | .error _ => s

def step (s : State T) : Label T → State T
  | .promote now newProxyId newId assetID opts =>
    if s.Blocked (promoteKeys s.db assetID) then s
    else s.call (Cmdb.promote s.db now newProxyId newId assetID opts)
  | .demote now assetID =>
    if s.Blocked (demoteKeys s.db assetID) then s else s.call (Cmdb.demote s.db now assetID)
  | .start t =>
    match s.procs t with
    | .idle => s.setPhase t (.next (readTargets s.db))
    | _ => s
  | .beginTx t now =>
    match s.procs t with
    | .looping (target :: rest) =>
      s.setPhase t (.writing now target (peers s.db.cmdbAsset target.vpcID target.assetID) [] []
        rest)
    | _ => s
  | .routePeer t newId =>
    match s.procs t with
    | .writing now target (b :: ps) written locked rest =>
      if s.LockedFor t b.id then s
      else
        let rows := routePeerReturning now newId target.proxyID
          (overlay written s.db.cmdbAssetConnection) b
        s.setPhase t (.writing now target ps
          (written.filter (fun c => !rows.any (·.assetId == c.assetId)) ++ rows) (b.id :: locked)
          rest)
    | _ => s
  | .commit t =>
    match s.procs t with
    | .writing _ _ [] written _ rest =>
      { db := { s.db with cmdbAssetConnection := overlay written s.db.cmdbAssetConnection }
        procs := Function.update s.procs t (.next rest) }
    | _ => s
  | .fail t => s.setPhase t .idle

/-- The steps under which nothing goes wrong: a `Demote` that goes through does not retire a
proxy which a process still has among its targets. -/
def Allowed (s : State T) : Label T → Prop
  | .demote _ assetID => ¬ s.Blocked (demoteKeys s.db assetID) →
      ∀ r, retiredProxy s.db assetID = some r →
        ∀ t, ∀ target ∈ (s.procs t).targets, target.proxyID ≠ r.id
  | _ => True

end

/-! ### A transaction on its own -/

/-- An asset has one connection at most. -/
def OneConnection (connections : List ConnectionRow) : Prop :=
  ∀ c ∈ connections, ∀ c' ∈ connections, c.assetId = c'.assetId → c = c'

section

variable {now : Time} {newId : Uuid → Uuid} {proxyId : Uuid} {b : AssetRow}
  {connections written rows : List ConnectionRow} {c : ConnectionRow}

lemma mem_overlay : c ∈ overlay written connections ↔
    c ∈ written ∨ (c ∈ connections ∧ ∀ w ∈ written, w.assetId ≠ c.assetId) := by
  rw [overlay, List.mem_append, List.mem_filter, or_comm]
  simp

/-- Versions that are added replace what was seen under their keys. -/
lemma mem_overlay_append :
    c ∈ overlay (written.filter (fun c => !rows.any (·.assetId == c.assetId)) ++ rows)
        connections ↔
      c ∈ rows ∨ (c ∈ overlay written connections ∧ ∀ r ∈ rows, r.assetId ≠ c.assetId) := by
  simp only [mem_overlay, List.mem_append, List.mem_filter, Bool.not_eq_true', List.any_eq_false,
    beq_iff_eq]
  constructor
  · rintro ((⟨hw, hno⟩ | hr) | ⟨hc, hno⟩)
    · exact Or.inr ⟨Or.inl hw, hno⟩
    · exact Or.inl hr
    · have hrows : ∀ r ∈ rows, r.assetId ≠ c.assetId := fun r hr => hno r (Or.inr hr)
      refine Or.inr ⟨Or.inr ⟨hc, fun w hw hid => ?_⟩, hrows⟩
      exact hno w (Or.inl ⟨hw, fun r hr hid' => hrows r hr (hid'.trans hid)⟩) hid
  · rintro (hr | ⟨hw | ⟨hc, hno⟩, hrows⟩)
    · exact Or.inl (Or.inr hr)
    · exact Or.inl (Or.inl ⟨hw, hrows⟩)
    · refine Or.inr ⟨hc, ?_⟩
      rintro w (⟨hw, -⟩ | hr)
      · exact hno w hw
      · exact hrows w hr

/-- A transaction sees what its statements do to the table that it sees. -/
lemma mem_overlay_routePeer (hone : OneConnection (overlay written connections))
    (hrows : rows = routePeerReturning now newId proxyId (overlay written connections) b) :
    c ∈ overlay (written.filter (fun c => !rows.any (·.assetId == c.assetId)) ++ rows)
        connections ↔ c ∈ Cmdb.routePeer now newId proxyId (overlay written connections) b := by
  rw [mem_overlay_append, Cmdb.routePeer, manageConnection, mem_upsert_iff]
  refine or_congr (by rw [hrows]; rfl) ⟨?_, ?_⟩
  · rintro ⟨hc, hno⟩
    refine ⟨hc, ?_⟩
    by_contra hhit
    simp only [Bool.not_eq_false, Bool.and_eq_true, beq_iff_eq] at hhit
    obtain ⟨r, hr⟩ := exists_routePeerReturning.mpr (Or.inr ⟨c, hc, hhit⟩)
    exact hno r (hrows ▸ hr) ((assetId_of_manageReturning hr).trans hhit.1.symm)
  · rintro ⟨hc, hhit⟩
    refine ⟨hc, fun r hr hid => ?_⟩
    rw [hrows] at hr
    have hcid : c.assetId = b.id := hid.symm.trans (assetId_of_manageReturning hr)
    rcases exists_routePeerReturning.mp ⟨r, hr⟩ with hnone | ⟨c', hc', hid', hauto⟩
    · exact hnone c hc hcid
    · obtain rfl := hone c hc c' hc' (hcid.trans hid'.symm)
      simp [hcid, hauto] at hhit

lemma oneConnection_routePeer (h : OneConnection connections) :
    OneConnection (Cmdb.routePeer now newId proxyId connections b) :=
  unique_upsert (fun _ => beq_iff_eq) (fun _ => rfl) rfl h

lemma mem_foldl_routePeer_congr {connections' : List ConnectionRow}
    (h : ∀ c, c ∈ connections ↔ c ∈ connections') (ps : List AssetRow) :
    c ∈ ps.foldl (Cmdb.routePeer now newId proxyId) connections ↔
      c ∈ ps.foldl (Cmdb.routePeer now newId proxyId) connections' := by
  induction ps generalizing connections connections' with
  | nil => exact h c
  | cons b ps ih => exact ih fun c => mem_upsert_congr h c

end

section

variable {T : Type} [DecidableEq T] {s : State T} {t : T}

@[simp] lemma setPhase_db (phase : Phase) : (s.setPhase t phase).db = s.db := rfl

/-- The locks of the other processes stay as they are. -/
lemma locked_setPhase (hfree : ∀ t', t' ≠ t → (s.procs t').locked = []) (phase : Phase) :
    ∀ t', t' ≠ t → ((s.setPhase t phase).procs t').locked = [] := by
  intro t' ht'
  have hsame : (s.setPhase t phase).procs t' = s.procs t' := Function.update_of_ne ht' ..
  rw [hsame]
  exact hfree t' ht'

variable [Fintype T]

/-- The statements of the loop, one after the other. -/
lemma run_routePeers {now : Time} (newId : Uuid → Uuid) {target : Target} {ps : List AssetRow}
    {written : List ConnectionRow} {locked : List Uuid} {rest : List Target}
    (hphase : s.procs t = .writing now target ps written locked rest)
    (hfree : ∀ t', t' ≠ t → (s.procs t').locked = [])
    (hone : OneConnection (overlay written s.db.cmdbAssetConnection)) :
    ∃ written' locked', run step s (ps.map fun _ => .routePeer t newId) =
        s.setPhase t (.writing now target [] written' locked' rest) ∧
      ∀ c, c ∈ overlay written' s.db.cmdbAssetConnection ↔
        c ∈ ps.foldl (Cmdb.routePeer now newId target.proxyID)
          (overlay written s.db.cmdbAssetConnection) := by
  -- on the peers that are left; the overlay is what the transaction sees
  induction ps generalizing s written locked with
  | nil =>
    refine ⟨written, locked, ?_, fun c => Iff.rfl⟩
    rw [List.map_nil, run_nil, State.setPhase, ← hphase, Function.update_eq_self]
  | cons b ps ih =>
    have hunlocked : ¬ s.LockedFor t b.id := by
      rintro ⟨t', ht', hlocked⟩
      rw [hfree t' ht'] at hlocked
      cases hlocked
    -- one statement replaces the pending versions of the rows that it returns
    set rows := routePeerReturning now newId target.proxyID
      (overlay written s.db.cmdbAssetConnection) b with hrows
    set written₁ := written.filter (fun c => !rows.any (·.assetId == c.assetId)) ++ rows
    have hstep : step s (.routePeer t newId) =
        s.setPhase t (.writing now target ps written₁ (b.id :: locked) rest) := by
      simp only [step, hphase, if_neg hunlocked]
      rfl
    have hmem : ∀ c, c ∈ overlay written₁ s.db.cmdbAssetConnection ↔
        c ∈ Cmdb.routePeer now newId target.proxyID
          (overlay written s.db.cmdbAssetConnection) b :=
      fun c => mem_overlay_routePeer hone hrows
    have hone₁ : OneConnection (overlay written₁ s.db.cmdbAssetConnection) := by
      intro c hc c' hc'
      exact oneConnection_routePeer hone c ((hmem c).mp hc) c' ((hmem c').mp hc')
    obtain ⟨written', locked', hrun, hmem'⟩ := ih (Function.update_self ..)
      (locked_setPhase hfree _) hone₁
    refine ⟨written', locked', ?_, ?_⟩
    · rw [List.map_cons, run_cons, hstep, hrun]
      simp [State.setPhase]
    · intro c
      rw [List.foldl_cons]
      exact (hmem' c).trans (mem_foldl_routePeer_congr hmem ps)

/-- **A transaction on its own.**  When no other process holds a lock, the statements for the
next target have the effect of `propagateProxyToVPCPeers`. -/
theorem run_transaction {target : Target} {rest : List Target}
    (hphase : s.procs t = .looping (target :: rest))
    (hfree : ∀ t', t' ≠ t → (s.procs t').locked = [])
    (hone : OneConnection s.db.cmdbAssetConnection) (now : Time) (newId : Uuid → Uuid) :
    ∃ connections,
      run step s ([.beginTx t now] ++
          ((peers s.db.cmdbAsset target.vpcID target.assetID).map fun _ => .routePeer t newId) ++
          [.commit t]) =
        { db := { s.db with cmdbAssetConnection := connections }
          procs := Function.update s.procs t (.next rest) } ∧
      ∀ c, c ∈ connections ↔ c ∈ propagateProxyToVPCPeers now newId s.db.cmdbAsset target.vpcID
        target.assetID target.proxyID s.db.cmdbAssetConnection := by
  set ps := peers s.db.cmdbAsset target.vpcID target.assetID
  have hbegin : step s (.beginTx t now) = s.setPhase t (.writing now target ps [] [] rest) := by
    simp only [step, hphase]
    rfl
  have hempty : overlay [] s.db.cmdbAssetConnection = s.db.cmdbAssetConnection := by
    simp [overlay]
  obtain ⟨written, locked, hrun, hmem⟩ := run_routePeers newId (Function.update_self ..)
    (locked_setPhase hfree (.writing now target ps [] [] rest))
    (by rw [setPhase_db, hempty]; exact hone)
  refine ⟨overlay written s.db.cmdbAssetConnection, ?_, ?_⟩
  · simp only [run_append, run_cons, run_nil, hbegin, hrun]
    simp [step, State.setPhase]
  · intro c
    refine (hmem c).trans ?_
    rw [setPhase_db, hempty]
    rfl

end

/-! ### The invariant -/

/-- No connection that the program manages goes through a proxy that was deleted. -/
def NoDangling (db : Db) : Prop :=
  ∀ c ∈ db.cmdbAssetConnection, c.autoManaged = true →
    ∀ p ∈ db.cmdbSshProxy, p.live = false → c.proxyId ≠ some p.id

instance (db : Db) : Decidable (NoDangling db) :=
  inferInstanceAs (Decidable (∀ c ∈ db.cmdbAssetConnection, c.autoManaged = true →
    ∀ p ∈ db.cmdbSshProxy, p.live = false → c.proxyId ≠ some p.id))

section

variable {T : Type} {s : State T}

/-- The invariant: committed routes lead through live proxies, and the routes that processes have
written or are going to write do. -/
structure Sound (s : State T) : Prop where
  keys : (s.db.cmdbSshProxy.map (·.id)).Nodup
  routed : ∀ c ∈ s.db.cmdbAssetConnection, Routed s.db.cmdbSshProxy c
  live : ∀ t, ∀ target ∈ (s.procs t).targets, LiveProxy s.db.cmdbSshProxy target.proxyID
  written : ∀ t, ∀ c ∈ (s.procs t).written, ∀ pid, c.proxyId = some pid →
    ∃ target ∈ (s.procs t).targets, target.proxyID = pid

lemma Sound.noDangling (h : Sound s) : NoDangling s.db := by
  intro c hc hauto p hp hdeleted hroute
  obtain ⟨q, hq, hid, hlive⟩ := h.routed c hc hauto p.id hroute
  obtain rfl : q = p := List.inj_on_of_nodup_map h.keys hq hp hid
  rw [hlive] at hdeleted
  cases hdeleted

/-- A call commits: the proxies of the targets stay live. -/
lemma Sound.commitCall (h : Sound s) {db : Db} (hkeys : (db.cmdbSshProxy.map (·.id)).Nodup)
    (hrouted : ∀ c ∈ db.cmdbAssetConnection, Routed db.cmdbSshProxy c)
    (hkept : ∀ t, ∀ target ∈ (s.procs t).targets, LiveProxy s.db.cmdbSshProxy target.proxyID →
      LiveProxy db.cmdbSshProxy target.proxyID) : Sound { s with db } :=
  ⟨hkeys, hrouted, fun t target ht => hkept t target ht (h.live t target ht), h.written⟩

variable [DecidableEq T]

/-- A process moves on: its targets are among those that it had, or have been read just now. -/
lemma Sound.setPhase (h : Sound s) (t : T) {phase : Phase}
    (hlive : ∀ target ∈ phase.targets, LiveProxy s.db.cmdbSshProxy target.proxyID)
    (hwritten : ∀ c ∈ phase.written, ∀ pid, c.proxyId = some pid →
      ∃ target ∈ phase.targets, target.proxyID = pid) : Sound (s.setPhase t phase) := by
  refine ⟨h.keys, h.routed, ?_, ?_⟩
  · intro t'
    by_cases ht : t' = t
    · subst ht
      simpa [State.setPhase] using hlive
    · simpa [State.setPhase, ht] using h.live t'
  · intro t'
    by_cases ht : t' = t
    · subst ht
      simpa [State.setPhase] using hwritten
    · simpa [State.setPhase, ht] using h.written t'

@[simp] lemma targets_next (targets : List Target) : (Phase.next targets).targets = targets := by
  cases targets <;> rfl

@[simp] lemma written_next (targets : List Target) : (Phase.next targets).written = [] := by
  cases targets <;> rfl

/-! ### Every step keeps it -/

variable [Fintype T]

lemma Sound.promote (h : Sound s) (now : Time) (newProxyId : Uuid) (newId : Uuid → Uuid)
    (assetID : String) (opts : PromoteOptions) :
    Sound (step s (.promote now newProxyId newId assetID opts)) := by
  rw [step]
  split
  · exact h
  · cases hcall : Cmdb.promote s.db now newProxyId newId assetID opts with
    | error e => exact h
    | ok db =>
      obtain ⟨a, -, -, -, ⟨pid, hproxied⟩, hrouted⟩ := promote_spec h.keys hcall
      exact h.commitCall hproxied.keys (hrouted h.routed) fun t target _ => hproxied.kept _

/-- What `Demote` does to the proxies and the connections. -/
lemma demote_cases {db db' : Db} {now : Time} {assetID : String}
    (h : Cmdb.demote db now assetID = .ok db') :
    (∃ a r, retiredProxy db assetID = some r ∧ db' = demoted db now a r) ∨
      (db'.cmdbSshProxy = db.cmdbSshProxy ∧ db'.cmdbAssetConnection = db.cmdbAssetConnection) := by
  obtain ⟨a, ha, ⟨hproxy, rfl⟩ | ⟨-, rfl⟩⟩ := demote_eq_ok h
  · have hretired : retiredProxy db assetID =
        db.cmdbSshProxy.find? fun p => p.sourceAssetId == some a.id && p.live := by
      rw [retiredProxy, ha]
      exact if_pos hproxy
    rw [hretired]
    cases db.cmdbSshProxy.find? fun p => p.sourceAssetId == some a.id && p.live with
    | none => exact Or.inr ⟨rfl, rfl⟩
    | some r => exact Or.inl ⟨a.id, r, rfl, rfl⟩
  · exact Or.inr ⟨rfl, rfl⟩

lemma Sound.demote (h : Sound s) {now : Time} {assetID : String}
    (hallowed : Allowed s (.demote now assetID)) : Sound (step s (.demote now assetID)) := by
  rw [step]
  split
  · exact h
  · next hfree =>
    cases hcall : Cmdb.demote s.db now assetID with
    | error e => exact h
    | ok db =>
      rcases demote_cases hcall with ⟨a, r, hretired, rfl⟩ | ⟨hproxies, hconnections⟩
      · refine h.commitCall (nodup_map_updateWhere (fun _ _ => rfl) h.keys)
          (routed_demoted h.routed) ?_
        intro t target ht hlive
        exact liveProxy_demoted.mpr ⟨hlive, hallowed hfree r hretired t target ht⟩
      · refine h.commitCall ?_ ?_ ?_
        · rw [hproxies]
          exact h.keys
        · rw [hproxies, hconnections]
          exact h.routed
        · intro t target _ hlive
          rw [hproxies]
          exact hlive

/-- The targets that are read have live proxies. -/
lemma liveProxy_of_readTargets {db : Db} {target : Target} (h : target ∈ readTargets db) :
    LiveProxy db.cmdbSshProxy target.proxyID := by
  obtain ⟨⟨a, p⟩, hmem, rfl⟩ := List.mem_map.mp h
  obtain ⟨a', -, hp⟩ := List.mem_flatMap.mp hmem
  obtain ⟨p', hp', hpair⟩ := List.mem_map.mp hp
  obtain ⟨rfl, rfl⟩ := Prod.mk.inj hpair
  obtain ⟨hp', hcond⟩ := List.mem_filter.mp hp'
  rw [Bool.and_eq_true] at hcond
  exact ⟨p', hp', rfl, hcond.2⟩

lemma Sound.start (h : Sound s) (t : T) : Sound (step s (.start t)) := by
  rw [step]
  split
  · refine h.setPhase t ?_ ?_
    · intro target ht
      rw [targets_next] at ht
      exact liveProxy_of_readTargets ht
    · intro c hc
      rw [written_next] at hc
      cases hc
  · exact h

lemma Sound.beginTx (h : Sound s) (t : T) (now : Time) : Sound (step s (.beginTx t now)) := by
  rw [step]
  split
  · next target rest hphase =>
    refine h.setPhase t ?_ ?_
    · intro target' ht
      refine h.live t target' ?_
      rw [hphase]
      exact ht
    · intro c hc
      cases hc
  · exact h

/-- The rows that are written for a peer go through the proxy of the target. -/
lemma proxyId_of_routePeerReturning {now : Time} {newId : Uuid → Uuid} {proxyId : Uuid}
    {connections : List ConnectionRow} {b : AssetRow} {c : ConnectionRow}
    (h : c ∈ routePeerReturning now newId proxyId connections b) : c.proxyId = some proxyId := by
  rcases mem_upsertReturning h with rfl | ⟨c₀, -, -, -, rfl⟩ <;> rfl

lemma Sound.routePeer (h : Sound s) (t : T) (newId : Uuid → Uuid) :
    Sound (step s (.routePeer t newId)) := by
  rw [step]
  split
  · next now target b ps written locked rest hphase =>
    have hlive := h.live t
    have hwritten := h.written t
    rw [hphase] at hlive hwritten
    split
    · exact h
    · refine h.setPhase t hlive ?_
      intro c hc pid hpid
      rcases List.mem_append.mp hc with hc | hc
      · exact hwritten c (List.mem_of_mem_filter hc) pid hpid
      · rw [proxyId_of_routePeerReturning hc] at hpid
        exact ⟨target, List.mem_cons_self, Option.some.inj hpid⟩
  · exact h

lemma Sound.commit (h : Sound s) (t : T) : Sound (step s (.commit t)) := by
  rw [step]
  split
  · next now target written locked rest hphase =>
    have hlive := h.live t
    have hwritten := h.written t
    rw [hphase] at hlive hwritten
    have hcommitted : ∀ c ∈ overlay written s.db.cmdbAssetConnection,
        Routed s.db.cmdbSshProxy c := by
      intro c hc
      rcases List.mem_append.mp hc with hc | hc
      · exact h.routed c (List.mem_of_mem_filter hc)
      · intro _ pid hpid
        obtain ⟨target', ht, rfl⟩ := hwritten c hc pid hpid
        exact hlive target' ht
    have hdb : Sound { s with
        db := { s.db with cmdbAssetConnection := overlay written s.db.cmdbAssetConnection } } :=
      h.commitCall h.keys hcommitted fun _ _ _ => id
    refine hdb.setPhase t ?_ ?_
    · intro target' ht
      rw [targets_next] at ht
      exact hlive target' (List.mem_cons_of_mem _ ht)
    · intro c hc
      rw [written_next] at hc
      cases hc
  · exact h

lemma Sound.fail (h : Sound s) (t : T) : Sound (step s (.fail t)) := by
  refine h.setPhase t ?_ ?_
  · intro target ht
    cases ht
  · intro c hc
    cases hc

lemma Sound.step {l : Label T} (h : Sound s) (hallowed : Allowed s l) : Sound (step s l) := by
  cases l with
  | promote now newProxyId newId assetID opts => exact h.promote now newProxyId newId assetID opts
  | demote now assetID => exact h.demote hallowed
  | start t => exact h.start t
  | beginTx t now => exact h.beginTx t now
  | routePeer t newId => exact h.routePeer t newId
  | commit t => exact h.commit t
  | fail t => exact h.fail t

/-- The state in which no process runs. -/
def atRest (db : Db) : State T := ⟨db, fun _ => .idle⟩

/-- **Reapplying against demotions.**  From every database without dangling routes, in every
interleaving of the statements of `ReapplyPropagation` with promotions and demotions in which no
`Demote` retires a proxy that a process still has among its targets, there is no dangling route
in any state. -/
theorem noDangling_of_allowed {db : Db} (hkeys : (db.cmdbSshProxy.map (·.id)).Nodup)
    (hforeign : ∀ c ∈ db.cmdbAssetConnection, ∀ pid, c.proxyId = some pid →
      ∃ p ∈ db.cmdbSshProxy, p.id = pid)
    (hstart : NoDangling db) {ls : List (Label T)}
    (hls : Along Reapply.step Allowed (atRest db) ls) :
    NoDangling (run Reapply.step (atRest db : State T) ls).db := by
  have hrest : Sound (atRest db : State T) := by
    refine ⟨hkeys, ?_, ?_, ?_⟩
    · intro c hc hauto pid hroute
      obtain ⟨p, hp, rfl⟩ := hforeign c hc pid hroute
      refine ⟨p, hp, rfl, ?_⟩
      by_contra hdeleted
      exact hstart c hc hauto p hp (by simpa using hdeleted) hroute
    · intro t target ht
      cases ht
    · intro t c hc
      cases hc
  exact (invariant_along (fun _ _ => Sound.step) hrest hls).noDangling

end

/-- A sync reads its targets; the gateway is demoted; the sync goes on. -/
def demoteBehindSync : List (Label Unit) :=
  [.promote 1 (Uuid.replicate 3) id (Uuid.replicate 1).toText {}, .start (),
   .demote 2 (Uuid.replicate 1).toText, .beginTx () 3, .routePeer () id, .commit ()]

/-- The peer is routed through the proxy that was deleted, and the sync has returned. -/
theorem demoteBehindSync_dangling :
    NoDangling sampleAssets ∧
    (run step (atRest sampleAssets) demoteBehindSync).procs () = .idle ∧
    ¬ NoDangling (run step (atRest sampleAssets) demoteBehindSync).db :=
  ⟨by decide, rfl, by decide⟩

/-- The same steps in another order: the sync is done with the proxy before it is retired. -/
def demoteAfterSync : List (Label Unit) :=
  [.promote 1 (Uuid.replicate 3) id (Uuid.replicate 1).toText {}, .start (), .beginTx () 2,
   .routePeer () id, .commit (), .demote 3 (Uuid.replicate 1).toText]

theorem noDangling_demoteAfterSync :
    (run step (atRest sampleAssets) demoteAfterSync).db.cmdbAssetConnection.map
      (fun c => (c.assetId, c.proxyId)) = [(Uuid.replicate 1, none), (Uuid.replicate 2, none)] ∧
    NoDangling (run step (atRest sampleAssets) demoteAfterSync).db := by
  refine ⟨by decide, noDangling_of_allowed (by decide) (by decide) (by decide) ?_⟩
  refine ⟨trivial, trivial, trivial, trivial, trivial, ?_, trivial⟩
  intro _ r _ t target ht
  cases ht

end OpsPlatform.Cmdb.Reapply
