/-
Which probes have their outcome recorded.

A connection row belongs to one asset, and in a round each asset is probed by one goroutine.  What
the row shows when that goroutine has returned is therefore decided by its own context alone,
whatever the others do in the meantime.
-/
import OpsPlatform.BastionProbe.Probe

namespace OpsPlatform.BastionProbe

open Lib Lib.Table Lib.Run Lib.Text Cmdb SshProxy

/-! ### One probe -/

section

variable {p : Probe} {t : BastionProbeTarget} {db db₀ : Db} {assetID : String} {c : ConnectionRow}

/-- The context of the caller is the longer one. -/
lemma Probe.ctx_alive {step : ℕ} (hle : step ≤ statusPoint)
    (halive : p.probeCtx.isOver statusPoint = false) : p.ctx.isOver step = false := by
  rw [Probe.probeCtx, Ctx.over_withTimeout, Bool.or_eq_false_iff] at halive
  rw [← Bool.not_eq_true]
  intro hover
  rw [Ctx.over_of_le hle hover] at halive
  exact absurd halive.1 (by simp)

lemma Probe.targetOfRow_eq_ok {a : AssetRow} (h : p.targetOfRow db a c = .ok t) :
    Cmdb.targetOfRow db p.env.decrypt a c = .ok t := by
  rw [Probe.targetOfRow] at h
  split at h
  · exact h
  · rw [Except.ite_error_eq_ok] at h
    exact h.2

lemma Probe.targetOfRow_of_alive {a : AssetRow} (halive : p.ctx.isOver 2 = false) :
    p.targetOfRow db a c = Cmdb.targetOfRow db p.env.decrypt a c := by
  rw [Probe.targetOfRow]
  split
  · rfl
  · rw [if_neg (by simp [halive])]

/-- What is found under a context is found without one. -/
lemma Probe.getBastionProbeTarget_eq_ok (h : p.getBastionProbeTarget db assetID = .ok t) :
    Cmdb.getBastionProbeTarget db p.env.decrypt assetID = .ok t ∧
      Uuid.parse t.assetID = Uuid.parse assetID := by
  rw [Probe.getBastionProbeTarget, Except.bind_eq_ok] at h
  obtain ⟨id, hid, h⟩ := h
  rw [Except.bind_eq_ok] at h
  obtain ⟨⟨a, c⟩, hrow, h⟩ := h
  rw [Ctx.exec_eq_ok] at hid hrow
  have hparse := (ensureAssetExists_eq_ok.mp hid.2).1
  have htarget := Probe.targetOfRow_eq_ok h
  cases hconnection : connectionOf db id with
  | none =>
    rw [hconnection] at hrow
    cases hrow.2
  | some row =>
    rw [hconnection] at hrow
    obtain rfl : row = (a, c) := Except.ok.inj hrow.2
    refine ⟨?_, ?_⟩
    · rw [getBastionProbeTarget_eq hparse hconnection]
      exact htarget
    · have ha : a.id = id := by
        obtain ⟨a', ha', hpair⟩ := Option.bind_eq_some_iff.mp hconnection
        obtain ⟨c', -, hpair⟩ := Option.map_eq_some_iff.mp hpair
        obtain ⟨rfl, -⟩ := Prod.mk.inj hpair
        have hcond := List.find?_some ha'
        rw [Bool.and_eq_true] at hcond
        exact eq_of_beq hcond.1
      rw [assetID_targetOfRow htarget, Uuid.parse_toText, hparse, ha]

/-- Under a context that stays the target is found when there is one. -/
lemma Probe.getBastionProbeTarget_of_alive (halive : p.probeCtx.isOver statusPoint = false)
    (h : Cmdb.getBastionProbeTarget db p.env.decrypt assetID = .ok t) :
    p.getBastionProbeTarget db assetID = .ok t := by
  have hctx : ∀ step ≤ statusPoint, p.ctx.isOver step = false := fun _ hle =>
    Probe.ctx_alive hle halive
  rw [Cmdb.getBastionProbeTarget] at h
  cases hparse : Uuid.parse assetID with
  | none =>
    rw [hparse] at h
    cases h
  | some id =>
    rw [hparse] at h
    dsimp only at h
    split at h
    · next hlive =>
      cases hconnection : connectionOf db id with
      | none =>
        rw [hconnection] at h
        cases h
      | some row =>
        rw [hconnection] at h
        have hexists : ensureAssetExists db assetID = .ok id := by
          refine ensureAssetExists_eq_ok.mpr ⟨hparse, ?_⟩
          simpa using hlive
        rw [Probe.getBastionProbeTarget, Except.bind_eq_ok]
        refine ⟨id, Ctx.exec_eq_ok.mpr ⟨hctx 0 (by decide), hexists⟩, ?_⟩
        rw [Except.bind_eq_ok]
        refine ⟨row, Ctx.exec_eq_ok.mpr ⟨hctx 1 (by decide), by rw [hconnection]⟩, ?_⟩
        rw [Probe.targetOfRow_of_alive (hctx 2 (by decide))]
        exact h
    · cases h

/-- What a connection of the asset shows once the status is written. -/
lemma Probe.shows_record (hlater : Later p.statusAt db₀)
    (hsame : ∀ c ∈ connectionsOf t.assetID db, c ∈ db₀.cmdbAssetConnection)
    (outcome : Except String ProbeSnapshotRow)
    (hc : c ∈ connectionsOf t.assetID (p.record db t outcome)) :
    Shows db₀ p.statusAt outcome (p.probeCtx.isOver statusPoint = false) c := by
  cases hover : p.probeCtx.isOver statusPoint with
  | true =>
    rw [Probe.record_of_over hover] at hc
    exact shows_of_mem hlater (by simp) (hsame c hc)
  | false =>
    obtain ⟨hc, hparse⟩ := mem_connectionsOf.mp hc
    rcases Probe.mem_record hover hc with ⟨-, hrecorded⟩ | ⟨hother, -⟩
    · exact ⟨iff_of_true hrecorded rfl, fun h => absurd rfl h⟩
    · exact absurd hparse hother

lemma Probe.shows_probeTarget (hlater : Later p.statusAt db)
    (hc : c ∈ connectionsOf t.assetID (p.probeTarget db t).1) :
    Shows db p.statusAt (p.probeTarget db t).2 (p.probeCtx.isOver statusPoint = false) c := by
  have hstart : ∀ c ∈ connectionsOf t.assetID db, c ∈ db.cmdbAssetConnection :=
    fun c hc => (mem_connectionsOf.mp hc).1
  rw [Probe.probeTarget] at hc ⊢
  cases hcollect : p.collect t with
  | error e =>
    rw [hcollect] at hc
    exact Probe.shows_record hlater hstart _ hc
  | ok snapshot =>
    rw [hcollect] at hc
    dsimp only at hc ⊢
    cases hpersist : p.persist db t snapshot with
    | error e =>
      rw [hpersist] at hc
      exact Probe.shows_record hlater hstart _ hc
    | ok persisted =>
      rw [hpersist] at hc
      refine Probe.shows_record hlater ?_ _ hc
      intro c hc
      rw [← Probe.cmdbAssetConnection_persist hpersist]
      exact (mem_connectionsOf.mp hc).1

/-- `ProbeAsset`. -/
lemma Probe.shows_probeAsset (hlater : Later p.statusAt db)
    (hc : c ∈ connectionsOf assetID (p.probeAsset db assetID).1) :
    Shows db p.statusAt (p.probeAsset db assetID).2
      ((∃ t, Cmdb.getBastionProbeTarget db p.env.decrypt assetID = .ok t) ∧
        p.probeCtx.isOver statusPoint = false) c := by
  rw [Probe.probeAsset] at hc ⊢
  cases htarget : p.getBastionProbeTarget db assetID with
  | error e =>
    rw [htarget] at hc
    refine shows_of_mem hlater ?_ (mem_connectionsOf.mp hc).1
    rintro ⟨⟨t, ht⟩, halive⟩
    rw [Probe.getBastionProbeTarget_of_alive halive ht] at htarget
    cases htarget
  | ok t =>
    rw [htarget] at hc
    obtain ⟨ht, hparse⟩ := Probe.getBastionProbeTarget_eq_ok htarget
    have hc' : c ∈ connectionsOf t.assetID (p.probeTarget db t).1 := by
      rw [mem_connectionsOf, hparse]
      exact mem_connectionsOf.mp hc
    have hshows := Probe.shows_probeTarget hlater hc'
    exact ⟨hshows.iff.trans (and_iff_right ⟨t, ht⟩).symm,
      fun hnot => hshows.unchanged fun halive => hnot ⟨⟨t, ht⟩, halive⟩⟩

/-- A step of a probe writes to no connection of another asset. -/
lemma Probe.mem_of_next {point : Point} (hother : Uuid.parse t.assetID ≠ some c.assetId)
    (hc : c ∈ (p.next t db point).1.cmdbAssetConnection) : c ∈ db.cmdbAssetConnection := by
  cases point with
  | collecting =>
    rw [Probe.next] at hc
    cases hcollect : p.collect t <;> · rw [hcollect] at hc; exact hc
  | persisting snapshot =>
    rw [Probe.next] at hc
    cases hpersist : p.persist db t snapshot with
    | error e =>
      rw [hpersist] at hc
      exact hc
    | ok persisted =>
      rw [hpersist] at hc
      rw [← Probe.cmdbAssetConnection_persist hpersist]
      exact hc
  | recording outcome =>
    cases hover : p.probeCtx.isOver statusPoint with
    | true =>
      rw [Probe.next, Probe.record_of_over hover] at hc
      exact hc
    | false =>
      rcases Probe.mem_record hover hc with ⟨hown, -⟩ | ⟨-, hmem⟩
      · exact absurd hown hother
      · exact hmem
  | returned outcome => exact hc

end

/-! ### All goroutines of a round -/

/-- What a connection of the goroutine's asset is. -/
def Goroutine.Sound (probe : BastionProbeTarget → Probe) (db₀ : Db) (g : Goroutine)
    (c : ConnectionRow) : Prop :=
  match g.point with
  | .returned outcome =>
    Shows db₀ (probe g.target).statusAt outcome
      ((probe g.target).probeCtx.isOver statusPoint = false) c
  | _ => c ∈ db₀.cmdbAssetConnection

/-- The goroutines are those of different assets, and each has changed its own connection only. -/
structure RoundInv (probe : BastionProbeTarget → Probe) (db₀ : Db) (s : Round) : Prop where
  assets : ∃ ids : List Uuid, ids.Nodup ∧
    s.goroutines.map (·.target.assetID) = ids.map Uuid.toText
  sound : ∀ (i : ℕ) (g : Goroutine), s.goroutines[i]? = some g →
    ∀ c ∈ connectionsOf g.target.assetID s.db, g.Sound probe db₀ c

section

variable {probe : BastionProbeTarget → Probe} {db db₀ : Db} {s : Round} {g : Goroutine}

/-- A step, for the connection of its own asset. -/
lemma Goroutine.Sound.next (hlater : Later (probe g.target).statusAt db₀)
    (h : ∀ c ∈ connectionsOf g.target.assetID db, g.Sound probe db₀ c) :
    ∀ c ∈ connectionsOf g.target.assetID ((probe g.target).next g.target db g.point).1,
      { g with point := ((probe g.target).next g.target db g.point).2 }.Sound probe db₀ c := by
  obtain ⟨t, point⟩ := g
  dsimp only at hlater h ⊢
  intro c hc
  cases point with
  | collecting =>
    rw [Probe.next] at hc ⊢
    cases hcollect : (probe t).collect t <;> · rw [hcollect] at hc; exact h c hc
  | persisting snapshot =>
    rw [Probe.next] at hc ⊢
    cases hpersist : (probe t).persist db t snapshot with
    | error e =>
      rw [hpersist] at hc
      exact h c hc
    | ok persisted =>
      rw [hpersist] at hc
      refine h c ?_
      rw [mem_connectionsOf, ← Probe.cmdbAssetConnection_persist hpersist]
      exact mem_connectionsOf.mp hc
  | recording outcome => exact Probe.shows_record hlater h outcome hc
  | returned outcome => exact h c hc

/-- A step keeps the invariant, whichever goroutine it is of. -/
lemma RoundInv.step (hlater : ∀ t, Later (probe t).statusAt db₀) (h : RoundInv probe db₀ s)
    (i : ℕ) : RoundInv probe db₀ (s.step probe i) := by
  rw [Round.step]
  cases hi : s.goroutines[i]? with
  | none => exact h
  | some g =>
    obtain ⟨ids, hnodup, hids⟩ := h.assets
    have htargets : (s.goroutines.set i { g with
        point := ((probe g.target).next g.target s.db g.point).2 }).map (·.target.assetID) =
          s.goroutines.map (·.target.assetID) := by
      rw [List.map_set]
      refine List.ext_getElem? fun j => ?_
      by_cases hij : i = j
      · subst hij
        have hlt : i < (s.goroutines.map (·.target.assetID)).length := by
          rw [List.length_map]
          exact (List.getElem?_eq_some_iff.mp hi).1
        rw [List.getElem?_set_self hlt, List.getElem?_map, hi]
        rfl
      · rw [List.getElem?_set_ne hij]
    refine ⟨⟨ids, hnodup, htargets.trans hids⟩, ?_⟩
    intro j g' hj c hc
    dsimp only at hj hc
    by_cases hij : i = j
    · subst hij
      rw [List.getElem?_set_self (List.getElem?_eq_some_iff.mp hi).1] at hj
      obtain rfl := Option.some.inj hj
      exact Goroutine.Sound.next (hlater g.target) (h.sound i g hi) c hc
    · rw [List.getElem?_set_ne hij] at hj
      refine h.sound j g' hj c ?_
      rw [mem_connectionsOf] at hc ⊢
      refine ⟨Probe.mem_of_next ?_ hc.1, hc.2⟩
      -- the two goroutines would have the same asset
      intro hown
      have hgi : ids[i]?.map Uuid.toText = some g.target.assetID := by
        rw [← List.getElem?_map, ← hids, List.getElem?_map, hi]
        rfl
      have hgj : ids[j]?.map Uuid.toText = some g'.target.assetID := by
        rw [← List.getElem?_map, ← hids, List.getElem?_map, hj]
        rfl
      obtain ⟨id, hid, htext⟩ := Option.map_eq_some_iff.mp hgi
      obtain ⟨id', hid', htext'⟩ := Option.map_eq_some_iff.mp hgj
      rw [← htext, Uuid.parse_toText] at hown
      rw [← htext', Uuid.parse_toText] at hc
      obtain rfl : id = id' := Option.some.inj (hown.trans hc.2.symm)
      exact hij ((List.getElem?_inj (List.getElem?_eq_some_iff.mp hid).1 hnodup).mp
        (hid.trans hid'.symm))

/-- The goroutines that the loop has started are those of the first targets. -/
lemma startProbes_prefix (ctxErr : ℕ → Option String) (i : ℕ) (targets : List BastionProbeTarget) :
    (startProbes ctxErr i targets).1 <+: targets := by
  induction targets generalizing i with
  | nil => exact List.prefix_rfl
  | cons t targets ih =>
    rw [startProbes]
    split
    · exact List.nil_prefix
    · exact (List.prefix_cons_inj t).mpr (ih (i + 1))

lemma roundInv_start (hassets : (db.cmdbAsset.map (·.id)).Nodup)
    (hconnections : (db.cmdbAssetConnection.map (·.assetId)).Nodup)
    (decrypt : String → Except String String) (limit : Int) (ctxErr : ℕ → Option String) :
    RoundInv probe db (Round.start decrypt limit ctxErr db) := by
  have hnone : RoundInv probe db ⟨db, []⟩ := ⟨⟨[], List.nodup_nil, rfl⟩, by simp⟩
  rw [Round.start]
  cases ctxErr 0 with
  | some e => exact hnone
  | none =>
    cases hlist : listBastionProbeTargets db decrypt limit with
    | error e => exact hnone
    | ok targets =>
      refine ⟨?_, ?_⟩
      · have hwindow : (window limit db).Nodup := by
          refine (nodup_enabledConnections_id hassets hconnections).sublist ?_
          exact (List.take_sublist _ _).map _
        obtain ⟨rest, hrest⟩ := startProbes_prefix (fun i => ctxErr (i + 1)) 0 targets
        have hids : (targets.map (·.assetID)) = (window limit db).map Uuid.toText :=
          assetID_of_listed hlist
        dsimp only
        generalize (startProbes (fun i => ctxErr (i + 1)) 0 targets).1 = started at hrest ⊢
        refine ⟨(window limit db).take started.length, hwindow.sublist (List.take_sublist _ _), ?_⟩
        rw [List.map_map, List.map_take, ← hids, ← hrest, List.map_append,
          List.take_left' (List.length_map _)]
        rfl
      · intro i g hi c hc
        rw [List.getElem?_map] at hi
        obtain ⟨t, -, rfl⟩ := Option.map_eq_some_iff.mp hi
        exact (mem_connectionsOf.mp hc).1

end

/-- **Which outcomes are recorded.**  Behind `ProbeAsset`, and behind each goroutine of `RunOnce`
that has returned, however the goroutines are interleaved, the connection of the asset shows what
was returned exactly when the target was resolved and the context of the probe is not over at the
point at which the status is written; otherwise the row is as it was before. -/
theorem probe_recorded_iff (db : Db) :
    (∀ (p : Probe) (assetID : String), Later p.statusAt db →
      ∀ c ∈ connectionsOf assetID (p.probeAsset db assetID).1,
        Shows db p.statusAt (p.probeAsset db assetID).2
          ((∃ t, getBastionProbeTarget db p.env.decrypt assetID = .ok t) ∧
            p.probeCtx.isOver statusPoint = false) c) ∧
    ∀ (probe : BastionProbeTarget → Probe) (decrypt : String → Except String String)
      (limit : Int) (ctxErr : ℕ → Option String) (schedule : List ℕ),
      (db.cmdbAsset.map (·.id)).Nodup → (db.cmdbAssetConnection.map (·.assetId)).Nodup →
      (∀ t, Later (probe t).statusAt db) →
      ∀ g ∈ (run (Round.step probe) (.start decrypt limit ctxErr db) schedule).goroutines,
        ∀ outcome, g.point = .returned outcome →
          ∀ c ∈ connectionsOf g.target.assetID
              (run (Round.step probe) (.start decrypt limit ctxErr db) schedule).db,
            Shows db (probe g.target).statusAt outcome
              ((probe g.target).probeCtx.isOver statusPoint = false) c := by
  refine ⟨fun p assetID hlater c hc => Probe.shows_probeAsset hlater hc, ?_⟩
  intro probe decrypt limit ctxErr schedule hassets hconnections hlater g hg outcome hreturned c hc
  have hinv : RoundInv probe db
      (run (Round.step probe) (.start decrypt limit ctxErr db) schedule) :=
    Run.invariant (fun s i hs => hs.step hlater i)
      (roundInv_start hassets hconnections decrypt limit ctxErr) schedule
  obtain ⟨i, hi⟩ := List.getElem?_of_mem hg
  have hsound := hinv.sound i g hi c hc
  rw [Goroutine.Sound, hreturned] at hsound
  exact hsound

/-- One asset that was reached an hour ago. -/
def reached : Db :=
  { cmdbAsset := [{ id := Uuid.replicate 1, type := "vm", name := "db-1" }]
    cmdbAssetConnection :=
      [{ id := Uuid.replicate 3, assetId := Uuid.replicate 1, host := "10.0.0.9",
         username := "root", passwordEncrypted := "x", lastProbeAt := some 100,
         lastProbeStatus := "success" }] }

/-- A host that does not answer any more; the dial ends when `ProbeTimeout` does. -/
def silentHost : Probe where
  timeout := some 3
  ctxErr _ := "context deadline exceeded"
  env := { sampleEnv with answer _ := .error "dial tcp 10.0.0.9:22: i/o timeout" }
  marshalTime _ := ""
  writes := { newId := Uuid.replicate 4, insertedAt := 3700, summarizedAt := 3700 }
  statusAt := 3700

/-- What the probe returns. -/
def silentError : String := "ssh.Dial 10.0.0.9:22: dial tcp 10.0.0.9:22: i/o timeout"

/-- `ProbeAsset` fails, and its asset keeps the status `success`. -/
theorem timeout_not_recorded :
    silentHost.probeAsset reached (Uuid.replicate 1).toText = (reached, .error silentError) ∧
    reached.cmdbAssetConnection.map (·.lastProbeStatus) = ["success"] :=
  ⟨rfl, rfl⟩

/-- The dial to the same host ends before the deadline. -/
def patient : Probe := { silentHost with timeout := none }

/-- With time enough the failure is recorded, by `ProbeAsset` and by the goroutine of a round. -/
theorem recorded_patient :
    (∀ c ∈ connectionsOf (Uuid.replicate 1).toText
        (patient.probeAsset reached (Uuid.replicate 1).toText).1, c.lastProbeStatus = "failed") ∧
    ∀ c ∈ connectionsOf (Uuid.replicate 1).toText
        (run (Round.step fun _ => patient) (.start .ok 10 (fun _ => none) reached) [0, 0, 0]).db,
      c.lastProbeStatus = "failed" := by
  have hlater : Later patient.statusAt reached := by
    intro c hc
    obtain rfl := List.mem_singleton.mp hc
    decide
  obtain ⟨hasset, hround⟩ := probe_recorded_iff reached
  constructor
  · intro c hc
    have hshows := hasset patient (Uuid.replicate 1).toText hlater c hc
    exact (hshows.iff.mpr ⟨⟨_, rfl⟩, rfl⟩).2.1
  · obtain ⟨t, hid, hgoroutines⟩ : ∃ t : BastionProbeTarget,
        t.assetID = (Uuid.replicate 1).toText ∧
        (run (Round.step fun _ => patient) (.start .ok 10 (fun _ => none) reached)
          [0, 0, 0]).goroutines = [⟨t, .returned (.error silentError)⟩] := ⟨_, rfl, rfl⟩
    intro c hc
    rw [← hid] at hc
    have hshows := hround (fun _ => patient) .ok 10 (fun _ => none) [0, 0, 0] (by decide)
      (by decide) (fun _ => hlater) ⟨t, .returned (.error silentError)⟩
      (by rw [hgoroutines]; exact List.mem_singleton_self _) _ rfl c hc
    exact (hshows.iff.mpr rfl).2.1

end OpsPlatform.BastionProbe
