/-
A probe under its contexts (`ProbeAsset`, `RunOnce` and `probeTarget` in
`internal/bastionprobe/service.go`).

The deadline of a probe covers the statements that persist its snapshot and the one that records its
status, whose error nobody reads.  The points of a probe are counted in the order of its text: the
three queries of `GetBastionProbeTarget` are `0` to `2`, the connection is open at `3`, the
statements of `UpsertAssetProbeSnapshot` are `4` to `6`, and the status is written at `statusPoint`.
-/
import OpsPlatform.BastionProbe.Passes
import OpsPlatform.Lib.Ctx

namespace OpsPlatform.BastionProbe

open Lib Lib.Table Lib.Text Cmdb SshProxy

/-- What a probe meets. -/
structure Probe where
  /-- the context of the caller -/
  ctx : Ctx := {}
  /-- the point from which on `ProbeTimeout` has passed -/
  timeout : Option ℕ := none
  /-- the error of a context that is over -/
  ctxErr : ℕ → String
  /-- what the service runs on, apart from the database -/
  env : Env
  /-- what the commands or the queries on the open connection give; none of them can fail it -/
  snapshot : UpsertAssetProbeSnapshotRequest := {}
  marshalTime : Time → String
  writes : SnapshotWrites
  /-- when the status is written -/
  statusAt : Time

/-- The point at which the status is written. -/
def statusPoint : ℕ := 7

namespace Probe

variable (p : Probe)

/-- The context of `probeTarget`. -/
def probeCtx : Ctx := p.ctx.withTimeout p.timeout

/-- The target of a row; only a row with a proxy takes a third query. -/
def targetOfRow (db : Db) (a : AssetRow) (c : ConnectionRow) : Except String BastionProbeTarget :=
  match c.proxyId with
  | none => Cmdb.targetOfRow db p.env.decrypt a c
  | some id =>
    if p.ctx.isOver 2 = true then
      .error ("resolve proxy " ++ id.toText ++ " for asset " ++ a.id.toText ++ ": " ++ p.ctxErr 2)
    else Cmdb.targetOfRow db p.env.decrypt a c

/-- `GetBastionProbeTarget`. -/
def getBastionProbeTarget (db : Db) (assetID : String) : Except String BastionProbeTarget := do
  let id ← p.ctx.exec 0 (p.ctxErr 0) (ensureAssetExists db assetID)
  let row ← p.ctx.exec 1 (p.ctxErr 1) <|
    match connectionOf db id with
    | none => .error errConnectionProfileNotFound
    | some row => .ok row
  p.targetOfRow db row.1 row.2

/-- `collectSnapshot`, `collectPostgresSnapshot` and the `switch` between them. -/
def collect (t : BastionProbeTarget) : Except String UpsertAssetProbeSnapshotRequest :=
  let protocol := toLower (trimSpace t.protocol)
  if protocol = "" ∨ protocol = "ssh" then do
    (dialSSH p.env t).result
    p.probeCtx.exec 3 (p.ctxErr 3) (.ok p.snapshot)
  else if protocol = "postgres" then do
    (dialPostgres p.env t).result
    .ok p.snapshot
  else .error ("unsupported protocol: " ++ t.protocol)

/-- The call of `UpsertAssetProbeSnapshot`. -/
def persist (db : Db) (t : BastionProbeTarget) (snapshot : UpsertAssetProbeSnapshotRequest) :
    Except String (Db × ProbeSnapshotRow) :=
  p.probeCtx.exec 4 (p.ctxErr 4) <|
    upsertAssetProbeSnapshot db p.marshalTime
      { p.writes with
        insertError :=
          if p.probeCtx.isOver 5 = true then some (p.ctxErr 5) else p.writes.insertError
        summarized := p.writes.summarized && !p.probeCtx.isOver 6 }
      t.assetID { snapshot with collectedBy := "bastion-probe-v1" }

/-- The call of `UpdateConnectionProbeStatus`, whose error is dropped. -/
def setStatus (db : Db) (t : BastionProbeTarget) (status message : String) : Db :=
  if p.probeCtx.isOver statusPoint = true then db
  else updateConnectionProbeStatus db p.statusAt t.assetID status message

/-- The status of an outcome. -/
def record (db : Db) (t : BastionProbeTarget) : Except String ProbeSnapshotRow → Db
  | .error e => p.setStatus db t "failed" e
  | .ok _ => p.setStatus db t "success" ""

/-- `probeTarget`. -/
def probeTarget (db : Db) (t : BastionProbeTarget) : Db × Except String ProbeSnapshotRow :=
  match p.collect t with
  | .error e => (p.record db t (.error e), .error e)
  | .ok snapshot =>
    match p.persist db t snapshot with
    | .error e => (p.record db t (.error e), .error e)
    | .ok (db', persisted) => (p.record db' t (.ok persisted), .ok persisted)

/-- `ProbeAsset`. -/
def probeAsset (db : Db) (assetID : String) : Db × Except String ProbeSnapshotRow :=
  match p.getBastionProbeTarget db assetID with
  | .error e => (db, .error e)
  | .ok t => p.probeTarget db t

end Probe

/-! ### Goroutines -/

/-- Where a probe stands. -/
inductive Point where
  | collecting
  | persisting (snapshot : UpsertAssetProbeSnapshotRequest)
  /-- the status of the outcome is to be written -/
  | recording (outcome : Except String ProbeSnapshotRow)
  | returned (outcome : Except String ProbeSnapshotRow)

/-- What a probe does next. -/
def Probe.next (p : Probe) (t : BastionProbeTarget) (db : Db) : Point → Db × Point
  | .collecting =>
    match p.collect t with
    | .error e => (db, .recording (.error e))
    | .ok snapshot => (db, .persisting snapshot)
  | .persisting snapshot =>
    match p.persist db t snapshot with
    | .error e => (db, .recording (.error e))
    | .ok (db', persisted) => (db', .recording (.ok persisted))
  | .recording outcome => (p.record db t outcome, .returned outcome)
  | .returned outcome => (db, .returned outcome)

/-- The goroutine of a target. -/
structure Goroutine where
  target : BastionProbeTarget
  point : Point := .collecting

/-- A run of `RunOnce`, with the goroutines that it has started. -/
structure Round where
  db : Db
  goroutines : List Goroutine

namespace Round

/-- `RunOnce`, up to the goroutines.  `ctxErr` is the error of its context, once that is over: when
the targets are listed, and then in each round of the loop. -/
def start (decrypt : String → Except String String) (limit : Int) (ctxErr : ℕ → Option String)
    (db : Db) : Round where
  db := db
  goroutines :=
    match ctxErr 0, listBastionProbeTargets db decrypt limit with
    | none, .ok targets =>
      (startProbes (fun i => ctxErr (i + 1)) 0 targets).1.map fun target => { target }
    | _, _ => []

/-- The goroutine `i` goes on. -/
def step (probe : BastionProbeTarget → Probe) (s : Round) (i : ℕ) : Round :=
  match s.goroutines[i]? with
  | none => s
  | some g =>
    let next := (probe g.target).next g.target s.db g.point
    { db := next.1, goroutines := s.goroutines.set i { g with point := next.2 } }

end Round

/-- Left alone, a goroutine returns what `probeTarget` does. -/
lemma Probe.next_probeTarget (p : Probe) (t : BastionProbeTarget) (db : Db) :
    let s₁ := p.next t db .collecting
    let s₂ := p.next t s₁.1 s₁.2
    p.next t s₂.1 s₂.2 = ((p.probeTarget db t).1, .returned (p.probeTarget db t).2) := by
  rw [probeTarget]
  cases hcollect : p.collect t with
  | error e => simp only [next, hcollect]
  | ok snapshot =>
    cases hpersist : p.persist db t snapshot with
    | error e => simp only [next, hcollect, hpersist]
    | ok persisted => simp only [next, hcollect, hpersist]

/-! ### The status of a connection -/

/-- The connections of an asset. -/
def connectionsOf (assetID : String) (db : Db) : List ConnectionRow :=
  db.cmdbAssetConnection.filter fun c => decide (Uuid.parse assetID = some c.assetId)

/-- The row shows how the attempt went whose status was written at that time. -/
def Recorded (statusAt : Time) (outcome : Except String ProbeSnapshotRow) (c : ConnectionRow) :
    Prop :=
  c.lastProbeAt = some statusAt ∧
    match outcome with
    | .error e => c.lastProbeStatus = "failed" ∧ c.lastProbeError = e
    | .ok _ => c.lastProbeStatus = "success"

/-- No attempt of before was recorded at that time. -/
def Later (statusAt : Time) (db : Db) : Prop :=
  ∀ c ∈ db.cmdbAssetConnection, c.lastProbeAt ≠ some statusAt

/-- The row shows the attempt exactly when `recorded` holds, and is as it was otherwise. -/
structure Shows (db₀ : Db) (statusAt : Time) (outcome : Except String ProbeSnapshotRow)
    (recorded : Prop) (c : ConnectionRow) : Prop where
  iff : Recorded statusAt outcome c ↔ recorded
  unchanged : ¬ recorded → c ∈ db₀.cmdbAssetConnection

section

variable {p : Probe} {t : BastionProbeTarget} {db db' : Db} {assetID : String} {c : ConnectionRow}

lemma mem_connectionsOf :
    c ∈ connectionsOf assetID db ↔
      c ∈ db.cmdbAssetConnection ∧ Uuid.parse assetID = some c.assetId := by
  rw [connectionsOf, List.mem_filter, decide_eq_true_eq]

lemma shows_of_mem {outcome : Except String ProbeSnapshotRow} {recorded : Prop}
    (hlater : Later p.statusAt db) (hnot : ¬ recorded) (hc : c ∈ db.cmdbAssetConnection) :
    Shows db p.statusAt outcome recorded c where
  iff := ⟨fun h => absurd h.1 (hlater c hc), fun h => absurd h hnot⟩
  unchanged _ := hc

/-- A snapshot is no connection. -/
lemma Probe.cmdbAssetConnection_persist {snapshot : UpsertAssetProbeSnapshotRequest}
    {persisted : ProbeSnapshotRow} (h : p.persist db t snapshot = .ok (db', persisted)) :
    db'.cmdbAssetConnection = db.cmdbAssetConnection := by
  rw [Probe.persist, Ctx.exec_eq_ok] at h
  obtain ⟨_, -, -, -, hdb'⟩ := upsertAssetProbeSnapshot_eq_ok h.2
  rw [hdb']

/-- The status is written to the connections of the asset, and to no others. -/
lemma Probe.mem_record {outcome : Except String ProbeSnapshotRow}
    (halive : p.probeCtx.isOver statusPoint = false)
    (hc : c ∈ (p.record db t outcome).cmdbAssetConnection) :
    (Uuid.parse t.assetID = some c.assetId ∧ Recorded p.statusAt outcome c) ∨
      (Uuid.parse t.assetID ≠ some c.assetId ∧ c ∈ db.cmdbAssetConnection) := by
  have hwritten : ∀ status message,
      c ∈ (updateConnectionProbeStatus db p.statusAt t.assetID status message).cmdbAssetConnection →
      (Uuid.parse t.assetID = some c.assetId ∧ c.lastProbeAt = some p.statusAt ∧
        c.lastProbeStatus = status ∧ c.lastProbeError = message) ∨
      (Uuid.parse t.assetID ≠ some c.assetId ∧ c ∈ db.cmdbAssetConnection) := by
    intro status message h
    rw [updateConnectionProbeStatus, castUuid] at h
    cases hparse : Uuid.parse t.assetID with
    | none =>
      rw [hparse] at h
      exact Or.inr ⟨by simp, h⟩
    | some id =>
      rw [hparse] at h
      obtain ⟨c₀, hc₀, ⟨hhit, rfl⟩ | ⟨hmiss, rfl⟩⟩ := mem_updateWhere.mp h
      · exact Or.inl ⟨by rw [eq_of_beq hhit], rfl, rfl, rfl⟩
      · refine Or.inr ⟨?_, hc₀⟩
        rw [ne_eq, Option.some.injEq]
        exact fun hid => ne_of_beq_false hmiss hid.symm
  have hset : ∀ status message, p.setStatus db t status message =
      updateConnectionProbeStatus db p.statusAt t.assetID status message := by
    intro status message
    rw [setStatus, if_neg (by simp [halive])]
  cases outcome with
  | error e =>
    rw [record, hset] at hc
    exact (hwritten _ _ hc).imp_left fun h => ⟨h.1, h.2.1, h.2.2⟩
  | ok persisted =>
    rw [record, hset] at hc
    exact (hwritten _ _ hc).imp_left fun h => ⟨h.1, h.2.1, h.2.2.1⟩

/-- Nothing is written under a context that is over. -/
lemma Probe.record_of_over (hover : p.probeCtx.isOver statusPoint = true)
    (outcome : Except String ProbeSnapshotRow) : p.record db t outcome = db := by
  cases outcome <;> exact if_pos hover

end

end OpsPlatform.BastionProbe
