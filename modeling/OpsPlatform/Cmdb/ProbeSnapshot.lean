/-
`UpsertAssetProbeSnapshot` and `UpdateConnectionProbeStatus` (`internal/cmdb/repository.go`): what
a probe writes.

A probe inserts a snapshot and merges a summary of it into the `system_tags` of the asset.  The
second statement may fail, and nobody is told.
-/
import OpsPlatform.Cmdb.Asset

namespace OpsPlatform.Cmdb

open Lib Lib.Table Lib.Text SshProxy

/-- `UpsertAssetProbeSnapshotRequest`; a slice or a map that is nil is `none`. -/
structure UpsertAssetProbeSnapshotRequest where
  osName : String := ""
  osVersion : String := ""
  kernel : String := ""
  arch : String := ""
  hostname : String := ""
  uptimeSecond : Int := 0
  cpuModel : String := ""
  cpuCores : Int := 0
  memoryMB : Int := 0
  diskSummary : String := ""
  software : Option (List String) := none
  raw : Option JsonMap := none
  collectedBy : String := ""

/-- What the database does with the statements of `UpsertAssetProbeSnapshot`. -/
structure SnapshotWrites where
  newId : Uuid
  /-- the error of the `INSERT`, of a value that its column does not take or of the connection -/
  insertError : Option String := none
  insertedAt : Time
  /-- whether the `UPDATE` of the asset is executed -/
  summarized : Bool := true
  summarizedAt : Time

/-- The row that is inserted. -/
def snapshotOfRequest (w : SnapshotWrites) (assetId : Uuid)
    (req : UpsertAssetProbeSnapshotRequest) : ProbeSnapshotRow :=
  { id := w.newId, assetId, osName := trimSpace req.osName, osVersion := trimSpace req.osVersion
    kernel := trimSpace req.kernel, arch := trimSpace req.arch, hostname := trimSpace req.hostname
    uptimeSeconds := req.uptimeSecond, cpuModel := trimSpace req.cpuModel
    cpuCores := req.cpuCores, memoryMb := req.memoryMB, diskSummary := trimSpace req.diskSummary
    software := (req.software.map fun names => .arr (names.map .str)).getD .null
    rawJson := (req.raw.map .obj).getD .null
    collectedBy :=
      if trimSpace req.collectedBy = "" then "bastion-probe" else trimSpace req.collectedBy
    collectedAt := w.insertedAt }

/-- What the tags of an asset tell of a snapshot.  `marshalTime` is `MarshalJSON` of `time.Time`,
in the zone of the server. -/
def probeSummary (marshalTime : Time → String) (snapshot : ProbeSnapshotRow) : JsonMap :=
  [("os_name", .str snapshot.osName), ("os_version", .str snapshot.osVersion),
    ("kernel", .str snapshot.kernel), ("arch", .str snapshot.arch),
    ("hostname", .str snapshot.hostname), ("cpu_model", .str snapshot.cpuModel),
    ("cpu_cores", .num (toString snapshot.cpuCores)),
    ("memory_mb", .num (toString snapshot.memoryMb)),
    ("probe_at", .str (marshalTime snapshot.collectedAt)),
    ("probe_by", .str snapshot.collectedBy), ("probe_software", snapshot.software)]

/-- The assignments of the `UPDATE` of the asset. -/
def mergeSummary (now : Time) (summary : JsonMap) (a : AssetRow) : AssetRow :=
  { a with systemTags := a.systemTags.concat (.obj summary), updatedAt := now }

/-- `UpsertAssetProbeSnapshot`. -/
def upsertAssetProbeSnapshot (db : Db) (marshalTime : Time → String) (w : SnapshotWrites)
    (assetID : String) (req : UpsertAssetProbeSnapshotRequest) :
    Except String (Db × ProbeSnapshotRow) := do
  let id ← ensureAssetExists db assetID
  match w.insertError with
  | some e => .error e
  | none =>
    let snapshot := snapshotOfRequest w id req
    let merge := mergeSummary w.summarizedAt (probeSummary marshalTime snapshot)
    let assets :=
      if w.summarized then updateWhere (·.id == id) merge db.cmdbAsset else db.cmdbAsset
    .ok ({ db with
           cmdbAssetProbeSnapshot := db.cmdbAssetProbeSnapshot ++ [snapshot]
           cmdbAsset := assets }, snapshot)

/-- `UpdateConnectionProbeStatus`; no caller reads its error. -/
def updateConnectionProbeStatus (db : Db) (now : Time) (assetID status message : String) : Db :=
  match castUuid assetID with
  | .error _ => db
  | .ok assetId =>
    { db with
      cmdbAssetConnection := updateWhere (·.assetId == assetId)
        (fun c => { c with lastProbeAt := some now, lastProbeStatus := status,
                           lastProbeError := message, updatedAt := now })
        db.cmdbAssetConnection }

/-! ### What the calls do -/

/-- All that a probe of a live asset writes. -/
lemma upsertAssetProbeSnapshot_eq_ok {db db' : Db} {marshalTime : Time → String}
    {w : SnapshotWrites} {assetID : String} {req : UpsertAssetProbeSnapshotRequest}
    {snapshot : ProbeSnapshotRow}
    (h : upsertAssetProbeSnapshot db marshalTime w assetID req = .ok (db', snapshot)) :
    ∃ id, Uuid.parse assetID = some id ∧ (∃ a ∈ db.cmdbAsset, a.id = id ∧ a.live = true) ∧
      snapshot = snapshotOfRequest w id req ∧
      db' = { db with
              cmdbAssetProbeSnapshot := db.cmdbAssetProbeSnapshot ++ [snapshot]
              cmdbAsset := if w.summarized then
                  updateWhere (·.id == id)
                    (mergeSummary w.summarizedAt (probeSummary marshalTime snapshot)) db.cmdbAsset
                else db.cmdbAsset } := by
  rw [upsertAssetProbeSnapshot, Except.bind_eq_ok] at h
  obtain ⟨id, hid, h⟩ := h
  obtain ⟨hparse, hlive⟩ := ensureAssetExists_eq_ok.mp hid
  split at h
  · cases h
  · obtain ⟨rfl, rfl⟩ := Prod.mk.inj (Except.ok.inj h)
    exact ⟨id, hparse, hlive, rfl, rfl⟩

lemma nodup_probeSummary (marshalTime : Time → String) (snapshot : ProbeSnapshotRow) :
    ((probeSummary marshalTime snapshot).map Prod.fst).Nodup := by
  show ["os_name", "os_version", "kernel", "arch", "hostname", "cpu_model", "cpu_cores",
    "memory_mb", "probe_at", "probe_by", "probe_software"].Nodup
  decide

end OpsPlatform.Cmdb
