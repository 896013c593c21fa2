/-
The statements of the host-key repository (`internal/hostkey/repository.go`) on the one row
that the unique index on `(scope, target_id)` allows for a target.

Each of them is a single statement on that row, which PostgreSQL executes under the row's lock
on its latest version.  `now` is the `now()` of the statement.
-/
import OpsPlatform.Iam.Model

namespace OpsPlatform.Hostkey

open Lib

/-- The `status` column; its check constraint admits exactly these. -/
inductive Status where
  | active
  | overridePending
deriving DecidableEq

/-- A row of `ssh_known_host`, less its key and its id. -/
structure Row where
  host : String
  port : Int
  keyType : String
  fingerprintSHA256 : String
  status : Status := .active
  firstSeenAt : Time
  lastSeenAt : Time
  overrideBy : String := ""
  overrideAt : Option Time := none
  overrideExpiresAt : Option Time := none
  lastMismatchAt : Option Time := none
  lastMismatchFingerprint : String := ""
  createdAt : Time
  updatedAt : Time
deriving DecidableEq

/-- `ErrNotFound`. -/
def errNotFound : String := "host key not found"

/-- `Upsert`: a new row pins the offered key; an existing one is touched when the key is the
pinned one, and left alone otherwise. -/
def upsert (row : Option Row) (now : Time) (host : String) (port : Int)
    (keyType fingerprint : String) : Except String (Option Row) :=
  if port < -2147483648 ∨ 2147483647 < port then
    .error "value is out of range for type integer"
  else
    match row with
    | none =>
      .ok (some { host, port, keyType, fingerprintSHA256 := fingerprint, firstSeenAt := now,
                  lastSeenAt := now, createdAt := now, updatedAt := now })
    | some r =>
      if r.fingerprintSHA256 = fingerprint then
        .ok (some { r with lastSeenAt := now, host, port, keyType, updatedAt := now })
      else .ok (some r)

/-- `Get`. -/
def get (row : Option Row) : Except String Row :=
  match row with
  | none => .error errNotFound
  | some r => .ok r

/-- `RecordMismatch`. -/
def recordMismatch (row : Option Row) (now : Time) (offeredFingerprint : String) : Option Row :=
  row.map fun r =>
    { r with lastMismatchAt := some now, lastMismatchFingerprint := offeredFingerprint,
             updatedAt := now }

/-- `OverrideTTL`. -/
def overrideTTL : Int := 10 * 60 * second

/-- `ApproveOverride`; `clock` is the `time.Now()` of the caller. -/
def approveOverride (row : Option Row) (now clock : Time) (adminName : String) (ttl : Int) :
    Option Row × Except String Unit :=
  match row with
  | none => (none, .error errNotFound)
  | some r =>
    (some { r with status := .overridePending, overrideBy := adminName, overrideAt := some now,
                   overrideExpiresAt := some (clock + ttl), updatedAt := now }, .ok ())

/-- The override that `ConsumeOverride` looks for. -/
def Row.overridable (r : Row) (now : Time) : Bool :=
  r.status == .overridePending && r.overrideExpiresAt.any (now < ·)

/-- `ConsumeOverride`: the row afterwards, and whether an override was consumed. -/
def consumeOverride (row : Option Row) (now : Time) (keyType fingerprint : String) :
    Option Row × Bool :=
  match row with
  | none => (none, false)
  | some r =>
    if r.overridable now then
      (some { r with fingerprintSHA256 := fingerprint, keyType, status := .active,
                     overrideBy := "", overrideAt := none, overrideExpiresAt := none,
                     lastMismatchAt := none, lastMismatchFingerprint := "", firstSeenAt := now,
                     lastSeenAt := now, updatedAt := now }, true)
    else (some r, false)

/-- `Delete`. -/
def delete (row : Option Row) : Option Row × Except String Unit :=
  match row with
  | none => (none, .error errNotFound)
  | some _ => (none, .ok ())

end OpsPlatform.Hostkey
