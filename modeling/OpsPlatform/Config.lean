/-
The configuration that the server reads from its environment (`internal/config/config.go`).

`time.ParseDuration` is a parameter, and of the errors of the number parsers it is kept only that
there is one.
-/
import OpsPlatform.Iam.Model
import OpsPlatform.Lib.Items
import OpsPlatform.Lib.Outcome
import OpsPlatform.Lib.Strconv

namespace OpsPlatform

open Lib Lib.Text

/-- `OIDCSeedConfig`. -/
structure OIDCSeedConfig where
  issuerURL : String
  clientID : String
  clientSecret : String
  redirectURL : String
  authorizeURL : String
  tokenURL : String
  userInfoURL : String
  scopes : List String
  bootstrapAdminSubjects : List String

/-- `Config`. -/
structure Config where
  httpAddr : String
  databaseURL : String
  masterKey : String
  localAdminUsername : String
  localAdminPassword : String
  oidcSeed : OIDCSeedConfig
  syncInterval : ℤ
  syncRunOnStart : Bool
  probeInterval : ℤ
  probeRunOnStart : Bool
  probeTimeout : ℤ
  probeConcurrency : ℤ
  probeBatchSize : ℤ
  guacdAddr : String
  guacTunnelHost : String
  recordingEnabled : Bool
  recordingEndpoint : String
  recordingAccessID : String
  recordingSecret : String
  recordingBucket : String
  recordingRegion : String
  recordingUseSSL : Bool
  recordingMaxBytes : ℤ
  recordingRetentionDays : ℤ

namespace Config

/-- An error of a parser: one of the standard library, or one of this package. -/
inductive ParseError where
  | standard
  | message (text : String)

inductive LoadError where
  | message (text : String)
  /-- `"invalid " + key + ": %w"` -/
  | invalid (key : String) (e : ParseError)

/-! ### Reading -/

/-- What `os.Getenv` gives; a variable that is not set is empty. -/
abbrev Environment := String → String

/-- `getenv`. -/
def getenv (env : Environment) (key fallback : String) : String :=
  if env key = "" then fallback else env key

/-- `parseCSV`. -/
def parseCSV (input : String) : List String :=
  if trimSpace input = "" then []
  else ((Items.split input).map trimSpace).filter (· != "")

/-- `strconv.ParseInt(raw, 10, 64)`, and `strconv.Atoi(raw)`. -/
def parseInt (raw : String) : Except ParseError ℤ :=
  match Strconv.atoi raw.toList with
  | some n => .ok n
  | none => .error .standard

/-- `parseNonNegativeInt64`. -/
def parseNonNegativeInt64 (raw : String) : Except ParseError ℤ := do
  let parsed ← parseInt (trimSpace raw)
  if parsed < 0 then .error (.message "must be >= 0") else .ok parsed

/-- `parsePositiveInt`. -/
def parsePositiveInt (raw : String) : Except ParseError ℤ := do
  let parsed ← parseInt (trimSpace raw)
  if parsed ≤ 0 then .error (.message "must be > 0") else .ok parsed

/-- The value of a variable that is parsed. -/
def readVar {α : Type} (parse : String → Except ParseError α) (env : Environment)
    (key fallback : String) : Except LoadError α :=
  (parse (trimSpace (getenv env key fallback))).mapError (.invalid key)

/-- `return Config{}, err`, when the condition holds. -/
def refuse (condition : Bool) (text : String) : Except LoadError Unit :=
  if condition then .error (.message text) else .ok ()

def minute : ℤ := 60 * second

/-- The settings of single sign-on. -/
def seedOf (env : Environment) : OIDCSeedConfig where
  issuerURL := trimSpace (env "OPS_OIDC_ISSUER_URL")
  clientID := trimSpace (env "OPS_OIDC_CLIENT_ID")
  clientSecret := trimSpace (env "OPS_OIDC_CLIENT_SECRET")
  redirectURL := trimSpace (env "OPS_OIDC_REDIRECT_URL")
  authorizeURL := trimSpace (env "OPS_OIDC_AUTHORIZE_URL")
  tokenURL := trimSpace (env "OPS_OIDC_TOKEN_URL")
  userInfoURL := trimSpace (env "OPS_OIDC_USERINFO_URL")
  scopes := parseCSV (trimSpace (env "OPS_OIDC_SCOPES"))
  bootstrapAdminSubjects := parseCSV (trimSpace (env "OPS_OIDC_BOOTSTRAP_ADMIN_SUBS"))

/-- What is said of a master key that has not 32 bytes. -/
def masterKeyLength (masterKey : String) : String :=
  "OPS_MASTER_KEY must be exactly 32 chars (got " ++ toString masterKey.utf8ByteSize ++ ")"

/-- `Load`. -/
def load (parseDuration : String → Except ParseError ℤ) (env : Environment) :
    Except LoadError Config := do
  let recordingEndpoint := trimSpace (env "OPS_RECORDING_ENDPOINT")
  let recordingAccessID := trimSpace (env "OPS_RECORDING_ACCESS_KEY")
  let recordingSecret := env "OPS_RECORDING_SECRET_KEY"
  let masterKey := trimSpace (env "OPS_MASTER_KEY")
  let localAdminUsername := trimSpace (getenv env "OPS_LOCAL_ADMIN_USERNAME" "admin")
  let localAdminPassword := getenv env "OPS_LOCAL_ADMIN_PASSWORD" "admin123456"
  let recordingMaxBytes ← readVar parseNonNegativeInt64 env "OPS_RECORDING_MAX_BYTES" "0"
  let recordingRetentionDays ← readVar parseNonNegativeInt64 env "OPS_RECORDING_RETENTION_DAYS" "0"
  let syncInterval ← readVar parseDuration env "OPS_SYNC_INTERVAL" "15m"
  refuse (syncInterval < minute) "OPS_SYNC_INTERVAL must be >= 1m"
  let probeInterval ← readVar parseDuration env "OPS_PROBE_INTERVAL" "30m"
  refuse (probeInterval < minute) "OPS_PROBE_INTERVAL must be >= 1m"
  let probeTimeout ← readVar parseDuration env "OPS_PROBE_TIMEOUT" "20s"
  refuse (probeTimeout < 5 * second) "OPS_PROBE_TIMEOUT must be >= 5s"
  let probeConcurrency ← readVar parsePositiveInt env "OPS_PROBE_CONCURRENCY" "4"
  refuse (probeConcurrency > 32) "OPS_PROBE_CONCURRENCY must be <= 32"
  let probeBatchSize ← readVar parsePositiveInt env "OPS_PROBE_BATCH_SIZE" "200"
  refuse (probeBatchSize > 1000) "OPS_PROBE_BATCH_SIZE must be <= 1000"
  refuse (env "OPS_DATABASE_URL" == "") "OPS_DATABASE_URL is required"
  refuse (masterKey == "") "OPS_MASTER_KEY is required (32 chars)"
  refuse (masterKey.utf8ByteSize != 32) (masterKeyLength masterKey)
  refuse (localAdminUsername == "") "OPS_LOCAL_ADMIN_USERNAME is required"
  refuse (trimSpace localAdminPassword == "") "OPS_LOCAL_ADMIN_PASSWORD is required"
  .ok {
    httpAddr := getenv env "OPS_HTTP_ADDR" ":8080"
    databaseURL := env "OPS_DATABASE_URL"
    masterKey, localAdminUsername, localAdminPassword
    oidcSeed := seedOf env
    syncInterval
    syncRunOnStart := !equalFold (trimSpace (getenv env "OPS_SYNC_RUN_ON_START" "true")) "false"
    probeInterval
    probeRunOnStart := !equalFold (trimSpace (getenv env "OPS_PROBE_RUN_ON_START" "true")) "false"
    probeTimeout, probeConcurrency, probeBatchSize
    guacdAddr := trimSpace (getenv env "OPS_GUACD_ADDR" "127.0.0.1:4822")
    guacTunnelHost := trimSpace (env "OPS_GUAC_TUNNEL_HOST")
    recordingEnabled := recordingEndpoint != "" && recordingAccessID != "" && recordingSecret != ""
    recordingEndpoint, recordingAccessID, recordingSecret
    recordingBucket := trimSpace (getenv env "OPS_RECORDING_BUCKET" "ops-platform-recordings")
    recordingRegion := trimSpace (getenv env "OPS_RECORDING_REGION" "us-east-1")
    recordingUseSSL := equalFold (trimSpace (getenv env "OPS_RECORDING_USE_SSL" "false")) "true"
    recordingMaxBytes, recordingRetentionDays }

/-! ### What is accepted -/

lemma refuse_eq_ok_iff {condition : Bool} {text : String} {u : Unit} :
    refuse condition text = .ok u ↔ condition = false := by
  cases condition <;> simp [refuse]

lemma readVar_eq_ok_iff {α : Type} {parse : String → Except ParseError α} {env : Environment}
    {key fallback : String} {x : α} :
    readVar parse env key fallback = .ok x ↔
      parse (trimSpace (getenv env key fallback)) = .ok x :=
  Except.mapError_eq_ok

/-- What `Load` has made sure of. -/
structure Loaded (env : Environment) (cfg : Config) : Prop where
  localAdminUsername : cfg.localAdminUsername =
    trimSpace (getenv env "OPS_LOCAL_ADMIN_USERNAME" "admin")
  localAdminUsername_ne : cfg.localAdminUsername ≠ ""
  localAdminPassword : cfg.localAdminPassword =
    getenv env "OPS_LOCAL_ADMIN_PASSWORD" "admin123456"
  localAdminPassword_ne : trimSpace cfg.localAdminPassword ≠ ""
  recordingMaxBytes : 0 ≤ cfg.recordingMaxBytes
  recordingRetentionDays : 0 ≤ cfg.recordingRetentionDays ∧ cfg.recordingRetentionDays < 2 ^ 63
  syncInterval : minute ≤ cfg.syncInterval
  probeInterval : minute ≤ cfg.probeInterval
  probeTimeout : 5 * second ≤ cfg.probeTimeout
  probeConcurrency : 0 < cfg.probeConcurrency ∧ cfg.probeConcurrency ≤ 32
  probeBatchSize : 0 < cfg.probeBatchSize ∧ cfg.probeBatchSize ≤ 1000
  masterKey : cfg.masterKey.utf8ByteSize = 32

lemma parseInt_eq_ok {raw : String} {n : ℤ} (h : parseInt raw = .ok n) :
    -(2 ^ 63) ≤ n ∧ n < 2 ^ 63 := by
  rw [parseInt] at h
  split at h
  · next hatoi =>
    obtain rfl := Except.ok.inj h
    exact Strconv.range_of_atoi hatoi
  · cases h

lemma parseNonNegativeInt64_eq_ok {raw : String} {n : ℤ}
    (h : parseNonNegativeInt64 raw = .ok n) : 0 ≤ n ∧ n < 2 ^ 63 := by
  obtain ⟨parsed, hparsed, h⟩ := Except.bind_eq_ok.mp h
  obtain ⟨hnonneg, h⟩ := Except.ite_error_eq_ok.mp h
  obtain rfl := Except.ok.inj h
  exact ⟨Int.not_lt.mp hnonneg, (parseInt_eq_ok hparsed).2⟩

lemma parsePositiveInt_eq_ok {raw : String} {n : ℤ} (h : parsePositiveInt raw = .ok n) :
    0 < n := by
  obtain ⟨parsed, hparsed, h⟩ := Except.bind_eq_ok.mp h
  obtain ⟨hpos, h⟩ := Except.ite_error_eq_ok.mp h
  obtain rfl := Except.ok.inj h
  exact Int.not_le.mp hpos

section

variable {parseDuration : String → Except ParseError ℤ} {env : Environment} {cfg : Config}

lemma load_eq_ok (h : load parseDuration env = .ok cfg) : Loaded env cfg := by
  obtain ⟨maxBytes, hmaxBytes, h⟩ := Except.bind_eq_ok.mp h
  obtain ⟨days, hdays, h⟩ := Except.bind_eq_ok.mp h
  obtain ⟨syncInterval, -, h⟩ := Except.bind_eq_ok.mp h
  obtain ⟨_, hsync, h⟩ := Except.bind_eq_ok.mp h
  obtain ⟨probeInterval, -, h⟩ := Except.bind_eq_ok.mp h
  obtain ⟨_, hprobe, h⟩ := Except.bind_eq_ok.mp h
  obtain ⟨probeTimeout, -, h⟩ := Except.bind_eq_ok.mp h
  obtain ⟨_, htimeout, h⟩ := Except.bind_eq_ok.mp h
  obtain ⟨concurrency, hconcurrency, h⟩ := Except.bind_eq_ok.mp h
  obtain ⟨_, hconcurrency', h⟩ := Except.bind_eq_ok.mp h
  obtain ⟨batchSize, hbatchSize, h⟩ := Except.bind_eq_ok.mp h
  obtain ⟨_, hbatchSize', h⟩ := Except.bind_eq_ok.mp h
  obtain ⟨-, -, h⟩ := Except.bind_eq_ok.mp h
  obtain ⟨-, -, h⟩ := Except.bind_eq_ok.mp h
  obtain ⟨_, hkey, h⟩ := Except.bind_eq_ok.mp h
  obtain ⟨_, husername, h⟩ := Except.bind_eq_ok.mp h
  obtain ⟨_, hpassword, h⟩ := Except.bind_eq_ok.mp h
  obtain rfl := Except.ok.inj h
  rw [refuse_eq_ok_iff] at hsync hprobe htimeout hconcurrency' hbatchSize' hkey husername hpassword
  simp only [decide_eq_false_iff_not, Int.not_lt, gt_iff_lt, bne_eq_false_iff_eq,
    beq_eq_false_iff_ne] at hsync hprobe htimeout hconcurrency' hbatchSize' hkey husername hpassword
  rw [readVar_eq_ok_iff] at hmaxBytes hdays hconcurrency hbatchSize
  exact {
    localAdminUsername := rfl, localAdminUsername_ne := husername
    localAdminPassword := rfl, localAdminPassword_ne := hpassword
    recordingMaxBytes := (parseNonNegativeInt64_eq_ok hmaxBytes).1
    recordingRetentionDays := parseNonNegativeInt64_eq_ok hdays
    syncInterval := hsync, probeInterval := hprobe, probeTimeout := htimeout
    probeConcurrency := ⟨parsePositiveInt_eq_ok hconcurrency, hconcurrency'⟩
    probeBatchSize := ⟨parsePositiveInt_eq_ok hbatchSize, hbatchSize'⟩
    masterKey := hkey }

end

/-! ### An environment -/

/-- The variables that are required, and one more. -/
def varsWith (name value : String) : Environment := fun key =>
  if key = name then value
  else if key = "OPS_DATABASE_URL" then "postgres://db/ops"
  else if key = "OPS_MASTER_KEY" then "0123456789abcdef0123456789abcdef"
  else ""

/-- The three default durations. -/
def defaultDuration (text : String) : Except ParseError ℤ :=
  if text = "15m" then .ok (15 * minute)
  else if text = "30m" then .ok (30 * minute)
  else if text = "20s" then .ok (20 * second)
  else .error .standard

end Config

end OpsPlatform
