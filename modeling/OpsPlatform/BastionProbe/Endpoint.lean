/-
The endpoint of a database in the configuration of a probe and in the address of a session
(`dialPostgres` and `ResolveAssetDB` in `internal/bastionprobe/service.go`).

The connection profile has a port of 32 bits.  A session formats it into an address, and a probe
narrows it to the 16 bits that `pgx` has for it.
-/
import OpsPlatform.BastionProbe.Service
import OpsPlatform.Cmdb.Connection
import OpsPlatform.Lib.Strconv

namespace OpsPlatform.BastionProbe

open Lib Lib.Table Lib.Text Lib.NetAddr Cmdb SshProxy

/-- The configuration that `dialPostgres` hands to `pgx`. -/
def pgConfig (t : BastionProbeTarget) : PgConfig where
  host := t.host
  port := ((if t.port ≤ 0 then 5432 else t.port) % 65536).toNat
  user := t.username
  password := t.password
  database := if trimSpace t.database = "" then "postgres" else trimSpace t.database

/-- The host and the port of the configuration, in one text. -/
def PgConfig.addr (cfg : PgConfig) : String := joinHostPort cfg.host (toString cfg.port)

/-- `dialPostgres` from the point where the configuration is complete. -/
def connectPostgres (env : Env) (t : BastionProbeTarget) (cfg : PgConfig) : Net Unit := do
  Traced.ofExcept env.pgxParseConfig
  let proxy ← Traced.ofExcept (requiredProxy t)
  match proxy with
  | none => env.pgxConnect cfg fun addr => env.perform (.dial addr)
  | some p => do
    let client ← (dialProxy env p).mapError fun e => "proxy dial: " ++ e
    env.pgxConnect cfg (dialThrough env client)

lemma dialPostgres_eq (env : Env) (t : BastionProbeTarget) :
    dialPostgres env t = connectPostgres env t (pgConfig t) := rfl

/-! ### Addresses -/

lemma toString_nat_inj {m n : ℕ} (h : toString m = toString n) : m = n := by
  have hdigits : Nat.toDigits 10 m = Nat.toDigits 10 n := by
    have hlist := congrArg String.toList h
    change (String.ofList _).toList = (String.ofList _).toList at hlist
    rwa [String.toList_ofList, String.toList_ofList] at hlist
  exact Option.some.inj ((Strconv.digits_toDigits m).symm.trans
    (hdigits ▸ Strconv.digits_toDigits n))

lemma toString_eq_iff {n : ℕ} {z : ℤ} (hz : 0 ≤ z) : toString n = toString z ↔ (n : ℤ) = z := by
  obtain ⟨m, rfl⟩ := Int.eq_ofNat_of_zero_le hz
  have hcast : toString (m : ℤ) = toString m := rfl
  rw [hcast]
  constructor
  · intro h
    rw [toString_nat_inj h]
  · intro h
    rw [Int.ofNat.inj h]

lemma joinHostPort_inj {host port port' : String} :
    joinHostPort host port = joinHostPort host port' ↔ port = port' := by
  constructor
  · intro h
    rw [joinHostPort, joinHostPort] at h
    split at h <;>
    · have hlist := congrArg String.toList h
      simp only [String.toList_append, List.append_cancel_left_eq, String.toList_inj] at hlist
      exact hlist
  · rintro rfl
    rfl

/-! ### A stored profile -/

/-- What an accepted edit has stored for the asset. -/
lemma connectionOf_upserted {db db' : Db} {vault : Vault} {now : Time} {newId : Uuid}
    {assetID : String} {req : UpsertAssetConnectionProfileRequest}
    (h : upsertAssetConnectionProfile db vault now newId assetID req = .ok db') :
    ∃ id a c current old, Uuid.parse assetID = some id ∧ connectionOf db' id = some (a, c) ∧
      ProfileEdited db vault req current old c := by
  obtain ⟨id, current, edit, new, old, hid, -, hedit, ⟨hnew, hedited⟩, rfl⟩ :=
    upsertAssetConnectionProfile_edits h
  obtain ⟨hparse, a, ha, hasset, hlive⟩ := ensureAssetExists_eq_ok.mp hid
  obtain ⟨a', ha'⟩ : ∃ a', db.cmdbAsset.find? (fun a => a.id == id && a.live) = some a' :=
    Option.isSome_iff_exists.mp (List.find?_isSome.mpr ⟨a, ha, by simp [hasset, hlive]⟩)
  have hfound : (upsert (·.assetId == id) (fun _ => true) edit new db.cmdbAssetConnection).find?
      (·.assetId == id) =
        some (((db.cmdbAssetConnection.find? (·.assetId == id)).map edit).getD new) :=
    find?_upsert_self (fun c => (hedit c).assetId) (hedited.assetId.trans hnew) _
  obtain ⟨c, from_, hc, hceq⟩ : ∃ c from_, ProfileEdited db vault req current from_ c ∧
      c = ((db.cmdbAssetConnection.find? (·.assetId == id)).map edit).getD new := by
    cases db.cmdbAssetConnection.find? (·.assetId == id) with
    | none => exact ⟨new, old, hedited, rfl⟩
    | some c₀ => exact ⟨edit c₀, c₀, hedit c₀, rfl⟩
  refine ⟨id, a', c, current, from_, hparse, ?_, hc⟩
  rw [connectionOf, ha', Option.bind_some, hfound, Option.map_some, hceq]

/-- The port that is stored. -/
lemma port_of_profileEdited {db : Db} {vault : Vault}
    {req : UpsertAssetConnectionProfileRequest} {current : CurrentProfile} {c c' : ConnectionRow}
    (h : ProfileEdited db vault req current c c')
    (hpostgres : profileProtocol req = .ok "postgres") :
    c'.protocol = "postgres" ∧ c'.port = if req.port ≤ 0 then 5432 else req.port := by
  have hprotocol : c'.protocol = "postgres" :=
    Except.ok.inj (h.protocol.symm.trans hpostgres)
  refine ⟨hprotocol, ?_⟩
  have hport := h.port
  rw [int4, Except.ite_error_eq_ok, hprotocol] at hport
  exact (Except.ok.inj hport.2).symm

/-- The target of a row has its host, port and protocol. -/
lemma targetOfRow_endpoint {db : Db} {decrypt : String → Except String String} {a : AssetRow}
    {c : ConnectionRow} {t : BastionProbeTarget} (h : targetOfRow db decrypt a c = .ok t) :
    t.host = c.host ∧ t.port = c.port ∧ t.protocol = c.protocol := by
  obtain ⟨proxy, password, privateKey, passphrase, -, -, -, -, rfl⟩ := targetOfRow_eq_ok h
  exact ⟨rfl, rfl, rfl⟩

/-- What an asset is resolved to. -/
lemma resolveAsset_eq_ok {ports : String → Option Int} {family : String} {env : Env}
    {assetID : String} {res : RDPResolution}
    (h : (resolveAsset ports family env assetID).result = .ok res) :
    ∃ defaultPort, getBastionProbeTarget env.db env.decrypt assetID = .ok res.target ∧
      ports (toLower (trimSpace res.target.protocol)) = some defaultPort ∧
      res.targetAddr = joinHostPort res.target.host
        (toString (if res.target.port ≤ 0 then defaultPort else res.target.port)) := by
  obtain ⟨t, ht, h⟩ := Traced.bind_result_eq_ok h
  dsimp only at h
  split at h
  · cases h
  · next defaultPort hdefault =>
    obtain ⟨proxy, -, h⟩ := Traced.bind_result_eq_ok h
    obtain ⟨client, -, h⟩ := Traced.bind_result_eq_ok h
    obtain rfl := Except.ok.inj h
    exact ⟨defaultPort, ht, hdefault, rfl⟩

/-- The target of a resolved asset has the host of the profile that was stored for it. -/
lemma host_of_resolved {db db' : Db} {vault : Vault} {now : Time} {newId : Uuid}
    {assetID : String} {req : UpsertAssetConnectionProfileRequest}
    (hstored : upsertAssetConnectionProfile db vault now newId assetID req = .ok db') {env : Env}
    (hdb : env.db = db') {t : BastionProbeTarget}
    (ht : getBastionProbeTarget env.db env.decrypt assetID = .ok t) :
    t.host = trimSpace req.host := by
  obtain ⟨id, a, c, current, old, hparse, hconnection, hedited⟩ := connectionOf_upserted hstored
  rw [hdb, getBastionProbeTarget_eq hparse hconnection] at ht
  have hhost := hedited.host
  rw [profileHost, Except.ite_error_eq_ok] at hhost
  rw [(targetOfRow_endpoint ht).1]
  exact (Except.ok.inj hhost.2).symm

/-- **When a probe is configured for the endpoint of a session.**  Let an edit have stored a profile
of `postgres`, and let a session be resolved for the asset.  The host and the port in the probe's
configuration are those of the session's address if and only if the port of the request fits in
16 bits. -/
theorem probe_endpoint_eq_session_iff {db db' : Db} {vault : Vault} {now : Time} {newId : Uuid}
    {assetID : String} {req : UpsertAssetConnectionProfileRequest}
    (hstored : upsertAssetConnectionProfile db vault now newId assetID req = .ok db')
    (hpostgres : profileProtocol req = .ok "postgres") {env : Env} (hdb : env.db = db')
    {res : RDPResolution} (hres : (resolveAssetDB env assetID).result = .ok res) :
    (pgConfig res.target).addr = res.targetAddr ↔ req.port ≤ 65535 := by
  obtain ⟨id, a, c, current, old, hparse, hconnection, hedited⟩ := connectionOf_upserted hstored
  obtain ⟨hprotocol, hport⟩ := port_of_profileEdited hedited hpostgres
  obtain ⟨defaultPort, htarget, hdefault, haddr⟩ := resolveAsset_eq_ok hres
  rw [hdb, getBastionProbeTarget_eq hparse hconnection] at htarget
  obtain ⟨-, htport, htprotocol⟩ := targetOfRow_endpoint htarget
  have hdefaultPort : defaultPort = 5432 := by
    have hpg : databasePort (toLower (trimSpace "postgres")) = some 5432 := by decide
    rw [htprotocol, hprotocol, hpg] at hdefault
    exact (Option.some.inj hdefault).symm
  have hpos : 0 < res.target.port := by
    rw [htport, hport]
    split <;> omega
  rw [haddr, PgConfig.addr, pgConfig]
  dsimp only
  rw [joinHostPort_inj, if_neg (not_le.mpr hpos), if_neg (not_le.mpr hpos),
    toString_eq_iff hpos.le, htport, hport]
  split <;> omega

/-- An asset without a profile. -/
def sampleAsset : Db where
  cmdbAsset := [{ id := Uuid.replicate 1, type := "vm", name := "db-1" }]

/-- A profile of `postgres` with the port. -/
def postgresOn (port : ℤ) : UpsertAssetConnectionProfileRequest :=
  { protocol := "postgres", host := "10.0.0.9", port, username := "app", password := some "s3cret" }

/-- The network of `sampleEnv`, over another database. -/
def envOver (db : Db) : Env where
  db
  decrypt := .ok
  keys := none
  parsePrivateKey _ _ := .ok ()
  answer _ := .ok ()
  pgxParseConfig := .ok ()
  pgxConnect cfg dialFunc := dialFunc cfg.addr

/-- The port 70000 is accepted and stored.  A session goes to `10.0.0.9:70000`, and the probe is
configured for `10.0.0.9:4464`, which is what a `pgx` that dials its host and port connects to. -/
theorem probe_connects_to_another_port :
    ∃ db' res, upsertAssetConnectionProfile sampleAsset ⟨.ok, .ok⟩ 2 (Uuid.replicate 4)
        (Uuid.replicate 1).toText (postgresOn 70000) = .ok db' ∧
      (resolveAssetDB (envOver db') (Uuid.replicate 1).toText).result = .ok res ∧
      res.targetAddr = "10.0.0.9:70000" ∧ (pgConfig res.target).addr = "10.0.0.9:4464" ∧
      (dialPostgres (envOver db') res.target).events = [.dial "10.0.0.9:4464"] :=
  ⟨_, _, rfl, rfl, rfl, rfl, rfl⟩

theorem probe_endpoint_eq_session_iff_sampleAsset :
    ∃ db' res, upsertAssetConnectionProfile sampleAsset ⟨.ok, .ok⟩ 2 (Uuid.replicate 4)
        (Uuid.replicate 1).toText (postgresOn 5433) = .ok db' ∧
      (resolveAssetDB (envOver db') (Uuid.replicate 1).toText).result = .ok res ∧
      (pgConfig res.target).addr = res.targetAddr := by
  obtain ⟨db', hstored⟩ : ∃ db', upsertAssetConnectionProfile sampleAsset ⟨.ok, .ok⟩ 2
      (Uuid.replicate 4) (Uuid.replicate 1).toText (postgresOn 5433) = .ok db' := ⟨_, rfl⟩
  have hresolved : ∃ res, (resolveAssetDB (envOver db') (Uuid.replicate 1).toText).result =
      .ok res := by
    obtain rfl := Except.ok.inj hstored
    exact ⟨_, rfl⟩
  obtain ⟨res, hres⟩ := hresolved
  have hprotocol : profileProtocol (postgresOn 5433) = .ok "postgres" := by decide
  exact ⟨db', res, hstored, hres,
    (probe_endpoint_eq_session_iff hstored hprotocol rfl hres).mpr (by decide)⟩

end OpsPlatform.BastionProbe
