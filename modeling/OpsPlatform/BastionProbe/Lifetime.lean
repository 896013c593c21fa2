/-
The clients of proxies, from the dial to the close (`dialSSH`, `dialPostgres` and `ResolveAsset…`
in `internal/bastionprobe/service.go`, `OpenRDP` in `internal/guacproxy/service.go`, `Open` in
`internal/dbproxy/service.go`).

The dial paths are those of `BastionProbe.Service` with the events of the clients: `dialProxy`
opens one, every exit with an error has its `Close`, and what a call gives knows the client that
its own `Close` closes.  Without these events the paths are the ones they were.  `OpenRDP` has an
exit that closes nothing: an address that `net.SplitHostPort` refuses.
-/
import OpsPlatform.BastionProbe.Endpoint
import OpsPlatform.DbProxy.Service
import OpsPlatform.GuacProxy.Service
import OpsPlatform.Lib.Leases

namespace OpsPlatform.BastionProbe.Lifetime

open Lib Lib.Traced Lib.Leases Lib.Text Lib.NetAddr Cmdb SshProxy GuacProxy DbProxy

/-- The events of a dial path: clients of proxies are opened and closed. -/
abbrev ClientEvent := Leases.Event Client NetEvent

/-- A computation with network events and the lifetime of clients. -/
abbrev Held := Traced ClientEvent String

/-- `client.Close()`, when there is a client. -/
def closing : Option Client → List ClientEvent
  | none => []
  | some client => [.closed client]

/-- `dialProxy`. -/
def dialProxy (env : Env) (p : SSHProxyTarget) : Held Client :=
  acquire (BastionProbe.dialProxy env p)

/-! ### SSH -/

/-- The client of a target, with the client of the proxy that it runs over. -/
structure TargetClient where
  proxyClient : Option Client

/-- `client.Close()` ends `client.Wait()`, after which the client of the proxy is closed. -/
def TargetClient.close (c : TargetClient) : List ClientEvent := closing c.proxyClient

/-- The end of `dialSSH`. -/
def dialTarget (env : Env) (assetID addr : String) : Option SSHProxyTarget → Held TargetClient
  | none => do
    lift ((env.perform (.sshDial addr .asset assetID)).mapError fun e =>
      "ssh.Dial " ++ addr ++ ": " ++ e)
    pure ⟨none⟩
  | some p => do
    let client ← (dialProxy env p).mapError fun e => "proxy dial: " ++ e
    onError (closing (some client)) (lift ((env.perform (.tunnel client addr)).mapError fun e =>
      "proxy tunnel to " ++ addr ++ ": " ++ e))
    onError (closing (some client)) (lift (env.perform (.handshake client addr)))
    pure ⟨some client⟩

/-- `dialSSH`. -/
def dialSSH (env : Env) (t : BastionProbeTarget) : Held TargetClient := do
  Traced.ofExcept (sshProtocol t)
  let proxy ← Traced.ofExcept (requiredProxy t)
  let secrets ← Traced.ofExcept (resolveKeyCredentials env t)
  Traced.ofExcept (buildSSHAuth env t.authType t.password secrets.1 secrets.2)
  dialTarget env t.assetID (joinHostPort t.host (toString t.port)) proxy

/-! ### PostgreSQL -/

/-- A connection, with the client of the proxy that it runs over. -/
structure PgConn where
  proxyClient : Option Client

/-- `cleanup`, which `dialPostgres` gives beside the connection. -/
def PgConn.cleanup (c : PgConn) : List ClientEvent := closing c.proxyClient

/-- `dialPostgres`. -/
def dialPostgres (env : Env) (t : BastionProbeTarget) : Held PgConn := do
  Traced.ofExcept env.pgxParseConfig
  let proxy ← Traced.ofExcept (requiredProxy t)
  match proxy with
  | none => do
    lift (env.pgxConnect (pgConfig t) fun addr => env.perform (.dial addr))
    pure ⟨none⟩
  | some p => do
    let client ← (dialProxy env p).mapError fun e => "proxy dial: " ++ e
    onError (closing (some client)) (lift (env.pgxConnect (pgConfig t) (dialThrough env client)))
    pure ⟨some client⟩

/-! ### Sessions -/

/-- The client of the proxy of a target, when it has one. -/
def proxyClientOf (env : Env) : Option SSHProxyTarget → Held (Option Client)
  | none => pure none
  | some p => do
    let client ← (dialProxy env p).mapError fun e => "proxy dial: " ++ e
    pure (some client)

/-- `ResolveAssetRDP` and `ResolveAssetDB`; the caller owns closing the client. -/
def resolveAsset (ports : String → Option Int) (family : String) (env : Env) (assetID : String) :
    Held RDPResolution := do
  let t ← Traced.ofExcept (getBastionProbeTarget env.db env.decrypt assetID)
  let protocol := toLower (trimSpace t.protocol)
  match ports protocol with
  | none =>
    Traced.ofExcept (.error ("asset protocol is \"" ++ t.protocol ++ "\", " ++ family ++
      " is required"))
  | some defaultPort => do
    let proxy ← Traced.ofExcept (requiredProxy t)
    let client ← proxyClientOf env proxy
    let port := if t.port ≤ 0 then defaultPort else t.port
    pure { target := t, protocol, proxyClient := client
           targetAddr := joinHostPort t.host (toString port) }

/-- `ResolveAssetRDP`. -/
def resolveAssetRDP : Env → String → Held RDPResolution :=
  resolveAsset guacdPort "a guacd protocol (rdp, vnc, telnet)"

/-- `ResolveAssetDB`. -/
def resolveAssetDB : Env → String → Held RDPResolution :=
  resolveAsset databasePort "a database protocol (mysql, postgres, redis)"

/-- `Session`, with the client of its forwarder. -/
structure Session where
  forwarder : Option Client

/-- `Close`; closing the forwarder closes its client. -/
def Session.close (s : Session) : List ClientEvent := closing s.forwarder

/-- `OpenRDP`. -/
def openRDP (svc : Service) (env : Env) (assetID : String) (overrides : RDPParams) :
    Held Session := do
  let res ← resolveAssetRDP env assetID
  let params := { overrides with username := firstNonEmpty overrides.username res.target.username
                                 password := firstNonEmpty overrides.password res.target.password }
  match splitHostPort res.targetAddr with
  -- the client, if there is one, stays open
  | none => Traced.ofExcept (.error ("bad target addr \"" ++ res.targetAddr ++ "\""))
  | some (host, port) => do
    let params ← onError (closing res.proxyClient) (lift
      (forwardParams svc env res.targetAddr (params.connectTo host port) res.proxyClient))
    onError (closing res.proxyClient) (lift (dialRDP svc env res.protocol params))
    pure ⟨res.proxyClient⟩

/-- `Conn`, with its proxy. -/
structure Conn where
  proxy : Option Client

/-- `Close`. -/
def Conn.close (c : Conn) : List ClientEvent := closing c.proxy

/-- `Open`. -/
def openDatabase (env : Env) (assetID : String) : Held Conn := do
  let res ← resolveAssetDB env assetID
  onError (closing res.proxyClient) (lift (dialDatabase env res.targetAddr res.proxyClient))
  pure ⟨res.proxyClient⟩

/-! ### The paths without their clients -/

section

variable (env : Env)

lemma filterMap_closing (client : Option Client) :
    (closing client).filterMap Leases.Event.other? = [] := by
  cases client <;> rfl

@[simp] lemma erase_onError_closing {α : Type} (client : Option Client) (x : Held α) :
    erase (onError (closing client) x) = erase x := erase_onError (filterMap_closing client) x

@[simp] lemma erase_dialProxy (p : SSHProxyTarget) :
    erase (dialProxy env p) = BastionProbe.dialProxy env p := erase_acquire _

lemma erase_dialTarget (assetID addr : String) (proxy : Option SSHProxyTarget) :
    (erase (dialTarget env assetID addr proxy) >>= fun _ => pure ()) =
      BastionProbe.dialTarget env assetID addr proxy := by
  cases proxy <;> simp [dialTarget, BastionProbe.dialTarget]

lemma erase_dialSSH (t : BastionProbeTarget) :
    (erase (dialSSH env t) >>= fun _ => pure ()) = BastionProbe.dialSSH env t := by
  simp only [dialSSH, BastionProbe.dialSSH, erase_bind, erase_ofExcept, bind_assoc,
    erase_dialTarget]

lemma erase_dialPostgres (t : BastionProbeTarget) :
    (erase (dialPostgres env t) >>= fun _ => pure ()) = BastionProbe.dialPostgres env t := by
  rw [dialPostgres_eq, connectPostgres]
  simp only [dialPostgres, erase_bind, erase_ofExcept, bind_assoc]
  congr 1
  ext1 _
  congr 1
  ext1 proxy
  cases proxy <;> simp

lemma erase_proxyClientOf (proxy : Option SSHProxyTarget) :
    erase (proxyClientOf env proxy) = BastionProbe.proxyClientOf env proxy := by
  cases proxy <;> simp [proxyClientOf, BastionProbe.proxyClientOf]

lemma erase_resolveAsset (ports : String → Option Int) (family assetID : String) :
    erase (resolveAsset ports family env assetID) =
      BastionProbe.resolveAsset ports family env assetID := by
  simp only [resolveAsset, BastionProbe.resolveAsset, erase_bind, erase_ofExcept]
  congr 1
  ext1 t
  cases ports (toLower (trimSpace t.protocol)) with
  | none => rfl
  | some defaultPort => simp [erase_proxyClientOf]

lemma result_resolveAssetRDP (assetID : String) :
    (resolveAssetRDP env assetID).result = (BastionProbe.resolveAssetRDP env assetID).result := by
  rw [resolveAssetRDP, BastionProbe.resolveAssetRDP, ← erase_resolveAsset, result_erase]

lemma erase_openRDP (svc : Service) (assetID : String) (overrides : RDPParams) :
    (erase (openRDP svc env assetID overrides) >>= fun _ => pure ()) =
      GuacProxy.openRDP svc env assetID overrides := by
  simp only [openRDP, GuacProxy.openRDP, resolveAssetRDP, BastionProbe.resolveAssetRDP,
    erase_bind, erase_resolveAsset, bind_assoc]
  congr 1
  ext1 res
  cases splitHostPort res.targetAddr with
  | none => rfl
  | some hostport => simp

lemma erase_openDatabase (assetID : String) :
    (erase (openDatabase env assetID) >>= fun _ => pure ()) =
      DbProxy.openDatabase env assetID := by
  simp [openDatabase, DbProxy.openDatabase, resolveAssetDB, BastionProbe.resolveAssetDB,
    erase_resolveAsset]

end

/-! ### What the paths leave open -/

section

variable {env : Env}

lemma held_closing (client : Option Client) : held client.toList (closing client) = [] := by
  cases client with
  | none => rfl
  | some client => simp [closing, held, Leases.Event.apply]

lemma owns_dialProxy (p : SSHProxyTarget) (wrap : String → String) :
    Owns [] ((dialProxy env p).mapError wrap) fun client => [client] :=
  (owns_acquire _).mapError wrap

/-- A step of which every failure closes the client. -/
lemma owns_step {α : Type} (client : Option Client) (x : Net α) :
    Owns client.toList (onError (closing client) (lift x)) fun _ => client.toList :=
  owns_onError (held_closing client) x

lemma owns_dialTarget (assetID addr : String) (proxy : Option SSHProxyTarget) :
    Owns [] (dialTarget env assetID addr proxy) fun c => c.proxyClient.toList := by
  cases proxy with
  | none => exact (owns_lift _).bind fun _ _ => owns_pure rfl
  | some p =>
    refine (owns_dialProxy p _).bind fun client _ => ?_
    refine (owns_step (some client) _).bind fun _ _ => ?_
    exact (owns_step (some client) _).bind fun _ _ => owns_pure rfl

lemma leakFree_dialSSH (t : BastionProbeTarget) : LeakFree TargetClient.close (dialSSH env t) := by
  have howns : Owns [] (dialSSH env t) fun c => c.proxyClient.toList := by
    refine (owns_ofExcept _).bind fun _ _ => ?_
    refine (owns_ofExcept _).bind fun proxy _ => ?_
    refine (owns_ofExcept _).bind fun secrets _ => ?_
    exact (owns_ofExcept _).bind fun _ _ => owns_dialTarget _ _ proxy
  exact howns.leakFree fun c => held_closing c.proxyClient

lemma leakFree_dialPostgres (t : BastionProbeTarget) :
    LeakFree PgConn.cleanup (dialPostgres env t) := by
  have howns : Owns [] (dialPostgres env t) fun c => c.proxyClient.toList := by
    refine (owns_ofExcept _).bind fun _ _ => ?_
    refine (owns_ofExcept _).bind fun proxy _ => ?_
    cases proxy with
    | none => exact (owns_lift _).bind fun _ _ => owns_pure rfl
    | some p =>
      refine (owns_dialProxy p _).bind fun client _ => ?_
      exact (owns_step (some client) _).bind fun _ _ => owns_pure rfl
  exact howns.leakFree fun c => held_closing c.proxyClient

lemma owns_proxyClientOf (proxy : Option SSHProxyTarget) :
    Owns [] (proxyClientOf env proxy) Option.toList := by
  cases proxy with
  | none => exact owns_pure rfl
  | some p => exact (owns_dialProxy p _).bind fun client _ => owns_pure rfl

lemma owns_resolveAsset (ports : String → Option Int) (family assetID : String) :
    Owns [] (resolveAsset ports family env assetID) fun res => res.proxyClient.toList := by
  refine (owns_ofExcept _).bind fun t _ => ?_
  dsimp only
  split
  · exact ⟨fun _ _ => rfl, fun _ h => by cases h⟩
  · refine (owns_ofExcept _).bind fun proxy _ => ?_
    exact (owns_proxyClientOf proxy).bind fun client _ => owns_pure rfl

lemma leakFree_openDatabase (assetID : String) :
    LeakFree Conn.close (openDatabase env assetID) := by
  have howns : Owns [] (openDatabase env assetID) fun c => c.proxy.toList := by
    refine (owns_resolveAsset _ _ assetID).bind fun res _ => ?_
    exact (owns_step res.proxyClient _).bind fun _ _ => owns_pure rfl
  exact howns.leakFree fun c => held_closing c.proxy

/-- `OpenRDP` after an address that can be split. -/
lemma owns_openRDP {svc : Service} {assetID : String} {overrides : RDPParams}
    (h : ∀ res, (BastionProbe.resolveAssetRDP env assetID).result = .ok res →
      res.proxyClient.isSome → (splitHostPort res.targetAddr).isSome) :
    Owns [] (openRDP svc env assetID overrides) fun s => s.forwarder.toList := by
  refine (owns_resolveAsset _ _ assetID).bind fun res hres => ?_
  dsimp only
  split
  · next hnone =>
    have hclient : res.proxyClient = none := by
      by_contra hsome
      have hsplit := h res ((result_resolveAssetRDP env assetID).symm.trans hres)
        (Option.isSome_iff_ne_none.mpr hsome)
      rw [hnone] at hsplit
      cases hsplit
    rw [hclient]
    exact ⟨fun _ _ => rfl, fun _ hok => by cases hok⟩
  · refine (owns_step res.proxyClient _).bind fun params _ => ?_
    exact (owns_step res.proxyClient _).bind fun _ _ => owns_pure rfl

/-- The exit that closes nothing. -/
lemma held_openRDP (svc : Service) {assetID : String} (overrides : RDPParams)
    {res : RDPResolution} (hres : (BastionProbe.resolveAssetRDP env assetID).result = .ok res)
    (hnone : splitHostPort res.targetAddr = none) :
    ∃ e, (openRDP svc env assetID overrides).result = .error e ∧
      held [] (openRDP svc env assetID overrides).events = res.proxyClient.toList := by
  have hheld := (owns_resolveAsset guacdPort "a guacd protocol (rdp, vnc, telnet)" assetID).done res
    ((result_resolveAssetRDP env assetID).trans hres)
  have hopen : openRDP svc env assetID overrides = ⟨(resolveAssetRDP env assetID).events ++ [],
      .error ("bad target addr \"" ++ res.targetAddr ++ "\"")⟩ := by
    rw [openRDP, bind_of_ok ((result_resolveAssetRDP env assetID).trans hres)]
    dsimp only
    rw [hnone]
    rfl
  rw [hopen, List.append_nil]
  exact ⟨_, rfl, hheld⟩

/-- A session is leak free exactly when the address of its target can be split. -/
lemma leakFree_openRDP_iff {svc : Service} {assetID : String} {overrides : RDPParams} :
    LeakFree Session.close (openRDP svc env assetID overrides) ↔
      ∀ res, (BastionProbe.resolveAssetRDP env assetID).result = .ok res →
        res.proxyClient.isSome → (splitHostPort res.targetAddr).isSome := by
  constructor
  · intro hfree res hres hclient
    by_contra hsplit
    rw [Option.not_isSome_iff_eq_none] at hsplit
    obtain ⟨e, he, hheld⟩ := held_openRDP svc overrides hres hsplit
    rw [hfree.failed e he] at hheld
    obtain ⟨client, hclient⟩ := Option.isSome_iff_exists.mp hclient
    rw [hclient] at hheld
    cases hheld
  · intro h
    exact (owns_openRDP h).leakFree fun s => held_closing s.forwarder

end

/-! ### Stored profiles -/

lemma plainPort_toString {port : Int} (h : 0 < port) : PlainPort (toString port).toList := by
  obtain ⟨n, rfl⟩ := Int.eq_ofNat_of_zero_le h.le
  have hlist : (toString (n : Int)).toList = Nat.toDigits 10 n := by
    change (String.ofList _).toList = _
    rw [String.toList_ofList]
  have hdigit : ∀ c : Char, c.isDigit = false → c ∉ Nat.toDigits 10 n := by
    intro c hc hmem
    rw [Strconv.isDigit_toDigits hmem] at hc
    cases hc
  rw [hlist]
  exact ⟨hdigit _ rfl, hdigit _ rfl, hdigit _ rfl⟩

lemma guacdPort_pos {protocol : String} {port : Int} (h : guacdPort protocol = some port) :
    0 < port := by
  rw [guacdPort] at h
  split_ifs at h <;> cases h <;> decide

/-- No client that `dialProxy` opens for the asset, or for a target, stays open. -/
structure NoLeak (svc : Service) (env : Env) (assetID : String) (overrides : RDPParams) :
    Prop where
  dialSSH : ∀ t, LeakFree TargetClient.close (dialSSH env t)
  dialPostgres : ∀ t, LeakFree PgConn.cleanup (dialPostgres env t)
  openRDP : LeakFree Session.close (openRDP svc env assetID overrides)
  openDatabase : LeakFree Conn.close (openDatabase env assetID)

/-- The target of a guacd protocol has a proxy, and dialling that succeeds. -/
def OpensProxy (env : Env) (assetID : String) : Prop :=
  ∃ t p client, getBastionProbeTarget env.db env.decrypt assetID = .ok t ∧
    (guacdPort (toLower (trimSpace t.protocol))).isSome ∧ t.proxy = some p ∧
    (BastionProbe.dialProxy env p).result = .ok client

/-- Then `OpenRDP` is given the client. -/
lemma opensProxy_iff {env : Env} {assetID : String} :
    OpensProxy env assetID ↔ ∃ res, (BastionProbe.resolveAssetRDP env assetID).result = .ok res ∧
      res.proxyClient.isSome := by
  constructor
  · rintro ⟨t, p, client, ht, hguacd, hp, hdial⟩
    obtain ⟨defaultPort, hport⟩ := Option.isSome_iff_exists.mp hguacd
    -- each step of the resolver succeeds, one after the other
    have hrequired : requiredProxy t = .ok (some p) := by
      rw [requiredProxy, hp, if_neg (by simp)]
    have hwrapped : ((BastionProbe.dialProxy env p).mapError ("proxy dial: " ++ ·)).result =
        .ok client := by
      rw [result_mapError, hdial]
      rfl
    have hclient : (BastionProbe.proxyClientOf env (some p)).result = .ok (some client) := by
      rw [BastionProbe.proxyClientOf, result_bind_of_ok hwrapped]
      rfl
    have hres : (BastionProbe.resolveAssetRDP env assetID).result = .ok
        { target := t, protocol := toLower (trimSpace t.protocol), proxyClient := some client
          targetAddr := joinHostPort t.host
            (toString (if t.port ≤ 0 then defaultPort else t.port)) } := by
      rw [BastionProbe.resolveAssetRDP, BastionProbe.resolveAsset, result_bind_of_ok ht]
      dsimp only
      rw [hport]
      dsimp only
      rw [result_bind_of_ok hrequired, result_bind_of_ok hclient]
      rfl
    exact ⟨_, hres, rfl⟩
  · rintro ⟨res, h, hclient⟩
    -- a resolution with a client has come through the guard and the dial
    obtain ⟨t, ht, h⟩ := bind_result_eq_ok h
    dsimp only at h
    split at h
    · cases h
    · next defaultPort hport =>
      obtain ⟨proxy, hproxy, h⟩ := bind_result_eq_ok h
      obtain ⟨client, hopened, h⟩ := bind_result_eq_ok h
      obtain rfl := Except.ok.inj h
      cases proxy with
      | none =>
        obtain rfl := Except.ok.inj hopened
        cases hclient
      | some p =>
        obtain ⟨client', hdial, -⟩ := bind_result_eq_ok hopened
        rw [result_mapError, Except.mapError_eq_ok] at hdial
        refine ⟨t, p, client', ht, by rw [hport]; rfl, ?_, hdial⟩
        have hguard : requiredProxy t = .ok (some p) := hproxy
        rw [requiredProxy, Except.ite_error_eq_ok] at hguard
        exact Except.ok.inj hguard.2

/-- **Clients of proxies are closed.**  For a stored profile and any answers of the network,
every client is closed before `dialSSH`, `dialPostgres`, `OpenRDP` or `Open` returns an error, or
with what the call returns, if and only if `OpenRDP` opens none or the host of the profile has no
brackets in the wrong place. -/
theorem noLeak_iff {db db' : Db} {vault : Vault} {now : Time} {newId : Uuid} {assetID : String}
    {req : UpsertAssetConnectionProfileRequest}
    (hstored : upsertAssetConnectionProfile db vault now newId assetID req = .ok db')
    {env : Env} (hdb : env.db = db') (svc : Service) (overrides : RDPParams) :
    NoLeak svc env assetID overrides ↔
      (OpensProxy env assetID → Splits (trimSpace req.host).toList) := by
  have haddr : ∀ res, (BastionProbe.resolveAssetRDP env assetID).result = .ok res →
      ((splitHostPort res.targetAddr).isSome ↔ Splits (trimSpace req.host).toList) := by
    intro res hres
    obtain ⟨defaultPort, ht, hdefault, htarget⟩ := resolveAsset_eq_ok hres
    have hport : 0 < if res.target.port ≤ 0 then defaultPort else res.target.port := by
      split
      · exact guacdPort_pos hdefault
      · omega
    rw [htarget, isSome_splitHostPort_joinHostPort (plainPort_toString hport),
      host_of_resolved hstored hdb ht]
  -- only `OpenRDP` has an exit that keeps the client: the one for a bad address
  have hrdp : LeakFree Session.close (openRDP svc env assetID overrides) ↔
      (OpensProxy env assetID → Splits (trimSpace req.host).toList) := by
    rw [leakFree_openRDP_iff, opensProxy_iff]
    constructor
    · rintro hall ⟨res, hres, hclient⟩
      exact (haddr res hres).mp (hall res hres hclient)
    · intro h res hres hclient
      exact (haddr res hres).mpr (h ⟨res, hres, hclient⟩)
  constructor
  · exact fun hno => hrdp.mp hno.openRDP
  · exact fun h => ⟨leakFree_dialSSH, leakFree_dialPostgres, hrdp.mpr h,
      leakFree_openDatabase assetID⟩

/-- An asset without a profile, and a proxy. -/
def sampleFleet : Db where
  cmdbAsset := [{ id := Uuid.replicate 1, type := "vm", name := "desktop-1" }]
  cmdbSshProxy := [{ id := Uuid.replicate 2, name := "gw", host := "10.0.0.1", username := "gw",
                     passwordEncrypted := "y" }]

/-- A profile of `rdp` behind the proxy. -/
def desktopAt (host : String) : UpsertAssetConnectionProfileRequest :=
  { protocol := "rdp", host, username := "admin", password := some "s3cret"
    proxyID := some (Uuid.replicate 2).toText }

/-- A service whose host has a free port and a guacd that answers. -/
def sampleService : Service := newService "" "" none (.ok ⟨"40000", by decide⟩) (.ok ())

/-- The host `[fd00::9]` is accepted and stored.  `OpenRDP` fails, and the client of the proxy
stays open. -/
theorem bracketed_host_leaks_client :
    ∃ db' e, upsertAssetConnectionProfile sampleFleet ⟨.ok, .ok⟩ 2 (Uuid.replicate 4)
        (Uuid.replicate 1).toText (desktopAt "[fd00::9]") = .ok db' ∧
      (openRDP sampleService (envOver db') (Uuid.replicate 1).toText {}).result = .error e ∧
      held [] (openRDP sampleService (envOver db') (Uuid.replicate 1).toText {}).events =
        [⟨(Uuid.replicate 2).toText, "10.0.0.1:22"⟩] ∧
      ¬ NoLeak sampleService (envOver db') (Uuid.replicate 1).toText {} := by
  refine ⟨_, _, rfl, rfl, rfl, fun hno => ?_⟩
  have hheld := hno.openRDP.failed _ rfl
  cases hheld

theorem noLeak_iff_desktop :
    ∃ db', upsertAssetConnectionProfile sampleFleet ⟨.ok, .ok⟩ 2 (Uuid.replicate 4)
        (Uuid.replicate 1).toText (desktopAt "fd00::9") = .ok db' ∧
      NoLeak sampleService (envOver db') (Uuid.replicate 1).toText {} := by
  obtain ⟨db', hstored⟩ : ∃ db', upsertAssetConnectionProfile sampleFleet ⟨.ok, .ok⟩ 2
      (Uuid.replicate 4) (Uuid.replicate 1).toText (desktopAt "fd00::9") = .ok db' := ⟨_, rfl⟩
  refine ⟨db', hstored, (noLeak_iff hstored rfl sampleService {}).mpr fun _ => Or.inl ?_⟩
  have hhost : (trimSpace (desktopAt "fd00::9").host).toList = "fd00::9".toList := rfl
  rw [hhost]
  exact ⟨by decide, by decide⟩

end OpsPlatform.BastionProbe.Lifetime
