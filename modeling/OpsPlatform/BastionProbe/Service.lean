/-
The dial paths of `internal/bastionprobe/service.go`, with the events that they cause on the
network.

An `ssh.Client` to a proxy is a value of `Client`, which says to which proxy it was opened;
dialling through it is the event `tunnel`.  What the network answers is a function of the
event, and packages outside the repository are fields of `Env`.
-/
import OpsPlatform.Cmdb.ProbeTarget
import OpsPlatform.Lib.NetAddr
import OpsPlatform.Lib.Text
import OpsPlatform.Lib.Traced

namespace OpsPlatform.BastionProbe

open Lib Lib.Text Lib.NetAddr Cmdb SshProxy

/-- `hostkey.ScopeAsset` and `hostkey.ScopeProxy`. -/
inductive Scope where
  | asset
  | proxy
deriving DecidableEq

/-- An open SSH client to a proxy. -/
structure Client where
  proxyID : String
  addr : String
deriving DecidableEq

/-- What the service does on the network. -/
inductive NetEvent where
  /-- `ssh.Dial` to `addr`, with the host key pinned under `(scope, targetID)` -/
  | sshDial (addr : String) (scope : Scope) (targetID : String)
  /-- a direct TCP connection to `addr` -/
  | dial (addr : String)
  /-- `client.Dial("tcp", addr)` -/
  | tunnel (client : Client) (addr : String)
  /-- the SSH handshake with the target on a connection through the client -/
  | handshake (client : Client) (addr : String)
  /-- a local listener whose connections go to `addr` through the client -/
  | forward (client : Client) (addr : String)
  /-- a connection to the guacd daemon -/
  | dialGuacd (addr : String)
  /-- the instruction to guacd to connect to `hostname:port` -/
  | guacdConnect (protocol hostname : String) (port : Int)
deriving DecidableEq

/-- A computation with network events. -/
abbrev Net := Traced NetEvent String

/-- The configuration of `pgx` that the service sets. -/
structure PgConfig where
  host : String
  port : ℕ
  user : String
  password : String
  database : String

/-- What the service runs on. -/
structure Env where
  /-- the database -/
  db : Db
  /-- `security.Decrypt` under the master key -/
  decrypt : String → Except String String
  /-- the keypair store, when there is one -/
  keys : Option (String → Except String (String × String))
  /-- `ssh.ParsePrivateKey`, with a passphrase when it is not blank -/
  parsePrivateKey : String → String → Except String Unit
  /-- the answer of the network -/
  answer : NetEvent → Except String Unit
  /-- `pgx.ParseConfig("postgres://")`, for its error -/
  pgxParseConfig : Except String Unit
  /-- `pgx.ConnectConfig`, given the configuration and its `DialFunc` -/
  pgxConnect : PgConfig → (String → Net Unit) → Net Unit

/-- One event, with what the network answers. -/
def Env.perform (env : Env) (e : NetEvent) : Net Unit := Traced.emit e (env.answer e)

lemma performs_perform {P : NetEvent → Prop} {e : NetEvent} (env : Env) (h : P e) :
    Traced.Performs P (env.perform e) := Traced.performs_emit h _

/-! ### Credentials -/

/-- The secrets that `resolveKeyCredentials` and `resolveProxyKeyCredentials` leave in a
target; `what` is `"asset"` or `"proxy"`, and `kind` names the keypair in an error. -/
def keyCredentials (env : Env) (what kind authType keyName privateKey passphrase : String) :
    Except String (String × String) :=
  let name := trimSpace keyName
  if toLower (trimSpace authType) ≠ "key" ∨ trimSpace privateKey ≠ "" ∨ name = "" then
    .ok (privateKey, passphrase)
  else
    match env.keys with
    | none =>
      .error (what ++ " references key \"" ++ name ++ "\" but no keypair store is configured")
    | some lookup =>
      match lookup name with
      | .error e => .error ("lookup " ++ kind ++ " \"" ++ name ++ "\": " ++ e)
      | .ok (pk, pass) => .ok (pk, if trimSpace passphrase = "" then pass else passphrase)

/-- `resolveKeyCredentials`. -/
def resolveKeyCredentials (env : Env) (t : BastionProbeTarget) : Except String (String × String) :=
  keyCredentials env "asset" "keypair" t.authType t.keyName t.privateKey t.passphrase

/-- `resolveProxyKeyCredentials`. -/
def resolveProxyKeyCredentials (env : Env) (p : SSHProxyTarget) :
    Except String (String × String) :=
  keyCredentials env "proxy" "proxy keypair" p.authType p.keyName p.privateKey p.passphrase

/-- `buildSSHAuth`, for its errors. -/
def buildSSHAuth (env : Env) (authType password privateKey passphrase : String) :
    Except String Unit :=
  let authType := toLower (trimSpace authType)
  if authType = "" ∨ authType = "password" then
    if trimSpace password = "" then .error "password auth but password is empty" else .ok ()
  else if authType = "key" then
    if trimSpace privateKey = "" then .error "key auth but private_key is empty"
    else env.parsePrivateKey privateKey (if trimSpace passphrase = "" then "" else passphrase)
  else .error ("unsupported auth_type: " ++ authType)

/-! ### Dialling -/

/-- The address at which a proxy is dialled. -/
def proxyAddr (host : String) (port : Int) : String :=
  joinHostPort host (toString (if port ≤ 0 then 22 else port))

/-- `dialProxy`. -/
def dialProxy (env : Env) (p : SSHProxyTarget) : Net Client := do
  let secrets ← Traced.ofExcept (resolveProxyKeyCredentials env p)
  Traced.ofExcept (buildSSHAuth env p.authType p.password secrets.1 secrets.2)
  let addr := proxyAddr p.host p.port
  (env.perform (.sshDial addr .proxy p.id)).mapError fun e => "ssh.Dial " ++ addr ++ ": " ++ e
  pure { proxyID := p.id, addr }

/-- The error of a target that needs a proxy and has none. -/
def noProxyError (assetID : String) : String :=
  "asset " ++ assetID ++ " requires bastion proxy but none is resolved"

/-- The guard of every dial path: the proxy to go through, if there is one. -/
def requiredProxy (t : BastionProbeTarget) : Except String (Option SSHProxyTarget) :=
  if t.proxyRequired ∧ t.proxy.isNone then .error (noProxyError t.assetID) else .ok t.proxy

/-- The end of `dialSSH`: directly, or through the proxy. -/
def dialTarget (env : Env) (assetID addr : String) : Option SSHProxyTarget → Net Unit
  | none =>
    (env.perform (.sshDial addr .asset assetID)).mapError fun e =>
      "ssh.Dial " ++ addr ++ ": " ++ e
  | some p => do
    let client ← (dialProxy env p).mapError fun e => "proxy dial: " ++ e
    (env.perform (.tunnel client addr)).mapError fun e =>
      "proxy tunnel to " ++ addr ++ ": " ++ e
    env.perform (.handshake client addr)

/-- The protocols that `dialSSH` accepts. -/
def sshProtocol (t : BastionProbeTarget) : Except String Unit :=
  let protocol := toLower (trimSpace t.protocol)
  if protocol = "" ∨ protocol = "ssh" then .ok ()
  else .error ("unsupported protocol for ssh dial: " ++ t.protocol)

/-- `dialSSH`. -/
def dialSSH (env : Env) (t : BastionProbeTarget) : Net Unit := do
  Traced.ofExcept (sshProtocol t)
  let proxy ← Traced.ofExcept (requiredProxy t)
  let secrets ← Traced.ofExcept (resolveKeyCredentials env t)
  Traced.ofExcept (buildSSHAuth env t.authType t.password secrets.1 secrets.2)
  dialTarget env t.assetID (joinHostPort t.host (toString t.port)) proxy

/-- The protocols that `DialAssetSSH` accepts. -/
def terminalProtocol (t : BastionProbeTarget) : Except String Unit :=
  let protocol := toLower (trimSpace t.protocol)
  if protocol ≠ "" ∧ protocol ≠ "ssh" then
    .error ("asset protocol is \"" ++ t.protocol ++ "\", terminal requires ssh")
  else .ok ()

/-- `DialAssetSSH`. -/
def dialAssetSSH (env : Env) (assetID : String) : Net Unit := do
  let t ← Traced.ofExcept (getBastionProbeTarget env.db env.decrypt assetID)
  Traced.ofExcept (terminalProtocol t)
  dialSSH env t

/-- The `DialFunc` of a client: every connection goes through it. -/
def dialThrough (env : Env) (client : Client) (addr : String) : Net Unit :=
  env.perform (.tunnel client addr)

/-- `dialPostgres`. -/
def dialPostgres (env : Env) (t : BastionProbeTarget) : Net Unit := do
  let port := if t.port ≤ 0 then 5432 else t.port
  let database := if trimSpace t.database = "" then "postgres" else trimSpace t.database
  let cfg : PgConfig := { host := t.host, port := (port % 65536).toNat, user := t.username,
                          password := t.password, database }
  Traced.ofExcept env.pgxParseConfig
  let proxy ← Traced.ofExcept (requiredProxy t)
  match proxy with
  | none => env.pgxConnect cfg fun addr => env.perform (.dial addr)
  | some p => do
    let client ← (dialProxy env p).mapError fun e => "proxy dial: " ++ e
    env.pgxConnect cfg (dialThrough env client)

/-! ### Resolving -/

/-- `RDPResolution`. -/
structure RDPResolution where
  target : BastionProbeTarget
  targetAddr : String
  protocol : String
  proxyClient : Option Client

/-- The client of the proxy of a target, when it has one. -/
def proxyClientOf (env : Env) : Option SSHProxyTarget → Net (Option Client)
  | none => pure none
  | some p => do
    let client ← (dialProxy env p).mapError fun e => "proxy dial: " ++ e
    pure (some client)

/-- `ResolveAssetRDP` and `ResolveAssetDB`: `ports` gives the default port of the protocols
that are accepted, and `family` names them in the error. -/
def resolveAsset (ports : String → Option Int) (family : String) (env : Env) (assetID : String) :
    Net RDPResolution := do
  let t ← Traced.ofExcept (getBastionProbeTarget env.db env.decrypt assetID)
  let protocol := toLower (trimSpace t.protocol)
  match ports protocol with
  | none =>
    Traced.ofExcept (.error ("asset protocol is \"" ++ t.protocol ++ "\", " ++ family ++
      " is required"))
  | some defaultPort => do
    let proxy ← Traced.ofExcept (requiredProxy t)
    let client ← proxyClientOf env proxy
    pure { target := t, protocol, proxyClient := client
           targetAddr :=
             joinHostPort t.host (toString (if t.port ≤ 0 then defaultPort else t.port)) }

/-- The default ports of the guacd protocols. -/
def guacdPort (protocol : String) : Option Int :=
  if protocol = "rdp" then some 3389 else if protocol = "vnc" then some 5900
  else if protocol = "telnet" then some 23 else none

/-- `ResolveAssetRDP`. -/
def resolveAssetRDP : Env → String → Net RDPResolution :=
  resolveAsset guacdPort "a guacd protocol (rdp, vnc, telnet)"

/-- The default ports of the databases. -/
def databasePort (protocol : String) : Option Int :=
  if protocol = "mysql" then some 3306 else if protocol = "postgres" then some 5432
  else if protocol = "redis" then some 6379 else none

/-- `ResolveAssetDB`. -/
def resolveAssetDB : Env → String → Net RDPResolution :=
  resolveAsset databasePort "a database protocol (mysql, postgres, redis)"

end OpsPlatform.BastionProbe
