/-
Assets behind a proxy are reached through it or not at all.

The four dial paths (SSH, PostgreSQL probes, guacd sessions, databases) each resolve the proxy
of the connection row, dial it and then carry the connection in their own way.  `FailsClosed`
says of a call what all of them have to keep, and is proved along the text of each: steps
without events keep it, and so does dialling the proxy if all that follows goes through the
client that this gives.
-/
import OpsPlatform.DbProxy.Service
import OpsPlatform.GuacProxy.Service

namespace OpsPlatform.BastionProbe

open Lib Lib.NetAddr Lib.Traced Cmdb SshProxy GuacProxy DbProxy

/-- The client that dialling the proxy gives. -/
def clientOf (p : SshProxyRow) : Client :=
  { proxyID := p.id.toText, addr := proxyAddr p.host p.port }

/-- `ssh.Dial` to the proxy, with its own host key. -/
def openProxy (p : SshProxyRow) : NetEvent :=
  .sshDial (proxyAddr p.host p.port) .proxy p.id.toText

/-- The event opens the client of the proxy or goes through it.  guacd is told the address of a
forwarder through the client, or, when that address cannot be split, no host at all. -/
def ThroughProxy (svc : Service) (p : SshProxyRow) : NetEvent → Prop
  | .sshDial addr scope targetID => .sshDial addr scope targetID = openProxy p
  | .dial _ => False
  | .tunnel client _ => client = clientOf p
  | .handshake client _ => client = clientOf p
  | .forward client _ => client = clientOf p
  | .dialGuacd addr => addr = svc.guacdAddr
  | .guacdConnect _ hostname port =>
    hostname = "" ∨ ∃ l, svc.listen = .ok l ∧
      splitHostPort (advertiseAddr svc l) = some (hostname, l.portText) ∧
      port = parsePort l.portText

lemma throughProxy_tunnel (svc : Service) (p : SshProxyRow) (addr : String) :
    ThroughProxy svc p (.tunnel (clientOf p) addr) := rfl

lemma throughProxy_openProxy (svc : Service) (p : SshProxyRow) :
    ThroughProxy svc p (openProxy p) := by
  simp only [openProxy, ThroughProxy]

/-- The live row of a proxy. -/
def IsProxy (db : Db) (pid : Uuid) (p : SshProxyRow) : Prop :=
  p ∈ db.cmdbSshProxy ∧ p.id = pid ∧ p.live = true

/-- The secrets of a proxy. -/
def secretColumns (p : SshProxyRow) : List String :=
  [p.passwordEncrypted, p.privateKeyEncrypted, p.passphraseEncrypted]

/-- A call for an asset whose connection row names the proxy `pid` fails closed: all its events
go through that proxy; without a live row whose secrets decrypt it fails before it does
anything; and when the proxy cannot be dialled it fails after that attempt. -/
structure FailsClosed {α : Type} (svc : Service) (env : Env) (pid : Uuid) (x : Net α) : Prop where
  through : ∀ e ∈ x.events, ∃ p, IsProxy env.db pid p ∧ ThroughProxy svc p e
  unresolved : (∀ p, IsProxy env.db pid p →
      ∃ column ∈ secretColumns p, ∀ secret, decryptColumn env.decrypt column ≠ .ok secret) →
    x.events = [] ∧ ∃ e, x.result = .error e
  undialled : (∀ p, IsProxy env.db pid p → ∃ e, env.answer (openProxy p) = .error e) →
    (∃ e, x.result = .error e) ∧ ∀ e ∈ x.events, ∃ p, IsProxy env.db pid p ∧ e = openProxy p

/-! ### Dialling the proxy -/

lemma dialProxy_events (env : Env) (p : SSHProxyTarget) :
    Performs (· = .sshDial (proxyAddr p.host p.port) .proxy p.id) (dialProxy env p) := by
  refine Performs.bind (performs_ofExcept _) fun secrets _ => ?_
  refine Performs.bind (performs_ofExcept _) fun _ _ => ?_
  refine Performs.bind (Performs.mapError ?_ _) fun _ _ => performs_ofExcept _
  exact performs_perform (P := (· = .sshDial (proxyAddr p.host p.port) .proxy p.id)) env rfl

lemma dialProxy_eq_ok {env : Env} {p : SSHProxyTarget} {client : Client}
    (h : (dialProxy env p).result = .ok client) :
    client = { proxyID := p.id, addr := proxyAddr p.host p.port } ∧
      env.answer (.sshDial (proxyAddr p.host p.port) .proxy p.id) = .ok () := by
  rw [dialProxy] at h
  obtain ⟨secrets, -, h⟩ := bind_result_eq_ok h
  obtain ⟨_, -, h⟩ := bind_result_eq_ok h
  obtain ⟨_, hdial, h⟩ := bind_result_eq_ok h
  rw [result_mapError, Except.mapError_eq_ok] at hdial
  exact ⟨(Except.ok.inj h).symm, hdial⟩

/-! ### The rules -/

section

variable {α β : Type} {svc : Service} {env : Env} {pid : Uuid}

lemma failsClosed_error (e : String) :
    FailsClosed svc env pid (Traced.ofExcept (.error e) : Net α) where
  through e he := by cases he
  unresolved _ := ⟨rfl, e, rfl⟩
  undialled _ := ⟨⟨e, rfl⟩, by intro e he; cases he⟩

/-- A step without events may come first. -/
lemma FailsClosed.ofExcept_bind {x : Except String α} {f : α → Net β}
    (h : ∀ a, x = .ok a → FailsClosed svc env pid (f a)) :
    FailsClosed svc env pid (Traced.ofExcept x >>= f) := by
  cases x with
  | error e => exact failsClosed_error e
  | ok a => exact h a rfl

/-- Dialling the proxy comes first, and all that follows goes through the client. -/
lemma FailsClosed.dialProxy_bind {t : SSHProxyTarget}
    (ht : getTarget env.db env.decrypt pid = .ok t) (wrap : String → String) {k : Client → Net β}
    (hk : ∀ p, Performs (ThroughProxy svc p) (k (clientOf p))) :
    FailsClosed svc env pid ((dialProxy env t).mapError wrap >>= k) := by
  obtain ⟨p, hmem, hid, hlive, htid, hhost, hport, hsecrets⟩ := getTarget_eq_ok ht
  have hp : IsProxy env.db pid p := ⟨hmem, hid, hlive⟩
  have hopen : NetEvent.sshDial (proxyAddr t.host t.port) .proxy t.id = openProxy p := by
    rw [openProxy, htid, hhost, hport]
  have hevents : Performs (· = openProxy p) ((dialProxy env t).mapError wrap) := by
    rw [← hopen]
    exact (dialProxy_events env t).mapError wrap
  refine ⟨?_, ?_, ?_⟩
  · intro e he
    refine ⟨p, hp, ?_⟩
    have hthrough : Performs (ThroughProxy svc p) ((dialProxy env t).mapError wrap >>= k) := by
      refine Performs.bind ?_ fun client hclient => ?_
      · intro e he
        obtain rfl : e = openProxy p := hevents e he
        exact throughProxy_openProxy svc p
      · rw [result_mapError, Except.mapError_eq_ok] at hclient
        have heq := (dialProxy_eq_ok hclient).1
        rw [htid, hhost, hport] at heq
        rw [heq]
        exact hk p
    exact hthrough e he
  · intro hnone
    obtain ⟨column, hcolumn, hfail⟩ := hnone p hp
    obtain ⟨secret, hsecret⟩ := hsecrets column hcolumn
    exact absurd hsecret (hfail secret)
  · intro hdown
    obtain ⟨message, hmessage⟩ := hdown p hp
    cases hresult : (dialProxy env t).result with
    | ok client =>
      -- the dial would have been answered
      have hanswer := (dialProxy_eq_ok hresult).2
      rw [hopen, hmessage] at hanswer
      cases hanswer
    | error e =>
      have hwrapped : ((dialProxy env t).mapError wrap).result = .error (wrap e) := by
        rw [result_mapError, hresult]
        rfl
      have hbind := bind_of_error hwrapped k
      refine ⟨⟨wrap e, by rw [hbind]⟩, ?_⟩
      intro e' he'
      rw [hbind] at he'
      dsimp only at he'
      exact ⟨p, hp, hevents e' he'⟩

end

/-! ### The dial paths -/

section

variable {svc : Service} {env : Env} {pid : Uuid} {a : AssetRow} {c : ConnectionRow}
  {target : BastionProbeTarget}

/-- The guard of the dial paths passes with the very proxy of the row. -/
lemma requiredProxy_of_row (ht : targetOfRow env.db env.decrypt a c = .ok target)
    (hpid : c.proxyId = some pid) :
    ∃ t, requiredProxy target = .ok (some t) ∧ getTarget env.db env.decrypt pid = .ok t := by
  obtain ⟨-, t, hproxy, hget⟩ := targetOfRow_proxy ht hpid
  refine ⟨t, ?_, hget⟩
  rw [requiredProxy, hproxy, if_neg (by simp)]

lemma dialTarget_failsClosed {t : SSHProxyTarget}
    (hget : getTarget env.db env.decrypt pid = .ok t) (assetID addr : String) :
    FailsClosed svc env pid (dialTarget env assetID addr (some t)) := by
  refine FailsClosed.dialProxy_bind hget _ fun p => ?_
  refine Performs.bind (Performs.mapError ?_ _) fun _ _ => ?_
  · exact performs_perform env (throughProxy_tunnel svc p addr)
  · exact performs_perform env (show ThroughProxy svc p (.handshake (clientOf p) addr) from rfl)

lemma dialSSH_failsClosed (ht : targetOfRow env.db env.decrypt a c = .ok target)
    (hpid : c.proxyId = some pid) : FailsClosed svc env pid (dialSSH env target) := by
  obtain ⟨t, hproxy, hget⟩ := requiredProxy_of_row ht hpid
  refine FailsClosed.ofExcept_bind fun _ _ => ?_
  refine FailsClosed.ofExcept_bind fun proxy hp => ?_
  obtain rfl : proxy = some t := Except.ok.inj (hp.symm.trans hproxy)
  refine FailsClosed.ofExcept_bind fun secrets _ => ?_
  refine FailsClosed.ofExcept_bind fun _ _ => ?_
  exact dialTarget_failsClosed hget _ _

/-- `pgx` opens no connection but through its `DialFunc`. -/
lemma dialPostgres_failsClosed
    (hpgx : ∀ cfg dialFunc e, e ∈ (env.pgxConnect cfg dialFunc).events →
      ∃ addr, e ∈ (dialFunc addr).events)
    (ht : targetOfRow env.db env.decrypt a c = .ok target) (hpid : c.proxyId = some pid) :
    FailsClosed svc env pid (dialPostgres env target) := by
  obtain ⟨t, hproxy, hget⟩ := requiredProxy_of_row ht hpid
  refine FailsClosed.ofExcept_bind fun _ _ => ?_
  refine FailsClosed.ofExcept_bind fun proxy hp => ?_
  obtain rfl : proxy = some t := Except.ok.inj (hp.symm.trans hproxy)
  refine FailsClosed.dialProxy_bind hget _ fun p => ?_
  intro e he
  obtain ⟨addr, haddr⟩ := hpgx _ _ e he
  exact performs_perform env (throughProxy_tunnel svc p addr) e haddr

/-- A path that resolves the asset first and goes on with what this gives. -/
lemma resolveAsset_failsClosed {assetID : String} {id : Uuid} {β : Type}
    (hid : Uuid.parse assetID = some id) (hrow : connectionOf env.db id = some (a, c))
    (hpid : c.proxyId = some pid) (ports : String → Option Int) (family : String)
    {k : RDPResolution → Net β}
    (hk : ∀ res p, res.proxyClient = some (clientOf p) → Performs (ThroughProxy svc p) (k res)) :
    FailsClosed svc env pid (resolveAsset ports family env assetID >>= k) := by
  rw [resolveAsset, getBastionProbeTarget_eq hid hrow, bind_assoc]
  refine FailsClosed.ofExcept_bind fun target ht => ?_
  obtain ⟨t, hproxy, hget⟩ := requiredProxy_of_row ht hpid
  dsimp only
  split
  · rw [bind_of_error (x := ofExcept (.error _)) rfl]
    exact failsClosed_error _
  · rw [hproxy, bind_assoc]
    refine FailsClosed.ofExcept_bind fun proxy hp => ?_
    obtain rfl : proxy = some t := (Except.ok.inj hp).symm
    rw [proxyClientOf, bind_assoc, bind_assoc]
    refine FailsClosed.dialProxy_bind hget _ fun p => ?_
    rw [pure_bind, pure_bind]
    exact hk _ p rfl

lemma dialAssetSSH_failsClosed {assetID : String} {id : Uuid}
    (hid : Uuid.parse assetID = some id) (hrow : connectionOf env.db id = some (a, c))
    (hpid : c.proxyId = some pid) : FailsClosed svc env pid (dialAssetSSH env assetID) := by
  rw [dialAssetSSH, getBastionProbeTarget_eq hid hrow]
  refine FailsClosed.ofExcept_bind fun target ht => ?_
  refine FailsClosed.ofExcept_bind fun _ _ => ?_
  exact dialSSH_failsClosed ht hpid

lemma openDatabase_failsClosed {assetID : String} {id : Uuid}
    (hid : Uuid.parse assetID = some id) (hrow : connectionOf env.db id = some (a, c))
    (hpid : c.proxyId = some pid) : FailsClosed svc env pid (openDatabase env assetID) := by
  refine resolveAsset_failsClosed hid hrow hpid _ _ ?_
  intro res p hclient
  rw [hclient]
  exact Performs.mapError (performs_perform env (throughProxy_tunnel svc p _)) _

/-- With a client the parameters for guacd are those of a forwarder. -/
lemma forwardParams_eq_ok {targetAddr : String} {params params' : RDPParams} {client : Client}
    (h : (forwardParams svc env targetAddr params (some client)).result = .ok params') :
    ∃ l addr, svc.listen = .ok l ∧ addr = (splitHostPort (advertiseAddr svc l)).getD ("", "") ∧
      params' = params.connectTo addr.1 addr.2 := by
  obtain ⟨l, hl, h⟩ := bind_result_eq_ok h
  obtain ⟨_, -, h⟩ := bind_result_eq_ok h
  exact ⟨l, _, Except.mapError_eq_ok.mp hl, rfl, (Except.ok.inj h).symm⟩

lemma throughProxy_guacdConnect {p : SshProxyRow} {protocol targetAddr : String}
    {params params' : RDPParams} {client : Client}
    (h : (forwardParams svc env targetAddr params (some client)).result = .ok params') :
    ThroughProxy svc p (.guacdConnect protocol params'.hostname params'.portValue) := by
  obtain ⟨l, addr, hl, haddr, rfl⟩ := forwardParams_eq_ok h
  cases hsplit : splitHostPort (advertiseAddr svc l) with
  | none =>
    rw [hsplit] at haddr
    refine Or.inl ?_
    rw [haddr]
    rfl
  | some hostport =>
    obtain ⟨host, port⟩ := hostport
    obtain rfl := snd_of_splitHostPort_advertiseAddr hsplit
    rw [hsplit] at haddr
    subst haddr
    refine Or.inr ⟨l, hl, hsplit, ?_⟩
    have hpos := l.positive
    simp [RDPParams.connectTo, RDPParams.portValue, hpos]

lemma openRDP_failsClosed {assetID : String} {id : Uuid}
    (hid : Uuid.parse assetID = some id) (hrow : connectionOf env.db id = some (a, c))
    (hpid : c.proxyId = some pid) (overrides : RDPParams) :
    FailsClosed svc env pid (openRDP svc env assetID overrides) := by
  refine resolveAsset_failsClosed hid hrow hpid _ _ ?_
  intro res p hclient
  dsimp only
  split
  · exact performs_ofExcept _
  · next host port hsplit =>
    rw [hclient]
    refine Performs.bind ?_ fun params hparams => ?_
    · refine Performs.bind (performs_ofExcept _) fun l _ => ?_
      refine Performs.bind (performs_perform env ?_) fun _ _ => performs_ofExcept _
      exact (rfl : clientOf p = clientOf p)
    · refine Performs.bind (Performs.mapError (performs_perform env ?_) _) fun _ _ => ?_
      · exact (rfl : svc.guacdAddr = svc.guacdAddr)
      · refine Performs.bind (performs_ofExcept _) fun _ _ => ?_
        exact performs_perform env (throughProxy_guacdConnect hparams)

/-- **Proxies fail closed.**  For a connection row with a proxy, `dialSSH` and `dialPostgres` on
its target, `DialAssetSSH`, `ResolveAssetRDP` followed by `OpenRDP`, and `ResolveAssetDB`
followed by `Open` reach the target through an SSH client to that very proxy or not at all; if
the proxy row is missing, deleted or cannot be decrypted they fail before any event, and if it
cannot be dialled they fail after that attempt.  That `pgx` connects through its `DialFunc` is
assumed. -/
theorem proxy_fails_closed
    (hpgx : ∀ cfg dialFunc e, e ∈ (env.pgxConnect cfg dialFunc).events →
      ∃ addr, e ∈ (dialFunc addr).events)
    (hpid : c.proxyId = some pid) :
    FailsClosed svc env pid
      (Traced.ofExcept (targetOfRow env.db env.decrypt a c) >>= dialSSH env) ∧
    FailsClosed svc env pid
      (Traced.ofExcept (targetOfRow env.db env.decrypt a c) >>= dialPostgres env) ∧
    ∀ assetID id, Uuid.parse assetID = some id → connectionOf env.db id = some (a, c) →
      FailsClosed svc env pid (dialAssetSSH env assetID) ∧
      (∀ overrides, FailsClosed svc env pid (openRDP svc env assetID overrides)) ∧
      FailsClosed svc env pid (openDatabase env assetID) := by
  refine ⟨?_, ?_, ?_⟩
  · exact FailsClosed.ofExcept_bind fun target ht => dialSSH_failsClosed ht hpid
  · exact FailsClosed.ofExcept_bind fun target ht => dialPostgres_failsClosed hpgx ht hpid
  · intro assetID id hid hrow
    exact ⟨dialAssetSSH_failsClosed hid hrow hpid, openRDP_failsClosed hid hrow hpid,
      openDatabase_failsClosed hid hrow hpid⟩

end

/-- The connection of the asset `11111111-..` through the proxy `22222222-..`. -/
def sampleConnection : ConnectionRow :=
  { id := Uuid.replicate 3, assetId := Uuid.replicate 1, host := "10.0.0.9", username := "root",
    passwordEncrypted := "x", proxyId := some (Uuid.replicate 2) }

/-- A network that answers everything, and a `pgx` that dials the one address it is given. -/
def sampleEnv : Env where
  db :=
    { cmdbAsset := [{ id := Uuid.replicate 1, type := "vm", name := "db-1" }]
      cmdbSshProxy := [{ id := Uuid.replicate 2, name := "gw", host := "10.0.0.1",
                         username := "gw", passwordEncrypted := "y" }]
      cmdbAssetConnection := [sampleConnection] }
  decrypt := .ok
  keys := none
  parsePrivateKey _ _ := .ok ()
  answer _ := .ok ()
  pgxParseConfig := .ok ()
  pgxConnect cfg dialFunc := dialFunc (joinHostPort cfg.host (toString cfg.port))

/-- A database and a desktop behind the same proxy. -/
def proxiedEnv : Env :=
  { sampleEnv with
    db := { sampleEnv.db with
            cmdbAsset := sampleEnv.db.cmdbAsset ++
              [{ id := Uuid.replicate 5, type := "vm", name := "pg-1" },
               { id := Uuid.replicate 6, type := "vm", name := "desk-1" }]
            cmdbAssetConnection := sampleEnv.db.cmdbAssetConnection ++
              [{ sampleConnection with
                 id := Uuid.replicate 7, assetId := Uuid.replicate 5, protocol := "postgres"
                 host := "10.0.0.10", port := 5433 },
               { sampleConnection with
                 id := Uuid.replicate 8, assetId := Uuid.replicate 6, protocol := "rdp"
                 host := "10.0.0.11", port := 3389 }] } }

/-- A server that forwards desktops from its port 41000. -/
def sampleGuac : Service :=
  newService "guacd:4822" "10.9.9.9" none (.ok ⟨"41000", by decide⟩) (.ok ())

theorem proxy_fails_closed_proxiedEnv :
    ((dialAssetSSH proxiedEnv (Uuid.replicate 1).toText).events =
        [.sshDial "10.0.0.1:22" .proxy (Uuid.replicate 2).toText,
         .tunnel ⟨(Uuid.replicate 2).toText, "10.0.0.1:22"⟩ "10.0.0.9:22",
         .handshake ⟨(Uuid.replicate 2).toText, "10.0.0.1:22"⟩ "10.0.0.9:22"] ∧
      FailsClosed sampleGuac proxiedEnv (Uuid.replicate 2)
        (dialAssetSSH proxiedEnv (Uuid.replicate 1).toText)) ∧
    ((openDatabase proxiedEnv (Uuid.replicate 5).toText).events =
        [.sshDial "10.0.0.1:22" .proxy (Uuid.replicate 2).toText,
         .tunnel ⟨(Uuid.replicate 2).toText, "10.0.0.1:22"⟩ "10.0.0.10:5433"] ∧
      FailsClosed sampleGuac proxiedEnv (Uuid.replicate 2)
        (openDatabase proxiedEnv (Uuid.replicate 5).toText)) ∧
    ((openRDP sampleGuac proxiedEnv (Uuid.replicate 6).toText {}).events =
        [.sshDial "10.0.0.1:22" .proxy (Uuid.replicate 2).toText,
         .forward ⟨(Uuid.replicate 2).toText, "10.0.0.1:22"⟩ "10.0.0.11:3389",
         .dialGuacd "guacd:4822", .guacdConnect "rdp" "10.9.9.9" 41000] ∧
      FailsClosed sampleGuac proxiedEnv (Uuid.replicate 2)
        (openRDP sampleGuac proxiedEnv (Uuid.replicate 6).toText {})) := by
  have hclosed := fun a c => @proxy_fails_closed sampleGuac proxiedEnv (Uuid.replicate 2) a c
    (fun cfg dialFunc e he => ⟨_, he⟩)
  refine ⟨⟨by decide, ?_⟩, ⟨by decide, ?_⟩, ⟨by decide, ?_⟩⟩
  · exact ((hclosed _ _ rfl).2.2 _ _ (Uuid.parse_toText _) rfl).1
  · exact ((hclosed _ _ rfl).2.2 _ _ (Uuid.parse_toText _) rfl).2.2
  · exact ((hclosed _ _ rfl).2.2 _ _ (Uuid.parse_toText _) rfl).2.1 {}

end OpsPlatform.BastionProbe
