/-
`OpenRDP` and what it calls (`internal/guacproxy/service.go`, `tunnel.go`, `handshake.go`): it
resolves the asset and tells guacd where to connect, which for an asset behind a proxy is a
local forwarder through the proxy's client.
-/
import OpsPlatform.BastionProbe.Service
import OpsPlatform.Lib.Strconv

namespace OpsPlatform.GuacProxy

open Lib Lib.Text Lib.NetAddr Lib.Strconv BastionProbe

/-- `parsePort`; zero for what is no positive number. -/
def parsePort (s : String) : ℕ := (digits s.toList).getD 0

/-- The address of a listener on `0.0.0.0:0`, by the text of its port. -/
structure Listener where
  portText : String
  positive : 0 < parsePort portText

/-- `Service`, with what its host answers. -/
structure Service where
  guacdAddr : String
  advertiseHost : String
  /-- the outcome of `net.Listen` -/
  listen : Except String Listener
  /-- the outcome of the instructions to guacd up to `connect` -/
  exchange : Except String Unit

/-- `NewService`; `hostname` is the outcome of `os.Hostname`. -/
def newService (guacdAddr advertiseHost : String) (hostname : Option String)
    (listen : Except String Listener) (exchange : Except String Unit) : Service :=
  { guacdAddr := if trimSpace guacdAddr = "" then "127.0.0.1:4822" else trimSpace guacdAddr
    advertiseHost :=
      if trimSpace advertiseHost = "" then hostname.getD "127.0.0.1" else trimSpace advertiseHost
    listen, exchange }

/-- The part of `RDPParams` that says where and as whom to connect. -/
structure RDPParams where
  hostname : String := ""
  port : Int := 0
  username : String := ""
  password : String := ""

/-- `RDPParams.value("port")`. -/
def RDPParams.portValue (p : RDPParams) : Int := if p.port > 0 then p.port else 3389

/-- `Hostname` and `Port` are set from an address; a port that is not positive leaves the one
there is. -/
def RDPParams.connectTo (p : RDPParams) (host port : String) : RDPParams :=
  { p with hostname := host, port := if 0 < parsePort port then parsePort port else p.port }

def firstNonEmpty (a b : String) : String :=
  if trimSpace a ≠ "" then a else if trimSpace b ≠ "" then b else ""

/-- `advertiseAddr` of the forwarder. -/
def advertiseAddr (svc : Service) (l : Listener) : String :=
  joinHostPort svc.advertiseHost l.portText

/-- The parameters for an asset behind a proxy: those of a forwarder through its client. -/
def forwardParams (svc : Service) (env : Env) (targetAddr : String) (params : RDPParams) :
    Option Client → Net RDPParams
  | none => pure params
  | some client => do
    let l ← Traced.ofExcept (svc.listen.mapError fun e => "open ssh forwarder: " ++ e)
    env.perform (.forward client targetAddr)
    let addr := (splitHostPort (advertiseAddr svc l)).getD ("", "")
    pure (params.connectTo addr.1 addr.2)

/-- `DialRDP`. -/
def dialRDP (svc : Service) (env : Env) (protocol : String) (params : RDPParams) : Net Unit := do
  (env.perform (.dialGuacd svc.guacdAddr)).mapError fun e => "dial guacd: " ++ e
  Traced.ofExcept svc.exchange
  env.perform (.guacdConnect (if protocol = "" then "rdp" else protocol) params.hostname
    params.portValue)

/-- `OpenRDP`. -/
def openRDP (svc : Service) (env : Env) (assetID : String) (overrides : RDPParams) : Net Unit := do
  let res ← resolveAssetRDP env assetID
  let params := { overrides with username := firstNonEmpty overrides.username res.target.username
                                 password := firstNonEmpty overrides.password res.target.password }
  match splitHostPort res.targetAddr with
  | none => Traced.ofExcept (.error ("bad target addr \"" ++ res.targetAddr ++ "\""))
  | some (host, port) => do
    let params ← forwardParams svc env res.targetAddr (params.connectTo host port) res.proxyClient
    dialRDP svc env res.protocol params

/-! ### What guacd is told -/

lemma digits_eq_some {cs : List Char} {n : ℕ} (h : digits cs = some n) : ∀ c ∈ cs, c ≠ ':' := by
  rw [digits] at h
  split at h
  · next hdigits =>
    intro c hc heq
    have hdigit := List.all_eq_true.mp hdigits.2 c hc
    rw [heq] at hdigit
    exact absurd hdigit (by decide)
  · cases h

lemma Listener.no_colon (l : Listener) : ∀ c ∈ l.portText.toList, c ≠ ':' := by
  have hpos := l.positive
  rw [parsePort] at hpos
  cases h : digits l.portText.toList with
  | none => simp [h] at hpos
  | some n => exact digits_eq_some h

/-- The port of the advertised address, if it can be split, is the port of the listener. -/
lemma snd_of_splitHostPort_advertiseAddr {svc : Service} {l : Listener} {host port : String}
    (h : splitHostPort (advertiseAddr svc l) = some (host, port)) : port = l.portText := by
  have hport := eq_of_splitHostPort h
  have hlast : ∃ cs : List Char, (advertiseAddr svc l).toList = cs ++ ':' :: l.portText.toList := by
    rw [advertiseAddr, joinHostPort]
    split
    · exact ⟨("[" ++ svc.advertiseHost ++ "]").toList, by simp⟩
    · exact ⟨svc.advertiseHost.toList, by simp⟩
  obtain ⟨cs, hcs⟩ := hlast
  rw [hport, hcs]
  -- the last colon is the one before the port
  have htake : ((cs ++ ':' :: l.portText.toList).reverse.takeWhile (· ≠ ':')).reverse =
      l.portText.toList := by
    rw [List.reverse_append, List.reverse_cons, List.append_assoc, List.takeWhile_append_of_pos]
    · simp
    · intro c hc
      simpa using l.no_colon c (List.mem_reverse.mp hc)
  rw [htake, String.ofList_toList]

end OpsPlatform.GuacProxy
