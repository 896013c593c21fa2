/-
The handshake with guacd (`DialRDP` in `internal/guacproxy/handshake.go`, `RDPParams` in
`internal/guacproxy/params.go`), byte for byte.

guacd answers `select` with the names of the parameters that it takes, and `connect` has a value
for each of them in their order.  What is left of the stream behind `ready` belongs to the session.
-/
import OpsPlatform.GuacProxy.Relay
import OpsPlatform.Lib.Leases
import OpsPlatform.Lib.Text
import Mathlib.Algebra.Ring.Nat

namespace OpsPlatform.GuacProxy.Handshake

open Lib Lib.Leases Lib.Text Lib.Utf8

/-! ### Parameters -/

/-- `RDPParams`. -/
structure RDPParams where
  hostname : Bytes := []
  port : Int := 0
  username : Bytes := []
  password : Bytes := []
  domain : Bytes := []
  security : Bytes := []
  ignoreCert : Bool := false
  width : Int := 0
  height : Int := 0
  dpi : Int := 0
  timezone : Bytes := []
  enableWallpaper : Bool := false
  enableTheming : Bool := false
  enableFontSmoothing : Bool := false
  enableFullWindowDrag : Bool := false
  enableDesktopComposition : Bool := false
  enableMenuAnimations : Bool := false

/-- The bytes of a text of the program. -/
def lit (s : String) : Bytes := ascii s.toList

/-- `strconv.Itoa`. -/
def itoa (n : Int) : Bytes := lit (toString n)

def boolStr (b : Bool) : Bytes := if b then lit "true" else lit "false"

def boolOrEmpty (b : Bool) : Bytes := if b then lit "true" else []

/-- The name of a parameter as `value` looks it up. -/
def keyword (name : Bytes) : String := toLower (trimSpace (String.ofList (runes name)))

namespace RDPParams

variable (p : RDPParams)

/-- The switch of `value`. -/
def valueOf (name : String) : Bytes :=
  if name = "hostname" then p.hostname
  else if name = "port" then if p.port > 0 then itoa p.port else lit "3389"
  else if name = "username" then p.username
  else if name = "password" then p.password
  else if name = "domain" then p.domain
  else if name = "security" then if p.security ≠ [] then p.security else lit "any"
  else if name = "ignore-cert" then boolStr p.ignoreCert
  else if name = "disable-auth" then []
  else if name = "width" then if p.width > 0 then itoa p.width else lit "1280"
  else if name = "height" then if p.height > 0 then itoa p.height else lit "720"
  else if name = "dpi" then if p.dpi > 0 then itoa p.dpi else lit "96"
  else if name = "timezone" then if p.timezone ≠ [] then p.timezone else lit "UTC"
  else if name = "color-depth" then lit "24"
  else if name = "resize-method" then lit "display-update"
  else if name = "enable-wallpaper" then boolOrEmpty p.enableWallpaper
  else if name = "enable-theming" then boolOrEmpty p.enableTheming
  else if name = "enable-font-smoothing" then boolOrEmpty p.enableFontSmoothing
  else if name = "enable-full-window-drag" then boolOrEmpty p.enableFullWindowDrag
  else if name = "enable-desktop-composition" then boolOrEmpty p.enableDesktopComposition
  else if name = "enable-menu-animations" then boolOrEmpty p.enableMenuAnimations
  else if name = "disable-audio" then lit "true"
  -- `enable-audio-input`, `disable-copy` and the like, `read-only` and unknown names
  else []

/-- `value`. -/
def value (name : Bytes) : Bytes := p.valueOf (keyword name)

/-- The value for one of the names that guacd sends; a version is sent back. -/
def connectValue (name : Bytes) : Bytes :=
  if (lit "VERSION_").isPrefixOf name then name else p.value name

/-- `connect`, for the names that guacd sends. -/
def connect (names : List Bytes) : Instruction := ⟨lit "connect", names.map p.connectValue⟩

/-- The instructions between `args` and `connect`. -/
def settings : List Instruction :=
  let width := if p.width ≤ 0 then 1280 else p.width
  let height := if p.height ≤ 0 then 720 else p.height
  let dpi := if p.dpi ≤ 0 then 96 else p.dpi
  let timezone := if p.timezone = [] then lit "UTC" else p.timezone
  [⟨lit "size", [itoa width, itoa height, itoa dpi]⟩, ⟨lit "audio", [lit "audio/L16"]⟩,
    ⟨lit "video", []⟩, ⟨lit "image", [lit "image/png", lit "image/jpeg"]⟩,
    ⟨lit "timezone", [timezone]⟩]

end RDPParams

/-! ### The connection -/

inductive DialError where
  | dial (e : String)
  | send (opcode : Bytes) (e : String)
  | readArgs (e : ReadError)
  /-- another instruction in the place of `args` -/
  | expectedArgs (opcode : Bytes)
  | readReady (e : ReadError)
  /-- the arguments of an `error` in the place of `ready` -/
  | guacd (args : List Bytes)
  | expectedReady (opcode : Bytes)
deriving DecidableEq

/-- The network between the program and guacd. -/
structure Wire where
  /-- the outcome of `DialContext` -/
  dial : Except String Unit
  /-- what guacd sends until the connection ends or its deadline passes -/
  stream : Bytes
  /-- the outcome of the write of an instruction; one that fails has passed on so many bytes -/
  write : Bytes → Except (String × ℕ) Unit

/-- The one connection is opened or closed, or bytes are passed on to guacd. -/
abbrev WireEvent := Leases.Event Unit Bytes

/-- `conn.Close()`. -/
def close : List WireEvent := [.closed ()]

/-- A step after which the connection is closed if it fails. -/
def orClose {α : Type} (x : Traced Bytes DialError α) : Traced WireEvent DialError α :=
  onError close (lift x)

/-- `WriteInstruction`. -/
def Wire.writeInstruction (w : Wire) (ins : Instruction) : Traced Bytes DialError Unit :=
  match w.write ins.opcode with
  | .ok () => Traced.emit ins.encode (.ok ())
  | .error (e, n) => Traced.emit (ins.encode.take n) (.error (.send ins.opcode e))

/-- The loop over `settings`. -/
def Wire.sendAll (w : Wire) : List Instruction → Traced WireEvent DialError Unit
  | [] => pure ()
  | ins :: rest => do
    orClose (w.writeInstruction ins)
    w.sendAll rest

def select (protocol : Bytes) : Instruction :=
  ⟨lit "select", [if protocol = [] then lit "rdp" else protocol]⟩

/-- The instruction in the place of `args`. -/
def checkArgs (ins : Instruction) : Except DialError Unit :=
  if ins.opcode ≠ lit "args" then .error (.expectedArgs ins.opcode) else .ok ()

/-- The instruction in the place of `ready`. -/
def checkReady (ins : Instruction) : Except DialError Unit :=
  if ins.opcode = lit "ready" then .ok ()
  else if ins.opcode = lit "error" then .error (.guacd ins.args)
  else .error (.expectedReady ins.opcode)

/-- `DialRDP` up to `connect`: the names that guacd sends, and what is left of the stream. -/
def greet (w : Wire) (protocol : Bytes) (params : RDPParams) :
    Traced WireEvent DialError (List Bytes × Bytes) := do
  acquire (Traced.ofExcept (w.dial.mapError .dial))
  orClose (w.writeInstruction (select protocol))
  let args ← orClose (Traced.ofExcept ((readInstruction w.stream).mapError .readArgs))
  orClose (Traced.ofExcept (checkArgs args.1))
  w.sendAll params.settings
  pure (args.1.args, args.2)

/-- `DialRDP`: what the connection that is returned reads first. -/
def dialRDP (w : Wire) (protocol : Bytes) (params : RDPParams) :
    Traced WireEvent DialError Bytes := do
  let offer ← greet w protocol params
  orClose (w.writeInstruction (params.connect offer.1))
  let ready ← orClose (Traced.ofExcept ((readInstruction offer.2).mapError .readReady))
  orClose (Traced.ofExcept (checkReady ready.1))
  pure ready.2

/-- The bytes that are passed on to guacd. -/
def passedOn {α : Type} (x : Traced WireEvent DialError α) : Bytes := (erase x).events.flatten

/-! ### The stages -/

/-- What the program sends to a guacd that takes the names. -/
def exchanged (protocol : Bytes) (params : RDPParams) (names : List Bytes) : List Instruction :=
  select protocol :: params.settings ++ [params.connect names]

/-- guacd takes all that is sent to it, and sends `args` with the names and then `ready`. -/
structure Exchange (w : Wire) (names : List Bytes) (rest : Bytes) : Prop where
  dial : w.dial = .ok ()
  writes : ∀ opcode ∈ ["select", "size", "audio", "video", "image", "timezone", "connect"],
    w.write (lit opcode) = .ok ()
  answers : ∃ s values, readInstruction w.stream = .ok (⟨lit "args", names⟩, s) ∧
    readInstruction s = .ok (⟨lit "ready", values⟩, rest)

section

variable {w : Wire} {protocol : Bytes} {params params' : RDPParams} {names : List Bytes}
  {rest s : Bytes} {ins : Instruction} {α : Type}

lemma result_orClose (x : Traced Bytes DialError α) : (orClose x).result = x.result := by
  rw [orClose, result_onError, result_lift]

lemma orClose_of_ok {x : Traced Bytes DialError α} {a : α} (h : x.result = .ok a) :
    orClose x = ⟨x.events.map .other, .ok a⟩ := by
  rw [orClose, onError]
  split
  · next e he =>
    rw [result_lift, h] at he
    cases he
  · rw [lift, h]

lemma writeInstruction_of_ok (h : w.write ins.opcode = .ok ()) :
    w.writeInstruction ins = ⟨[ins.encode], .ok ()⟩ := by
  rw [Wire.writeInstruction, h]
  rfl

/-- A write that fails fails the handshake. -/
lemma write_eq_ok (h : (orClose (w.writeInstruction ins)).result = .ok ()) :
    w.write ins.opcode = .ok () := by
  rw [result_orClose, Wire.writeInstruction] at h
  split at h
  · next hok => exact hok
  · cases h

lemma orClose_writeInstruction (h : w.write ins.opcode = .ok ()) :
    orClose (w.writeInstruction ins) = ⟨[.other ins.encode], .ok ()⟩ := by
  rw [writeInstruction_of_ok h, orClose_of_ok rfl]
  rfl

lemma sendAll_of_ok {inss : List Instruction} (h : ∀ ins ∈ inss, w.write ins.opcode = .ok ()) :
    w.sendAll inss = ⟨inss.map fun ins => .other ins.encode, .ok ()⟩ := by
  induction inss with
  | nil => rfl
  | cons ins inss ih =>
    rw [List.forall_mem_cons] at h
    rw [Wire.sendAll, orClose_writeInstruction h.1, ih h.2]
    rfl

lemma writes_of_sendAll {inss : List Instruction} (h : (w.sendAll inss).result = .ok ()) :
    ∀ ins ∈ inss, w.write ins.opcode = .ok () := by
  induction inss with
  | nil => exact fun ins hins => absurd hins List.not_mem_nil
  | cons ins inss ih =>
    obtain ⟨⟨⟩, hfirst, hrest⟩ := Traced.bind_result_eq_ok h
    rw [List.forall_mem_cons]
    exact ⟨write_eq_ok hfirst, ih hrest⟩

lemma checkArgs_eq_ok (h : checkArgs ins = .ok ()) : ins = ⟨lit "args", ins.args⟩ := by
  rw [checkArgs, Except.ite_error_eq_ok, not_not] at h
  rw [← h.1]

lemma checkReady_eq_ok (h : checkReady ins = .ok ()) : ins = ⟨lit "ready", ins.args⟩ := by
  rw [checkReady] at h
  split at h
  · next hready => rw [← hready]
  · split at h <;> cases h

/-- What the first stage has found when it comes to its end. -/
lemma greet_eq_ok (h : (greet w protocol params).result = .ok (names, s)) :
    w.dial = .ok () ∧ w.write (lit "select") = .ok () ∧
      readInstruction w.stream = .ok (⟨lit "args", names⟩, s) ∧
      ∀ ins ∈ params.settings, w.write ins.opcode = .ok () := by
  obtain ⟨⟨⟩, hdial, h⟩ := Traced.bind_result_eq_ok h
  obtain ⟨⟨⟩, hselect, h⟩ := Traced.bind_result_eq_ok h
  obtain ⟨⟨ins, s'⟩, hread, h⟩ := Traced.bind_result_eq_ok h
  obtain ⟨⟨⟩, hargs, h⟩ := Traced.bind_result_eq_ok h
  obtain ⟨⟨⟩, hsettings, h⟩ := Traced.bind_result_eq_ok h
  cases h
  rw [result_orClose] at hread hargs
  have hopen : w.dial.mapError DialError.dial = .ok () := by
    obtain ⟨⟨⟩, hopen, -⟩ := Traced.bind_result_eq_ok hdial
    exact hopen
  refine ⟨Except.mapError_eq_ok.mp hopen, write_eq_ok hselect, ?_, writes_of_sendAll hsettings⟩
  rw [← checkArgs_eq_ok hargs]
  exact Except.mapError_eq_ok.mp hread

lemma orClose_ofExcept {x : Except DialError α} {a : α} (h : x = .ok a) :
    orClose (Traced.ofExcept x) = pure a := by
  rw [orClose_of_ok (x := Traced.ofExcept x) h]
  rfl

lemma greet_of_ok (hdial : w.dial = .ok ()) (hselect : w.write (lit "select") = .ok ())
    (hread : readInstruction w.stream = .ok (⟨lit "args", names⟩, s))
    (hsettings : ∀ ins ∈ params.settings, w.write ins.opcode = .ok ()) :
    greet w protocol params = ⟨.opened () ::
      (select protocol :: params.settings).map fun ins => .other ins.encode, .ok (names, s)⟩ := by
  have hopen : acquire (Traced.ofExcept (w.dial.mapError DialError.dial)) =
      (⟨[.opened ()], .ok ()⟩ : Traced WireEvent DialError Unit) := by
    rw [hdial]
    rfl
  have hargs : orClose (Traced.ofExcept ((readInstruction w.stream).mapError .readArgs)) =
      pure (⟨lit "args", names⟩, s) := orClose_ofExcept (Except.mapError_eq_ok.mpr hread)
  have hcheck : orClose (Traced.ofExcept (checkArgs ⟨lit "args", names⟩)) = pure () :=
    orClose_ofExcept (if_neg (not_not_intro rfl))
  have hwrite : w.write (select protocol).opcode = .ok () := hselect
  rw [greet, hopen, orClose_writeInstruction hwrite, hargs, sendAll_of_ok hsettings]
  simp only [pure_bind, hcheck]
  simp [Traced.bind_of_ok]
  exact ⟨rfl, rfl⟩

lemma forall_settings {P : Bytes → Prop} : (∀ ins ∈ params.settings, P ins.opcode) ↔
    ∀ opcode ∈ ["size", "audio", "video", "image", "timezone"], P (lit opcode) := by
  simp [RDPParams.settings]

/-- The whole handshake, when nothing fails and guacd answers as it should. -/
lemma dialRDP_of_exchange (h : Exchange w names rest) :
    dialRDP w protocol params = ⟨.opened () ::
      (exchanged protocol params names).map fun ins => .other ins.encode, .ok rest⟩ := by
  obtain ⟨s, values, hargs, hready⟩ := h.answers
  have hsettings : ∀ ins ∈ params.settings, w.write ins.opcode = .ok () :=
    forall_settings (P := fun opcode => w.write opcode = .ok ()) |>.mpr fun opcode hopcode =>
      h.writes opcode (by simp at hopcode ⊢; tauto)
  have hconnect : w.write (params.connect names).opcode = .ok () := h.writes "connect" (by simp)
  have hread : orClose (Traced.ofExcept ((readInstruction s).mapError .readReady)) =
      pure (⟨lit "ready", values⟩, rest) := orClose_ofExcept (Except.mapError_eq_ok.mpr hready)
  have hcheck : orClose (Traced.ofExcept (checkReady ⟨lit "ready", values⟩)) = pure () :=
    orClose_ofExcept (if_pos rfl)
  rw [dialRDP, greet_of_ok h.dial (h.writes "select" (by simp)) hargs hsettings,
    Traced.bind_of_ok rfl, orClose_writeInstruction hconnect, hread]
  simp only [pure_bind, hcheck]
  simp [Traced.bind_of_ok, exchanged]
  exact ⟨rfl, rfl⟩

/-- The handshake succeeds only in such an exchange. -/
lemma exchange_of_dialRDP (h : (dialRDP w protocol params).result = .ok rest) :
    ∃ names, Exchange w names rest := by
  obtain ⟨⟨names, s⟩, hgreet, h⟩ := Traced.bind_result_eq_ok h
  obtain ⟨⟨⟩, hconnect, h⟩ := Traced.bind_result_eq_ok h
  obtain ⟨⟨ready, rest'⟩, hread, h⟩ := Traced.bind_result_eq_ok h
  obtain ⟨⟨⟩, hcheck, h⟩ := Traced.bind_result_eq_ok h
  cases h
  rw [result_orClose] at hread hcheck
  obtain ⟨hdial, hselect, hargs, hsettings⟩ := greet_eq_ok hgreet
  refine ⟨names, hdial, ?_, s, ready.args, hargs, ?_⟩
  · have hwrites := (forall_settings (P := fun opcode => w.write opcode = .ok ())).mp hsettings
    have hlast : w.write (lit "connect") = .ok () := write_eq_ok hconnect
    simp only [List.forall_mem_cons] at hwrites ⊢
    tauto
  · rw [← checkReady_eq_ok hcheck]
    exact Except.mapError_eq_ok.mp hread

end

/-! ### What guacd reads -/

lemma passedOn_of_exchange {w : Wire} {params : RDPParams} {names : List Bytes} {rest : Bytes}
    (protocol : Bytes) (h : Exchange w names rest) : passedOn (dialRDP w protocol params) =
      (exchanged protocol params names).flatMap Instruction.encode := by
  have herase : ∀ inss : List Instruction,
      (inss.map fun ins => (.other ins.encode : WireEvent)).filterMap Event.other? =
        inss.map Instruction.encode := by
    intro inss
    rw [List.filterMap_map]
    exact congrFun List.filterMap_eq_map inss
  rw [passedOn, dialRDP_of_exchange h, erase, List.filterMap_cons, Event.other?, herase,
    List.flatMap_def]

/-- **The handshake.**  It succeeds exactly when guacd takes all that is sent to it and answers
with `args` and `ready`.  The stream is then spent to the last byte of `ready` and no further, and
guacd reads from what was sent to it the seven instructions, of which `connect` has the value of
each name in its place. -/
theorem handshake_iff_exchange (w : Wire) (protocol : Bytes) (params : RDPParams) :
    (∀ rest, (dialRDP w protocol params).result = .ok rest ↔ ∃ names, Exchange w names rest) ∧
    ∀ names rest, Exchange w names rest →
      (∃ args ready : RawInstruction, args.toInstruction = ⟨lit "args", names⟩ ∧
        ready.toInstruction.opcode = lit "ready" ∧
        w.stream = args.bytes ++ (ready.bytes ++ rest)) ∧
      ((∀ ins ∈ exchanged protocol params names, ins.Fits) →
        readMany (exchanged protocol params names).length (passedOn (dialRDP w protocol params)) =
          .ok ((exchanged protocol params names).map fun ins => (ins.toValid, ins.encode),
            [])) := by
  refine ⟨fun rest => ⟨exchange_of_dialRDP, ?_⟩, fun names rest h => ⟨?_, fun hfits => ?_⟩⟩
  · rintro ⟨names, h⟩
    rw [dialRDP_of_exchange h]
  · obtain ⟨s, values, hargs, hready⟩ := h.answers
    obtain ⟨args, haccepted, hs⟩ := exists_of_readLoop hargs
    obtain ⟨ready, haccepted', rfl⟩ := exists_of_readLoop hready
    -- the same bytes are read to the same instructions
    have hargs' := readInstruction_bytes haccepted (ready.bytes ++ rest)
    have hready' := readInstruction_bytes haccepted' rest
    rw [← hs, hargs, Except.ok.injEq, Prod.mk.injEq] at hargs'
    rw [hready, Except.ok.injEq, Prod.mk.injEq] at hready'
    exact ⟨args, ready, hargs'.1.symm, by rw [← hready'.1], hs⟩
  · have hread := readMany_flatMap_encode (exchanged protocol params names) [] hfits
    rwa [List.append_nil, ← passedOn_of_exchange protocol h] at hread

/-- guacd offers the host, the port and the password, asks for its version back, and sends a first
instruction of the session behind `ready`. -/
def sampleWire : Wire where
  dial := .ok ()
  stream := (Instruction.encode ⟨lit "args", [lit "VERSION_1_5_0", lit "hostname", lit " PORT",
    lit "password"]⟩) ++ (Instruction.encode ⟨lit "ready", [lit "$id"]⟩ ++ ascii "4.sync;".toList)
  write := fun _ => .ok ()

def sampleParams : RDPParams :=
  { hostname := lit "10.0.0.7", port := 3390, password := lit "p,w;", width := -5 }

/-- An instruction of ASCII strings is read back from its encoding. -/
lemma readInstruction_ascii {ins : Instruction}
    (h : ∀ s ∈ ins.opcode :: ins.args, s.length < 2 ^ 63 ∧ ∀ b ∈ s, b.toNat < 128) (rest : Bytes) :
    readInstruction (ins.encode ++ rest) = .ok (ins, rest) := by
  have hread := readInstruction_encode (fun s hs => (h s hs).1) rest
  rwa [Instruction.toValid_of_valid fun s hs => valid_of_ascii (h s hs).2] at hread

lemma exchange_sampleWire : Exchange sampleWire
    [lit "VERSION_1_5_0", lit "hostname", lit " PORT", lit "password"]
    (ascii "4.sync;".toList) :=
  ⟨rfl, fun _ _ => rfl, _, [lit "$id"], readInstruction_ascii (by decide +kernel) _,
    readInstruction_ascii (by decide +kernel) _⟩

lemma keyword_lit {s : String} (h : s.toList.all (·.toNat < 128) = true) :
    keyword (lit s) = toLower (trimSpace s) := by
  have hascii : ∀ c ∈ s.toList, c.toNat < 128 := by simpa using h
  rw [keyword, lit, ← encode_eq_ascii hascii, runes_encode, String.ofList_toList]

lemma connect_sampleParams :
    sampleParams.connect [lit "VERSION_1_5_0", lit "hostname", lit " PORT", lit "password"] =
      ⟨lit "connect", [lit "VERSION_1_5_0", lit "10.0.0.7", lit "3390", lit "p,w;"]⟩ := by
  have hvalue : ∀ s : String, s.toList.all (·.toNat < 128) = true →
      (lit "VERSION_").isPrefixOf (lit s) = false →
      sampleParams.connectValue (lit s) = sampleParams.valueOf (toLower (trimSpace s)) := by
    intro s hs hversion
    rw [RDPParams.connectValue, hversion, if_neg Bool.false_ne_true, RDPParams.value,
      keyword_lit hs]
  have hhost := hvalue "hostname" (by decide) (by decide)
  have hport := hvalue " PORT" (by decide) (by decide)
  have hpassword := hvalue "password" (by decide) (by decide)
  rw [RDPParams.connect, List.map_cons, List.map_cons, List.map_cons, List.map_singleton, hhost,
    hport, hpassword]
  decide +kernel

/-- What is sent in the sample. -/
def sampleSent : List Instruction :=
  select [] :: sampleParams.settings ++
    [⟨lit "connect", [lit "VERSION_1_5_0", lit "10.0.0.7", lit "3390", lit "p,w;"]⟩]

theorem handshake_sampleWire :
    (dialRDP sampleWire [] sampleParams).result = .ok (ascii "4.sync;".toList) ∧
      readMany 7 (passedOn (dialRDP sampleWire [] sampleParams)) =
        .ok (sampleSent.map fun ins => (ins.toValid, ins.encode), []) := by
  obtain ⟨hiff, hread⟩ := handshake_iff_exchange sampleWire [] sampleParams
  have hseven := (hread _ _ exchange_sampleWire).2
  rw [exchanged, connect_sampleParams] at hseven
  refine ⟨(hiff _).mpr ⟨_, exchange_sampleWire⟩, hseven fun ins hins s hs => ?_⟩
  have hlength : ∀ ins ∈ sampleSent, ∀ s ∈ ins.opcode :: ins.args, s.length < 2 ^ 63 := by
    decide +kernel
  exact hlength ins hins s hs

/-! ### What guacd is not told -/

section

variable {w : Wire} {protocol : Bytes} {params params' : RDPParams}

lemma owns_sendAll (inss : List Instruction) :
    Owns [()] (w.sendAll inss) fun _ => [()] := by
  induction inss with
  | nil => exact owns_pure rfl
  | cons ins inss ih => exact (owns_onError rfl _).bind fun _ _ => ih

/-- The connection is closed when the handshake fails, and nothing else is open. -/
lemma leakFree_dialRDP (w : Wire) (protocol : Bytes) (params : RDPParams) :
    LeakFree (fun _ => close) (dialRDP w protocol params) := by
  have hclose : held [()] close = ([] : List Unit) := rfl
  have hgreet : Owns [] (greet w protocol params) fun _ => [()] :=
    (owns_acquire _).bind fun _ _ => (owns_onError hclose _).bind fun _ _ =>
      (owns_onError hclose _).bind fun _ _ => (owns_onError hclose _).bind fun _ _ =>
        (owns_sendAll _).bind fun _ _ => owns_pure rfl
  have hdial : Owns [] (dialRDP w protocol params) fun _ => [()] :=
    hgreet.bind fun _ _ => (owns_onError hclose _).bind fun _ _ =>
      (owns_onError hclose _).bind fun _ _ => (owns_onError hclose _).bind fun _ _ => owns_pure rfl
  exact hdial.leakFree fun _ => rfl

lemma greet_congr (h : params.settings = params'.settings) :
    greet w protocol params = greet w protocol params' := by
  rw [greet, greet, h]

/-- The handshake depends on the settings and on the values of the names that guacd sends. -/
lemma dialRDP_congr (hsettings : params.settings = params'.settings)
    (hnames : ∀ names s, (greet w protocol params).result = .ok (names, s) →
      ∀ name ∈ names, params.connectValue name = params'.connectValue name) :
    dialRDP w protocol params = dialRDP w protocol params' := by
  rw [dialRDP, dialRDP, ← greet_congr hsettings]
  cases hgreet : (greet w protocol params).result with
  | error e => rw [Traced.bind_of_error hgreet, Traced.bind_of_error hgreet]
  | ok offer =>
    have hconnect : params.connect offer.1 = params'.connect offer.1 := by
      rw [RDPParams.connect, RDPParams.connect,
        List.map_congr_left (hnames offer.1 offer.2 hgreet)]
    rw [Traced.bind_of_ok hgreet, Traced.bind_of_ok hgreet, hconnect]

lemma valueOf_of_ne (p : RDPParams) (u v : Bytes) {k : String} (hu : k ≠ "username")
    (hv : k ≠ "password") :
    RDPParams.valueOf { p with username := u, password := v } k = p.valueOf k := by
  simp only [RDPParams.valueOf, if_neg hu, if_neg hv]

/-- **Credentials only when asked.**  Whatever guacd does, a handshake that fails leaves no
connection open; and unless the handshake comes to `connect` with a guacd that takes a user name or
a password, what is sent, what is closed and what is returned are the same for all credentials. -/
theorem credentials_withheld (w : Wire) (protocol : Bytes) (params : RDPParams) :
    LeakFree (fun _ => close) (dialRDP w protocol params) ∧
      ∀ u v : Bytes, (∀ names s, (greet w protocol params).result = .ok (names, s) →
          ∀ name ∈ names, keyword name ≠ "username" ∧ keyword name ≠ "password") →
        dialRDP w protocol { params with username := u, password := v } =
          dialRDP w protocol params := by
  refine ⟨leakFree_dialRDP w protocol params, fun u v hnames => ?_⟩
  have hdial : dialRDP w protocol params =
      dialRDP w protocol { params with username := u, password := v } := by
    refine dialRDP_congr rfl fun names s hgreet name hname => ?_
    obtain ⟨hu, hv⟩ := hnames names s hgreet name hname
    rw [RDPParams.connectValue, RDPParams.connectValue, RDPParams.value, RDPParams.value,
      valueOf_of_ne params u v hu hv]
  exact hdial.symm

/-- What a guacd offers that asks for no credentials. -/
def quietNames : List Bytes := [lit "VERSION_1_5_0", lit "hostname", lit "port", lit "domain"]

/-- A guacd that asks for no credentials, and is ready. -/
def quietWire : Wire where
  dial := .ok ()
  stream := Instruction.encode ⟨lit "args", quietNames⟩ ++
    (Instruction.encode ⟨lit "ready", [lit "$id"]⟩ ++ ascii "4.sync;".toList)
  write := fun _ => .ok ()

lemma read_quietWire : readInstruction quietWire.stream = .ok (⟨lit "args", quietNames⟩,
    Instruction.encode ⟨lit "ready", [lit "$id"]⟩ ++ ascii "4.sync;".toList) :=
  readInstruction_ascii (by decide +kernel) _

theorem credentials_withheld_quietWire :
    dialRDP quietWire [] { sampleParams with username := lit "root", password := lit "secret" } =
        dialRDP quietWire [] sampleParams ∧
      (dialRDP quietWire [] sampleParams).result = .ok (ascii "4.sync;".toList) := by
  have hready : Exchange quietWire quietNames (ascii "4.sync;".toList) :=
    ⟨rfl, fun _ _ => rfl, _, [lit "$id"], read_quietWire,
      readInstruction_ascii (by decide +kernel) _⟩
  refine ⟨?_, by rw [dialRDP_of_exchange hready]⟩
  refine (credentials_withheld quietWire [] sampleParams).2 _ _ fun names s hgreet name hname => ?_
  -- the names are those of the first instruction
  obtain ⟨-, -, hread, -⟩ := greet_eq_ok hgreet
  rw [read_quietWire] at hread
  obtain ⟨hargs, -⟩ := Prod.mk.inj (Except.ok.inj hread)
  rw [← (Instruction.mk.inj hargs).2] at hname
  simp only [quietNames, List.mem_cons, List.not_mem_nil, or_false] at hname
  rcases hname with rfl | rfl | rfl | rfl <;> rw [keyword_lit (by decide)] <;> decide

end

end OpsPlatform.GuacProxy.Handshake
