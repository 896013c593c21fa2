/-
`detectRecordingKind` and `parseAsciicast` (`web/src/lib/sessions.ts`), the reader of the files
that the recorders of `internal/terminal` and `internal/guacproxy` write.

`JSON.parse` is a parameter, `none` for a `SyntaxError`.
-/
import OpsPlatform.GuacProxy.Protocol
import OpsPlatform.Terminal.Recorder

namespace OpsPlatform.Web

open Lib Lib.Utf8 Lib.Utf16 Lib.JsonText Terminal

inductive RecordingKind where
  | asciicast
  | guac
deriving DecidableEq

/-- `RecordingPreview`. -/
structure RecordingPreview where
  cols : JsValue
  durationSeconds : ℚ
  frames : ℕ
  outputSample : JsString
  rows : JsValue
  version : Option JsValue

/-- What `parseAsciicast` throws. -/
inductive CastError where
  | empty
  | malformedHeader
  | unsupportedVersion (version : Option JsValue)
  | typeError

/-- The text of a file, when it is fetched. -/
def textOf (file : Bytes) : JsString := utf16 (runes file)

def brace : UInt16 := 123

section

variable (parse : JsString → Option JsValue)

/-- `detectRecordingKind`. -/
def detectRecordingKind (text : JsString) : RecordingKind :=
  let firstLine := trim ((splitLines text).headD [])
  if firstLine.head? = some brace then
    match parse firstLine with
    | none => .guac
    | some header =>
      match header.get (utf16 "version".toList) with
      | .error _ => .guac
      | .ok version => if JsValue.isNum 2 version then .asciicast else .guac
  else .guac

/-- What the loop of `parseAsciicast` collects. -/
structure CastTotals where
  frames : ℕ := 0
  durationSeconds : ℚ := 0
  outputSample : JsString := []

/-- The output of a frame, as far as the sample has room for it. -/
def CastTotals.sample (t : CastTotals) (sampleLimit : ℕ) : Option JsValue → JsString
  | some (.str data) =>
    if t.outputSample.length < sampleLimit then
      t.outputSample ++ data.take (sampleLimit - t.outputSample.length)
    else t.outputSample
  | _ => t.outputSample

/-- The time of a frame, if it is a number. -/
def CastTotals.duration (t : CastTotals) : Option JsValue → ℚ
  | some (.num x) => x
  | _ => t.durationSeconds

/-- One iteration of the loop. -/
def CastTotals.frame (t : CastTotals) (sampleLimit : ℕ) (line : JsString) : CastTotals :=
  match parse line with
  | some (.arr items) =>
    if items.length < 3 ∨ JsValue.isStr (utf16 "o".toList) items[1]? = false then t
    else
      { frames := t.frames + 1
        durationSeconds := t.duration items[0]?
        outputSample := t.sample sampleLimit items[2]? }
  | _ => t

/-- `parseAsciicast`. -/
def parseAsciicast (text : JsString) (sampleLimit : ℕ) : Except CastError RecordingPreview :=
  match (splitLines text).filter (· ≠ []) with
  | [] => .error .empty
  | first :: rest =>
    match parse first with
    | none => .error .malformedHeader
    | some header =>
      match header.get (utf16 "version".toList), header.get (utf16 "width".toList),
          header.get (utf16 "height".toList) with
      | .ok version, .ok width, .ok height =>
        if JsValue.isNum 2 version = false then .error (.unsupportedVersion version)
        else
          let t : CastTotals := rest.foldl (fun t line => t.frame parse sampleLimit line) {}
          .ok { cols := JsValue.orElse width (.num 80), durationSeconds := t.durationSeconds,
                frames := t.frames, outputSample := t.outputSample,
                rows := JsValue.orElse height (.num 24), version }
      | _, _, _ => .error .typeError

end

/-! ### The lines of a cast -/

section

variable {formatFloat : ℚ → List Char}

/-- The line of a value, as the reader sees it. -/
def jsLine (formatFloat : ℚ → List Char) (v : Value) : JsString := utf16 (marshal formatFloat v)

/-- The values of a file are read back line by line. -/
lemma splitLines_lineOf (hformat : ∀ x, OneLine (formatFloat x)) (vs : List Value) :
    splitLines (textOf (vs.flatMap (lineOf formatFloat))) =
      vs.map (jsLine formatFloat) ++ [[]] := by
  have hbytes : vs.flatMap (lineOf formatFloat) =
      Utf8.encode (vs.flatMap fun v => marshal formatFloat v ++ [Char.ofNat 10]) := by
    rw [Utf8.encode, List.flatMap_assoc]
    rfl
  have htext : textOf (vs.flatMap (lineOf formatFloat)) =
      (vs.map (jsLine formatFloat)).flatMap fun l => l ++ [lf] := by
    rw [hbytes, textOf, runes_encode, utf16, List.flatMap_assoc, List.flatMap_map]
    refine List.flatMap_congr fun v _ => ?_
    exact utf16_append _ _
  rw [htext, splitLines_lines]
  intro l hl u hu
  obtain ⟨v, -, rfl⟩ := List.mem_map.mp hl
  exact le_of_mem_utf16 (oneLine_marshal hformat v) hu

variable {parse : JsString → Option JsValue}

/-- `JSON.parse` reads what `encoding/json` wrote for the value. -/
def ReadsBack (formatFloat : ℚ → List Char) (parse : JsString → Option JsValue) (v : Value) :
    Prop :=
  parse (jsLine formatFloat v) = some v.toJs

/-- A frame that is read back adds to the totals. -/
lemma frame_castFrame {c : OutputCall} {sampleLimit : ℕ}
    (h : ReadsBack formatFloat parse (castFrame c.seconds c.data)) (t : CastTotals) :
    t.frame parse sampleLimit (jsLine formatFloat (castFrame c.seconds c.data)) =
      { frames := t.frames + 1, durationSeconds := c.seconds
        outputSample := t.sample sampleLimit (some (.str (utf16 (runes c.data)))) } := by
  rw [CastTotals.frame, h]
  rfl

/-- The sample is the beginning of the output, frame after frame. -/
lemma sample_of_le {t : CastTotals} {n : ℕ} (h : t.outputSample.length ≤ n) (data : JsString) :
    t.sample n (some (.str data)) =
      t.outputSample ++ data.take (n - t.outputSample.length) := by
  rw [CastTotals.sample]
  split
  · rfl
  · next hfull =>
    rw [show n - t.outputSample.length = 0 by omega, List.take_zero, List.append_nil]

/-- The loop over the frames of a cast. -/
lemma foldl_castFrames {calls : List OutputCall} {n : ℕ}
    (h : ∀ c ∈ calls, ReadsBack formatFloat parse (castFrame c.seconds c.data)) (t : CastTotals)
    (ht : t.outputSample.length ≤ n) :
    (calls.map fun c => jsLine formatFloat (castFrame c.seconds c.data)).foldl
        (fun t line => t.frame parse n line) t =
      { frames := t.frames + calls.length
        durationSeconds := (calls.map (·.seconds)).getLastD t.durationSeconds
        outputSample := t.outputSample ++
          (calls.flatMap fun c => utf16 (runes c.data)).take (n - t.outputSample.length) } := by
  induction calls generalizing t with
  | nil => simp
  | cons c calls ih =>
    have hsample := sample_of_le ht (utf16 (runes c.data))
    have hlength : (t.sample n (some (.str (utf16 (runes c.data))))).length ≤ n := by
      rw [hsample, List.length_append, List.length_take]
      omega
    rw [List.map_cons, List.foldl_cons, frame_castFrame (h c List.mem_cons_self),
      ih (fun c' hc' => h c' (List.mem_cons_of_mem c hc')) _ hlength, CastTotals.mk.injEq]
    refine ⟨?_, by rw [List.map_cons, List.getLastD_cons], ?_⟩
    · show t.frames + 1 + calls.length = t.frames + (calls.length + 1)
      omega
    have hroom : n - (t.outputSample.length + min (n - t.outputSample.length)
        (utf16 (runes c.data)).length) =
        n - t.outputSample.length - (utf16 (runes c.data)).length := by omega
    rw [hsample, List.flatMap_cons, List.take_append, List.length_append, List.length_take, hroom,
      List.append_assoc]

/-! ### The header of a cast -/

/-- The fields of the header are found under their names. -/
lemma get_castHeader (cols rows timestamp : ℤ) :
    (castHeader cols rows timestamp).toJs.get (utf16 "version".toList) = .ok (some (.num 2)) ∧
    (castHeader cols rows timestamp).toJs.get (utf16 "width".toList) = .ok (some (.num cols)) ∧
    (castHeader cols rows timestamp).toJs.get (utf16 "height".toList) = .ok (some (.num rows)) :=
  ⟨rfl, rfl, rfl⟩

/-- An object begins and ends with a brace. -/
lemma jsLine_obj (fields : List (List Char × Value)) : jsLine formatFloat (.obj fields) =
    brace :: utf16 ([','].intercalate (marshalFields formatFloat fields)) ++ [125] := by
  rw [jsLine, marshal, List.cons_append, utf16_cons, utf16_append]
  rfl

/-- The header stays as it is when it is trimmed. -/
lemma trim_castHeader (cols rows timestamp : ℤ) :
    trim (jsLine formatFloat (castHeader cols rows timestamp)) =
      jsLine formatFloat (castHeader cols rows timestamp) := by
  rw [castHeader, jsLine_obj]
  exact trim_of_ends (by decide) (by decide) _

lemma head?_castHeader (cols rows timestamp : ℤ) :
    (jsLine formatFloat (castHeader cols rows timestamp)).head? = some brace := by
  rw [castHeader, jsLine_obj]
  rfl

lemma orElse_of_pos {n : ℤ} (hn : 0 < n) (d : JsValue) :
    JsValue.orElse (some (.num n)) d = .num n := by
  have hne : (n : ℚ) ≠ 0 := by exact_mod_cast (show n ≠ 0 by omega)
  simp [JsValue.orElse, JsValue.truthy, hne]

/-- The frames of a cast are arrays, and no line of it is empty. -/
lemma filter_lines (cols rows timestamp : ℤ) (calls : List OutputCall) :
    ((castLines cols rows timestamp calls).map (jsLine formatFloat) ++ [[]]).filter (· ≠ []) =
      (castLines cols rows timestamp calls).map (jsLine formatFloat) := by
  rw [List.filter_append, List.filter_cons_of_neg (by simp), List.filter_nil, List.append_nil,
    List.filter_eq_self]
  intro l hl
  obtain ⟨v, hv, rfl⟩ := List.mem_map.mp hl
  have hne : marshal formatFloat v ≠ [] := by
    rcases List.mem_cons.mp hv with rfl | hv
    · rw [castHeader, marshal]
      simp
    · obtain ⟨c, -, rfl⟩ := List.mem_map.mp hv
      rw [castFrame, marshal]
      simp
  obtain ⟨c, cs, hcs⟩ := List.exists_cons_of_ne_nil hne
  have hunit : utf16Char c ≠ [] := by
    rw [utf16Char]
    split <;> simp
  rw [decide_eq_true_eq, jsLine, hcs, utf16_cons]
  simp [hunit]

variable {cols rows timestamp : ℤ} {calls : List OutputCall}

lemma detectRecordingKind_cast (hformat : ∀ x, OneLine (formatFloat x))
    (hheader : ReadsBack formatFloat parse (castHeader cols rows timestamp)) :
    detectRecordingKind parse
        (textOf ((castLines cols rows timestamp calls).flatMap (lineOf formatFloat))) =
      .asciicast := by
  have hfirst : trim ((splitLines (textOf ((castLines cols rows timestamp calls).flatMap
      (lineOf formatFloat)))).headD []) =
      jsLine formatFloat (castHeader cols rows timestamp) := by
    rw [splitLines_lineOf hformat, castLines, List.map_cons, List.cons_append, List.headD_cons,
      trim_castHeader]
  rw [detectRecordingKind, hfirst, if_pos (head?_castHeader cols rows timestamp), hheader]
  simp only [(get_castHeader cols rows timestamp).1]
  rfl

lemma parseAsciicast_cast (hformat : ∀ x, OneLine (formatFloat x)) (hcols : 0 < cols)
    (hrows : 0 < rows) (hheader : ReadsBack formatFloat parse (castHeader cols rows timestamp))
    (hframes : ∀ c ∈ nonEmpty calls, ReadsBack formatFloat parse (castFrame c.seconds c.data))
    (n : ℕ) :
    parseAsciicast parse
        (textOf ((castLines cols rows timestamp calls).flatMap (lineOf formatFloat))) n =
      .ok { cols := .num cols, rows := .num rows, version := some (.num 2)
            frames := (nonEmpty calls).length
            durationSeconds := ((nonEmpty calls).map (·.seconds)).getLastD 0
            outputSample := ((nonEmpty calls).flatMap fun c => utf16 (runes c.data)).take n } := by
  obtain ⟨hversion, hwidth, hheight⟩ := get_castHeader cols rows timestamp
  have hloop := foldl_castFrames hframes {} (Nat.zero_le n)
  rw [parseAsciicast, splitLines_lineOf hformat, filter_lines, castLines, List.map_cons,
    List.map_map]
  simp only [show parse (jsLine formatFloat (castHeader cols rows timestamp)) = _ from hheader,
    hversion, hwidth, hheight]
  rw [if_neg (by decide), orElse_of_pos hcols, orElse_of_pos hrows]
  have hlines : ((nonEmpty calls).map
      (jsLine formatFloat ∘ fun c => castFrame c.seconds c.data)) =
      (nonEmpty calls).map fun c => jsLine formatFloat (castFrame c.seconds c.data) := rfl
  rw [hlines, hloop]
  simp

/-- The output of valid chunks is that of all of them together. -/
lemma output_of_valid (h : ∀ c ∈ calls, Valid c.data) :
    ((nonEmpty calls).flatMap fun c => utf16 (runes c.data)) =
      utf16 (runes (calls.flatMap (·.data))) := by
  induction calls with
  | nil => simp [nonEmpty, utf16]
  | cons c calls ih =>
    have hrest := ih fun c' hc' => h c' (List.mem_cons_of_mem c hc')
    obtain ⟨cs, hcs⟩ := h c List.mem_cons_self
    have hsplit : runes (c.data ++ calls.flatMap (·.data)) =
        runes c.data ++ runes (calls.flatMap (·.data)) := by
      rw [hcs, runes_encode_append, runes_encode]
    rw [List.flatMap_cons, hsplit, utf16_append, ← hrest]
    by_cases hdata : c.data = []
    · rw [nonEmpty, List.filter_cons_of_neg (by simp [hdata]), hdata, runes_nil]
      rfl
    · rw [nonEmpty, List.filter_cons_of_pos (by simp [hdata]), List.flatMap_cons]
      rfl

end

/-! ### Guacamole recordings -/

section

open GuacProxy

/-- An instruction begins with a digit. -/
lemma encode_eq_digit (ins : Instruction) : ∃ d rest, d.isDigit = true ∧
    ins.encode = Utf8.encode [d] ++ rest := by
  obtain ⟨d, ds, hds⟩ := List.exists_cons_of_ne_nil
    (Nat.toDigits_ne_nil (b := 10) (n := (runes ins.opcode).length))
  have hdigit : d.isDigit = true := by
    refine Strconv.isDigit_toDigits (n := (runes ins.opcode).length) ?_
    rw [hds]
    exact List.mem_cons_self
  have hone : Utf8.encode [d] = ascii [d] := by
    have := Strconv.toNat_of_isDigit hdigit
    exact encode_of_ascii (by omega)
  refine ⟨d, ascii ds ++ dot :: ins.opcode ++ writeArgs ins.args, hdigit, ?_⟩
  rw [Instruction.encode, writeElem, hds, hone]
  simp [ascii]

/-- A text that begins with a digit is no cast. -/
lemma detectRecordingKind_digit (parse : JsString → Option JsValue) {d : Char}
    (hd : d.isDigit = true) (rest : Bytes) :
    detectRecordingKind parse (textOf (Utf8.encode [d] ++ rest)) = .guac := by
  have hrange := Strconv.toNat_of_isDigit hd
  obtain ⟨u, hu, hunit⟩ : ∃ u : UInt16, u.toNat = d.toNat ∧ utf16Char d = [u] := by
    refine ⟨UInt16.ofNat d.toNat, ?_, ?_⟩
    · rw [UInt16.toNat_ofNat', Nat.mod_eq_of_lt (by omega)]
    · rw [utf16Char, if_pos (by omega)]
  have htext : textOf (Utf8.encode [d] ++ rest) = u :: utf16 (runes rest) := by
    rw [textOf, runes_encode_append, List.singleton_append, utf16_cons, hunit]
    rfl
  obtain ⟨hlf, hcr⟩ := ne_of_le (u := u) (by omega)
  have hspace : isSpace u = false := by
    simp only [isSpace, Bool.or_eq_false_iff, Bool.and_eq_false_iff, decide_eq_false_iff_not,
      beq_eq_false_iff_ne]
    omega
  have hfirst : ∃ line, (splitLines (u :: utf16 (runes rest))).headD [] = u :: line := by
    rw [splitLines_cons hlf hcr]
    cases splitLines (utf16 (runes rest)) with
    | nil => exact ⟨[], rfl⟩
    | cons l ls => exact ⟨l, rfl⟩
  obtain ⟨line, hline⟩ := hfirst
  rw [detectRecordingKind, htext, hline, head?_trim hspace, if_neg]
  rw [Option.some.injEq]
  rintro rfl
  exact absurd hrange.2 (by rw [← hu]; decide)

end

/-- **Recordings are read back.**  A cast of valid chunks is recognised, and its preview has the
size that was given, the number of frames, the time of the last one and the beginning of the
output; and every Guacamole recording is recognised as one.  `JSON.parse` is assumed to read back
the lines that `encoding/json` wrote. -/
theorem recordings_read_back {formatFloat : ℚ → List Char}
    (hformat : ∀ x, OneLine (formatFloat x)) {parse : JsString → Option JsValue}
    {cols rows timestamp : ℤ} (hcols : 0 < cols) (hrows : 0 < rows) {calls : List OutputCall}
    (hvalid : ∀ c ∈ calls, Valid c.data)
    (hheader : ReadsBack formatFloat parse (castHeader cols rows timestamp))
    (hframes : ∀ c ∈ nonEmpty calls, ReadsBack formatFloat parse (castFrame c.seconds c.data))
    (n : ℕ) :
    (∃ r, recordedCast formatFloat cols rows timestamp calls = some r ∧
      detectRecordingKind parse (textOf r.file) = .asciicast ∧
      parseAsciicast parse (textOf r.file) n =
        .ok { cols := .num cols, rows := .num rows, version := some (.num 2)
              frames := (nonEmpty calls).length
              durationSeconds := ((nonEmpty calls).map (·.seconds)).getLastD 0
              outputSample := (utf16 (runes (calls.flatMap (·.data)))).take n }) ∧
    ∀ (ins : GuacProxy.Instruction) (rest : List GuacProxy.Instruction),
      detectRecordingKind parse (textOf ((ins :: rest).flatMap (·.encode))) = .guac := by
  refine ⟨⟨_, recordedCast_eq hcols hrows calls, ?_, ?_⟩, ?_⟩
  · exact detectRecordingKind_cast hformat hheader
  · rw [← output_of_valid hvalid]
    exact parseAsciicast_cast hformat hcols hrows hheader hframes n
  · intro ins rest
    obtain ⟨d, bytes, hd, hencode⟩ := encode_eq_digit ins
    rw [List.flatMap_cons, hencode, List.append_assoc]
    exact detectRecordingKind_digit parse hd _

/-- The only frame of the sample cast. -/
def hiCall : OutputCall := ⟨1 / 2, ascii "hi".toList⟩

/-- The number formatting and the `JSON.parse` of the sample cast. -/
def formatHalf (_ : ℚ) : List Char := "0.5".toList

def parseHi (line : JsString) : Option JsValue :=
  if line = jsLine formatHalf (castHeader 80 24 0) then some (castHeader 80 24 0).toJs
  else if line = jsLine formatHalf (castFrame hiCall.seconds hiCall.data) then
    some (castFrame hiCall.seconds hiCall.data).toJs
  else none

/-- An empty chunk writes no frame, and the sample is cut after one unit. -/
theorem recordings_read_back_hi :
    ∃ r, recordedCast formatHalf 80 24 0 [hiCall, ⟨1, []⟩] = some r ∧
      detectRecordingKind parseHi (textOf r.file) = .asciicast ∧
      parseAsciicast parseHi (textOf r.file) 1 =
        .ok { cols := .num 80, rows := .num 24, version := some (.num 2), frames := 1
              durationSeconds := 1 / 2, outputSample := [104] } := by
  have hdata : hiCall.data = Utf8.encode "hi".toList := by decide
  have hne : jsLine formatHalf (castFrame hiCall.seconds hiCall.data) ≠
      jsLine formatHalf (castHeader 80 24 0) := by
    intro h
    have hhead := congrArg List.head? h
    rw [head?_castHeader] at hhead
    revert hhead
    rw [jsLine, castFrame, marshal]
    decide
  have hvalid : ∀ c ∈ [hiCall, ⟨1, []⟩], Valid c.data := by
    intro c hc
    simp only [List.mem_cons, List.not_mem_nil, or_false] at hc
    rcases hc with rfl | rfl
    · exact ⟨_, hdata⟩
    · exact ⟨[], rfl⟩
  have hformat : ∀ x, OneLine (formatHalf x) := by
    intro x c hc
    obtain rfl | rfl | rfl : c = '0' ∨ c = '.' ∨ c = '5' := by simpa [formatHalf] using hc
    · decide
    · decide
    · decide
  have hheader : ReadsBack formatHalf parseHi (castHeader 80 24 0) := if_pos rfl
  have hcalls : nonEmpty [hiCall, ⟨1, []⟩] = [hiCall] := rfl
  have hframes : ∀ c ∈ nonEmpty [hiCall, ⟨1, []⟩],
      ReadsBack formatHalf parseHi (castFrame c.seconds c.data) := by
    intro c hc
    rw [hcalls] at hc
    obtain rfl := List.mem_singleton.mp hc
    exact (if_neg hne).trans (if_pos rfl)
  obtain ⟨r, hr, hkind, hpreview⟩ :=
    (recordings_read_back hformat (by decide) (by decide) hvalid hheader hframes 1).1
  refine ⟨r, hr, hkind, hpreview.trans ?_⟩
  have houtput : [hiCall, ⟨1, []⟩].flatMap (·.data) = Utf8.encode "hi".toList := by decide
  rw [houtput, runes_encode]
  rfl

end OpsPlatform.Web
