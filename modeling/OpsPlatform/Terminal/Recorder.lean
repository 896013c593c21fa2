/-
`Recorder` of a terminal session (`internal/terminal/recorder.go`): an asciicast file, a header
and then one line for each chunk of output.
-/
import OpsPlatform.Lib.JsonText
import OpsPlatform.Lib.Run
import OpsPlatform.Lib.Utf8

namespace OpsPlatform.Terminal

open Lib Lib.Run Lib.Utf8 Lib.JsonText

/-- The first line of a cast. -/
def castHeader (cols rows timestamp : ℤ) : Value :=
  .obj [("env".toList, .obj [("SHELL".toList, .str "/bin/sh".toList),
                             ("TERM".toList, .str "xterm-256color".toList)]),
        ("height".toList, .int rows), ("timestamp".toList, .int timestamp),
        ("version".toList, .int 2), ("width".toList, .int cols)]

/-- The frame of a chunk of output, so many seconds after the start.  In a Go string that is
marshalled U+FFFD stands for each ill-formed byte. -/
def castFrame (seconds : ℚ) (data : Bytes) : Value :=
  .arr [.float seconds, .str "o".toList, .str (runes data)]

/-- `Recorder`, with what its file holds. -/
structure Recorder where
  file : Bytes
  closed : Bool := false

section

variable (formatFloat : ℚ → List Char)

/-- The bytes of a value and of the end of its line. -/
def lineOf (v : Value) : Bytes := Utf8.encode (marshal formatFloat v ++ [Char.ofNat 10])

/-- `NewRecorder`. -/
def newRecorder (cols rows timestamp : ℤ) : Recorder :=
  let cols := if cols ≤ 0 then 80 else cols
  let rows := if rows ≤ 0 then 24 else rows
  { file := lineOf formatFloat (castHeader cols rows timestamp) }

/-- `WriteOutput`; a recorder that is nil is `none`.  A file write that fails has stored some
bytes before, `failsAfter`. -/
def writeOutput (r : Option Recorder) (seconds : ℚ) (data : Bytes) (failsAfter : Option ℕ) :
    Option Recorder :=
  r.map fun r =>
    if data.length = 0 then r
    else if r.closed = true then r
    else
      let buf := lineOf formatFloat (castFrame seconds data)
      { r with file := r.file ++ buf.take (failsAfter.getD buf.length) }

end

/-- A call of `WriteOutput`, with its time since the start. -/
structure OutputCall where
  seconds : ℚ
  data : Bytes

section

variable (formatFloat : ℚ → List Char) (cols rows timestamp : ℤ)

/-- A recorder after calls whose file writes succeed. -/
def recordedCast (calls : List OutputCall) : Option Recorder :=
  run (fun r c => writeOutput formatFloat r c.seconds c.data none)
    (some (newRecorder formatFloat cols rows timestamp)) calls

/-- The line that the call adds. -/
def OutputCall.line (c : OutputCall) : Bytes := lineOf formatFloat (castFrame c.seconds c.data)

/-- The calls that write a frame. -/
def nonEmpty (calls : List OutputCall) : List OutputCall := calls.filter fun c => c.data ≠ []

/-- The values on the lines of a cast. -/
def castLines (calls : List OutputCall) : List Value :=
  castHeader cols rows timestamp :: (nonEmpty calls).map fun c => castFrame c.seconds c.data

variable {formatFloat cols rows timestamp}

lemma writeOutput_eq (r : Recorder) (hopen : r.closed = false) (c : OutputCall) :
    writeOutput formatFloat (some r) c.seconds c.data none =
      some { r with file := r.file ++ (nonEmpty [c]).flatMap (OutputCall.line formatFloat) } := by
  rw [writeOutput, Option.map_some]
  by_cases hdata : c.data = []
  · simp [hdata, nonEmpty]
  · simp [hdata, hopen, nonEmpty, OutputCall.line]

lemma run_writeOutput (r : Recorder) (hopen : r.closed = false) (calls : List OutputCall) :
    run (fun r c => writeOutput formatFloat r c.seconds c.data none) (some r) calls =
      some { r with file := r.file ++ (nonEmpty calls).flatMap (OutputCall.line formatFloat) } := by
  induction calls generalizing r with
  | nil => simp [nonEmpty]
  | cons c calls ih =>
    have hrest := ih
      { r with file := r.file ++ (nonEmpty [c]).flatMap (OutputCall.line formatFloat) } hopen
    have hsplit : nonEmpty (c :: calls) = nonEmpty [c] ++ nonEmpty calls :=
      List.filter_append [c] calls
    rw [run_cons, writeOutput_eq r hopen c, hrest, hsplit, List.flatMap_append, List.append_assoc]

/-- The file has a line for each value. -/
lemma recordedCast_eq (hcols : 0 < cols) (hrows : 0 < rows) (calls : List OutputCall) :
    recordedCast formatFloat cols rows timestamp calls = some
      { file := (castLines cols rows timestamp calls).flatMap (lineOf formatFloat) } := by
  rw [recordedCast, run_writeOutput _ rfl, newRecorder, if_neg (by omega), if_neg (by omega),
    castLines, List.flatMap_cons, List.flatMap_map]
  rfl

end

end OpsPlatform.Terminal
