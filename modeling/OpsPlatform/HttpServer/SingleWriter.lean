/-
The websocket library allows one data write at a time on a connection.

Neither the terminal nor the RDP handler takes a lock around its writes, while the recorder that
the terminal pumps write to right before has one ("the SSH stdout/stderr pumps in handler.go run
concurrently").  So the writes of a connection stay apart exactly as long as what the goroutines
are given to write comes at times far enough apart.
-/
import OpsPlatform.GuacProxy.Bridge
import OpsPlatform.Terminal.Session

namespace OpsPlatform.HttpServer

open Lib.Run Lib.Writers GuacProxy

/-- **Single writer.**  In every run of the goroutines of a terminal connection, and of an RDP
connection, in which a ping, output, an exit status or an error reaches a goroutine only while
no other one has something to write, at most one write call is in progress in every state; and
after every such run, a step that breaks this can be continued to two calls at the same time. -/
theorem single_writer (ts : List Terminal.Label) (bs : List Bridge.Label) :
    (Along Terminal.step Terminal.Spaced Terminal.init ts →
      OneWriter (run Terminal.step Terminal.init ts).phase ∧
      ∀ l, ¬ Terminal.Spaced (run Terminal.step Terminal.init ts) l →
        ∃ ts', ¬ OneWriter (run Terminal.step Terminal.init (ts ++ l :: ts')).phase) ∧
    (Along Bridge.step Bridge.Spaced Bridge.init bs →
      OneWriter (run Bridge.step Bridge.init bs).phase ∧
      ∀ l, ¬ Bridge.Spaced (run Bridge.step Bridge.init bs) l →
        ∃ bs', ¬ OneWriter (run Bridge.step Bridge.init (bs ++ l :: bs')).phase) := by
  refine ⟨?_, ?_⟩
  · intro hts
    refine ⟨Terminal.oneWriter_of_spaced hts, ?_⟩
    intro l hl
    obtain ⟨ts', hoverlap⟩ := Terminal.overlap_of_not_spaced hl
    refine ⟨ts', ?_⟩
    rw [run_append]
    exact hoverlap
  · intro hbs
    refine ⟨Bridge.oneWriter_of_spaced hbs, ?_⟩
    intro l hl
    obtain ⟨bs', hoverlap⟩ := Bridge.overlap_of_not_spaced hl
    refine ⟨bs', ?_⟩
    rw [run_append]
    exact hoverlap

/-- A ping is answered, and then the shell writes. -/
def pingThenOutput : List Terminal.Label :=
  [.setupDone, .receive (some { type := "ping" }) false, .startWrite .reader,
   .endWrite .reader false, .read .stdout "$ " false, .startWrite .stdout]

lemma along_pingThenOutput : Along Terminal.step Terminal.Spaced Terminal.init pingThenOutput := by
  have hfree : ∀ g, FreeFor (run Terminal.step Terminal.init (pingThenOutput.take 1)).phase g ∧
      FreeFor (run Terminal.step Terminal.init (pingThenOutput.take 4)).phase g := by
    intro g
    constructor <;> intro g' _ <;> cases g' <;> rfl
  refine ⟨?_, ?_, ?_, ?_, ?_, ?_, trivial⟩
  · intro g hg
    cases hg
  · intro g _
    exact (hfree g).1
  · intro g hg
    cases hg
  · intro g hg
    cases hg
  · intro g _
    exact (hfree g).2
  · intro g hg
    cases hg

theorem single_writer_pingThenOutput :
    (run Terminal.step Terminal.init pingThenOutput).phase .stdout =
      .writing (.data "$ " false) ∧
    OneWriter (run Terminal.step Terminal.init pingThenOutput).phase :=
  ⟨by decide, ((single_writer pingThenOutput []).1 along_pingThenOutput).1⟩

/-- A ping is read while the shell writes. -/
def pingDuringOutput : List Terminal.Label :=
  [.setupDone, .read .stdout "$ " false, .receive (some { type := "ping" }) false,
   .startWrite .stdout, .startWrite .reader]

/-- The websocket fails while the pump is in its write call. -/
def failureDuringOutput : List Bridge.Label :=
  [.instruction "4.sync,1.0;", .startWrite .pump,
   .receiveFails { message := "read: connection reset by peer" }, .bridgeReturns,
   .startWrite .main]

theorem two_writers :
    ¬ OneWriter (run Terminal.step Terminal.init pingDuringOutput).phase ∧
    ¬ OneWriter (run Bridge.step Bridge.init failureDuringOutput).phase := by
  refine ⟨?_, ?_⟩
  · intro h
    have hreader : ((run Terminal.step Terminal.init pingDuringOutput).phase .reader).isWriting =
        true := by decide
    have hstdout : ((run Terminal.step Terminal.init pingDuringOutput).phase .stdout).isWriting =
        true := by decide
    exact absurd (h hreader hstdout) (by decide)
  · intro h
    have hpump : ((run Bridge.step Bridge.init failureDuringOutput).phase .pump).isWriting =
        true := by decide
    have hmain : ((run Bridge.step Bridge.init failureDuringOutput).phase .main).isWriting =
        true := by decide
    exact absurd (h hpump hmain) (by decide)

end OpsPlatform.HttpServer
