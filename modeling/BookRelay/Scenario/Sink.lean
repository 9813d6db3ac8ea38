import BookRelay.Pipeline.Sink

/-!
# A scripted sink

A sink whose sends follow a script, one entry per send: it takes the frame, fails at once in a
given way, never finishes, finishes after a delay, or panics. Once the script is used up every
send succeeds. The sink keeps a log of every send, with the entry that decided it, and of every
reset.
-/

namespace BookRelay.Scenario

open BookRelay.Pipeline BookRelay.Host

/-- How one send to the scripted sink goes. -/
inductive SinkStep where
  | ok
  /-- The write fails with a broken pipe. -/
  | io
  /-- The connection is refused. -/
  | connect
  | closed
  /-- The send never finishes. -/
  | hang
  /-- The send succeeds after a number of milliseconds. -/
  | delay (ms : Nat)
  | panic
  deriving Repr, BEq

/-- An entry of the sink's log. -/
inductive SinkRecord where
  | sent (frame : String) (step : SinkStep)
  | reset
  deriving Repr, BEq

/-- The scripted sink: the steps left and the log so far, oldest first. -/
structure ScriptedSink where
  script : List SinkStep := []
  log : List SinkRecord := []
  deriving Repr

/-- The failure an immediate step stands for, if it is one. -/
def SinkStep.failure? : SinkStep → Option SinkError
  | .io => some (.io (.kind .brokenPipe))
  | .connect => some (.connect (.kind .connectionRefused))
  | .closed => some .closed
  | _ => none

namespace ScriptedSink

/-- Start a send of a frame: the step that decides it, logged with the frame. -/
def take (s : ScriptedSink) (frame : String) : SinkStep × ScriptedSink :=
  match s.script with
  | [] => (.ok, { s with log := s.log ++ [.sent frame .ok] })
  | step :: rest => (step, { script := rest, log := s.log ++ [.sent frame step] })

def reset (s : ScriptedSink) : ScriptedSink := { s with log := s.log ++ [.reset] }

/-- How many sends the log holds. -/
def sends (s : ScriptedSink) : Nat := (s.log.filter fun r => r != .reset).length

end ScriptedSink

end BookRelay.Scenario
