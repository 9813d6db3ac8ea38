import BookRelay.Scenario.Exchange
import BookRelay.Scenario.Sink
import BookRelay.Pipeline.Fetch
import BookRelay.Pipeline.Intake
import BookRelay.Log.Entry
import BookRelay.Time.Clock

/-!
# What the tasks of a scenario share

The tasks of a running pipeline share the virtual clock and the platform's, the event queue with the counters,
the shutdown signal, the peers they talk to (the scripted exchange on the stream, the scripted
sink, and the HTTP stub that answers snapshot requests), and a journal of what the tasks
report as they go. The stub answers every request in the same way and remembers the last
request it saw.
-/

namespace BookRelay.Scenario

open BookRelay.Pipeline BookRelay.Feed

/-- The HTTP stub: its answer to every request, and the last request it saw. -/
structure Stub where
  served : Served
  last : Option Http.Request := none

structure Shared where
  now : Nat := 0
  clock : Time.Clock := .linux
  line : Line
  cancelled : Bool := false
  exchange : Exchange := ⟨[], []⟩
  sink : ScriptedSink := {}
  stub : Stub := ⟨.unreachable, none⟩
  /-- What the tasks reported, oldest first. -/
  journal : List Log.Entry := []

namespace Shared

def record (sh : Shared) (f : Metrics → Metrics) : Shared :=
  { sh with line := { sh.line with metrics := f sh.line.metrics } }

/-- Report in the journal, at a level, from a part of the program. -/
def note (sh : Shared) (level : Log.Level) (part text : String) : Shared :=
  { sh with journal := sh.journal ++ [⟨sh.now, level, Log.partTarget part, text⟩] }

def withQueue (sh : Shared) (f : Queue → Queue) : Shared :=
  { sh with line := { sh.line with queue := f sh.line.queue } }

def dropProducer (sh : Shared) (handle : Nat) : Shared := sh.withQueue (·.dropProducer handle)

def updateLink (sh : Shared) (visit : Nat) (f : Link → Link) : Shared :=
  { sh with exchange := sh.exchange.update visit f }

@[simp] theorem updateLink_now (sh : Shared) (visit : Nat) (f : Link → Link) :
    (sh.updateLink visit f).now = sh.now := rfl

@[simp] theorem updateLink_clock (sh : Shared) (visit : Nat) (f : Link → Link) :
    (sh.updateLink visit f).clock = sh.clock := rfl

@[simp] theorem updateLink_line (sh : Shared) (visit : Nat) (f : Link → Link) :
    (sh.updateLink visit f).line = sh.line := rfl

/-- Whether the client can read something on the connection of a visit now. -/
def readable (sh : Shared) (visit : Nat) : Bool :=
  match sh.exchange.link? visit with
  | some l => l.readable
  | none => true

end Shared

theorem record_queue (sh : Shared) (f : Metrics → Metrics) : (sh.record f).line.queue = sh.line.queue :=
  rfl

end BookRelay.Scenario
