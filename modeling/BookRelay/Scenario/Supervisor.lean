import BookRelay.Scenario.ForwardTask
import BookRelay.Scenario.StreamTask
import BookRelay.Scenario.SnapshotTask
import BookRelay.Pipeline.Failure

/-!
# The supervisor

The supervisor watches the three tasks of the pipeline. Shutdown ends the watch first; then
the forwarder's end, the stream client's and the scheduler's, in that order when several are
there at once. A forwarder that gave up on an event is started again with that event first,
up to the restart limit; past it, or on a panic, the pipeline fails, as it does when the stream
client gives up or the scheduler panics. The watch also ends when every task is gone.

After the watch the supervisor asks every task to stop and waits for them, forwarder first,
then stream client, then scheduler, all within one shutdown grace; a task that overruns it is
aborted and the first such fault is kept. A failure from the watch wins over one from the wait.
The events forwarded are those of forwarder runs that ended well during the watch and those
of the last run, drained at shutdown.
-/

namespace BookRelay.Scenario

open BookRelay.Pipeline BookRelay.Feed

/-- What a pipeline run gives when it ends well. -/
structure RunSummary where
  forwarderRestarts : Nat
  forwarded : Nat
  metrics : Metrics
  deriving Repr

inductive SuperviseStage where
  | watching
  /-- Waiting for a component to stop, until the shared deadline. -/
  | joining (component : Component) (deadline : Nat)
  | finished (result : Except PipelineError RunSummary) (endedAt : Nat)
  deriving Repr

/-- The supervisor with its counts and the tasks it still holds. -/
structure Supervisor where
  settings : SupervisorSettings
  restarts : Nat := 0
  forwarded : Nat := 0
  failure : Option PipelineError := none
  forwarderHeld : Bool := true
  streamHeld : Bool := true
  snapshotHeld : Bool := true
  /-- The first fault while waiting for the tasks to stop. -/
  stopFault : Option PipelineError := none
  drained : Nat := 0
  stage : SuperviseStage := .watching
  deriving Repr

/-- The text of a task that panicked. Task numbers are not kept, so the number is shown as
`<id>`. -/
def panicText (message : String) : String := "task <id> panicked with message " ++ Json.quote message

namespace Supervisor

/-- Whether the watch is over: a failure, or no task left. -/
def watchOver (s : Supervisor) : Bool :=
  s.failure.isSome || (!s.forwarderHeld && !s.streamHeld && !s.snapshotHeld)

/-- A forwarder run ended during the watch. The flag asks for a restart with the event. -/
def forwarderEnded (s : Supervisor) (r : ForwardEnd) : Supervisor × Option Event :=
  match r with
  | .drained n => ({ s with forwarded := s.forwarded + n, forwarderHeld := false }, none)
  | .failed err e =>
    if s.restarts < s.settings.maxForwarderRestarts then ({ s with restarts := s.restarts + 1 }, some e)
    else ({ s with failure := some (.forwarder s.restarts err), forwarderHeld := false }, none)
  | .panicked m => ({ s with failure := some (.panicked .forwarder (panicText m)), forwarderHeld := false }, none)
  | .aborted => ({ s with forwarderHeld := false }, none)

def streamEnded (s : Supervisor) (r : Except ConnectionError Unit) : Supervisor :=
  match r with
  | .ok () => { s with streamHeld := false }
  | .error e => { s with failure := some (.stream e), streamHeld := false }

/-- The scheduler ended during the watch: a panic fails the pipeline. -/
def snapshotEnded (s : Supervisor) (panic : Option String) : Supervisor :=
  match panic with
  | none => { s with snapshotHeld := false }
  | some m => { s with failure := some (.panicked .snapshot (panicText m)), snapshotHeld := false }

/-- Keep the first fault of the wait. -/
def fault (s : Supervisor) (e : PipelineError) : Supervisor :=
  { s with stopFault := s.stopFault <|> some e }

def forwarderStopped (s : Supervisor) (r : ForwardEnd) : Supervisor :=
  let s := { s with forwarderHeld := false }
  match r with
  | .drained n => { s with drained := n }
  | .failed err _ => s.fault (.forwarder s.restarts err)
  | .panicked m => s.fault (.panicked .forwarder (panicText m))
  | .aborted => s

def snapshotStopped (s : Supervisor) (panic : Option String) : Supervisor :=
  let s := { s with snapshotHeld := false }
  match panic with
  | none => s
  | some m => s.fault (.panicked .snapshot (panicText m))

/-- The result once every task is joined. -/
def result (s : Supervisor) (metrics : Metrics) : Except PipelineError RunSummary :=
  match s.failure, s.stopFault with
  | some f, _ => .error f
  | none, some e => .error e
  | none, none => .ok ⟨s.restarts, s.forwarded + s.drained, metrics⟩

end Supervisor

theorem result_failure (s : Supervisor) (m : Metrics) (f : PipelineError) (h : s.failure = some f) :
    s.result m = .error f := by
  simp [Supervisor.result, h]

end BookRelay.Scenario
