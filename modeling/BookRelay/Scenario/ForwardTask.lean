import BookRelay.Scenario.Shared
import BookRelay.Pipeline.Settings

/-!
# The forwarder as a task

The forwarder first delivers the event handed back to it after a failure, if any, then takes
events from the queue, waiting at most the poll interval for each. It stops when the queue is
empty and every producer is gone, or when shutdown was asked and the queue is empty; the
latter is checked after each event taken from the queue and after each wait that found
nothing.

A delivery tries the frame up to the attempt limit (at least once), each try bounded by the
send time-out. After a failed try the sink is reset and, if tries are left, the forwarder
waits the retry delay; after the last one it gives up and hands the event back with the
failure.
-/

namespace BookRelay.Scenario

open BookRelay.Pipeline BookRelay.Feed BookRelay.Time

/-- How a run of the forwarder ended. -/
inductive ForwardEnd where
  | drained (forwarded : Nat)
  /-- A delivery gave up; the event goes back with the failure. -/
  | failed (error : SinkError) (undelivered : Event)
  /-- The sink panicked with a message. -/
  | panicked (message : String)
  | aborted
  deriving Repr

inductive ForwardStage where
  | starting
  /-- Waiting for an event until a deadline. -/
  | polling (deadline : Nat)
  /-- A try of an event is under way and ends at a time with an outcome. `fromQueue` tells an
  event taken from the queue from one handed back. -/
  | sending (event : Event) (attempt : Nat) (fromQueue : Bool) (endsAt : Nat)
      (outcome : Except SinkError Unit)
  | pausing (event : Event) (attempt : Nat) (fromQueue : Bool) (resumeAt : Nat)
  | stopped (result : ForwardEnd)
  deriving Repr

structure ForwardTask where
  settings : ForwarderSettings
  /-- The event to deliver first. -/
  pending : Option Event := none
  forwarded : Nat := 0
  stage : ForwardStage := .starting
  deriving Repr

/-- The message of the scripted sink's panic. -/
def sinkPanicMessage : String := "scripted sink panic"

namespace ForwardTask

/-- The poll interval in milliseconds. -/
def pollMs (f : ForwardTask) : Nat := f.settings.pollInterval.toMillis

def poll (f : ForwardTask) (now : Nat) : ForwardTask := { f with stage := .polling (now + f.pollMs) }

def stop (f : ForwardTask) (result : ForwardEnd) : ForwardTask := { f with stage := .stopped result }

def settle (f : ForwardTask) (sh : Shared) (e : Event) (attempt : Nat) (fromQueue : Bool)
    (outcome : Except SinkError Unit) : ForwardTask × Shared :=
  match outcome with
  | .ok () =>
    let sh := sh.record (·.recordForwarded e.kind)
    let f := { f with forwarded := f.forwarded + 1 }
    if fromQueue && sh.cancelled && sh.line.queue.items.isEmpty then (f.stop (.drained f.forwarded), sh)
    else (f.poll sh.now, sh)
  | .error err =>
    let sh := { sh with sink := sh.sink.reset }
    if attempt < max f.settings.maxSendAttempts 1 then
      ({ f with stage := .pausing e attempt fromQueue (sh.now + f.settings.retryDelay.toMillis) },
        sh.record Metrics.recordSinkRetry)
    else (f.stop (.failed (.exhausted attempt err) e), sh.record Metrics.recordSinkFailure)

def attempt (f : ForwardTask) (sh : Shared) (e : Event) (attempt : Nat) (fromQueue : Bool) :
    ForwardTask × Shared :=
  let (step, sink) := sh.sink.take (e.frame f.settings.connectorName)
  let sh := { sh with sink := sink }
  let limit := f.settings.sendTimeout
  let timedOut : Except SinkError Unit := .error (.timeout limit)
  match step with
  | .hang => ({ f with stage := .sending e attempt fromQueue (sh.now + limit.toMillis) timedOut }, sh)
  | .delay ms =>
    if ms ≤ limit.toMillis then ({ f with stage := .sending e attempt fromQueue (sh.now + ms) (.ok ()) }, sh)
    else ({ f with stage := .sending e attempt fromQueue (sh.now + limit.toMillis) timedOut }, sh)
  | .panic => (f.stop (.panicked sinkPanicMessage), sh)
  | s =>
    match s.failure? with
    | some err => f.settle sh e attempt fromQueue (.error err)
    | none => f.settle sh e attempt fromQueue (.ok ())

def step (f : ForwardTask) (sh : Shared) : ForwardTask × Shared :=
  match f.stage with
  | .stopped _ => (f, sh)
  | .starting =>
    match f.pending with
    | some e => ({ f with pending := none }.attempt sh e 1 false)
    | none => (f.poll sh.now, sh)
  | .polling deadline =>
    match sh.line.queue.tryDequeue with
    | (some e, q) => f.attempt (sh.withQueue fun _ => q) e 1 true
    | (none, _) =>
      if sh.line.queue.closedForConsumer then (f.stop (.drained f.forwarded), sh)
      else if deadline ≤ sh.now then
        if sh.cancelled then (f.stop (.drained f.forwarded), sh) else (f.poll sh.now, sh)
      else (f, sh)
  | .sending e k fromQueue endsAt outcome =>
    if endsAt ≤ sh.now then f.settle sh e k fromQueue outcome else (f, sh)
  | .pausing e k fromQueue resumeAt =>
    if resumeAt ≤ sh.now then f.attempt sh e (k + 1) fromQueue else (f, sh)

def wake? (f : ForwardTask) (sh : Shared) : Option Nat :=
  match f.stage with
  | .stopped _ => none
  | .starting => some sh.now
  | .polling deadline =>
    if !sh.line.queue.items.isEmpty || sh.line.queue.closedForConsumer then some sh.now
    else some (max deadline sh.now)
  | .sending _ _ _ endsAt _ => some (max endsAt sh.now)
  | .pausing _ _ _ resumeAt => some (max resumeAt sh.now)

/-- How the run ended, once it has. -/
def result? (f : ForwardTask) : Option ForwardEnd :=
  match f.stage with
  | .stopped r => some r
  | _ => none

/-- A new run that delivers an event handed back first. -/
def retransmitFirst (f : ForwardTask) (e : Event) : ForwardTask :=
  { f with pending := some e, forwarded := 0, stage := .starting }

end ForwardTask

theorem retransmitFirst_pending (f : ForwardTask) (e : Event) :
    (f.retransmitFirst e).pending = some e := rfl

end BookRelay.Scenario
