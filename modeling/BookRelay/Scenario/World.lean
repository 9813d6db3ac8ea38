import BookRelay.Scenario.Supervisor
import BookRelay.Scenario.Probe
import BookRelay.Log.Filter

/-!
# Running a scenario on the virtual clock

A scenario is the shared state with the tasks that take part: the supervisor, a watch that
plans the shutdown once a counter is reached, the stream client, the forwarder, the snapshot
scheduler, a probe, and a shutdown planned from outside. Each of them says when it moves next;
a step advances the clock to the earliest such time and moves that one, the order of the list
above breaking ties, with the exchange after all of them. A shutdown planned from the start
thus comes after every task's own timer of the same instant, and everything that happens at
one instant happens before the exchange's next move at that instant.

A run takes steps until its goal holds, nothing is left to move, or the fuel is spent.
-/

namespace BookRelay.Scenario

open BookRelay.Pipeline BookRelay.Feed

inductive Counter where
  | enqueued
  | failed
  | fetched
  | enqueueTimeout
  deriving Repr, BEq

def Counter.read : Counter → Metrics → Nat
  | .enqueued, m => m.snapshotsEnqueued
  | .failed, m => m.snapshotsFailed
  | .fetched, m => m.snapshotsFetched
  | .enqueueTimeout, m => m.snapshotEnqueueTimeouts

/-- What a watch waits for: a counter of at least one, or a line of the journal that a filter
shows and that holds a text. -/
inductive Trigger where
  | counter (c : Counter)
  | journal (text : String) (filter : Log.Filter)
  deriving Repr, BEq

def holdsText (line text : String) : Bool := text.isEmpty || (line.splitOn text).length > 1

def Trigger.came (t : Trigger) (sh : Shared) : Bool :=
  match t with
  | .counter c => c.read sh.line.metrics ≥ 1
  | .journal text f => sh.journal.any fun e => f.shows e.target e.level && holdsText e.line text

/-- A watch: once its trigger comes, shutdown is planned a wait later; at the give-up time, if
there is one, it is planned at once. -/
structure Watch where
  trigger : Trigger
  thenWait : Nat
  giveUpAt : Option Nat
  reached : Bool := false
  settled : Bool := false
  deriving Repr

structure World where
  shared : Shared
  stream : Option StreamTask := none
  forwarder : Option ForwardTask := none
  snapshot : Option SnapshotTask := none
  supervisor : Option Supervisor := none
  probe : Option Probe := none
  shutdownAt : Option Nat := none
  watch : Option Watch := none

inductive Mover where
  | supervisor
  | watch
  | stream
  | forwarder
  | snapshot
  | probe
  | shutdown
  | exchange
  deriving Repr, BEq

namespace World

def now (w : World) : Nat := w.shared.now

/-- Whether the stream client has ended, or is not there. -/
def streamDone (w : World) : Bool := (w.stream.map StreamTask.done).getD true

/-- Whether the scheduler has stopped, or is not there. -/
def snapshotDone (w : World) : Bool := (w.snapshot.map SnapshotTask.done).getD true

/-- The message of the scheduler's panic, if it panicked. -/
def snapshotPanic (w : World) : Option String := w.snapshot.bind (·.panicked)

/-- How the forwarder's run ended, if it has. -/
def forwarderEnd? (w : World) : Option ForwardEnd := w.forwarder.bind ForwardTask.result?

def supervisorWake? (w : World) : Option Nat :=
  match w.supervisor with
  | none => none
  | some s =>
    match s.stage with
    | .finished _ _ => none
    | .watching =>
      if w.shared.cancelled || (s.forwarderHeld && w.forwarderEnd?.isSome) ||
          (s.streamHeld && w.streamDone) || (s.snapshotHeld && w.snapshotDone) then some w.now
      else none
    | .joining c deadline =>
      let pending := match c with
        | .forwarder => s.forwarderHeld && w.forwarderEnd?.isNone
        | .stream => s.streamHeld && !w.streamDone
        | .snapshot => s.snapshotHeld && !w.snapshotDone
      if pending then some (max deadline w.now) else some w.now

def watchWake? (w : World) : Option Nat :=
  match w.watch with
  | none => none
  | some v =>
    if v.settled then none
    else if v.trigger.came w.shared then some w.now
    else v.giveUpAt.map (max w.now)

def shutdownWake? (w : World) : Option Nat :=
  if w.shared.cancelled then none else w.shutdownAt.map (max w.now)

/-- When each one moves next, in the order that breaks ties. -/
def wakes (w : World) : List (Mover × Option Nat) :=
  [(.supervisor, w.supervisorWake?), (.watch, w.watchWake?),
   (.stream, w.stream.bind (·.wake? w.shared)), (.forwarder, w.forwarder.bind (·.wake? w.shared)),
   (.snapshot, w.snapshot.bind (·.wake? w.shared)), (.probe, w.probe.bind (·.wake? w.shared)),
   (.shutdown, w.shutdownWake?), (.exchange, w.shared.exchange.wake? w.now)]

/-- The earliest mover, the first in order among equal times. -/
def next? (w : World) : Option (Mover × Nat) :=
  w.wakes.foldl (fun best (m, t?) => match t?, best with
    | some t, some (_, b) => if t < b then some (m, t) else best
    | some t, none => some (m, t)
    | none, b => b) none

/-- Shut down: every task is asked to stop. -/
def cancel (w : World) : World := { w with shared := { w.shared with cancelled := true } }

def beginJoin (w : World) (s : Supervisor) : World :=
  let w := w.cancel
  { w with supervisor := some { s with stage := .joining .forwarder (w.now + s.settings.shutdownGrace.toMillis) } }

/-- The end of a task the supervisor sees first, if any: the forwarder's, the stream
client's, then the scheduler's. -/
def seenEnd (w : World) (s : Supervisor) : World × Supervisor :=
  match (if s.forwarderHeld then w.forwarderEnd? else none) with
  | some r =>
    let (s, again) := s.forwarderEnded r
    match again with
    | some e => ({ w with forwarder := w.forwarder.map (fun f => ForwardTask.retransmitFirst f e) }, s)
    | none => ({ w with shared := w.shared.withQueue Queue.dropConsumer }, s)
  | none =>
    match (if s.streamHeld then w.stream else none) with
    | some { stage := .stopped r _, .. } => (w, s.streamEnded r)
    | _ => if s.snapshotHeld && w.snapshotDone then (w, s.snapshotEnded w.snapshotPanic) else (w, s)

def watchTasks (w : World) (s : Supervisor) : World :=
  if w.shared.cancelled then w.beginJoin s
  else
    let (w, s) := w.seenEnd s
    if s.watchOver then w.beginJoin s else { w with supervisor := some s }

/-- A move of the supervisor while waiting for a component to stop. -/
def joinTask (w : World) (s : Supervisor) (c : Component) (deadline : Nat) : World :=
  let late := deadline ≤ w.now
  let grace := s.settings.shutdownGrace
  let (s, w, nextOne) := match c with
    | .forwarder =>
      match (if s.forwarderHeld then w.forwarderEnd? else some .aborted) with
      | some r =>
        let w := if s.forwarderHeld then { w with shared := w.shared.withQueue Queue.dropConsumer } else w
        (s.forwarderStopped r, w, some Component.stream)
      | none =>
        if late then
          ({ s.fault (.shutdownTimedOut .forwarder grace) with forwarderHeld := false },
            { w with forwarder := w.forwarder.map (fun f => ForwardTask.stop f .aborted),
                     shared := w.shared.withQueue Queue.dropConsumer }, some .stream)
        else (s, w, none)
    | .stream =>
      if !s.streamHeld then (s, w, some .snapshot)
      else match w.stream with
        | some t =>
          match t.stage with
          | .stopped r _ =>
            let s := { s with streamHeld := false }
            let s := match r with
              | .ok () => s
              | .error e => s.fault (.stream e)
            (s, w, some .snapshot)
          | _ =>
            if late then ({ s.fault (.shutdownTimedOut .stream grace) with streamHeld := false }, w, some .snapshot)
            else (s, w, none)
        | none => ({ s with streamHeld := false }, w, some .snapshot)
    | .snapshot =>
      if !s.snapshotHeld then (s, w, some .snapshot)
      else if w.snapshotDone then (s.snapshotStopped w.snapshotPanic, w, some .snapshot)
      else if late then ({ s.fault (.shutdownTimedOut .snapshot grace) with snapshotHeld := false }, w, some .snapshot)
      else (s, w, none)
  match nextOne, c with
  | none, _ => { w with supervisor := some s }
  | some _, .snapshot =>
    { w with supervisor := some { s with stage := .finished (s.result w.shared.line.metrics) w.now } }
  | some n, _ => { w with supervisor := some { s with stage := .joining n deadline } }

def supervise (w : World) : World :=
  match w.supervisor with
  | none => w
  | some s =>
    match s.stage with
    | .watching => w.watchTasks s
    | .joining c deadline => w.joinTask s c deadline
    | .finished _ _ => w

def watchStep (w : World) : World :=
  match w.watch with
  | none => w
  | some v =>
    if v.trigger.came w.shared then
      { w with watch := some { v with reached := true, settled := true }, shutdownAt := some (w.now + v.thenWait) }
    else { w with watch := some { v with settled := true }, shutdownAt := some w.now }

def move (w : World) : Mover → World
  | .supervisor => w.supervise
  | .watch => w.watchStep
  | .shutdown => w.cancel
  | .stream =>
    match w.stream with
    | some t => let (t, sh) := t.step w.shared; { w with stream := some t, shared := sh }
    | none => w
  | .forwarder =>
    match w.forwarder with
    | some f => let (f, sh) := f.step w.shared; { w with forwarder := some f, shared := sh }
    | none => w
  | .snapshot =>
    match w.snapshot with
    | some t => let (t, sh) := t.step w.shared; { w with snapshot := some t, shared := sh }
    | none => w
  | .probe =>
    match w.probe with
    | some p => let (p, sh) := p.step w.shared; { w with probe := some p, shared := sh }
    | none => w
  | .exchange =>
    let (x, stop) := w.shared.exchange.advance w.now
    { w with shared := { w.shared with exchange := x, cancelled := w.shared.cancelled || stop } }

/-- One step: the clock goes to the earliest move, which is made. `none` when nothing is left
to move. -/
def step (w : World) : Option World :=
  match w.next? with
  | none => none
  | some (m, t) => some ({ w with shared := { w.shared with now := max t w.now } }.move m)

/-- Take steps until the goal holds, nothing is left to move, or the fuel is spent. -/
def run (goal : World → Bool) : Nat → World → World
  | 0, w => w
  | fuel + 1, w =>
    if goal w then w
    else match w.step with
      | none => w
      | some w' => run goal fuel w'

/-- The result of the supervisor, once it has finished. -/
def outcome? (w : World) : Option (Except PipelineError RunSummary) :=
  match w.supervisor with
  | some { stage := .finished r _, .. } => some r
  | _ => none

end World

end BookRelay.Scenario
