import BookRelay.Scenario.World
import BookRelay.Config.Check

/-!
# Scenario runs

The scenarios the library runs, each set up from its inputs and reported by what it leaves:

* a forwarder draining a filled queue into a scripted sink, started again with the event it
  gave up on as many times as asked;
* the stream client against the scripted exchange, or against none, until it ends;
* a probe driving one connection step by step;
* the snapshot scheduler against the HTTP stub, shut down once a counter is reached;
* the whole pipeline of a configuration under its supervisor, which does not start when its
  queue cannot be made.

Every run is bounded by `stepBudget` steps of the clock.
-/

namespace BookRelay.Scenario

open BookRelay.Pipeline BookRelay.Feed BookRelay.Exchange BookRelay.Config

def stepBudget : Nat := 5000000

def exchangeAddress : String := "ws://127.0.0.1:45678"

def stubAddress : String := "http://127.0.0.1:45679"

def stubUrl : Url.Url := (Url.Url.parse stubAddress).toOption.getD { scheme := "http" }

/-! ## The forwarder -/

/-- How the forwarder's queue ends before the run. -/
inductive QueueEnding where
  | shutdown
  | close
  | both
  deriving Repr, BEq

structure ForwardReport where
  accepted : List Bool
  runs : List ForwardEnd
  sinkLog : List SinkRecord
  metrics : Metrics

/-- Run the forwarder to its end, then again with the event it gave up on, `restarts` times
at most. -/
def forwardRuns : Nat → World → List ForwardEnd → World × List ForwardEnd
  | restarts, w, done =>
    let w := World.run (fun w => w.forwarderEnd?.isSome) stepBudget w
    match w.forwarderEnd?, restarts with
    | some (.failed err e), r + 1 =>
      forwardRuns r { w with forwarder := w.forwarder.map (fun f => ForwardTask.retransmitFirst f e) }
        (done ++ [.failed err e])
    | some r, _ => (w, done ++ [r])
    | none, _ => (w, done)

/-- A forwarder scenario: events offered to a queue of some capacity, how the queue ends, and
the sink's script. -/
def forwardScenario (capacity : Nat) (events : List Event) (settings : ForwarderSettings)
    (script : List SinkStep) (ending : QueueEnding) (restarts : Nat) : ForwardReport :=
  let (q, accepted) := events.foldl (fun (q, acc) e => match q.tryEnqueue e with
    | some q' => (q', acc ++ [true])
    | none => (q, acc ++ [false])) (Queue.bounded capacity, [])
  let q := if ending != .shutdown then q.dropProducer 0 else q
  let sh : Shared := { line := { queue := q }, cancelled := ending != .close, sink := { script } }
  let (w, runs) := forwardRuns restarts { shared := sh, forwarder := some { settings } } []
  ⟨accepted, runs, w.shared.sink.log, w.shared.line.metrics⟩

/-! ## The stream client -/

structure StreamReport where
  /-- How the client's loop ended, if it did. -/
  result : Option (Except ConnectionError Unit)
  endedAt : Nat
  transitions : List (Nat × ConnectionState)
  events : List Event
  metrics : Metrics
  visits : List Visit

/-- How a stream client scenario is set up. -/
structure StreamSetup where
  settings : StreamSettings
  symbol : String := "BTCUSDT"
  maxPayload : Nat := 4096
  capacity : Nat := 64
  sessions : List (List Action) := []
  shutdownAt : Option Nat := none
  cancelFirst : Bool := false
  dropConsumer : Bool := false

/-- Run the stream client until its loop ends. -/
def streamScenario (s : StreamSetup) : StreamReport :=
  let q := Queue.bounded s.capacity
  let q := if s.dropConsumer then q.dropConsumer else q
  let sh : Shared := { line := { queue := q }, cancelled := s.cancelFirst, exchange := ⟨s.sessions, []⟩ }
  let task : StreamTask := { settings := s.settings, symbol := s.symbol, maxPayload := s.maxPayload }
  let w := World.run World.streamDone stepBudget { shared := sh, stream := some task, shutdownAt := s.shutdownAt }
  let (result, endedAt) := match w.stream with
    | some { stage := .stopped r t, .. } => (some r, t)
    | _ => (none, w.now)
  ⟨result, endedAt, (w.stream.map (·.transitions)).getD [], w.shared.line.queue.items,
    w.shared.line.metrics, w.shared.exchange.visits⟩

/-! ## A probe -/

/-- Drive one connection through steps: the answers, the exchange's visits, and the message of
the panic that ended the probe, if one did. -/
def probeScenario (sessions : List (List Action)) (path : String) (steps : List ProbeStep) :
    List ProbeAnswer × List Visit × Option String :=
  let sh : Shared := { line := { queue := Queue.bounded 1 }, exchange := ⟨sessions, []⟩ }
  let p : Probe := { base := exchangeAddress ++ path, steps }
  let w := World.run (fun w => (w.probe.map Probe.done).getD true) stepBudget { shared := sh, probe := some p }
  ((w.probe.map (·.answers)).getD [], w.shared.exchange.visits, w.probe.bind (·.panicked))

/-! ## The snapshot scheduler -/

/-- How a scheduler scenario is set up. -/
structure ScheduleSetup where
  served : Served
  symbol : String := "BTCUSDT"
  depthLimit : Nat := 100
  apiKey : Option String := none
  intervalMs : Nat := 3600000
  initialDelayMs : Nat := 0
  enqueueTimeoutMs : Nat := 2000
  requestTimeoutMs : Nat := 5000
  capacity : Nat := 8
  prefill : Nat := 0
  dropConsumer : Bool := false
  counter : Counter := .enqueued
  thenWait : Nat := 0
  patience : Nat := 10000

structure ScheduleReport where
  reached : Bool
  stopped : Bool
  events : List Event
  metrics : Metrics
  request : Option Http.Request
  /-- The message of the panic that ended the scheduler, if one did. -/
  panic : Option String

def prefillEvent (i : Nat) : Event :=
  ⟨.incremental i i, .object [("prefill", .ofNat i)]⟩

/-- Run the scheduler until the counter is reached, and a while after, then shut it down. -/
def scheduleScenario (s : ScheduleSetup) : ScheduleReport :=
  let q := (List.range s.prefill).foldl (fun q i => (q.tryEnqueue (prefillEvent i)).getD q)
    (Queue.bounded s.capacity)
  let q := if s.dropConsumer then q.dropConsumer else q
  let client : RestClient :=
    { baseUrl := stubUrl, apiKey := s.apiKey }
  let task : SnapshotTask :=
    { fetcher := ⟨client, .ofMillis s.requestTimeoutMs⟩, symbol := s.symbol, depthLimit := s.depthLimit,
      interval := s.intervalMs, enqueueTimeout := .ofMillis s.enqueueTimeoutMs, producer := 0,
      stage := .delaying s.initialDelayMs }
  let sh : Shared := { line := { queue := q }, stub := ⟨s.served, none⟩ }
  let w := World.run World.snapshotDone stepBudget
    { shared := sh, snapshot := some task,
      watch := some ⟨.counter s.counter, s.thenWait, some s.patience, false, false⟩ }
  ⟨(w.watch.map (·.reached)).getD false, w.snapshotDone, w.shared.line.queue.items,
    w.shared.line.metrics, w.shared.stub.last, w.snapshot.bind (·.panicked)⟩

/-! ## The pipeline -/

structure PipelineReport where
  outcome : Option (Except PipelineError RunSummary)
  endedAt : Nat
  sinkLog : List SinkRecord
  metrics : Metrics
  visits : List Visit
  /-- The message of the panic that kept the pipeline from starting, if one did. -/
  panic : Option String := none

/-- A shutdown asked a wait after the journal first shows, through a filter, a line that
holds a text. -/
structure LogSignal where
  text : String
  filter : Log.Filter
  wait : Nat := 300

/-- How a pipeline run is set up: the configuration, the exchange's scripts, the stub's
answer, the sink's script, a shutdown planned at a time or after a line of the journal, and
the time after which the run is given up. -/
structure PipelineSetup where
  config : RelayConfig
  sessions : List (List Action) := []
  served : Served := .unreachable
  script : List SinkStep := []
  shutdownAt : Option Nat := none
  shutdownAfter : Option LogSignal := none
  horizon : Option Nat := none

/-- The supervisor's first report. -/
def startingEntry (c : RelayConfig) : Log.Entry :=
  ⟨0, .info, Log.partTarget "orchestrator",
    "starting pipeline symbol=" ++ c.symbol ++ " queue_capacity=" ++ toString c.queueCapacity⟩

/-- The scenario of a pipeline setup before its first step: the supervisor with the stream
client, the forwarder and the snapshot scheduler of the configuration, sharing one queue. -/
def PipelineSetup.start (s : PipelineSetup) : World :=
  let c := s.config
  let sym := c.symbolConfig
  let (streamHandle, q) := (Queue.bounded c.queueCapacity).cloneProducer
  let http := c.httpSettings
  let client : RestClient := { baseUrl := (Url.Url.parse c.restUrl).toOption.getD stubUrl }
  let stream : StreamTask :=
    { settings := c.streamSettings, symbol := sym.symbol, maxPayload := sym.maxPayloadSize,
      producer := streamHandle }
  let snap := c.snapshotSettings
  let snapshot : SnapshotTask :=
    { fetcher := ⟨client, http.timeout⟩, symbol := sym.symbol, depthLimit := sym.snapshotDepthLimit,
      interval := sym.snapshotInterval.toMillis, enqueueTimeout := snap.enqueueTimeout, producer := 0,
      stage := .delaying snap.initialDelay.toMillis }
  let sh : Shared :=
    { line := { queue := q }, exchange := ⟨s.sessions, []⟩, sink := { script := s.script },
      stub := ⟨s.served, none⟩, journal := [startingEntry c] }
  let watch := s.shutdownAfter.map fun g =>
    ({ trigger := .journal g.text g.filter, thenWait := g.wait, giveUpAt := none } : Watch)
  { shared := sh, stream := some stream, snapshot := some snapshot,
    forwarder := some { settings := c.forwarderSettings },
    supervisor := some { settings := c.supervisorSettings }, shutdownAt := s.shutdownAt, watch }

/-- Start a pipeline: its queue is made first, so a capacity the queue cannot count is a panic
before any task starts. -/
def PipelineSetup.launch (s : PipelineSetup) : Except String World :=
  (Queue.create? s.config.queueCapacity).map fun _ => s.start

/-- A pipeline that starts, starts as `start`. -/
theorem PipelineSetup.eq_start_of_launch {s : PipelineSetup} {w : World} (h : s.launch = .ok w) :
    w = s.start := by
  unfold PipelineSetup.launch at h
  cases hq : Queue.create? s.config.queueCapacity with
  | error m => simp [hq, Except.map] at h
  | ok q => simpa [hq, Except.map] using h.symm

/-- Run the whole pipeline of a configuration under its supervisor. -/
def pipelineScenario (s : PipelineSetup) : PipelineReport :=
  match s.launch with
  | .error m => ⟨none, 0, [], {}, [], some m⟩
  | .ok start =>
    let goal := fun (w : World) => w.outcome?.isSome || (s.horizon.map fun h => decide (h ≤ w.now)).getD false
    let w := World.run goal stepBudget start
    let endedAt := match w.supervisor with
      | some { stage := .finished _ t, .. } => t
      | _ => w.now
    ⟨w.outcome?, endedAt, w.shared.sink.log, w.shared.line.metrics, w.shared.exchange.visits, none⟩

end BookRelay.Scenario
