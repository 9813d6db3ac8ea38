import BookRelay.Scenario.Shared
import BookRelay.Pipeline.Settings

/-!
# The snapshot scheduler as a task

The scheduler waits its initial delay, then ticks at a fixed interval, the first tick at once;
a zero interval makes the ticker panic as it is made. A tick starts a fetch unless the previous one is still under way, when the tick is counted as
skipped. A fetch asks the HTTP stub for the depth snapshot; a failure is counted, and a
snapshot is counted as fetched and then put into the queue, waiting at most the enqueue
time-out for room. Shutdown stops the scheduler and any fetch under way at once.

A fetch under way holds its own producer handle of the queue, given back when it ends.
-/

namespace BookRelay.Scenario

open BookRelay.Pipeline BookRelay.Feed BookRelay.Time

inductive FetchStage where
  | fetching (readyAt : Nat) (outcome : Except SnapshotError Event)
  /-- Waiting for room in the queue until a deadline. -/
  | enqueueing (event : Event) (deadline : Nat)
  deriving Repr

/-- A fetch under way with its producer handle. -/
structure FetchJob where
  stage : FetchStage
  handle : Nat
  deriving Repr

inductive ScheduleStage where
  | delaying (resumeAt : Nat)
  | ticking (nextTick : Nat)
  | stopped
  deriving Repr

structure SnapshotTask where
  fetcher : SnapshotFetcher
  symbol : String
  depthLimit : Nat
  /-- The tick interval in milliseconds. -/
  interval : Nat
  enqueueTimeout : Duration
  producer : Nat
  stage : ScheduleStage
  job : Option FetchJob := none
  /-- The message of the panic that ended the scheduler, if one did. -/
  panicked : Option String := none

/-- The panic of a ticker asked to tick at a zero period. -/
def zeroPeriodText : String := "`period` must be non-zero."

namespace FetchJob

/-- Put a fetched snapshot into the queue: one poll of a waiting enqueue, which ends once the
event is stored, the queue is closed, or the deadline has passed without a slot. -/
def offer (j : FetchJob) (sh : Shared) (e : Event) (timeout : Duration) (deadline : Nat) :
    Option FetchJob × Shared :=
  match sh.line.queue.pollEnqueue j.handle e timeout (deadline ≤ sh.now) with
  | (none, q) => (some { j with stage := .enqueueing e deadline }, sh.withQueue fun _ => q)
  | (some (.ok ()), q) =>
    (none, (((sh.withQueue fun _ => q).record Metrics.recordSnapshotEnqueued).note .info "snapshot"
      "snapshot enqueued").dropProducer j.handle)
  | (some (.error (.timeout _)), q) =>
    (none, ((sh.withQueue fun _ => q).record Metrics.recordSnapshotEnqueueTimeout).dropProducer j.handle)
  | (some (.error .closed), q) => (none, (sh.withQueue fun _ => q).dropProducer j.handle)

/-- The fetch ends without its event: it leaves the line of the queue, or gives back the slot
it was granted, and gives back its handle. -/
def abandon (j : FetchJob) (sh : Shared) : Shared :=
  (sh.withQueue (·.withdraw j.handle)).dropProducer j.handle

/-- One move of a fetch; `none` once it has ended. -/
def step (j : FetchJob) (sh : Shared) (enqueueTimeout : Duration) : Option FetchJob × Shared :=
  if sh.cancelled then (none, j.abandon sh)
  else match j.stage with
    | .fetching readyAt outcome =>
      if readyAt ≤ sh.now then
        match outcome with
        | .error e =>
          (none, ((sh.record Metrics.recordSnapshotFailed).note .warn "snapshot"
            ("snapshot fetch failed, waiting for next tick error=" ++ e.message)).dropProducer j.handle)
        | .ok e =>
          j.offer (sh.record Metrics.recordSnapshotFetched) e enqueueTimeout (sh.now + enqueueTimeout.toMillis)
      else (some j, sh)
    | .enqueueing e deadline => j.offer sh e enqueueTimeout deadline

def wake (j : FetchJob) (sh : Shared) : Nat :=
  if sh.cancelled then sh.now
  else match j.stage with
    | .fetching readyAt _ => max readyAt sh.now
    | .enqueueing _ deadline =>
      if sh.line.queue.closedForProducers || j.handle ∈ sh.line.queue.granted then sh.now
      else max deadline sh.now

end FetchJob

namespace SnapshotTask

/-- Start a fetch: the request goes to the stub, and the answer comes after its delay or the
request time-out, whichever is first. -/
def spawn (t : SnapshotTask) (sh : Shared) : SnapshotTask × Shared :=
  let (handle, q) := sh.line.queue.cloneProducer
  let sh := sh.withQueue fun _ => q
  let result := t.fetcher.fetch (fun _ => sh.stub.served) t.symbol t.depthLimit
  let readyAt := match result.request, sh.stub.served with
    | some _, .answer _ delay =>
      if t.fetcher.timeout.le delay then sh.now + t.fetcher.timeout.toMillis else sh.now + delay.toMillis
    | _, _ => sh.now
  let sh := match result.request with
    | some r => { sh with stub := { sh.stub with last := some r } }
    | none => sh
  ({ t with job := some ⟨.fetching readyAt result.outcome, handle⟩ }, sh)

/-- Stop: a fetch under way ends and the handles are given back. -/
def stop (t : SnapshotTask) (sh : Shared) : SnapshotTask × Shared :=
  let sh := match t.job with
    | some j => j.abandon sh
    | none => sh
  ({ t with stage := .stopped, job := none }, sh.dropProducer t.producer)

def ownWake? (t : SnapshotTask) (sh : Shared) : Option Nat :=
  match t.stage with
  | .stopped => none
  | .delaying r | .ticking r => if sh.cancelled then some sh.now else some (max r sh.now)

def wake? (t : SnapshotTask) (sh : Shared) : Option Nat :=
  match t.job, t.ownWake? sh with
  | some j, some w => some (min (j.wake sh) w)
  | some j, none => some (j.wake sh)
  | none, w => w

def ownStep (t : SnapshotTask) (sh : Shared) : SnapshotTask × Shared :=
  match t.stage with
  | .stopped => (t, sh)
  | .delaying r =>
    if sh.cancelled then t.stop sh
    else if r ≤ sh.now then
      -- the ticker is made here, and a zero period is a panic that ends the task
      if t.interval = 0 then
        let r := t.stop sh
        ({ r.1 with panicked := some zeroPeriodText }, r.2)
      else
        ({ t with stage := .ticking sh.now },
          sh.note .info "snapshot" ("snapshot schedule started symbol=" ++ t.symbol))
    else (t, sh)
  | .ticking n =>
    if sh.cancelled then t.stop sh
    else if n ≤ sh.now then
      let t := { t with stage := .ticking (n + t.interval) }
      match t.job with
      | some _ => (t, sh.record Metrics.recordSnapshotSkipped)
      | none => t.spawn sh
    else (t, sh)

/-- One move: the fetch first when it is due, else the scheduler. -/
def step (t : SnapshotTask) (sh : Shared) : SnapshotTask × Shared :=
  match t.job with
  | some j =>
    if j.wake sh ≤ sh.now then
      let (j', sh) := j.step sh t.enqueueTimeout
      ({ t with job := j' }, sh)
    else t.ownStep sh
  | none => t.ownStep sh

def done (t : SnapshotTask) : Bool :=
  match t.stage with
  | .stopped => true
  | _ => false

end SnapshotTask

end BookRelay.Scenario
