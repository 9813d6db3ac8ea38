import BookRelay.Proofs.Ledger
import BookRelay.Proofs.BoundedFifo
import Mathlib.Data.Nat.ModEq
import Mathlib.Logic.Relation

/-!
# What the snapshot scheduler counts

Every move of the scheduler is one of a few kinds (`ScheduleMove`): a tick starts a fetch when
none is under way and is counted as skipped otherwise, a fetch fails, brings a snapshot that is
then offered to the queue, or is cut short by shutdown, and an offered snapshot is stored,
waits on for a slot, times out, or is turned away by a closed queue.

Around the scheduler the rest of the program may do anything to the state they share, except
withdraw shutdown or touch the scheduler's counters (`Turn`). Counting the moves of such a run
(`CountedRun`), the fetches started are those answered plus the one under way, the snapshots
fetched are those settled plus the one being offered, the five counters follow the count, a
stopped scheduler holds no fetch, and nothing starts once shutdown was asked (`Balanced`).

Main statement: `snapshot_schedule_accounting`.
-/

namespace BookRelay.Scenario

open BookRelay.Pipeline BookRelay.Feed BookRelay.Time

@[simp] theorem Shared.record_metrics (sh : Shared) (g : Metrics → Metrics) :
    (sh.record g).line.metrics = g sh.line.metrics := rfl

@[simp] theorem Shared.withQueue_metrics (sh : Shared) (g : Queue → Queue) :
    (sh.withQueue g).line.metrics = sh.line.metrics := rfl

@[simp] theorem Shared.note_line (sh : Shared) (level : Log.Level) (part text : String) :
    (sh.note level part text).line = sh.line := rfl

@[simp] theorem Shared.note_cancelled (sh : Shared) (level : Log.Level) (part text : String) :
    (sh.note level part text).cancelled = sh.cancelled := rfl

@[simp] theorem Shared.dropProducer_metrics (sh : Shared) (h : Nat) :
    (sh.dropProducer h).line.metrics = sh.line.metrics := rfl

@[simp] theorem Shared.dropProducer_cancelled (sh : Shared) (h : Nat) :
    (sh.dropProducer h).cancelled = sh.cancelled := rfl

/-! ## The kinds of moves -/

/-- How one offer of a fetched snapshot to the queue ends. -/
inductive Offered where
  /-- No slot yet, and still in time: the fetch waits on. -/
  | waits
  | stored
  | timedOut
  | refused
  deriving DecidableEq, Repr

def Offered.record : Offered → Metrics → Metrics
  | .stored => Metrics.recordSnapshotEnqueued
  | .timedOut => Metrics.recordSnapshotEnqueueTimeout
  | .waits | .refused => id

/-- The kinds of moves of the scheduler. -/
inductive ScheduleAct where
  | idle
  | begin
  | skip
  | start
  | stop
  /-- The ticker was asked for a zero period and panicked, ending the scheduler with any fetch
  under way: `cut` of them still asking, `shutOut` of them offering a snapshot. -/
  | panic (cut shutOut : Nat)
  | fail
  | cut
  | shutOut
  | fetch (o : Offered)
  | offer (o : Offered)
  deriving DecidableEq, Repr

def ScheduleAct.record : ScheduleAct → Metrics → Metrics
  | .skip => Metrics.recordSnapshotSkipped
  | .fail => Metrics.recordSnapshotFailed
  | .fetch o => fun m => o.record m.recordSnapshotFetched
  | .offer o => o.record
  | .idle | .begin | .start | .stop | .panic _ _ | .cut | .shutOut => id

namespace FetchJob

/-- How an offer of snapshot `e` ends for fetch `j`, with the fetch that goes on, if any. -/
inductive OfferOutcome (j : FetchJob) (sh : Shared) (e : Event) (deadline : Nat) :
    Offered → Option FetchJob → Prop where
  | waits (hopen : sh.line.queue.consumerAlive = true) (hearly : sh.now < deadline) :
      OfferOutcome j sh e deadline .waits (some { j with stage := .enqueueing e deadline })
  | stored (hopen : sh.line.queue.consumerAlive = true) : OfferOutcome j sh e deadline .stored none
  | timedOut (hopen : sh.line.queue.consumerAlive = true) (hlate : deadline ≤ sh.now) :
      OfferOutcome j sh e deadline .timedOut none
  | refused (hclosed : sh.line.queue.consumerAlive = false) :
      OfferOutcome j sh e deadline .refused none

theorem offer_outcome (j : FetchJob) (sh : Shared) (e : Event) (timeout : Duration)
    (deadline : Nat) :
    ∃ o, OfferOutcome j sh e deadline o (j.offer sh e timeout deadline).1 ∧
      (j.offer sh e timeout deadline).2.line.metrics = o.record sh.line.metrics ∧
      (j.offer sh e timeout deadline).2.cancelled = sh.cancelled := by
  unfold offer
  rcases Queue.pollEnqueue_cases sh.line.queue j.handle e timeout (decide (deadline ≤ sh.now)) with
    ⟨ha, hp⟩ | ⟨ha, -, hp⟩ | ⟨ha, -, -, hp⟩ | ⟨ha, -, -, hlate, hp⟩ | ⟨ha, -, -, hlate, hp⟩ |
      ⟨ha, -, -, hlate, hp⟩ <;> rw [hp]
  · exact ⟨.refused, .refused ha, rfl, rfl⟩
  · exact ⟨.stored, .stored ha, rfl, rfl⟩
  · exact ⟨.stored, .stored ha, rfl, rfl⟩
  · exact ⟨.waits, .waits ha (by simpa using hlate), rfl, rfl⟩
  · exact ⟨.waits, .waits ha (by simpa using hlate), rfl, rfl⟩
  · exact ⟨.timedOut, .timedOut ha (by simpa using hlate), rfl, rfl⟩

end FetchJob

namespace FetchStage

def asking : FetchStage → Nat
  | .fetching .. => 1
  | .enqueueing .. => 0

/-- One for a fetched snapshot waiting for a slot in the queue. -/
def offering : FetchStage → Nat
  | .fetching .. => 0
  | .enqueueing .. => 1

end FetchStage

namespace SnapshotTask

def asking (t : SnapshotTask) : Nat := (t.job.map fun j => j.stage.asking).getD 0

/-- One while a fetched snapshot waits for a slot in the queue. -/
def offering (t : SnapshotTask) : Nat := (t.job.map fun j => j.stage.offering).getD 0

/-- At most one fetch is under way: asking for its snapshot, or offering it to the queue. -/
theorem asking_add_offering_le (t : SnapshotTask) : t.asking + t.offering ≤ 1 := by
  cases hj : t.job with
  | none => simp [asking, offering, hj]
  | some j => cases hs : j.stage <;> simp [asking, offering, hj, hs, FetchStage.asking, FetchStage.offering]

/-- What one move of the scheduler does to it, by kind, with what the move saw. -/
inductive ScheduleMove (t : SnapshotTask) (sh : Shared) : ScheduleAct → SnapshotTask → Prop where
  | idle : ScheduleMove t sh .idle t
  | begin (r : Nat) (hs : t.stage = .delaying r) (hc : sh.cancelled = false) (hr : r ≤ sh.now)
      (hi : t.interval ≠ 0) :
      ScheduleMove t sh .begin { t with stage := .ticking sh.now }
  | panic (r : Nat) (hs : t.stage = .delaying r) (hc : sh.cancelled = false) (hr : r ≤ sh.now)
      (hi : t.interval = 0) :
      ScheduleMove t sh (.panic t.asking t.offering)
        { t with stage := .stopped, job := none, panicked := some zeroPeriodText }
  | skip (k : Nat) (j : FetchJob) (hs : t.stage = .ticking k) (hc : sh.cancelled = false)
      (hk : k ≤ sh.now) (hj : t.job = some j) :
      ScheduleMove t sh .skip { t with stage := .ticking (k + t.interval) }
  | start (k readyAt : Nat) (outcome : Except SnapshotError Event) (handle : Nat)
      (hs : t.stage = .ticking k) (hc : sh.cancelled = false) (hk : k ≤ sh.now)
      (hj : t.job = none) :
      ScheduleMove t sh .start
        { t with stage := .ticking (k + t.interval),
                 job := some ⟨.fetching readyAt outcome, handle⟩ }
  | stop (hc : sh.cancelled = true) (hd : t.done = false) (hj : t.job = none) :
      ScheduleMove t sh .stop { t with stage := .stopped, job := none }
  | fail (j : FetchJob) (readyAt : Nat) (err : SnapshotError) (hj : t.job = some j)
      (hs : j.stage = .fetching readyAt (.error err)) (hc : sh.cancelled = false)
      (hr : readyAt ≤ sh.now) :
      ScheduleMove t sh .fail { t with job := none }
  | cut (j : FetchJob) (readyAt : Nat) (outcome : Except SnapshotError Event)
      (hj : t.job = some j) (hs : j.stage = .fetching readyAt outcome) (hc : sh.cancelled = true) :
      ScheduleMove t sh .cut { t with job := none }
  | shutOut (j : FetchJob) (e : Event) (deadline : Nat) (hj : t.job = some j)
      (hs : j.stage = .enqueueing e deadline) (hc : sh.cancelled = true) :
      ScheduleMove t sh .shutOut { t with job := none }
  | fetch (j : FetchJob) (readyAt : Nat) (e : Event) (o : Offered) (j' : Option FetchJob)
      (hj : t.job = some j) (hs : j.stage = .fetching readyAt (.ok e)) (hc : sh.cancelled = false)
      (hr : readyAt ≤ sh.now)
      (ho : j.OfferOutcome (sh.record Metrics.recordSnapshotFetched) e
        (sh.now + t.enqueueTimeout.toMillis) o j') :
      ScheduleMove t sh (.fetch o) { t with job := j' }
  | offer (j : FetchJob) (e : Event) (deadline : Nat) (o : Offered) (j' : Option FetchJob)
      (hj : t.job = some j) (hs : j.stage = .enqueueing e deadline) (hc : sh.cancelled = false)
      (ho : j.OfferOutcome sh e deadline o j') :
      ScheduleMove t sh (.offer o) { t with job := j' }

/-- A move of the scheduler of kind `a` to `r`: what becomes of the scheduler, and what it does
to the metrics and to shutdown, which it never touches. -/
structure Moved (t : SnapshotTask) (sh : Shared) (a : ScheduleAct) (r : SnapshotTask × Shared) :
    Prop where
  task : ScheduleMove t sh a r.1
  metrics : r.2.line.metrics = a.record sh.line.metrics
  cancelled : r.2.cancelled = sh.cancelled

/-! ## Every move is of one of the kinds -/

theorem spawn_eq (t : SnapshotTask) (sh : Shared) :
    ∃ readyAt outcome handle,
      (t.spawn sh).1 = { t with job := some ⟨.fetching readyAt outcome, handle⟩ } ∧
      (t.spawn sh).2.line.metrics = sh.line.metrics ∧ (t.spawn sh).2.cancelled = sh.cancelled := by
  unfold spawn
  dsimp only
  refine ⟨_, _, _, rfl, ?_, ?_⟩ <;> split <;> rfl

/-- Stopping, with any fetch under way, touches neither the metrics nor shutdown. -/
theorem stop_metrics_cancelled (t : SnapshotTask) (sh : Shared) :
    (t.stop sh).2.line.metrics = sh.line.metrics ∧ (t.stop sh).2.cancelled = sh.cancelled := by
  cases hj : t.job <;> simp [stop, hj, FetchJob.abandon]

theorem stop_moved {t : SnapshotTask} {sh : Shared} (hc : sh.cancelled = true) (hd : t.done = false)
    (hj : t.job = none) : Moved t sh .stop (t.stop sh) := by
  refine ⟨.stop hc hd hj, ?_, ?_⟩ <;> simp [stop, hj, ScheduleAct.record]

/-- A move of the scheduler itself, when a fetch under way is not due: a cancelled fetch always
is, so shutdown finds no fetch here. -/
theorem ownStep_moved (t : SnapshotTask) (sh : Shared) (hj : sh.cancelled = true → t.job = none) :
    ∃ a, Moved t sh a (t.ownStep sh) := by
  unfold ownStep
  cases hs : t.stage with
  | stopped => exact ⟨.idle, .idle, rfl, rfl⟩
  | delaying r =>
    have hd : t.done = false := by simp [done, hs]
    dsimp only
    cases hc : sh.cancelled with
    | true => exact ⟨.stop, stop_moved hc hd (hj hc)⟩
    | false =>
      simp only [Bool.false_eq_true, if_false]
      split
      · rename_i hr
        split
        · rename_i hi
          -- the ticker panics: the scheduler ends with any fetch under way, as on shutdown
          obtain ⟨hm, hc'⟩ := stop_metrics_cancelled t sh
          exact ⟨.panic t.asking t.offering, .panic r hs hc hr hi, hm, hc'⟩
        · rename_i hi
          exact ⟨.begin, .begin r hs hc hr hi, rfl, rfl⟩
      · exact ⟨.idle, .idle, rfl, rfl⟩
  | ticking k =>
    have hd : t.done = false := by simp [done, hs]
    dsimp only
    cases hc : sh.cancelled with
    | true => exact ⟨.stop, stop_moved hc hd (hj hc)⟩
    | false =>
      simp only [Bool.false_eq_true, if_false]
      split
      · rename_i hk
        split
        · rename_i j hjob
          exact ⟨.skip, .skip k j hs hc hk hjob, rfl, rfl⟩
        · rename_i hjob
          obtain ⟨readyAt, outcome, handle, h1, hm, hc'⟩ :=
            spawn_eq { t with stage := .ticking (k + t.interval) } sh
          refine ⟨.start, ⟨?_, hm, hc'⟩⟩
          rw [h1]
          exact .start k readyAt outcome handle hs hc hk hjob
      · exact ⟨.idle, .idle, rfl, rfl⟩

/-- A move of the fetch under way. -/
theorem job_moved {t : SnapshotTask} {j : FetchJob} (hj : t.job = some j) (sh : Shared) :
    ∃ a, Moved t sh a ({ t with job := (j.step sh t.enqueueTimeout).1 },
      (j.step sh t.enqueueTimeout).2) := by
  unfold FetchJob.step
  cases hc : sh.cancelled with
  | true =>
    simp only [if_true]
    cases hs : j.stage with
    | fetching r o =>
      exact ⟨.cut, .cut j r o hj hs hc, by simp [FetchJob.abandon, ScheduleAct.record],
        by simp [FetchJob.abandon]⟩
    | enqueueing e d =>
      exact ⟨.shutOut, .shutOut j e d hj hs hc, by simp [FetchJob.abandon, ScheduleAct.record],
        by simp [FetchJob.abandon]⟩
  | false =>
    simp only [Bool.false_eq_true, if_false]
    cases hs : j.stage with
    | fetching r o =>
      dsimp only
      split
      · rename_i hr
        cases o with
        | error err =>
          exact ⟨.fail, .fail j r err hj hs hc hr, by simp [ScheduleAct.record], by simp⟩
        | ok e =>
          obtain ⟨o, ho, hm, hc'⟩ := FetchJob.offer_outcome j (sh.record Metrics.recordSnapshotFetched)
            e t.enqueueTimeout (sh.now + t.enqueueTimeout.toMillis)
          exact ⟨.fetch o, .fetch j r e o _ hj hs hc hr ho, by simp [hm, ScheduleAct.record],
            by simp [hc']⟩
      · -- the answer is not in yet: nothing changes
        have ht : { t with job := some j } = t := by
          cases t
          simp_all
        exact ⟨.idle, by rw [ht]; exact .idle, rfl, rfl⟩
    | enqueueing e d =>
      obtain ⟨o, ho, hm, hc'⟩ := FetchJob.offer_outcome j sh e t.enqueueTimeout d
      exact ⟨.offer o, .offer j e d o _ hj hs hc ho, by simp [hm, ScheduleAct.record], hc'⟩

/-- Every move of the scheduler is of one of the kinds of `ScheduleMove`. -/
theorem step_moved (t : SnapshotTask) (sh : Shared) : ∃ a, Moved t sh a (t.step sh) := by
  unfold step
  cases hj : t.job with
  | none => exact ownStep_moved t sh fun _ => hj
  | some j =>
    dsimp only
    split
    · exact job_moved hj sh
    · rename_i hdue
      refine ownStep_moved t sh fun hc => absurd ?_ hdue
      simp [FetchJob.wake, hc]

/-- A tick that comes while shutdown is not asked and no fetch is due: it starts a fetch when
none is under way, and is counted as skipped, leaving the fetch under way, otherwise. -/
theorem tick_step {t : SnapshotTask} {sh : Shared} {k : Nat} (hs : t.stage = .ticking k)
    (hk : k ≤ sh.now) (hc : sh.cancelled = false) (hwait : ∀ j, t.job = some j → sh.now < j.wake sh) :
    (t.step sh).1.stage = .ticking (k + t.interval) ∧
    (t.job = none → (t.step sh).1.asking = 1 ∧ (t.step sh).2.line.metrics = sh.line.metrics) ∧
    (t.job ≠ none → (t.step sh).1.job = t.job ∧
      (t.step sh).2.line.metrics = sh.line.metrics.recordSnapshotSkipped) := by
  -- the fetch under way is not due, so the scheduler itself moves
  have hown : t.step sh = t.ownStep sh := by
    unfold step
    split
    · rename_i j hj
      simp [Nat.not_le.mpr (hwait j hj)]
    · rfl
  rw [hown]
  unfold ownStep
  simp only [hs, hc, hk, Bool.false_eq_true, if_false, if_true]
  split
  · rename_i j hj
    simp [hj]
  · rename_i hj
    obtain ⟨readyAt, outcome, handle, h1, hm, -⟩ :=
      spawn_eq { t with stage := .ticking (k + t.interval) } sh
    rw [hj] at h1 hm
    simp [h1, hm, hj, asking, FetchStage.asking]

end SnapshotTask

/-! ## Counting the moves -/

/-- What a run of the scheduler did, counted by kind of move. -/
structure ScheduleCount where
  started : Nat := 0
  skipped : Nat := 0
  failed : Nat := 0
  fetched : Nat := 0
  cut : Nat := 0
  enqueued : Nat := 0
  timedOut : Nat := 0
  shutOut : Nat := 0
  refused : Nat := 0
  deriving DecidableEq, Repr

namespace ScheduleCount

def offered (n : ScheduleCount) : Offered → ScheduleCount
  | .waits => n
  | .stored => { n with enqueued := n.enqueued + 1 }
  | .timedOut => { n with timedOut := n.timedOut + 1 }
  | .refused => { n with refused := n.refused + 1 }

def add (n : ScheduleCount) : ScheduleAct → ScheduleCount
  | .skip => { n with skipped := n.skipped + 1 }
  | .start => { n with started := n.started + 1 }
  | .fail => { n with failed := n.failed + 1 }
  | .cut => { n with cut := n.cut + 1 }
  | .shutOut => { n with shutOut := n.shutOut + 1 }
  | .fetch o => { n with fetched := n.fetched + 1 }.offered o
  | .offer o => n.offered o
  | .panic c o => { n with cut := n.cut + c, shutOut := n.shutOut + o }
  | .idle | .begin | .stop => n

theorem started_add (n : ScheduleCount) {a : ScheduleAct} (ha : a ≠ .start) :
    (n.add a).started = n.started := by
  cases a with
  | start => exact absurd rfl ha
  | fetch o | offer o => cases o <;> rfl
  | idle | begin | skip | stop | panic _ _ | fail | cut | shutOut => rfl

end ScheduleCount

end BookRelay.Scenario

namespace BookRelay.Feed.Metrics

open BookRelay.Scenario

def scheduleCounters (m : Metrics) : List Nat :=
  [m.snapshotsFetched, m.snapshotsFailed, m.snapshotsSkipped, m.snapshotEnqueueTimeouts,
    m.snapshotsEnqueued]

/-- The scheduler's counters in `m` are those in `m₀` moved on by the count `n`, each modulo the
word it is kept in. -/
structure Follows (m₀ m : Metrics) (n : ScheduleCount) : Prop where
  fetched : m.snapshotsFetched ≡ m₀.snapshotsFetched + n.fetched [MOD Nat.pow 2 64]
  failed : m.snapshotsFailed ≡ m₀.snapshotsFailed + n.failed [MOD Nat.pow 2 64]
  skipped : m.snapshotsSkipped ≡ m₀.snapshotsSkipped + n.skipped [MOD Nat.pow 2 64]
  timedOut : m.snapshotEnqueueTimeouts ≡ m₀.snapshotEnqueueTimeouts + n.timedOut [MOD Nat.pow 2 64]
  enqueued : m.snapshotsEnqueued ≡ m₀.snapshotsEnqueued + n.enqueued [MOD Nat.pow 2 64]

/-- The scheduler's counters are 64-bit words. -/
structure CountersFit (m : Metrics) : Prop where
  fetched : m.snapshotsFetched < Nat.pow 2 64
  failed : m.snapshotsFailed < Nat.pow 2 64
  skipped : m.snapshotsSkipped < Nat.pow 2 64
  timedOut : m.snapshotEnqueueTimeouts < Nat.pow 2 64
  enqueued : m.snapshotsEnqueued < Nat.pow 2 64

variable {m₀ m m' : Metrics} {n : ScheduleCount}

theorem bump_follows {x y k : Nat} (h : x ≡ y + k [MOD Nat.pow 2 64]) :
    bump x ≡ y + (k + 1) [MOD Nat.pow 2 64] := by
  rw [← Nat.add_assoc]
  exact (Ledger.bump_modEq x).trans (h.add_right 1)

theorem Follows.rfl : Follows m m {} := ⟨.refl _, .refl _, .refl _, .refl _, .refl _⟩

theorem Follows.offered (h : Follows m₀ m n) (o : Offered) :
    Follows m₀ (o.record m) (n.offered o) := by
  cases o with
  | waits => exact h
  | refused => exact ⟨h.fetched, h.failed, h.skipped, h.timedOut, h.enqueued⟩
  | stored => exact { h with enqueued := bump_follows h.enqueued }
  | timedOut => exact { h with timedOut := bump_follows h.timedOut }

/-- Each kind of move bumps the counters it counts, and only those. -/
theorem Follows.add (h : Follows m₀ m n) (a : ScheduleAct) : Follows m₀ (a.record m) (n.add a) := by
  cases a with
  | skip => exact { h with skipped := bump_follows h.skipped }
  | fail => exact { h with failed := bump_follows h.failed }
  | fetch o =>
    have hf : Follows m₀ m.recordSnapshotFetched { n with fetched := n.fetched + 1 } :=
      { h with fetched := bump_follows h.fetched }
    exact hf.offered o
  | offer o => exact h.offered o
  | idle | begin | stop => exact h
  | start | panic _ _ | cut | shutOut => exact ⟨h.fetched, h.failed, h.skipped, h.timedOut, h.enqueued⟩

theorem Follows.of_counters (h : Follows m₀ m n) (hm : m'.scheduleCounters = m.scheduleCounters) :
    Follows m₀ m' n := by
  simp only [scheduleCounters, List.cons.injEq, and_true] at hm
  obtain ⟨h1, h2, h3, h4, h5⟩ := hm
  exact ⟨h1 ▸ h.fetched, h2 ▸ h.failed, h3 ▸ h.skipped, h4 ▸ h.timedOut, h5 ▸ h.enqueued⟩

theorem CountersFit.offered (h : m.CountersFit) (o : Offered) : (o.record m).CountersFit := by
  cases o with
  | waits | refused => exact h
  | stored => exact { h with enqueued := Ledger.bump_lt _ }
  | timedOut => exact { h with timedOut := Ledger.bump_lt _ }

theorem CountersFit.add (h : m.CountersFit) (a : ScheduleAct) : (a.record m).CountersFit := by
  cases a with
  | skip => exact { h with skipped := Ledger.bump_lt _ }
  | fail => exact { h with failed := Ledger.bump_lt _ }
  | fetch o =>
    have hf : m.recordSnapshotFetched.CountersFit := { h with fetched := Ledger.bump_lt _ }
    exact hf.offered o
  | offer o => exact h.offered o
  | idle | begin | start | stop | panic _ _ | cut | shutOut => exact h

theorem CountersFit.of_counters (h : m.CountersFit) (hm : m'.scheduleCounters = m.scheduleCounters) :
    m'.CountersFit := by
  simp only [scheduleCounters, List.cons.injEq, and_true] at hm
  obtain ⟨h1, h2, h3, h4, h5⟩ := hm
  exact ⟨h1 ▸ h.fetched, h2 ▸ h.failed, h3 ▸ h.skipped, h4 ▸ h.timedOut, h5 ▸ h.enqueued⟩

end BookRelay.Feed.Metrics

namespace BookRelay.Scenario

open BookRelay.Pipeline BookRelay.Feed BookRelay.Time

namespace SnapshotTask.ScheduleMove

variable {t t' : SnapshotTask} {sh : Shared} {a : ScheduleAct} {n : ScheduleCount} {k : Nat}

/-- A move answers a fetch exactly when it fails, brings a snapshot, or is cut short, and only a
start sets a new one asking. -/
theorem asked (hm : ScheduleMove t sh a t')
    (h : n.started + k = n.failed + n.fetched + n.cut + t.asking) :
    (n.add a).started + k = (n.add a).failed + (n.add a).fetched + (n.add a).cut + t'.asking := by
  cases hm with
  | fetch _ _ _ o _ hj hs _ _ ho | offer _ _ _ o _ hj hs _ ho =>
    -- an offer leaves no fetch asking, whatever its outcome
    cases ho <;> simp_all [ScheduleCount.add, ScheduleCount.offered, asking, FetchStage.asking] <;> omega
  | _ => simp_all [ScheduleCount.add, asking, FetchStage.asking] <;> omega

/-- A move settles a fetched snapshot exactly when the queue takes it, times out, is closed, or
shutdown comes first, and only a fetch brings a new one. -/
theorem offered (hm : ScheduleMove t sh a t')
    (h : n.fetched + k = n.enqueued + n.timedOut + n.shutOut + n.refused + t.offering) :
    (n.add a).fetched + k =
      (n.add a).enqueued + (n.add a).timedOut + (n.add a).shutOut + (n.add a).refused + t'.offering := by
  cases hm with
  | fetch _ _ _ o _ hj hs _ _ ho | offer _ _ _ o _ hj hs _ ho =>
    cases ho <;> simp_all [ScheduleCount.add, ScheduleCount.offered, offering, FetchStage.offering] <;>
      omega
  | _ => simp_all [ScheduleCount.add, offering, FetchStage.offering] <;> omega

/-- Nothing starts once shutdown is asked. -/
theorem ne_start (hm : ScheduleMove t sh a t') (hc : sh.cancelled = true) : a ≠ .start := by
  rintro rfl
  cases hm with
  | start _ _ _ _ _ hc' => simp [hc] at hc'

/-- A scheduler that stopped holds no fetch: it stops only once its fetch has ended, and a fetch
moves only while the scheduler runs. -/
theorem clear_of_done (hm : ScheduleMove t sh a t') (h : t.done = true → t.job = none) :
    t'.done = true → t'.job = none := by
  cases hm with
  | idle => exact h
  | begin | skip | start => intro hd; simp [done] at hd
  | stop | panic | fail | cut | shutOut => intro _; rfl
  | fetch _ _ _ _ _ hj | offer _ _ _ _ _ hj =>
    intro hd
    simp [h hd] at hj

end SnapshotTask.ScheduleMove

open SnapshotTask in
/-- What a counted run from scheduler `t₀` and state `sh₀` keeps: every fetch started was
answered or is still asking, every snapshot fetched was settled or is still offered, the
counters follow the count and stay words, a stopped scheduler holds no fetch, and nothing
starts once shutdown is asked. -/
structure ScheduleCount.Balanced (t₀ : SnapshotTask) (sh₀ : Shared) (n : ScheduleCount)
    (t : SnapshotTask) (sh : Shared) : Prop where
  asked : n.started + t₀.asking = n.failed + n.fetched + n.cut + t.asking
  offered : n.fetched + t₀.offering = n.enqueued + n.timedOut + n.shutOut + n.refused + t.offering
  counters : Metrics.Follows sh₀.line.metrics sh.line.metrics n
  fit : sh₀.line.metrics.CountersFit → sh.line.metrics.CountersFit
  quiet : sh₀.cancelled = true → n.started = 0 ∧ sh.cancelled = true
  stopped : (t₀.done = true → t₀.job = none) → t.done = true → t.job = none

namespace ScheduleCount.Balanced

variable {t₀ t : SnapshotTask} {sh₀ sh sh' : Shared} {n : ScheduleCount}

theorem rfl : Balanced t₀ sh₀ {} t₀ sh₀ where
  asked := by simp
  offered := by simp
  counters := .rfl
  fit := id
  quiet hc := ⟨Eq.refl 0, hc⟩
  stopped := id

theorem move {a : ScheduleAct} {r : SnapshotTask × Shared} (h : Balanced t₀ sh₀ n t sh)
    (hm : SnapshotTask.Moved t sh a r) : Balanced t₀ sh₀ (n.add a) r.1 r.2 where
  asked := hm.task.asked h.asked
  offered := hm.task.offered h.offered
  counters := hm.metrics ▸ h.counters.add a
  fit hfit := hm.metrics ▸ (h.fit hfit).add a
  quiet hc₀ :=
    have ⟨h0, hc⟩ := h.quiet hc₀
    ⟨(n.started_add (hm.task.ne_start hc)).trans h0, hm.cancelled.trans hc⟩
  stopped h₀ := hm.task.clear_of_done (h.stopped h₀)

theorem other (h : Balanced t₀ sh₀ n t sh) (hc : sh.cancelled = true → sh'.cancelled = true)
    (hm : sh'.line.metrics.scheduleCounters = sh.line.metrics.scheduleCounters) :
    Balanced t₀ sh₀ n t sh' where
  asked := h.asked
  offered := h.offered
  counters := h.counters.of_counters hm
  fit hfit := (h.fit hfit).of_counters hm
  quiet hc₀ := ⟨(h.quiet hc₀).1, hc (h.quiet hc₀).2⟩
  stopped := h.stopped

/-- From counters at zero and no snapshot being offered, and while the fetched count is a word,
the counters themselves show no more snapshots settled in the queue than fetched. -/
theorem no_wrap (h : Balanced t₀ sh₀ n t sh)
    (h0 : sh₀.line.metrics.scheduleCounters = [0, 0, 0, 0, 0]) (hoff : t₀.offering = 0)
    (hlt : n.fetched < Nat.pow 2 64) :
    sh.line.metrics.snapshotsEnqueued + sh.line.metrics.snapshotEnqueueTimeouts ≤
      sh.line.metrics.snapshotsFetched := by
  simp only [Metrics.scheduleCounters, List.cons.injEq, and_true] at h0
  obtain ⟨hf0, hl0, hs0, ht0, he0⟩ := h0
  have hword : 0 < Nat.pow 2 64 := by decide
  have hfit : sh.line.metrics.CountersFit :=
    h.fit ⟨hf0 ▸ hword, hl0 ▸ hword, hs0 ▸ hword, ht0 ▸ hword, he0 ▸ hword⟩
  have hsettled := h.offered
  -- below the word size, a counter that follows a count from zero is that count
  have hfetched : sh.line.metrics.snapshotsFetched = n.fetched :=
    Nat.ModEq.eq_of_lt_of_lt (by simpa [hf0] using h.counters.fetched) hfit.fetched hlt
  have henqueued : sh.line.metrics.snapshotsEnqueued = n.enqueued :=
    Nat.ModEq.eq_of_lt_of_lt (by simpa [he0] using h.counters.enqueued) hfit.enqueued (by omega)
  have htimedOut : sh.line.metrics.snapshotEnqueueTimeouts = n.timedOut :=
    Nat.ModEq.eq_of_lt_of_lt (by simpa [ht0] using h.counters.timedOut) hfit.timedOut (by omega)
  omega

end ScheduleCount.Balanced

/-! ## Runs around the scheduler -/

namespace SnapshotTask

/-- A move around the scheduler: the scheduler moves, or the rest of the program changes the
state they share, never withdrawing shutdown and never touching the scheduler's counters. -/
inductive Turn : SnapshotTask × Shared → SnapshotTask × Shared → Prop where
  | own (t : SnapshotTask) (sh : Shared) : Turn (t, sh) (t.step sh)
  | other (t : SnapshotTask) (sh sh' : Shared) (hc : sh.cancelled = true → sh'.cancelled = true)
      (hm : sh'.line.metrics.scheduleCounters = sh.line.metrics.scheduleCounters) :
      Turn (t, sh) (t, sh')

/-- A run around the scheduler, with the count of the scheduler's moves by kind. -/
inductive CountedRun (s₀ : SnapshotTask × Shared) : ScheduleCount → SnapshotTask × Shared → Prop
  | refl : CountedRun s₀ {} s₀
  | own {n : ScheduleCount} {t : SnapshotTask} {sh : Shared} {a : ScheduleAct}
      {r : SnapshotTask × Shared} :
      CountedRun s₀ n (t, sh) → Moved t sh a r → CountedRun s₀ (n.add a) r
  | other {n : ScheduleCount} {t : SnapshotTask} {sh sh' : Shared} :
      CountedRun s₀ n (t, sh) → (sh.cancelled = true → sh'.cancelled = true) →
      sh'.line.metrics.scheduleCounters = sh.line.metrics.scheduleCounters →
      CountedRun s₀ n (t, sh')

/-- Every run around the scheduler can be counted, move by move. -/
theorem CountedRun.of_turns {s₀ s : SnapshotTask × Shared} (h : Relation.ReflTransGen Turn s₀ s) :
    ∃ n, CountedRun s₀ n s := by
  induction h with
  | refl => exact ⟨{}, .refl⟩
  | tail _ ht ih =>
    obtain ⟨n, hn⟩ := ih
    cases ht with
    | own t sh =>
      obtain ⟨a, ha⟩ := step_moved t sh
      exact ⟨n.add a, hn.own ha⟩
    | other t sh sh' hc hm => exact ⟨n, hn.other hc hm⟩

theorem CountedRun.balanced {s₀ s : SnapshotTask × Shared} {n : ScheduleCount}
    (h : CountedRun s₀ n s) : n.Balanced s₀.1 s₀.2 s.1 s.2 := by
  induction h with
  | refl => exact .rfl
  | own _ hm ih => exact ih.move hm
  | other _ hc hm ih => exact ih.other hc hm

end SnapshotTask

open SnapshotTask in
/-- What holds at every point `s` of a run around the scheduler from `s₀`, `n` counting the
scheduler's moves: the balances and the counters of `Balanced`; at most one fetch under way;
a tick coming now, with no fetch due, starts a fetch when none is under way and is counted as
skipped otherwise; and from counters at zero, before the fetched count wraps, the counters show
no more snapshots settled in the queue than fetched. -/
structure ScheduleLaw (s₀ : SnapshotTask × Shared) (n : ScheduleCount) (s : SnapshotTask × Shared) :
    Prop extends n.Balanced s₀.1 s₀.2 s.1 s.2 where
  oneFetch : s.1.asking + s.1.offering ≤ 1
  tick : ∀ k, s.1.stage = .ticking k → k ≤ s.2.now → s.2.cancelled = false →
    (∀ j, s.1.job = some j → s.2.now < j.wake s.2) →
    (s.1.step s.2).1.stage = .ticking (k + s.1.interval) ∧
    (s.1.job = none → (s.1.step s.2).1.asking = 1 ∧ (s.1.step s.2).2.line.metrics = s.2.line.metrics) ∧
    (s.1.job ≠ none → (s.1.step s.2).1.job = s.1.job ∧
      (s.1.step s.2).2.line.metrics = s.2.line.metrics.recordSnapshotSkipped)
  noWrap : s₀.2.line.metrics.scheduleCounters = [0, 0, 0, 0, 0] → s₀.1.offering = 0 →
    n.fetched < Nat.pow 2 64 →
    s.2.line.metrics.snapshotsEnqueued + s.2.line.metrics.snapshotEnqueueTimeouts ≤
      s.2.line.metrics.snapshotsFetched

open SnapshotTask in
/-- The snapshot scheduler's accounting, over every run around it: with any answers from the
exchange, any queue and any time of shutdown, the moves of the scheduler counted along the run
satisfy `ScheduleLaw`. -/
theorem snapshot_schedule_accounting {s₀ s : SnapshotTask × Shared}
    (hrun : Relation.ReflTransGen Turn s₀ s) : ∃ n, CountedRun s₀ n s ∧ ScheduleLaw s₀ n s := by
  obtain ⟨n, hn⟩ := CountedRun.of_turns hrun
  have hb := hn.balanced
  exact ⟨n, hn, { hb with
    oneFetch := asking_add_offering_le s.1
    tick := fun _ hs hk hc hwait => tick_step hs hk hc hwait
    noWrap := hb.no_wrap }⟩

open SnapshotTask in
/-- The first move of a scheduler still in its initial delay. -/
theorem snapshot_schedule_accounting_first_move :
    let t : SnapshotTask :=
      { fetcher := ⟨{ baseUrl := { scheme := "http" } }, .ofMillis 1000⟩, symbol := "BTCUSDT",
        depthLimit := 100, interval := 1000, enqueueTimeout := .ofMillis 500, producer := 0,
        stage := .delaying 0 }
    let sh : Shared := { line := { queue := Queue.bounded 1 }, stub := ⟨.unreachable, none⟩ }
    Relation.ReflTransGen Turn (t, sh) (t.step sh) ∧
      ∃ n, CountedRun (t, sh) n (t.step sh) ∧ ScheduleLaw (t, sh) n (t.step sh) := by
  intro t sh
  have hrun : Relation.ReflTransGen Turn (t, sh) (t.step sh) := .single (.own t sh)
  exact ⟨hrun, snapshot_schedule_accounting hrun⟩

end BookRelay.Scenario
