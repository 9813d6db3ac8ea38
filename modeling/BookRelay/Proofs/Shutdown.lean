import BookRelay.Proofs.Ledger
import BookRelay.Scenario.Runs

/-! # Shutdown loses no accepted event

A pipeline run is any interleaving of its tasks' moves: the supervisor, the stream client, the
forwarder, the snapshot scheduler with its fetches, the planned shutdown, the watch and the
exchange, each move taken whole, with the clock going forward in between. Whatever the order,
a run that the supervisor ends well has forwarded every event its queue accepted: the counters
of enqueued events add up to the counter of forwarded ones. And once the forwarder has made its
last check and ended drained, no event enters the queue any more.

The proof is an invariant of the run (`Lossless`): the counters balance against the queue and
the event the forwarder holds, unless the run is bound to fail; every producer holds a live
handle while it may still add an event; a drained forwarder saw an empty queue that no
producer can fill; and a forwarder the supervisor let go of has ended drained or with a failure
the supervisor saw. -/

namespace BookRelay.Scenario

open BookRelay.Pipeline BookRelay.Feed

/-! ## The invariant -/

namespace Supervisor

/-- The supervisor saw a failure, in the watch or in the wait: its result will be an error. -/
def Failed (s : Supervisor) : Prop := s.failure.isSome = true ∨ s.stopFault.isSome = true

/-- What the supervisor's stage tells: once it waits for a later component than the forwarder
it holds the forwarder no more, and a run that finished well forwarded every event it
enqueued. -/
def Staged (s : Supervisor) : Prop :=
  match s.stage with
  | .watching => True
  | .joining c _ => c = .forwarder ∨ s.forwarderHeld = false
  | .finished r _ => s.forwarderHeld = false ∧ ∀ summary, r = .ok summary →
      summary.metrics.incrementalsEnqueued + summary.metrics.snapshotsEnqueued =
        summary.metrics.eventsForwarded

/-- What the supervisor does on a stopped scheduler: it lets it go, and records its panic, if
any, as a fault of the wait. -/
theorem snapshotStopped_facts (s : Supervisor) (p : Option String) :
    (s.snapshotStopped p).forwarderHeld = s.forwarderHeld ∧ (s.snapshotStopped p).failure = s.failure ∧
      (∀ e, s.stopFault = some e → (s.snapshotStopped p).stopFault = some e) ∧
      (s.snapshotStopped p).settings = s.settings ∧ (s.snapshotStopped p).restarts = s.restarts := by
  cases p <;> simp +contextual [snapshotStopped, fault]

/-- What the supervisor does on a scheduler that ended during the watch: it lets it go, and
records its panic, if any, as the failure. -/
theorem snapshotEnded_facts (s : Supervisor) (p : Option String) :
    (s.snapshotEnded p).stage = s.stage ∧
      (s.failure.isSome = true → (s.snapshotEnded p).failure.isSome = true) ∧
      (s.snapshotEnded p).stopFault = s.stopFault ∧ (s.snapshotEnded p).forwarderHeld = s.forwarderHeld ∧
      (s.snapshotEnded p).settings = s.settings ∧ (s.snapshotEnded p).restarts = s.restarts := by
  cases p <;> simp [snapshotEnded]

end Supervisor

/-- The run is bound to end in an error: the supervisor saw a failure, or the sink panicked. -/
def Doomed (s : Supervisor) (f : ForwardTask) : Prop :=
  s.Failed ∨ ∃ m, f.result? = some (.panicked m)

/-- How a forwarder that the supervisor let go of ended: drained, or otherwise, with a failure
the supervisor saw. -/
def Released (s : Supervisor) (f : ForwardTask) : Prop :=
  (∃ n, f.result? = some (.drained n)) ∨ (f.result?.isSome = true ∧ s.Failed)

/-- The accounting invariant of a pipeline run, over its supervisor, forwarder, stream client,
snapshot scheduler and ledger. -/
structure Lossless (s : Supervisor) (f : ForwardTask) (t : StreamTask) (st : SnapshotTask)
    (l : Ledger) : Prop where
  streamHandle : t.producer = 1
  stream : t.Sound l
  snapshotHandle : st.producer = 0
  snapshot : st.Sound 2 l
  closed : l.queue.consumerAlive = false → l.queue.items = []
  drained : ∀ n, f.result? = some (.drained n) → l.queue.items = [] ∧ l.Quiet
  balanced : Doomed s f ∨ l.Balanced f.holding
  bounded : l.Bounded
  released : s.forwarderHeld = false → l.queue.consumerAlive = false ∧ Released s f
  aborted : f.result? = some .aborted → s.stopFault.isSome = true
  staged : s.Staged

/-! ## The ledger at the end of a run -/

namespace Ledger

/-- The consumer goes away: the queue closes and its events are dropped. -/
def close (l : Ledger) : Ledger := { l with queue := l.queue.dropConsumer.unslotted }

@[simp] theorem close_queue (l : Ledger) : l.close.queue = l.queue.dropConsumer.unslotted := rfl
@[simp] theorem close_enqueued (l : Ledger) : l.close.enqueued = l.enqueued := rfl
@[simp] theorem close_forwarded (l : Ledger) : l.close.forwarded = l.forwarded := rfl

/-- With nothing queued or held, balanced word-sized counters are equal. -/
theorem enqueued_eq_forwarded {l : Ledger} (hb : l.Balanced []) (hi : l.queue.items = [])
    (hbd : l.Bounded) (k : Kind) : l.enqueued k = l.forwarded k := by
  have hk := hb k
  rw [hi] at hk
  simp only [kindCount_nil, Nat.add_zero] at hk
  exact hk.eq_of_lt_of_lt (hbd k).1 (hbd k).2

end Ledger

@[simp] theorem Shared.dropConsumer_ledger (sh : Shared) :
    (sh.withQueue Feed.Queue.dropConsumer).ledger = sh.ledger.close := rfl

@[simp] theorem Shared.cancelled_ledger (sh : Shared) (c : Bool) :
    { sh with cancelled := c }.ledger = { sh.ledger with cancelled := c } := rfl

namespace ForwardTask

variable {f : ForwardTask}

theorem step_of_result {r : ForwardEnd} (hr : f.result? = some r) (sh : Shared) :
    f.step sh = (f, sh) := by
  unfold result? at hr
  unfold step
  split <;> simp_all

theorem holding_of_drained {n : Nat} (hr : f.result? = some (.drained n)) : f.holding = [] := by
  unfold result? at hr
  unfold holding
  split at hr <;> simp_all

theorem holding_of_failed {err : SinkError} {e : Event} (hr : f.result? = some (.failed err e)) :
    f.holding = [e] := by
  unfold result? at hr
  unfold holding
  split at hr <;> simp_all

@[simp] theorem retransmitFirst_holding (e : Event) : (f.retransmitFirst e).holding = [e] := rfl

@[simp] theorem retransmitFirst_result (e : Event) : (f.retransmitFirst e).result? = none := rfl

end ForwardTask

/-! ## What each kind of move keeps -/

namespace Lossless

variable {s s' : Supervisor} {f : ForwardTask} {t : StreamTask} {st : SnapshotTask} {l : Ledger}

/-- A producer's move keeps the invariant, given the producers' own holds after it. -/
theorem produce {own : Nat → Prop} {l' : Ledger} {t' : StreamTask} {st' : SnapshotTask}
    (h : Lossless s f t st l) (hp : Produces own l l') (ht : t'.producer = 1) (hts : t'.Sound l')
    (hst : st'.producer = 0) (hsts : st'.Sound 2 l') : Lossless s f t' st' l' where
  streamHandle := ht
  stream := hts
  snapshotHandle := hst
  snapshot := hsts
  closed hc := by
    rw [hp.consumerAlive] at hc
    rw [hp.items_of_closed hc]
    exact h.closed hc
  drained n hn := by
    obtain ⟨hi, hq⟩ := h.drained n hn
    obtain ⟨hq', hi', _⟩ := hp.quiet hq
    exact ⟨hi'.trans hi, hq'⟩
  balanced := h.balanced.imp id hp.balanced
  bounded := hp.bounded h.bounded
  released hs := by
    obtain ⟨hc, hr⟩ := h.released hs
    exact ⟨hp.consumerAlive.trans hc, hr⟩
  aborted := h.aborted
  staged := h.staged

theorem stream_step {sh : Shared} (h : Lossless s f t st sh.ledger) :
    Lossless s f (t.step sh).1 st (t.step sh).2.ledger := by
  obtain ⟨hs, hp, hprod⟩ := StreamTask.step_keeps h.stream
  refine h.produce hprod (hp.trans h.streamHandle) hs h.snapshotHandle
    (h.snapshot.produces hprod fun i hi => ?_)
  -- the stream client holds handle 1 only
  subst hi
  rw [h.streamHandle, h.snapshotHandle]
  decide

theorem snapshot_step {sh : Shared} (h : Lossless s f t st sh.ledger) :
    Lossless s f t (st.step sh).1 (st.step sh).2.ledger := by
  obtain ⟨hs, hp, hprod⟩ := SnapshotTask.step_keeps h.snapshot
  refine h.produce hprod h.streamHandle (h.stream.produces hprod ?_) (hp.trans h.snapshotHandle) hs
  -- the scheduler holds handle 0 and its fetch's, numbered from 2 on
  rintro (hi | ⟨j, hj, hi⟩)
  · rw [h.streamHandle, h.snapshotHandle] at hi
    exact absurd hi (by decide)
  · have hlow := (h.snapshot.job j hj).1
    have h1 := h.streamHandle
    omega

/-- After the forwarder ended drained, the stream client enqueues nothing more. -/
theorem stream_quiet {sh : Shared} {n : Nat} (h : Lossless s f t st sh.ledger)
    (hn : f.result? = some (.drained n)) : (t.step sh).2.ledger.enqueued = sh.ledger.enqueued :=
  ((StreamTask.step_keeps h.stream).2.2.quiet (h.drained n hn).2).2.2

/-- After the forwarder ended drained, the scheduler enqueues nothing more. -/
theorem snapshot_quiet {sh : Shared} {n : Nat} (h : Lossless s f t st sh.ledger)
    (hn : f.result? = some (.drained n)) : (st.step sh).2.ledger.enqueued = sh.ledger.enqueued :=
  ((SnapshotTask.step_keeps h.snapshot).2.2.quiet (h.drained n hn).2).2.2

theorem forward_step {sh : Shared} (h : Lossless s f t st sh.ledger) :
    Lossless s (f.step sh).1 t st (f.step sh).2.ledger := by
  cases hr : f.result? with
  | some r =>
    rw [ForwardTask.step_of_result hr]
    exact h
  | none =>
    have he : ForwardEffect f.holding f.result? sh.ledger (f.step sh) := ForwardTask.step_effect
    rw [hr] at he
    refine ⟨h.streamHandle, h.stream.of_producers he.producers, h.snapshotHandle,
      h.snapshot.of_producers he.producers, fun hc => ?_, fun n hn => ?_, ?_, he.bounded h.bounded,
      fun hs => ?_, fun ha => (nomatch he.aborted ha), h.staged⟩
    · rw [he.alive] at hc
      exact List.eq_nil_of_suffix_nil (h.closed hc ▸ he.taken)
    · rcases he.drained n hn with hw | hw
      · cases hw
      · exact hw
    · rcases h.balanced with hd | hb
      · rcases hd with hd | ⟨m, hm⟩
        · exact .inl (.inl hd)
        · rw [hr] at hm
          cases hm
      · exact (he.balanced hb).elim .inr (.inl ∘ .inr)
    · obtain ⟨_, hrel | ⟨hsome, _⟩⟩ := h.released hs
      · obtain ⟨n, hn⟩ := hrel
        rw [hr] at hn
        cases hn
      · rw [hr] at hsome
        cases hsome

/-- Shutdown asked (or asked again) keeps the invariant. -/
theorem cancel {c : Bool} (h : Lossless s f t st l) (hc : l.cancelled = true → c = true) :
    Lossless s f t st { l with cancelled := c } where
  streamHandle := h.streamHandle
  stream := h.stream
  snapshotHandle := h.snapshotHandle
  snapshot := h.snapshot.of_producers rfl
  closed := h.closed
  drained n hn := by
    obtain ⟨hi, hq⟩ := h.drained n hn
    refine ⟨hi, ?_⟩
    rcases hq with hq | hq
    · exact .inl (hc hq)
    · exact .inr hq
  balanced := h.balanced
  bounded := h.bounded
  released := h.released
  aborted := h.aborted
  staged := h.staged

theorem failed_of (hfailure : s.failure.isSome = true → s'.failure.isSome = true)
    (hstop : s.stopFault.isSome = true → s'.stopFault.isSome = true) (hs : s.Failed) : s'.Failed :=
  hs.imp hfailure hstop

/-- A change of the supervisor that forgets no failure and keeps its hold on the forwarder keeps
the invariant, if its stage tells the truth. -/
theorem supervise (h : Lossless s f t st l) (hfailure : s.failure.isSome = true → s'.failure.isSome = true)
    (hstop : s.stopFault.isSome = true → s'.stopFault.isSome = true)
    (hheld : s'.forwarderHeld = s.forwarderHeld) (hst : s'.Staged) : Lossless s' f t st l where
  streamHandle := h.streamHandle
  stream := h.stream
  snapshotHandle := h.snapshotHandle
  snapshot := h.snapshot
  closed := h.closed
  drained := h.drained
  balanced := h.balanced.imp_left (Or.imp_left (failed_of hfailure hstop))
  bounded := h.bounded
  released hs := by
    obtain ⟨hc, hr⟩ := h.released (hheld ▸ hs)
    exact ⟨hc, hr.imp_right (And.imp_right (failed_of hfailure hstop))⟩
  aborted ha := hstop (h.aborted ha)
  staged := hst

/-- The supervisor lets the forwarder go and closes the queue, with the forwarder drained or a
failure seen. -/
theorem letGo (h : Lossless s f t st l) (hfailure : s.failure.isSome = true → s'.failure.isSome = true)
    (hstop : s.stopFault.isSome = true → s'.stopFault.isSome = true)
    (hst : s'.Staged) (hr : Released s' f) : Lossless s' f t st l.close where
  streamHandle := h.streamHandle
  stream := h.stream.of_producers rfl
  snapshotHandle := h.snapshotHandle
  snapshot := h.snapshot.of_producers rfl
  closed _ := rfl
  drained n hn := by
    obtain ⟨_, hq⟩ := h.drained n hn
    exact ⟨rfl, hq⟩
  balanced := by
    rcases hr with ⟨n, hn⟩ | ⟨_, hF⟩
    · -- a drained forwarder holds nothing and left the queue empty
      obtain ⟨hi, _⟩ := h.drained n hn
      rcases h.balanced with hd | hb
      · exact .inl (hd.imp_left (failed_of hfailure hstop))
      · refine .inr fun k => ?_
        have := hb k
        rw [hi] at this
        simpa [Feed.Queue.dropConsumer] using this
    · exact .inl (.inl hF)
  bounded := h.bounded
  released _ := ⟨rfl, hr⟩
  aborted ha := hstop (h.aborted ha)
  staged := hst

/-- A run that the supervisor ends well, with the forwarder let go of, forwarded every event
its queue accepted. -/
theorem result_ok {sh : Shared} (h : Lossless s f t st sh.ledger) (hheld : s.forwarderHeld = false)
    {summary : RunSummary} (hok : s.result sh.line.metrics = .ok summary) :
    summary.metrics.incrementalsEnqueued + summary.metrics.snapshotsEnqueued =
      summary.metrics.eventsForwarded := by
  unfold Supervisor.result at hok
  split at hok
  · cases hok
  · cases hok
  · rename_i hfail hstop
    cases hok
    have hnf : ¬ s.Failed := by simp [Supervisor.Failed, hfail, hstop]
    obtain ⟨hc, hrel⟩ := h.released hheld
    obtain ⟨n, hn⟩ := hrel.resolve_right fun hr => hnf hr.2
    have hb : sh.ledger.Balanced [] := by
      rcases h.balanced with hd | hb
      · rcases hd with hd | ⟨m, hm⟩
        · exact absurd hd hnf
        · rw [hn] at hm
          cases hm
      · rwa [ForwardTask.holding_of_drained hn] at hb
    have heq := Ledger.enqueued_eq_forwarded hb (h.closed hc) h.bounded
    have hi := heq .incremental
    have hs := heq .snapshot
    simp only [Ledger.enqueued, Ledger.forwarded, Shared.ledger] at hi hs
    simp only [Metrics.eventsForwarded]
    omega

/-- A forwarder that gave up on an event is started again with that event first. -/
theorem restart {err : SinkError} {e : Event} (h : Lossless s f t st l)
    (hr : f.result? = some (.failed err e)) (hheld : s.forwarderHeld = true) :
    Lossless s (f.retransmitFirst e) t st l where
  streamHandle := h.streamHandle
  stream := h.stream
  snapshotHandle := h.snapshotHandle
  snapshot := h.snapshot
  closed := h.closed
  drained n hn := by simp at hn
  balanced := by
    rcases h.balanced with (hd | ⟨m, hm⟩) | hb
    · exact .inl (.inl hd)
    · rw [hr] at hm
      cases hm
    · rw [ForwardTask.holding_of_failed hr] at hb
      exact .inr hb
  bounded := h.bounded
  released hs := absurd (hheld.symm.trans hs) (by decide)
  aborted ha := by simp at ha
  staged := h.staged

/-- The wait for a forwarder that overran the shutdown grace aborts it, keeps the fault and
closes the queue. -/
theorem abort (h : Lossless s f t st l) (hstop : s'.stopFault.isSome = true) (hst : s'.Staged) :
    Lossless s' (f.stop .aborted) t st l.close where
  streamHandle := h.streamHandle
  stream := h.stream.of_producers rfl
  snapshotHandle := h.snapshotHandle
  snapshot := h.snapshot.of_producers rfl
  closed _ := rfl
  drained n hn := by simp at hn
  balanced := .inl (.inl (.inr hstop))
  bounded := h.bounded
  released _ := ⟨rfl, .inr ⟨rfl, .inr hstop⟩⟩
  aborted _ := hstop
  staged := hst

end Lossless

/-! ## Runs -/

namespace World

/-- One move of a run under cooperative scheduling: any task takes its next step, whether it is
due or not, or the clock goes forward. -/
inductive Moves : World → World → Prop
  | move (w : World) (m : Mover) : Moves w (w.move m)
  | tick (w : World) (t : Nat) : w.now ≤ t → Moves w { w with shared := { w.shared with now := t } }

/-- Moves made in turn, in the order of a list, form a run. -/
theorem reaches_foldl_move (w : World) (ms : List Mover) :
    Relation.ReflTransGen Moves w (ms.foldl World.move w) := by
  induction ms generalizing w with
  | nil => exact .refl
  | cons m ms ih => exact .head (.move w m) (ih (w.move m))

/-- The world holds the pipeline's forwarder, stream client and scheduler and no probe, and the
invariant holds of them under supervisor `s`. -/
def Holds (w : World) (s : Supervisor) : Prop :=
  w.probe = none ∧ ∃ f t st, w.forwarder = some f ∧ w.stream = some t ∧ w.snapshot = some st ∧
    Lossless s f t st w.shared.ledger

def Accounted (w : World) : Prop := ∃ s, w.supervisor = some s ∧ w.Holds s

/-- From `w` to `w'`, a forwarder that had ended drained stays so, and no event was enqueued. -/
def Steady (w w' : World) : Prop :=
  ∀ n, w.forwarderEnd? = some (.drained n) →
    w'.forwarderEnd? = some (.drained n) ∧ w'.shared.ledger.enqueued = w.shared.ledger.enqueued

theorem Steady.refl (w : World) : Steady w w := fun _ h => ⟨h, rfl⟩

theorem Steady.trans {w w' w'' : World} (h : Steady w w') (h' : Steady w' w'') : Steady w w'' :=
  fun n hn => ⟨(h' n (h n hn).1).1, (h' n (h n hn).1).2.trans (h n hn).2⟩

/-- A move that leaves the forwarder and the counters of enqueued events alone is steady. -/
theorem Steady.of_eq {w w' : World} (hf : w'.forwarder = w.forwarder)
    (he : w'.shared.ledger.enqueued = w.shared.ledger.enqueued) : Steady w w' :=
  fun _ hn => ⟨by rw [forwarderEnd?, hf]; exact hn, he⟩

section Supervise

variable {w : World} {s : Supervisor}

theorem forwarderEnd_eq {f : ForwardTask} (hf : w.forwarder = some f) : w.forwarderEnd? = f.result? := by
  simp [forwarderEnd?, hf]

/-- Shutdown is asked and the supervisor starts its wait with the forwarder. -/
theorem Holds.beginJoin (h : w.Holds s) : (w.beginJoin s).Accounted ∧ w.Steady (w.beginJoin s) := by
  obtain ⟨hp, f, t, st, hf, ht, hst, hl⟩ := h
  refine ⟨⟨_, rfl, hp, f, t, st, hf, ht, hst, ?_⟩, .of_eq rfl rfl⟩
  exact (hl.cancel (c := true) fun _ => rfl).supervise id id rfl (.inl rfl)

/-- The supervisor's look at the ended tasks during the watch keeps the invariant. -/
theorem Holds.seenEnd (h : w.Holds s) (hw : s.stage = .watching) :
    (w.seenEnd s).1.Holds (w.seenEnd s).2 ∧ (w.seenEnd s).2.stage = .watching ∧
      w.Steady (w.seenEnd s).1 := by
  obtain ⟨hp, f, t, st, hf, ht, hst, hl⟩ := h
  have hstaged : ∀ s' : Supervisor, s'.stage = .watching → s'.Staged := by
    intro s' hs'
    simp [Supervisor.Staged, hs']
  unfold World.seenEnd
  split
  · rename_i r hend
    have hheld : s.forwarderHeld = true := by
      by_contra hn
      simp [hn] at hend
    have hr : f.result? = some r := by
      simpa [hheld, forwarderEnd_eq hf] using hend
    cases r with
    | drained n =>
      refine ⟨⟨hp, f, t, st, hf, ht, hst, ?_⟩, hw, .of_eq rfl rfl⟩
      exact hl.letGo id id (hstaged _ hw) (.inl ⟨n, hr⟩)
    | failed err e =>
      by_cases hlt : s.restarts < s.settings.maxForwarderRestarts
      · simp only [Supervisor.forwarderEnded, hlt, if_true]
        refine ⟨⟨hp, f.retransmitFirst e, t, st, by simp [hf], ht, hst, ?_⟩, hw, fun n hn => ?_⟩
        · exact (hl.restart hr hheld).supervise id id rfl (hstaged _ hw)
        · rw [forwarderEnd_eq hf, hr] at hn
          cases hn
      · simp only [Supervisor.forwarderEnded, hlt, if_false]
        refine ⟨⟨hp, f, t, st, hf, ht, hst, ?_⟩, hw, .of_eq rfl rfl⟩
        exact hl.letGo (fun _ => rfl) id (hstaged _ hw) (.inr ⟨by simp [hr], .inl rfl⟩)
    | panicked m =>
      refine ⟨⟨hp, f, t, st, hf, ht, hst, ?_⟩, hw, .of_eq rfl rfl⟩
      exact hl.letGo (fun _ => rfl) id (hstaged _ hw) (.inr ⟨by simp [hr], .inl rfl⟩)
    | aborted =>
      refine ⟨⟨hp, f, t, st, hf, ht, hst, ?_⟩, hw, .of_eq rfl rfl⟩
      exact hl.letGo id id (hstaged _ hw) (.inr ⟨by simp [hr], .inr (hl.aborted hr)⟩)
  · -- the stream client's end only records its failure, if any
    have hse : ∀ r, (s.streamEnded r).stage = .watching ∧
        (s.failure.isSome = true → (s.streamEnded r).failure.isSome = true) ∧
        (s.streamEnded r).stopFault = s.stopFault ∧ (s.streamEnded r).forwarderHeld = s.forwarderHeld := by
      intro r
      cases r <;> simp [Supervisor.streamEnded, hw]
    split
    · refine ⟨⟨hp, f, t, st, hf, ht, hst, ?_⟩, (hse _).1, .of_eq rfl rfl⟩
      exact hl.supervise (hse _).2.1 (fun h => (hse _).2.2.1 ▸ h) (hse _).2.2.2 (hstaged _ (hse _).1)
    · split
      · -- the scheduler's end only records its panic, if any
        obtain ⟨hstage, hfailure, hstop, hheld, -⟩ := s.snapshotEnded_facts w.snapshotPanic
        exact ⟨⟨hp, f, t, st, hf, ht, hst, hl.supervise hfailure (fun h => hstop ▸ h) hheld
          (hstaged _ (hstage.trans hw))⟩, hstage.trans hw, .of_eq rfl rfl⟩
      · exact ⟨⟨hp, f, t, st, hf, ht, hst, hl⟩, hw, .of_eq rfl rfl⟩

/-- A move of the supervisor while watching keeps the invariant. -/
theorem Holds.watchTasks (h : w.Holds s) (hw : s.stage = .watching) :
    (w.watchTasks s).Accounted ∧ w.Steady (w.watchTasks s) := by
  unfold World.watchTasks
  split
  · exact h.beginJoin
  · obtain ⟨h', hw', hsteady⟩ := h.seenEnd hw
    dsimp only
    split
    · obtain ⟨ha, hsteady'⟩ := h'.beginJoin
      exact ⟨ha, hsteady.trans hsteady'⟩
    · exact ⟨⟨_, rfl, h'⟩, hsteady.trans (.of_eq rfl rfl)⟩

/-- A change of the supervisor alone that forgets no failure and keeps its hold on the
forwarder keeps the invariant, if its stage tells the truth. -/
theorem Holds.mono {s' : Supervisor} (h : w.Holds s)
    (hfailure : s.failure.isSome = true → s'.failure.isSome = true)
    (hstop : s.stopFault.isSome = true → s'.stopFault.isSome = true)
    (hheld : s'.forwarderHeld = s.forwarderHeld) (hst : s'.Staged) : w.Holds s' := by
  obtain ⟨hp, f, t, st, hf, ht, hst', hl⟩ := h
  exact ⟨hp, f, t, st, hf, ht, hst', hl.supervise hfailure hstop hheld hst⟩

theorem Holds.resupervise {s' : Supervisor} (h : w.Holds s)
    (hfailure : s.failure.isSome = true → s'.failure.isSome = true)
    (hstop : s.stopFault.isSome = true → s'.stopFault.isSome = true)
    (hheld : s'.forwarderHeld = s.forwarderHeld) (hst : s'.Staged) :
    { w with supervisor := some s' }.Accounted ∧ w.Steady { w with supervisor := some s' } :=
  ⟨⟨s', rfl, h.mono hfailure hstop hheld hst⟩, .of_eq rfl rfl⟩

/-- The supervisor finishes, the forwarder let go of: its result is computed from the counters
as they stand. -/
theorem Holds.finish (h : w.Holds s) (hheld : s.forwarderHeld = false) (endedAt : Nat) :
    let s' := { s with stage := .finished (s.result w.shared.line.metrics) endedAt }
    { w with supervisor := some s' }.Accounted ∧ w.Steady { w with supervisor := some s' } := by
  obtain ⟨hp, f, t, st, hf, ht, hst', hl⟩ := h
  refine ⟨⟨_, rfl, hp, f, t, st, hf, ht, hst', hl.supervise id id rfl ⟨hheld, ?_⟩⟩, .of_eq rfl rfl⟩
  intro summary hok
  exact hl.result_ok hheld hok

/-- What the supervisor does on a stopped forwarder: it lets it go, and records its failure as
a fault of the wait. -/
theorem forwarderStopped_facts (s : Supervisor) (r : ForwardEnd) :
    (s.forwarderStopped r).forwarderHeld = false ∧ (s.forwarderStopped r).failure = s.failure ∧
      (s.stopFault.isSome = true → (s.forwarderStopped r).stopFault.isSome = true) ∧
      (s.forwarderStopped r).stage = s.stage ∧
      ((∃ err e, r = .failed err e) ∨ (∃ m, r = .panicked m) →
        (s.forwarderStopped r).stopFault.isSome = true) := by
  cases r <;> simp [Supervisor.forwarderStopped, Supervisor.fault]

theorem fault_stopFault (s : Supervisor) (e : PipelineError) : (s.fault e).stopFault.isSome = true := by
  simp [Supervisor.fault]

/-- A move of the supervisor while it waits for the forwarder keeps the invariant. -/
theorem Holds.joinForwarder (h : w.Holds s) (d : Nat) :
    (w.joinTask s .forwarder d).Accounted ∧ w.Steady (w.joinTask s .forwarder d) := by
  have hh := h
  obtain ⟨hp, f, t, st, hf, ht, hst, hl⟩ := hh
  have hstaged : ∀ s' : Supervisor, s'.forwarderHeld = false →
      ({ s' with stage := .joining .stream d } : Supervisor).Staged := by
    intro s' hs'
    simp [Supervisor.Staged, hs']
  unfold World.joinTask
  dsimp only
  by_cases hheld : s.forwarderHeld = true
  · simp only [hheld, if_true, forwarderEnd_eq hf]
    cases hr : f.result? with
    | some r =>
      -- the forwarder has stopped: it is let go of and the queue closed
      dsimp only
      obtain ⟨hheld', hfailure, hstop, -, hfault⟩ := forwarderStopped_facts s r
      refine ⟨⟨_, rfl, hp, f, t, st, hf, ht, hst, ?_⟩, .of_eq rfl rfl⟩
      refine hl.letGo (fun h => hfailure ▸ h) hstop (hstaged _ hheld') ?_
      cases r with
      | drained n => exact .inl ⟨n, hr⟩
      | failed err e => exact .inr ⟨by simp [hr], .inr (hfault (.inl ⟨err, e, rfl⟩))⟩
      | panicked m => exact .inr ⟨by simp [hr], .inr (hfault (.inr ⟨m, rfl⟩))⟩
      | aborted => exact .inr ⟨by simp [hr], .inr (hstop (hl.aborted hr))⟩
    | none =>
      by_cases hlate : d ≤ w.now
      · -- past the grace the forwarder is aborted
        simp only [hlate, if_true]
        refine ⟨⟨_, rfl, hp, f.stop .aborted, t, st, by simp [hf], ht, hst, ?_⟩, fun n hn => ?_⟩
        · exact hl.abort (fault_stopFault _ _) (by simp [Supervisor.Staged])
        · rw [forwarderEnd_eq hf, hr] at hn
          cases hn
      · simp only [hlate, if_false]
        exact ⟨⟨s, rfl, h⟩, .of_eq rfl rfl⟩
  · simp only [hheld]
    have hfalse : s.forwarderHeld = false := by simpa using hheld
    obtain ⟨hheld', hfailure, hstop, -, -⟩ := forwarderStopped_facts s .aborted
    exact h.resupervise (fun h => hfailure ▸ h) hstop (hheld'.trans hfalse.symm) (hstaged _ hheld')

/-- A move of the supervisor while it waits for the stream client keeps the invariant. -/
theorem Holds.joinStream (h : w.Holds s) (hfalse : s.forwarderHeld = false) (d : Nat) :
    (w.joinTask s .stream d).Accounted ∧ w.Steady (w.joinTask s .stream d) := by
  have hnext : ∀ s' : Supervisor, s'.forwarderHeld = s.forwarderHeld →
      (s.failure.isSome = true → s'.failure.isSome = true) →
      (s.stopFault.isSome = true → s'.stopFault.isSome = true) →
      { w with supervisor := some { s' with stage := .joining .snapshot d } }.Accounted ∧
        w.Steady { w with supervisor := some { s' with stage := .joining .snapshot d } } :=
    fun s' hheld hfailure hstop =>
      h.resupervise hfailure hstop hheld (by simp [Supervisor.Staged, hheld, hfalse])
  obtain ⟨-, f, t, st, -, ht, -, hl⟩ := id h
  unfold World.joinTask
  dsimp only
  -- only the client's stage and the grace decide; the world changes in its supervisor alone
  rcases w with ⟨sh, stream, fw, sn, sup, pr, sa, wa⟩
  obtain rfl : stream = some t := ht
  by_cases hs : s.streamHeld = true
  · cases hstage : t.stage
    case stopped r endedAt =>
      -- the client has ended: it is let go of, with its failure as a fault of the wait
      cases r with
      | ok u =>
        cases u
        simp only [hs, hstage, Bool.not_true, Bool.false_eq_true, if_false]
        exact hnext { s with streamHeld := false } rfl id id
      | error err =>
        simp only [hs, hstage, Bool.not_true, Bool.false_eq_true, if_false]
        exact hnext ({ s with streamHeld := false }.fault (.stream err)) rfl id
          fun _ => fault_stopFault _ _
    all_goals
      by_cases hlate : d ≤ World.now ⟨sh, some t, fw, sn, sup, pr, sa, wa⟩
      · simp only [hs, hstage, hlate, Bool.not_true, Bool.false_eq_true, if_false, if_true]
        exact hnext { s.fault (.shutdownTimedOut .stream s.settings.shutdownGrace) with
          streamHeld := false } rfl id fun _ => fault_stopFault _ _
      · simp only [hs, hstage, hlate, Bool.not_true, Bool.false_eq_true, if_false]
        exact h.resupervise id id rfl hl.staged
  · rw [if_pos (show (!s.streamHeld) = true by simpa using hs)]
    exact hnext s rfl id id

/-- A move of the supervisor while it waits for the scheduler keeps the invariant; when the
wait ends, the supervisor finishes. -/
theorem Holds.joinSnapshot (h : w.Holds s) (hfalse : s.forwarderHeld = false) (d : Nat) :
    (w.joinTask s .snapshot d).Accounted ∧ w.Steady (w.joinTask s .snapshot d) := by
  have hjoined : ∀ s' : Supervisor, s'.forwarderHeld = false →
      ({ s' with stage := .joining .snapshot d } : Supervisor).Staged := by
    intro s' hs'
    simp [Supervisor.Staged, hs']
  unfold World.joinTask
  dsimp only
  by_cases hheld : s.snapshotHeld = true
  · rw [if_neg (by simpa using hheld)]
    by_cases hdone : w.snapshotDone = true
    · -- the scheduler has ended: it is let go of, with its panic as a fault of the wait
      rw [if_pos hdone]
      obtain ⟨hheld', hfailure, hstop, -, -⟩ := s.snapshotStopped_facts w.snapshotPanic
      have hm : w.Holds { s.snapshotStopped w.snapshotPanic with stage := .joining .snapshot d } :=
        h.mono (fun h => hfailure ▸ h) (fun h => by
            obtain ⟨e, he⟩ := Option.isSome_iff_exists.1 h
            simp [hstop e he]) hheld' (hjoined _ (hheld'.trans hfalse))
      exact hm.finish (hheld'.trans hfalse) _
    · rw [if_neg hdone]
      by_cases hlate : d ≤ w.now
      · rw [if_pos hlate]
        have hm : w.Holds { s.fault (.shutdownTimedOut .snapshot s.settings.shutdownGrace) with
            snapshotHeld := false, stage := .joining .snapshot d } :=
          h.mono id (fun _ => fault_stopFault _ _) rfl (hjoined { s.fault (.shutdownTimedOut .snapshot
            s.settings.shutdownGrace) with snapshotHeld := false } hfalse)
        exact hm.finish hfalse _
      · rw [if_neg hlate]
        exact ⟨⟨s, rfl, h⟩, .of_eq rfl rfl⟩
  · rw [if_pos (by simpa using hheld)]
    exact h.finish hfalse _

end Supervise

variable {w w' : World}

/-- A move of the supervisor keeps the invariant. -/
theorem Accounted.supervise (h : w.Accounted) : w.supervise.Accounted ∧ w.Steady w.supervise := by
  obtain ⟨s, hs, hh⟩ := h
  have hstaged : s.Staged := by
    obtain ⟨_, _, _, _, _, _, _, hl⟩ := hh
    exact hl.staged
  unfold World.supervise
  rw [hs]
  dsimp only
  rcases hstage : s.stage with _ | ⟨c, d⟩ | ⟨r, e⟩ <;> simp only
  case watching => exact hh.watchTasks hstage
  case joining =>
    have hheld : c = .forwarder ∨ s.forwarderHeld = false := by
      simpa [Supervisor.Staged, hstage] using hstaged
    cases c with
    | forwarder => exact hh.joinForwarder d
    | stream => exact hh.joinStream (hheld.resolve_left (by decide)) d
    | snapshot => exact hh.joinSnapshot (hheld.resolve_left (by decide)) d
  case finished => exact ⟨⟨s, hs, hh⟩, .refl _⟩

/-- The watch plans the shutdown and changes nothing else. -/
theorem move_watch (w : World) : ∃ wa sa, w.move .watch = { w with watch := wa, shutdownAt := sa } := by
  dsimp only [World.move]
  unfold World.watchStep
  split
  · exact ⟨_, _, rfl⟩
  · split
    · exact ⟨_, _, rfl⟩
    · exact ⟨_, _, rfl⟩

/-- Any move of any task keeps the invariant. -/
theorem Accounted.move (h : w.Accounted) (m : Mover) : (w.move m).Accounted ∧ w.Steady (w.move m) := by
  obtain ⟨s, hs, hp, f, t, st, hf, ht, hst, hl⟩ := id h
  have hdrained : ∀ {n}, w.forwarderEnd? = some (.drained n) → f.result? = some (.drained n) :=
    fun hn => (forwarderEnd_eq hf).symm.trans hn
  cases m with
  | supervisor => exact h.supervise
  | watch =>
    obtain ⟨wa, sa, heq⟩ := w.move_watch
    rw [heq]
    exact ⟨⟨s, hs, hp, f, t, st, hf, ht, hst, hl⟩, .of_eq rfl rfl⟩
  | stream =>
    rcases hstep : t.step w.shared with ⟨t', sh'⟩
    have hl' := hl.stream_step
    rw [hstep] at hl'
    simp only [World.move, ht, hstep]
    refine ⟨⟨s, hs, hp, f, t', st, hf, rfl, hst, hl'⟩, fun n hn => ⟨hn, ?_⟩⟩
    have := hl.stream_quiet (hdrained hn)
    rwa [hstep] at this
  | forwarder =>
    rcases hstep : f.step w.shared with ⟨f', sh'⟩
    have hl' := hl.forward_step
    rw [hstep] at hl'
    simp only [World.move, hf, hstep]
    refine ⟨⟨s, hs, hp, f', t, st, rfl, ht, hst, hl'⟩, fun n hn => ?_⟩
    -- a forwarder that ended does nothing more
    rw [ForwardTask.step_of_result (hdrained hn)] at hstep
    cases hstep
    exact ⟨by simpa [World.forwarderEnd?] using hdrained hn, rfl⟩
  | snapshot =>
    rcases hstep : st.step w.shared with ⟨st', sh'⟩
    have hl' := hl.snapshot_step
    rw [hstep] at hl'
    simp only [World.move, hst, hstep]
    refine ⟨⟨s, hs, hp, f, t, st', hf, ht, rfl, hl'⟩, fun n hn => ⟨hn, ?_⟩⟩
    have := hl.snapshot_quiet (hdrained hn)
    rwa [hstep] at this
  | probe =>
    simp only [World.move, hp]
    exact ⟨h, .refl _⟩
  | shutdown =>
    exact ⟨⟨s, hs, hp, f, t, st, hf, ht, hst, hl.cancel fun _ => rfl⟩, .of_eq rfl rfl⟩
  | exchange =>
    rcases hadv : w.shared.exchange.advance w.now with ⟨x, stop⟩
    simp only [World.move, hadv]
    refine ⟨⟨s, hs, hp, f, t, st, hf, ht, hst, hl.cancel fun hc => ?_⟩, .of_eq rfl rfl⟩
    simp [show w.shared.cancelled = true from hc]

theorem Accounted.moves (h : w.Accounted) (hm : Moves w w') : w'.Accounted ∧ w.Steady w' := by
  cases hm with
  | move m => exact h.move m
  | tick t _ =>
    obtain ⟨s, hs, hp, f, t, st, hf, ht, hst, hl⟩ := h
    exact ⟨⟨s, hs, hp, f, t, st, hf, ht, hst, hl⟩, .of_eq rfl rfl⟩

/-- Every run from a world where the invariant holds keeps it, and is steady. -/
theorem Accounted.reaches (h : w.Accounted) (hr : Relation.ReflTransGen Moves w w') :
    w'.Accounted ∧ w.Steady w' := by
  induction hr with
  | refl => exact ⟨h, .refl _⟩
  | tail _ hm ih =>
    obtain ⟨ha, hs⟩ := ih
    obtain ⟨ha', hs'⟩ := ha.moves hm
    exact ⟨ha', hs.trans hs'⟩

/-- A world where the invariant holds and the supervisor ended well forwarded every event its
queue accepted. -/
theorem Accounted.outcome_ok (h : w.Accounted) {summary : RunSummary}
    (hout : w.outcome? = some (.ok summary)) :
    summary.metrics.incrementalsEnqueued + summary.metrics.snapshotsEnqueued =
      summary.metrics.eventsForwarded := by
  obtain ⟨s, hs, -, f, t, st, -, -, -, hl⟩ := h
  have hstaged := hl.staged
  unfold World.outcome? at hout
  rw [hs] at hout
  split at hout
  · rename_i r e heq
    cases heq
    cases hout
    exact hstaged.2 summary rfl
  · cases hout

end World

/-- The invariant holds when a pipeline starts. -/
theorem PipelineSetup.start_accounted (setup : PipelineSetup) : setup.start.Accounted := by
  refine ⟨_, rfl, rfl, _, _, _, rfl, rfl, rfl, ?_⟩
  refine ⟨rfl, fun _ => rfl, rfl, ⟨Nat.zero_lt_two, Nat.le_refl 2, fun _ => rfl, fun _ h => (nomatch h)⟩,
    fun h => (nomatch h), fun _ h => (nomatch h), .inr fun k => ?_, fun k => ?_, fun h => (nomatch h),
    fun h => (nomatch h), trivial⟩
  · cases k <;> rfl
  · have h0 : 0 < Nat.pow 2 64 := by decide
    cases k <;> exact ⟨h0, h0⟩

/-! ## Shutdown loses no accepted event -/

/-- Under every interleaving of a pipeline's tasks, a run that the supervisor ends well has
forwarded every event its queue accepted, and once the forwarder has ended drained no event
enters the queue any more. -/
theorem ok_outcome_forwards_every_enqueued (setup : PipelineSetup) {w : World}
    (hw : Relation.ReflTransGen World.Moves setup.start w) :
    (∀ summary, w.outcome? = some (.ok summary) →
      summary.metrics.incrementalsEnqueued + summary.metrics.snapshotsEnqueued =
        summary.metrics.eventsForwarded) ∧
    ∀ n w', w.forwarderEnd? = some (.drained n) → Relation.ReflTransGen World.Moves w w' →
      w'.shared.line.queue.items = [] ∧
        w'.shared.line.metrics.incrementalsEnqueued = w.shared.line.metrics.incrementalsEnqueued ∧
        w'.shared.line.metrics.snapshotsEnqueued = w.shared.line.metrics.snapshotsEnqueued := by
  obtain ⟨hacc, -⟩ := setup.start_accounted.reaches hw
  refine ⟨fun summary hout => hacc.outcome_ok hout, fun n w' hn hr => ?_⟩
  -- the forwarder stays drained, so the queue stays empty; the counters stay as they were
  obtain ⟨hacc', hsteady⟩ := hacc.reaches hr
  obtain ⟨hn', he⟩ := hsteady n hn
  obtain ⟨s', -, -, f', t', st', hf', -, -, hl'⟩ := hacc'
  exact ⟨(hl'.drained n ((World.forwarderEnd_eq hf').symm.trans hn')).1, congrFun he .incremental,
    congrFun he .snapshot⟩

/-- A pipeline of the default configuration shut down at once ends well after nine moves:
shutdown, the stream client and the scheduler stop, the forwarder drains and stops, and the
supervisor joins the three tasks. -/
theorem shutdown_at_start_ends_ok :
    let setup : PipelineSetup := { config := Config.RelayConfig.forSymbol "BTCUSDT" }
    let w := [Mover.shutdown, .stream, .snapshot, .forwarder, .forwarder, .supervisor, .supervisor,
      .supervisor, .supervisor].foldl World.move setup.start
    ∃ summary, w.outcome? = some (.ok summary) := by
  intro setup w
  -- the kernel runs the moves; unifying with a summary still unknown would unfold them slowly
  have hok : w.outcome?.any Except.isOk = true := by decide +kernel
  obtain ⟨r, hr, hisOk⟩ := (Option.any_eq_true _ _).1 hok
  cases r with
  | ok summary => exact ⟨summary, hr⟩
  | error e => cases hisOk

/-- The law along a run of a pipeline of the default configuration shut down at once: its
tasks stop, the forwarder drained, and the supervisor joins them and ends the run well. -/
theorem ok_outcome_forwards_every_enqueued_after_shutdown :
    let setup : PipelineSetup := { config := Config.RelayConfig.forSymbol "BTCUSDT" }
    let w := [Mover.shutdown, .stream, .snapshot, .forwarder, .forwarder, .supervisor, .supervisor,
      .supervisor, .supervisor].foldl World.move setup.start
    Relation.ReflTransGen World.Moves setup.start w ∧ (∃ summary, w.outcome? = some (.ok summary)) ∧
      (∃ n, w.forwarderEnd? = some (.drained n)) ∧
      ((∀ summary, w.outcome? = some (.ok summary) →
        summary.metrics.incrementalsEnqueued + summary.metrics.snapshotsEnqueued =
          summary.metrics.eventsForwarded) ∧
      ∀ n w', w.forwarderEnd? = some (.drained n) → Relation.ReflTransGen World.Moves w w' →
        w'.shared.line.queue.items = [] ∧
          w'.shared.line.metrics.incrementalsEnqueued = w.shared.line.metrics.incrementalsEnqueued ∧
          w'.shared.line.metrics.snapshotsEnqueued = w.shared.line.metrics.snapshotsEnqueued) := by
  intro setup w
  have hw : Relation.ReflTransGen World.Moves setup.start w := World.reaches_foldl_move _ _
  exact ⟨hw, shutdown_at_start_ends_ok, ⟨_, rfl⟩, ok_outcome_forwards_every_enqueued setup hw⟩

/-! ## The library's own schedule -/

/-- The library's scheduler takes one of the interleavings: the clock goes to the earliest move,
which is made. -/
theorem World.step_moves {w w' : World} (h : w.step = some w') : Relation.ReflTransGen World.Moves w w' := by
  unfold World.step at h
  split at h
  · cases h
  · rename_i m t _
    cases h
    exact (Relation.ReflTransGen.single (.tick w _ (le_max_right t w.now))).tail (.move _ m)

theorem World.run_moves (goal : World → Bool) (fuel : Nat) (w : World) :
    Relation.ReflTransGen World.Moves w (World.run goal fuel w) := by
  induction fuel generalizing w with
  | zero => exact .refl
  | succ fuel ih =>
    unfold World.run
    split
    · exact .refl
    · split
      · exact .refl
      · rename_i w' hw'
        exact (World.step_moves hw').trans (ih w')

/-- A pipeline scenario that its supervisor ends well reports that every event its queue
accepted was forwarded. -/
theorem pipelineScenario_ok_forwards_every_enqueued (setup : PipelineSetup) {summary : RunSummary}
    (h : (pipelineScenario setup).outcome = some (.ok summary)) :
    summary.metrics.incrementalsEnqueued + summary.metrics.snapshotsEnqueued =
      summary.metrics.eventsForwarded := by
  unfold pipelineScenario at h
  split at h
  · cases h
  · rename_i start hstart
    rw [PipelineSetup.eq_start_of_launch hstart] at h
    exact (setup.start_accounted.reaches (World.run_moves _ stepBudget setup.start)).1.outcome_ok h

end BookRelay.Scenario
