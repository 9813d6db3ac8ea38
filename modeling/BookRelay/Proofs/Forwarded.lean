import BookRelay.Proofs.Supervision

/-! # What a pipeline reports as forwarded

A pipeline that ends well reports the events of the forwarder runs that ended drained during
the watch and of the last run, drained at shutdown. A run restarted after giving up on an event
hands back that event alone: what it delivered before is in no count the supervisor keeps. The
invariant `Tally` ties the metrics, as 64-bit counters, to the supervisor's counts and to the
deliveries of the runs restarted so far (`LossRun`), so a good outcome misses exactly those
(`forwarded_misses_restarted_runs`). -/

namespace BookRelay.Feed.Metrics

/-- A delivery counted in the metrics adds one to the events forwarded, as 64-bit counters. -/
theorem eventsForwarded_recordForwarded (m : Metrics) (k : Kind) :
    (m.recordForwarded k).eventsForwarded ≡ m.eventsForwarded + 1 [MOD Nat.pow 2 64] := by
  cases k with
  | snapshot =>
    calc bump m.snapshotsForwarded + m.incrementalsForwarded
        ≡ m.snapshotsForwarded + 1 + m.incrementalsForwarded [MOD Nat.pow 2 64] :=
          (Scenario.Ledger.bump_modEq _).add_right _
      _ = m.eventsForwarded + 1 := by simp only [eventsForwarded]; omega
  | incremental =>
    calc m.snapshotsForwarded + bump m.incrementalsForwarded
        ≡ m.snapshotsForwarded + (m.incrementalsForwarded + 1) [MOD Nat.pow 2 64] :=
          (Scenario.Ledger.bump_modEq _).add_left _
      _ = m.eventsForwarded + 1 := by simp only [eventsForwarded]; omega

end BookRelay.Feed.Metrics

namespace BookRelay.Scenario

open BookRelay.Pipeline BookRelay.Feed

/-- The events forwarded are the ledger's two counters of events the sink accepted. -/
theorem Shared.eventsForwarded_eq_of_ledger {sh sh' : Shared}
    (h : sh'.ledger.forwarded = sh.ledger.forwarded) :
    sh'.line.metrics.eventsForwarded = sh.line.metrics.eventsForwarded := by
  have hs := congrFun h .snapshot
  have hi := congrFun h .incremental
  simp only [Shared.ledger, Ledger.forwarded] at hs hi
  simp only [Metrics.eventsForwarded, hs, hi]

/-! ## One run of the forwarder -/

namespace ForwardTask

/-- A move of the forwarder counts what it delivers twice over: its own count and the metrics'
count of events forwarded go up by the same number. -/
def Counts (f : ForwardTask) (sh : Shared) (r : ForwardTask × Shared) : Prop :=
  ∃ d, r.1.forwarded = f.forwarded + d ∧
    r.2.line.metrics.eventsForwarded ≡ sh.line.metrics.eventsForwarded + d [MOD Nat.pow 2 64]

def DrainsOwn (f : ForwardTask) : Prop := ∀ n, f.result? = some (.drained n) → n = f.forwarded

variable {f : ForwardTask} {sh sh₀ : Shared} {e : Event} {k : Nat} {fromQueue : Bool}

theorem Counts.same {r : ForwardTask × Shared} (hf : r.1.forwarded = f.forwarded)
    (hm : r.2.line.metrics.eventsForwarded = sh.line.metrics.eventsForwarded) : Counts f sh r :=
  ⟨0, hf, by rw [hm]; rfl⟩

theorem DrainsOwn.running (h : f.result? = none) : f.DrainsOwn := fun n hn => by
  rw [h] at hn
  cases hn

theorem DrainsOwn.stop_drained : (f.stop (.drained f.forwarded)).DrainsOwn := fun n hn => by
  simp only [stop, result?, Option.some.injEq, ForwardEnd.drained.injEq] at hn
  exact hn.symm

theorem DrainsOwn.stop_other {r : ForwardEnd} (hr : ∀ n, r ≠ .drained n) : (f.stop r).DrainsOwn :=
  fun n hn => by
    simp only [stop, result?, Option.some.injEq] at hn
    exact absurd hn (hr n)

/-! The helpers measure against a shared state with the same count of events forwarded, since
the forwarder hands them a state whose sink or queue it has already changed. -/

theorem settle_counts {o : Except SinkError Unit}
    (hm : sh.line.metrics.eventsForwarded = sh₀.line.metrics.eventsForwarded) :
    Counts f sh₀ (f.settle sh e k fromQueue o) := by
  unfold settle
  cases o with
  | ok u =>
    dsimp only
    have hcount := Metrics.eventsForwarded_recordForwarded sh.line.metrics e.kind
    rw [hm] at hcount
    split
    · exact ⟨1, rfl, hcount⟩
    · exact ⟨1, rfl, hcount⟩
  | error err =>
    dsimp only
    split <;> exact .same rfl hm

theorem settle_drainsOwn {o : Except SinkError Unit} : (f.settle sh e k fromQueue o).1.DrainsOwn := by
  unfold settle
  cases o with
  | ok u =>
    dsimp only
    split
    · exact .stop_drained
    · exact .running rfl
  | error err =>
    dsimp only
    split
    · exact .running rfl
    · exact .stop_other nofun

theorem attempt_counts (hm : sh.line.metrics.eventsForwarded = sh₀.line.metrics.eventsForwarded) :
    Counts f sh₀ (f.attempt sh e k fromQueue) := by
  unfold attempt
  dsimp only
  split
  · exact .same rfl hm
  · split <;> exact .same rfl hm
  · exact .same rfl hm
  · split <;> exact settle_counts hm

theorem attempt_drainsOwn : (f.attempt sh e k fromQueue).1.DrainsOwn := by
  unfold attempt
  dsimp only
  split
  · exact .running rfl
  · split <;> exact .running rfl
  · exact .stop_other nofun
  · split <;> exact settle_drainsOwn

/-- Every move of the forwarder counts its deliveries in its own count and in the metrics
alike. -/
theorem step_counts (f : ForwardTask) (sh : Shared) : Counts f sh (f.step sh) := by
  unfold step
  split
  · exact .same rfl rfl
  · split
    · exact attempt_counts rfl
    · exact .same rfl rfl
  · split
    · exact attempt_counts rfl
    · split
      · exact .same rfl rfl
      · split
        · split <;> exact .same rfl rfl
        · exact .same rfl rfl
  · split
    · exact settle_counts rfl
    · exact .same rfl rfl
  · split
    · exact attempt_counts rfl
    · exact .same rfl rfl

/-- A run that ends drained reports the count it delivered. -/
theorem step_drainsOwn (h : f.DrainsOwn) (sh : Shared) : (f.step sh).1.DrainsOwn := by
  unfold step
  split
  · exact h
  · split
    · exact attempt_drainsOwn
    · exact .running rfl
  · rename_i deadline hstage
    split
    · exact attempt_drainsOwn
    · split
      · exact .stop_drained
      · split
        · split
          · exact .stop_drained
          · exact .running rfl
        · exact .running (by simp [result?, hstage])
  · rename_i hstage
    split
    · exact settle_drainsOwn
    · exact .running (by simp [result?, hstage])
  · rename_i hstage
    split
    · exact attempt_drainsOwn
    · exact .running (by simp [result?, hstage])

end ForwardTask

/-! ## The tally -/

namespace Supervisor

/-- The deliveries the supervisor has counted: those of the runs that ended well during the
watch, the last run's drained at shutdown, and those of the run `f` while it holds it. -/
def counted (s : Supervisor) (f : ForwardTask) : Nat :=
  s.forwarded + s.drained + if s.forwarderHeld then f.forwarded else 0

/-- A good result reports the deliveries counted, with the metrics it was given. -/
theorem result_eq_ok_counts {s : Supervisor} {m : Metrics} {summary : RunSummary}
    (h : s.result m = .ok summary) : summary.forwarded = s.forwarded + s.drained ∧ summary.metrics = m := by
  obtain ⟨hf, hs, -⟩ := result_eq_ok h
  simp only [result, hf, hs, Except.ok.injEq] at h
  rw [← h]
  exact ⟨rfl, rfl⟩

end Supervisor

/-- The tally of deliveries, for the count `events` of events the sink accepted, the
supervisor `s` and the forwarder run `f`, `lost` being the deliveries of the runs restarted
before: while no failure and no fault is found, the sink accepted, as 64-bit counters, the
deliveries the supervisor counted and the lost ones; while the supervisor holds the run, a run
that ended drained reports its own count and none was drained at shutdown yet; and a good
result misses the lost deliveries only. -/
structure Tally (lost events : Nat) (s : Supervisor) (f : ForwardTask) : Prop where
  count : s.failure = none → s.stopFault = none → events ≡ s.counted f + lost [MOD Nat.pow 2 64]
  drains : s.forwarderHeld = true → f.DrainsOwn
  fresh : s.forwarderHeld = true → s.drained = 0
  finished : ∀ summary t, s.stage = .finished (.ok summary) t →
    summary.metrics.eventsForwarded ≡ summary.forwarded + lost [MOD Nat.pow 2 64]

namespace Tally

variable {lost events : Nat} {s s' : Supervisor} {f : ForwardTask} {sh : Shared}

/-- A supervisor that keeps its counts, finds no failure or fault that was not there, and
finishes no run keeps the tally. -/
theorem keep (h : Tally lost events s f) (hfw : s'.forwarded = s.forwarded) (hdr : s'.drained = s.drained)
    (hheld : s'.forwarderHeld = s.forwarderHeld)
    (hclean : s'.failure = none → s'.stopFault = none → s.failure = none ∧ s.stopFault = none)
    (hstage : ∀ r t, s'.stage = .finished r t → s.stage = .finished r t) : Tally lost events s' f where
  count hf hs := by
    obtain ⟨hf₀, hs₀⟩ := hclean hf hs
    simpa only [Supervisor.counted, hfw, hdr, hheld] using h.count hf₀ hs₀
  drains hh := h.drains (hheld ▸ hh)
  fresh hh := hdr.trans (h.fresh (hheld ▸ hh))
  finished summary t hst := h.finished summary t (hstage _ t hst)

/-- A supervisor with the same counts, failure, fault and stage keeps the tally, whatever else
of the tasks it holds. -/
theorem same (h : Tally lost events s f) (hfw : s'.forwarded = s.forwarded) (hdr : s'.drained = s.drained)
    (hheld : s'.forwarderHeld = s.forwarderHeld) (hfail : s'.failure = s.failure)
    (hstop : s'.stopFault = s.stopFault) (hstage : s'.stage = s.stage) : Tally lost events s' f :=
  h.keep hfw hdr hheld (fun hf hs => ⟨hfail.symm.trans hf, hstop.symm.trans hs⟩)
    (fun _ _ hst => hstage.symm.trans hst)

/-- While the supervisor holds a run that ended drained, the tally is its count beside the
supervisor's. -/
theorem count_drained (h : Tally lost events s f) (hheld : s.forwarderHeld = true) {n : Nat}
    (hr : f.result? = some (.drained n)) (hf : s.failure = none) (hs : s.stopFault = none) :
    events ≡ s.forwarded + n + lost [MOD Nat.pow 2 64] := by
  have hc := h.count hf hs
  simp only [Supervisor.counted, hheld, if_true, h.fresh hheld, Nat.add_zero] at hc
  rwa [h.drains hheld n hr]

/-- A fault of the wait keeps the tally. -/
theorem fault (h : Tally lost events s f) (e : PipelineError) : Tally lost events (s.fault e) f :=
  h.keep rfl rfl rfl (fun _ hs => by cases h₀ : s.stopFault <;> simp [Supervisor.fault, h₀] at hs)
    (fun _ _ h => h)

/-- The supervisor starts its wait, or moves on to a later task, with its counts as they were. -/
theorem restage (h : Tally lost events s f) {c : Component} {d : Nat} :
    Tally lost events { s with stage := .joining c d } f :=
  h.keep rfl rfl rfl (fun hf hs => ⟨hf, hs⟩) nofun

/-- A supervisor that found a failure or a fault and holds the run no more keeps the tally,
whatever the run. -/
theorem doomed {f' : ForwardTask} (h : Tally lost events s f)
    (hd : s'.failure.isSome = true ∨ s'.stopFault.isSome = true) (hheld : s'.forwarderHeld = false)
    (hstage : s'.stage = s.stage) : Tally lost events s' f' where
  count hf hs := by
    rw [hf, hs] at hd
    simp at hd
  drains hh := nomatch hheld.symm.trans hh
  fresh hh := nomatch hheld.symm.trans hh
  finished summary t hst := h.finished summary t (hstage ▸ hst)

/-- A restart hands the run's deliveries to the lost ones: the new run has delivered none. -/
theorem restart (h : Tally lost events s f) (hheld : s.forwarderHeld = true) (hw : s.stage = .watching)
    (e : Event) : Tally (lost + f.forwarded) events s (f.retransmitFirst e) where
  count hf hs := by
    have hc := h.count hf hs
    simp only [Supervisor.counted, hheld, if_true, ForwardTask.retransmitFirst] at hc ⊢
    rwa [show s.forwarded + s.drained + 0 + (lost + f.forwarded) =
      s.forwarded + s.drained + f.forwarded + lost by omega]
  drains _ := .running rfl
  fresh := h.fresh
  finished summary t hst := nomatch hw.symm.trans hst

/-- A move of the held run counts its deliveries in the tally. -/
theorem step (h : Tally lost sh.line.metrics.eventsForwarded s f) (hheld : s.forwarderHeld = true) :
    Tally lost (f.step sh).2.line.metrics.eventsForwarded s (f.step sh).1 where
  count hf hs := by
    obtain ⟨d, hfw, hev⟩ := f.step_counts sh
    have hc := h.count hf hs
    simp only [Supervisor.counted, hheld, if_true] at hc ⊢
    rw [hfw]
    calc (f.step sh).2.line.metrics.eventsForwarded
        ≡ sh.line.metrics.eventsForwarded + d [MOD Nat.pow 2 64] := hev
      _ ≡ s.forwarded + s.drained + f.forwarded + lost + d [MOD Nat.pow 2 64] := hc.add_right d
      _ = s.forwarded + s.drained + (f.forwarded + d) + lost := by omega
  drains hh := ForwardTask.step_drainsOwn (h.drains hh) sh
  fresh := h.fresh
  finished := h.finished

/-- The supervisor finishes, holding no run, with the result of its counts: a good result
misses the lost deliveries only. -/
theorem finish {m : Metrics} (h : Tally lost m.eventsForwarded s f) (hheld : s.forwarderHeld = false)
    (t : Nat) : Tally lost m.eventsForwarded { s with stage := .finished (s.result m) t } f where
  count := h.count
  drains := h.drains
  fresh := h.fresh
  finished summary t' hst := by
    obtain ⟨hres, -⟩ := SuperviseStage.finished.inj hst
    obtain ⟨hf, hs, -⟩ := Supervisor.result_eq_ok hres
    obtain ⟨hfw, rfl⟩ := Supervisor.result_eq_ok_counts hres
    have hc := h.count hf hs
    simp only [Supervisor.counted, hheld, Bool.false_eq_true, if_false, Nat.add_zero] at hc
    rwa [hfw]

end Tally

/-- The tally of a pipeline world, `lost` being the deliveries of the forwarder runs restarted
so far. -/
def World.Tallied (lost : Nat) (w : World) : Prop :=
  ∃ s f, w.supervisor = some s ∧ w.forwarder = some f ∧
    Tally lost w.shared.line.metrics.eventsForwarded s f

/-- What a move does to the tally: a restart adds the deliveries of the restarted run to the
lost ones, and any other move keeps them. -/
def World.Retallied (lost : Nat) (w w' : World) : Prop :=
  (∀ f, w.forwarder = some f → World.Restarted w w' → w'.Tallied (lost + f.forwarded)) ∧
    (¬ World.Restarted w w' → w'.Tallied lost)

/-- A move that leaves the forwarder alone restarts nothing. -/
theorem World.Retallied.of_forwarder {lost : Nat} {w w' : World} (hf : w'.forwarder = w.forwarder)
    (h : w'.Tallied lost) : World.Retallied lost w w' :=
  ⟨fun _ _ hr => absurd hr (World.not_restarted_of_forwarder hf), fun _ => h⟩

/-! ## Moves of the supervisor -/

section Supervise

variable {lost : Nat} {w : World} {s : Supervisor} {f : ForwardTask}

/-- What the supervisor does on seeing the held run end keeps the tally of that run: a drained
run's count moves to the supervisor's, and any other end is a restart, a failure, or an abort
that the wait had already found. -/
theorem forwarderEnded_tally {events : Nat} (h : Tally lost events s f) (hheld : s.forwarderHeld = true)
    {r : ForwardEnd} (hr : f.result? = some r) (haborted : r = .aborted → s.stopFault.isSome = true) :
    Tally lost events (s.forwarderEnded r).1 f := by
  cases r with
  | drained n =>
    -- the run's count moves to the supervisor's
    refine ⟨fun hf hs => ?_, nofun, nofun, h.finished⟩
    simpa only [Supervisor.forwarderEnded, Supervisor.counted, Bool.false_eq_true, if_false,
      h.fresh hheld, Nat.add_zero] using h.count_drained hheld hr hf hs
  | failed err e =>
    simp only [Supervisor.forwarderEnded]
    split
    · exact h.same rfl rfl rfl rfl rfl rfl
    · exact h.doomed (.inl rfl) rfl rfl
  | panicked m => exact h.doomed (.inl rfl) rfl rfl
  | aborted => exact h.doomed (.inr (haborted rfl)) rfl rfl

theorem streamEnded_tally {events : Nat} (h : Tally lost events s f) (r : Except ConnectionError Unit) :
    Tally lost events (s.streamEnded r) f := by
  cases r with
  | ok u => exact h.same rfl rfl rfl rfl rfl rfl
  | error err => exact h.keep rfl rfl rfl nofun (fun _ _ h => h)

theorem snapshotEnded_tally {events : Nat} (h : Tally lost events s f) (p : Option String) :
    Tally lost events (s.snapshotEnded p) f := by
  cases p with
  | none => exact h.same rfl rfl rfl rfl rfl rfl
  | some m => exact h.keep rfl rfl rfl (fun hf _ => by cases hf) (fun _ _ h => h)

/-- The supervisor's look at the ended tasks keeps the tally of the run it held. -/
theorem seenEnd_tally {events : Nat} (h : Tally lost events s f) (hf : w.forwarder = some f)
    (haborted : f.result? = some .aborted → s.stopFault.isSome = true) :
    Tally lost events (w.seenEnd s).2 f := by
  unfold World.seenEnd
  split
  · rename_i r hend
    have hheld : s.forwarderHeld = true := by
      by_contra hn
      simp [hn] at hend
    have hr : f.result? = some r := by simpa [hheld, World.forwarderEnd_eq hf] using hend
    have ht := forwarderEnded_tally h hheld hr fun hab => haborted (hab ▸ hr)
    rcases hended : s.forwarderEnded r with ⟨s₁, again⟩
    rw [hended] at ht
    cases again <;> exact ht
  · split
    · exact streamEnded_tally h _
    · split
      · exact snapshotEnded_tally h _
      · exact h

/-- The supervisor's wait for the held run keeps the tally. -/
theorem forwarderStopped_tally {events : Nat} (h : Tally lost events s f) (hheld : s.forwarderHeld = true)
    {r : ForwardEnd} (hr : f.result? = some r) (haborted : r = .aborted → s.stopFault.isSome = true) :
    Tally lost events (s.forwarderStopped r) f := by
  cases r with
  | drained n =>
    -- the run's count becomes the one drained at shutdown
    refine ⟨fun hf hs => ?_, nofun, nofun, h.finished⟩
    simpa only [Supervisor.forwarderStopped, Supervisor.counted, Bool.false_eq_true, if_false,
      Nat.add_zero] using h.count_drained hheld hr hf hs
  | failed err e => exact h.doomed (.inr (World.fault_stopFault _ _)) rfl rfl
  | panicked m => exact h.doomed (.inr (World.fault_stopFault _ _)) rfl rfl
  | aborted => exact h.doomed (.inr (haborted rfl)) rfl rfl

/-- The wait keeps the tally, with the run it may have aborted. -/
theorem joinTask_tally {c : Component} {d : Nat} (h : Tally lost w.shared.line.metrics.eventsForwarded s f)
    (hf : w.forwarder = some f) (hstaged : c = .forwarder ∨ s.forwarderHeld = false)
    (haborted : f.result? = some .aborted → s.stopFault.isSome = true) :
    ∃ s' f', (w.joinTask s c d).supervisor = some s' ∧ (w.joinTask s c d).forwarder = some f' ∧
      Tally lost w.shared.line.metrics.eventsForwarded s' f' := by
  unfold World.joinTask
  cases c with
  | forwarder =>
    dsimp only
    by_cases hheld : s.forwarderHeld = true
    · cases hend : w.forwarderEnd? with
      | some r =>
        simp only [hheld, if_true]
        have hr : f.result? = some r := by rwa [World.forwarderEnd_eq hf] at hend
        exact ⟨_, f, rfl, hf, (forwarderStopped_tally h hheld hr fun hab => haborted (hab ▸ hr)).restage⟩
      | none =>
        simp only [hheld, if_true]
        by_cases hlate : d ≤ w.now
        · -- past the grace the run is aborted, with a fault
          simp only [hlate, if_true]
          have hab : Tally lost w.shared.line.metrics.eventsForwarded
              { s.fault (.shutdownTimedOut .forwarder s.settings.shutdownGrace) with forwarderHeld := false }
              (f.stop .aborted) :=
            (h.fault (.shutdownTimedOut .forwarder s.settings.shutdownGrace)).doomed
              (.inr (World.fault_stopFault _ _)) rfl rfl
          exact ⟨_, _, rfl, by rw [hf]; rfl, hab.restage⟩
        · simp only [hlate, if_false]
          exact ⟨s, f, rfl, hf, h⟩
    · simp only [hheld]
      refine ⟨_, f, rfl, hf, Tally.restage ?_⟩
      exact h.same rfl rfl (eq_false_of_ne_true hheld).symm rfl rfl rfl
  | stream =>
    -- the wait on the stream client changes its hold and faults only
    rcases w with ⟨sh, stream, fw, sn, sup, pr, sa, wa⟩
    have hnext : ∀ s₁ : Supervisor, Tally lost sh.line.metrics.eventsForwarded s₁ f →
        ∃ s' f', some { s₁ with stage := .joining .snapshot d } = some s' ∧ fw = some f' ∧
          Tally lost sh.line.metrics.eventsForwarded s' f' :=
      fun s₁ h₁ => ⟨_, f, rfl, hf, h₁.restage⟩
    have hlet : Tally lost sh.line.metrics.eventsForwarded { s with streamHeld := false } f :=
      h.same rfl rfl rfl rfl rfl rfl
    dsimp only
    by_cases hs : s.streamHeld = true
    · cases stream with
      | none =>
        simp only [hs, Bool.not_true, Bool.false_eq_true, if_false]
        exact hnext _ hlet
      | some t =>
        cases hst : t.stage
        case stopped r endedAt =>
          cases r with
          | ok u =>
            simp only [hs, hst, Bool.not_true, Bool.false_eq_true, if_false]
            exact hnext _ hlet
          | error err =>
            simp only [hs, hst, Bool.not_true, Bool.false_eq_true, if_false]
            exact hnext _ (hlet.fault _)
        all_goals
          by_cases hlate : d ≤ sh.now
          · simp only [World.now, hs, hst, hlate, Bool.not_true, Bool.false_eq_true, if_false, if_true]
            exact hnext { s.fault (.shutdownTimedOut .stream s.settings.shutdownGrace) with streamHeld := false }
              ((h.fault _).same rfl rfl rfl rfl rfl rfl)
          · simp only [World.now, hs, hst, hlate, Bool.not_true, Bool.false_eq_true, if_false]
            exact ⟨s, f, rfl, hf, h⟩
    · rw [if_pos (show (!s.streamHeld) = true by simpa using hs)]
      exact hnext s h
  | snapshot =>
    -- the wait ends with the scheduler, holding no run: the supervisor finishes
    have hfree : s.forwarderHeld = false := hstaged.resolve_left fun h => by cases h
    have hfinish : ∀ s₁ : Supervisor, Tally lost w.shared.line.metrics.eventsForwarded s₁ f →
        s₁.forwarderHeld = false → ∃ s' f',
          some { s₁ with stage := .finished (s₁.result w.shared.line.metrics) w.now } = some s' ∧
          w.forwarder = some f' ∧ Tally lost w.shared.line.metrics.eventsForwarded s' f' :=
      fun s₁ h₁ hfree₁ => ⟨_, f, rfl, hf, h₁.finish hfree₁ _⟩
    dsimp only
    by_cases hheld : s.snapshotHeld = true
    · rw [if_neg (by simpa using hheld)]
      by_cases hdone : w.snapshotDone = true
      · -- a panic of the scheduler is a fault of the wait
        rw [if_pos hdone]
        have ht : Tally lost w.shared.line.metrics.eventsForwarded (s.snapshotStopped w.snapshotPanic) f := by
          unfold Supervisor.snapshotStopped
          have hlet : Tally lost w.shared.line.metrics.eventsForwarded { s with snapshotHeld := false } f :=
            h.same rfl rfl rfl rfl rfl rfl
          split
          · exact hlet
          · exact hlet.fault _
        exact hfinish _ ht ((s.snapshotStopped_facts _).1.trans hfree)
      · rw [if_neg hdone]
        by_cases hlate : d ≤ w.now
        · rw [if_pos hlate]
          exact hfinish { s.fault (.shutdownTimedOut .snapshot s.settings.shutdownGrace) with
            snapshotHeld := false } ((h.fault _).same rfl rfl rfl rfl rfl rfl) hfree
        · rw [if_neg hlate]
          exact ⟨s, f, rfl, hf, h⟩
    · rw [if_pos (by simpa using hheld)]
      exact hfinish _ h hfree

/-- A move of the supervisor while it watches, with no failure found yet, keeps the tally: a
restart adds the restarted run's deliveries to the lost ones. -/
theorem watchTasks_tally (h : Tally lost w.shared.line.metrics.eventsForwarded s f)
    (hf : w.forwarder = some f) (hw : s.stage = .watching) (hfail : s.failure = none)
    (haborted : f.result? = some .aborted → s.stopFault.isSome = true) :
    World.Retallied lost w (w.watchTasks s) := by
  unfold World.watchTasks
  split
  · exact .of_forwarder rfl ⟨_, f, rfl, hf, h.restage⟩
  · have ht := seenEnd_tally h hf haborted
    have hseen := seenEnd_move w s
    generalize w.seenEnd s = ws at ht hseen
    cases hseen with
    | @restart f₁ err e hheld hf₁ hr hlt =>
      cases hf.symm.trans hf₁
      -- the supervisor holds the restarted run, so the watch goes on
      have hover : ({ s with restarts := s.restarts + 1 } : Supervisor).watchOver = false := by
        simp [Supervisor.watchOver, hfail, hheld]
      simp only [hover, Bool.false_eq_true, if_false]
      have hre : World.Restarted w { w with
          forwarder := some (f.retransmitFirst e)
          supervisor := some { s with restarts := s.restarts + 1 } } :=
        ⟨⟨err, e, by rw [World.forwarderEnd_eq hf, hr]⟩, rfl⟩
      refine ⟨fun f' hf' _ => ?_, fun hn => absurd hre hn⟩
      cases hf.symm.trans hf'
      exact ⟨_, _, rfl, rfl, ht.restart hheld hw e⟩
    | @other w₁ s₁ hset hres hstop hstage hf₁ hcan hm =>
      have ht₁ : Tally lost w₁.shared.line.metrics.eventsForwarded s₁ f := by rw [hm]; exact ht
      dsimp only
      split
      · exact .of_forwarder hf₁ ⟨_, f, rfl, hf₁.trans hf, ht₁.restage⟩
      · exact .of_forwarder hf₁ ⟨s₁, f, rfl, hf₁.trans hf, ht₁⟩
/-- Every move of the supervisor keeps the tally, a restart adding the restarted run's
deliveries to the lost ones. -/
theorem supervise_tally {R n : Nat} {t : StreamTask} {st : SnapshotTask} (hs : w.supervisor = some s)
    (hf : w.forwarder = some f) (h : Tally lost w.shared.line.metrics.eventsForwarded s f)
    (hO : Oversight R n w s) (hl : Lossless s f t st w.shared.ledger) :
    World.Retallied lost w w.supervise := by
  unfold World.supervise
  rw [hs]
  dsimp only
  rcases hstage : s.stage with _ | ⟨c, d⟩ | ⟨r, t⟩ <;> simp only
  case watching => exact watchTasks_tally h hf hstage (hO.watching hstage).1 hl.aborted
  case joining =>
    have hstaged : c = .forwarder ∨ s.forwarderHeld = false := by
      simpa [Supervisor.Staged, hstage] using hl.staged
    have hmove := joinTask_move w s hstage
    obtain ⟨s', f', hs', hf', ht⟩ := joinTask_tally (d := d) h hf hstaged hl.aborted
    rw [← hmove.metrics] at ht
    exact ⟨fun _ _ hr => absurd hr hmove.not_restarted, fun _ => ⟨s', f', hs', hf', ht⟩⟩
  case finished => exact .of_forwarder rfl ⟨s, f, hs, hf, h⟩

end Supervise

/-! ## Along a run -/

namespace World

variable {lost : Nat} {w w' : World}

/-- Every move of a supervised pipeline keeps the tally, a restart adding the deliveries of the
restarted run to the lost ones. -/
theorem Tallied.moves {R n : Nat} (hS : Supervised R n w) (h : w.Tallied lost) (hm : Moves w w') :
    Retallied lost w w' := by
  obtain ⟨⟨s, hs, hp, f, t, st, hf, ht, hst, hl⟩, s₁, hs₁, hO⟩ := hS
  obtain ⟨s₂, f₂, hs₂, hf₂, htally⟩ := h
  cases hs.symm.trans hs₁
  cases hs.symm.trans hs₂
  cases hf.symm.trans hf₂
  cases hm with
  | tick => exact .of_forwarder rfl ⟨s, f, hs, hf, htally⟩
  | move m =>
    cases m with
    | supervisor => exact supervise_tally hs hf htally hO hl
    | watch =>
      obtain ⟨wa, sa, heq⟩ := w.move_watch
      rw [heq]
      exact .of_forwarder rfl ⟨s, f, hs, hf, htally⟩
    | stream =>
      -- a producer counts no delivery
      have hev := Shared.eventsForwarded_eq_of_ledger (StreamTask.step_keeps hl.stream).2.2.forwarded
      rcases hstep : t.step w.shared with ⟨t', sh'⟩
      rw [hstep] at hev
      simp only [World.move, ht, hstep]
      exact .of_forwarder rfl ⟨s, f, hs, hf, by rw [hev]; exact htally⟩
    | forwarder =>
      cases hheld : s.forwarderHeld
      · -- a run the supervisor let go of has ended, and moves no more
        obtain ⟨r, hr⟩ : ∃ r, f.result? = some r := by
          rcases (hl.released hheld).2 with ⟨n, hn⟩ | ⟨hsome, -⟩
          · exact ⟨_, hn⟩
          · exact Option.isSome_iff_exists.1 hsome
        simp only [World.move, hf, ForwardTask.step_of_result hr]
        exact .of_forwarder hf.symm ⟨s, f, hs, rfl, htally⟩
      · have hcount := htally.step hheld
        have hnot : ¬ Restarted w (w.move .forwarder) := not_restarted_of_keeps fun r hr => by
          rw [forwarderEnd_eq hf] at hr
          simp [World.move, hf, ForwardTask.step_of_result hr, forwarderEnd?, hr]
        rcases hstep : f.step w.shared with ⟨f', sh'⟩
        rw [hstep] at hcount
        simp only [World.move, hf, hstep] at hnot ⊢
        exact ⟨fun _ _ hr => absurd hr hnot, fun _ => ⟨s, f', hs, rfl, hcount⟩⟩
    | snapshot =>
      have hev := Shared.eventsForwarded_eq_of_ledger (SnapshotTask.step_keeps hl.snapshot).2.2.forwarded
      rcases hstep : st.step w.shared with ⟨st', sh'⟩
      rw [hstep] at hev
      simp only [World.move, hst, hstep]
      exact .of_forwarder rfl ⟨s, f, hs, hf, by rw [hev]; exact htally⟩
    | probe =>
      simp only [World.move, hp]
      exact .of_forwarder rfl ⟨s, f, hs, hf, htally⟩
    | shutdown => exact .of_forwarder rfl ⟨s, f, hs, hf, htally⟩
    | exchange =>
      rcases hadv : w.shared.exchange.advance w.now with ⟨x, stop⟩
      simp only [World.move, hadv]
      exact .of_forwarder rfl ⟨s, f, hs, hf, htally⟩

/-- A restarted forwarder was there. -/
theorem Restarted.forwarder (h : Restarted w w') : ∃ f, w.forwarder = some f := by
  obtain ⟨⟨err, e, hr⟩, -⟩ := h
  cases hf : w.forwarder with
  | none => simp [forwarderEnd?, hf] at hr
  | some f => exact ⟨f, rfl⟩

end World

/-- A run of the pipeline from `w₀` to `w` that restarted the forwarder `n` times, the restarted
runs having delivered `lost` events in all. -/
inductive LossRun (w₀ : World) : Nat → Nat → World → Prop where
  | start : LossRun w₀ 0 0 w₀
  | restart {n lost : Nat} {w w' : World} {f : ForwardTask} : LossRun w₀ n lost w →
      World.Moves w w' → World.Restarted w w' → w.forwarder = some f →
      LossRun w₀ (n + 1) (lost + f.forwarded) w'
  | keep {n lost : Nat} {w w' : World} : LossRun w₀ n lost w → World.Moves w w' →
      ¬ World.Restarted w w' → LossRun w₀ n lost w'

namespace LossRun

variable {w₀ w : World} {n lost : Nat}

/-- Every run counts its restarts and what the restarted runs delivered. -/
theorem of_moves (hm : Relation.ReflTransGen World.Moves w₀ w) : ∃ n lost, LossRun w₀ n lost w := by
  induction hm with
  | refl => exact ⟨0, 0, .start⟩
  | @tail w w' _ hstep ih =>
    obtain ⟨n, lost, hr⟩ := ih
    by_cases hre : World.Restarted w w'
    · obtain ⟨f, hf⟩ := hre.forwarder
      exact ⟨_, _, hr.restart hstep hre hf⟩
    · exact ⟨n, lost, hr.keep hstep hre⟩

theorem restartRun (h : LossRun w₀ n lost w) : RestartRun w₀ n w := by
  induction h with
  | start => exact .start
  | restart _ hm hre _ ih => exact ih.restart hm hre
  | keep _ hm hre ih => exact ih.keep hm hre

/-- Along a supervised run the tally holds, with the deliveries of the restarted runs as the
lost ones. -/
theorem tallied {R : Nat} (hS : Supervised R 0 w₀) (h₀ : w₀.Tallied 0) (h : LossRun w₀ n lost w) :
    w.Tallied lost := by
  induction h with
  | start => exact h₀
  | restart hr hm hre hf ih => exact (ih.moves (hS.run hr.restartRun) hm).1 _ hf hre
  | keep hr hm hre ih => exact (ih.moves (hS.run hr.restartRun) hm).2 hre

end LossRun

/-- A pipeline starts with nothing delivered and nothing lost. -/
theorem PipelineSetup.start_tallied (setup : PipelineSetup) : setup.start.Tallied 0 :=
  ⟨_, _, rfl, rfl, ⟨fun _ _ => rfl, fun _ => .running rfl, fun _ => rfl, fun _ _ h => nomatch h⟩⟩

/-- What a pipeline that ends well reports as forwarded, under every interleaving of its tasks,
whatever the sink does and whenever shutdown comes. Every run counts its restarts of the
forwarder and the events the restarted runs had delivered; the summary reports the restarts,
and, as 64-bit counters, the events the sink accepted are those the summary reports forwarded
and those the restarted runs delivered, which the summary misses. -/
theorem forwarded_misses_restarted_runs (setup : PipelineSetup) {w : World}
    (hw : Relation.ReflTransGen World.Moves setup.start w) :
    (∃ n lost, LossRun setup.start n lost w) ∧
      ∀ n lost summary, LossRun setup.start n lost w → w.outcome? = some (.ok summary) →
        summary.forwarderRestarts = n ∧
          summary.metrics.eventsForwarded ≡ summary.forwarded + lost [MOD Nat.pow 2 64] := by
  refine ⟨LossRun.of_moves hw, fun n lost summary hr hout => ⟨?_, ?_⟩⟩
  · obtain ⟨s, hs, hlaw⟩ := (setup.start_supervised.run hr.restartRun).law
    exact (hlaw.okClean summary hout).2.2
  · obtain ⟨s, f, hs, -, htally⟩ := hr.tallied setup.start_supervised setup.start_tallied
    obtain ⟨t, ht⟩ := World.outcome_eq_some hs hout
    exact htally.finished summary t ht

/-- The law along a run of a pipeline of the default configuration shut down at once, which
ends well with no restart. -/
theorem forwarded_misses_restarted_runs_after_shutdown :
    let setup : PipelineSetup := { config := Config.RelayConfig.forSymbol "BTCUSDT" }
    let w := [Mover.shutdown, .stream, .snapshot, .forwarder, .forwarder, .supervisor, .supervisor,
      .supervisor, .supervisor].foldl World.move setup.start
    Relation.ReflTransGen World.Moves setup.start w ∧ (∃ summary, w.outcome? = some (.ok summary)) ∧
      ((∃ n lost, LossRun setup.start n lost w) ∧
        ∀ n lost summary, LossRun setup.start n lost w → w.outcome? = some (.ok summary) →
          summary.forwarderRestarts = n ∧
            summary.metrics.eventsForwarded ≡ summary.forwarded + lost [MOD Nat.pow 2 64]) := by
  intro setup w
  have hw : Relation.ReflTransGen World.Moves setup.start w := World.reaches_foldl_move _ _
  exact ⟨hw, shutdown_at_start_ends_ok, forwarded_misses_restarted_runs setup hw⟩

end BookRelay.Scenario
