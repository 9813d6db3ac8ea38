import BookRelay.Proofs.Shutdown

/-! # Supervision of the pipeline

The supervisor watches the pipeline's tasks until shutdown or a failure, then asks every task to
stop and waits for them. Along every run, under every interleaving of the tasks, the restarts of
the forwarder are counted by the moves after which a forwarder that had ended in failure runs
again (`RestartRun`). The invariant `Oversight` ties the supervisor's counters and stage to the
run, and from it and from what one move of the supervisor can do (`Oversees`) follows the law
of supervision (`supervision_policy`): at most `R` restarts, each on a failure the watch saw
with shutdown not asked, re-running the same forwarder with its event first; the `R+1`-th
failure, or a stream client that gave up, ends the watch with that failure; a forwarder that
fails after the watch is reported as a fault of the wait; shutdown is asked when the watch
ends; a failure found in the watch decides the outcome; and a good outcome reports the restarts
made. -/

namespace BookRelay.Scenario

open BookRelay.Pipeline BookRelay.Feed

namespace Supervisor

/-- What the supervisor keeps as it waits on a task: its settings, its restarts and its failure,
and the first fault of the wait. -/
def WaitKeeps (s s₁ : Supervisor) : Prop :=
  s₁.settings = s.settings ∧ s₁.restarts = s.restarts ∧ s₁.failure = s.failure ∧
    ∀ e, s.stopFault = some e → s₁.stopFault = some e

theorem WaitKeeps.refl (s : Supervisor) : WaitKeeps s s := ⟨rfl, rfl, rfl, fun _ h => h⟩

/-- A fault of the wait keeps the first one. -/
theorem fault_keeps (s : Supervisor) (e : PipelineError) : WaitKeeps s (s.fault e) := by
  refine ⟨rfl, rfl, rfl, fun x hx => ?_⟩
  simp [fault, hx]

theorem forwarderStopped_keeps (s : Supervisor) (r : ForwardEnd) : WaitKeeps s (s.forwarderStopped r) := by
  cases r <;> simp +contextual [WaitKeeps, forwarderStopped, fault]

theorem streamEnded_keeps (s : Supervisor) (r : Except ConnectionError Unit) :
    (s.streamEnded r).settings = s.settings ∧ (s.streamEnded r).restarts = s.restarts ∧
      (s.streamEnded r).stopFault = s.stopFault ∧ (s.streamEnded r).stage = s.stage := by
  cases r <;> exact ⟨rfl, rfl, rfl, rfl⟩

/-- A failed outcome is the failure found in the watch, else the first fault of the wait. -/
theorem result_eq_error {s : Supervisor} {m : Metrics} {e : PipelineError} (h : s.result m = .error e) :
    s.failure = some e ∨ (s.failure = none ∧ s.stopFault = some e) := by
  cases hf : s.failure <;> cases hs : s.stopFault <;> simp_all [result]

/-- A good outcome has no failure and no fault, and reports the restarts made. -/
theorem result_eq_ok {s : Supervisor} {m : Metrics} {summary : RunSummary} (h : s.result m = .ok summary) :
    s.failure = none ∧ s.stopFault = none ∧ summary.forwarderRestarts = s.restarts := by
  cases hf : s.failure <;> cases hs : s.stopFault <;> simp_all [result]
  rw [← h]

end Supervisor

/-- What a move of the supervisor while it waits for the tasks does: it keeps its settings,
its restarts and its failure, keeps the first fault of the wait, moves on to a later component
or finishes with the result of its counters, leaves shutdown as it is, and either leaves the
forwarder's end alone or aborts it. -/
structure JoinMove (w : World) (s : Supervisor) (c : Component) (w' : World) : Prop where
  supervisor : ∃ s', w'.supervisor = some s' ∧ s'.settings = s.settings ∧ s'.restarts = s.restarts ∧
    s'.failure = s.failure ∧ (∀ e, s.stopFault = some e → s'.stopFault = some e) ∧
    ((∃ c' d', s'.stage = .joining c' d' ∧ (c' = .forwarder → c = .forwarder ∧ s'.stopFault = s.stopFault)) ∨
      ∃ t, s'.stage = .finished (s'.result w'.shared.line.metrics) t)
  forwarder : w'.forwarderEnd? = w.forwarderEnd? ∨
    (w.forwarderEnd? = none ∧ w'.forwarderEnd? = some .aborted)
  cancelled : w'.shared.cancelled = w.shared.cancelled
  metrics : w'.shared.line.metrics = w.shared.line.metrics

namespace JoinMove

variable {w w' : World} {s : Supervisor} {c : Component} {d : Nat}

/-- The supervisor waits on for the same component. -/
theorem stay (hj : s.stage = .joining c d) : JoinMove w s c { w with supervisor := some s } :=
  ⟨⟨s, rfl, rfl, rfl, rfl, fun _ h => h, .inl ⟨c, d, hj, fun h => ⟨h, rfl⟩⟩⟩, .inl rfl, rfl, rfl⟩

/-- The supervisor moves on to a later component than the forwarder as `s₁`, keeping its
settings, restarts and failure and the first fault of the wait. -/
theorem next (s₁ : Supervisor) {c' : Component} (hs : w'.supervisor = some { s₁ with stage := .joining c' d })
    (hc' : c' ≠ .forwarder) (hk : s.WaitKeeps s₁)
    (hf : w'.forwarderEnd? = w.forwarderEnd? ∨ (w.forwarderEnd? = none ∧ w'.forwarderEnd? = some .aborted))
    (hc : w'.shared.cancelled = w.shared.cancelled) (hm : w'.shared.line.metrics = w.shared.line.metrics) :
    JoinMove w s c w' :=
  ⟨⟨_, hs, hk.1, hk.2.1, hk.2.2.1, hk.2.2.2, .inl ⟨c', d, rfl, fun h => absurd h hc'⟩⟩, hf, hc, hm⟩

/-- The supervisor finishes as `s₁` with the result of its counters. -/
theorem finish (s₁ : Supervisor) (hk : s.WaitKeeps s₁) :
    JoinMove w s c
      { w with supervisor := some { s₁ with stage := .finished (s₁.result w.shared.line.metrics) w.now } } :=
  ⟨⟨_, rfl, hk.1, hk.2.1, hk.2.2.1, hk.2.2.2, .inr ⟨_, rfl⟩⟩, .inl rfl, rfl, rfl⟩

end JoinMove

theorem joinTask_move (w : World) (s : Supervisor) {c : Component} {d : Nat}
    (hj : s.stage = .joining c d) : JoinMove w s c (w.joinTask s c d) := by
  unfold World.joinTask
  cases c with
  | forwarder =>
    dsimp only
    by_cases hheld : s.forwarderHeld = true
    · cases hr : w.forwarderEnd? with
      | some r =>
        simp only [hheld, if_true]
        exact .next _ rfl (by decide) (s.forwarderStopped_keeps r) (.inl rfl) rfl rfl
      | none =>
        simp only [hheld, if_true]
        by_cases hlate : d ≤ w.now
        · -- past the grace the forwarder is aborted
          simp only [hlate, if_true]
          refine .next { s.fault (.shutdownTimedOut .forwarder s.settings.shutdownGrace) with
            forwarderHeld := false } rfl (by decide) (s.fault_keeps _) ?_ rfl rfl
          cases hf : w.forwarder with
          | none => exact .inl (by simp [World.forwarderEnd?, hf])
          | some f => exact .inr ⟨hr, by simp [World.forwarderEnd?, ForwardTask.stop, ForwardTask.result?]⟩
        · simp only [hlate, if_false]
          exact .stay hj
    · simp only [hheld]
      exact .next _ rfl (by decide) (s.forwarderStopped_keeps .aborted) (.inl rfl) rfl rfl
  | stream =>
    -- the wait on the stream client reads its stage; the world changes in its supervisor alone
    rcases w with ⟨sh, stream, fw, sn, sup, pr, sa, wa⟩
    dsimp only
    by_cases hs : s.streamHeld = true
    · cases stream with
      | none =>
        simp only [hs, Bool.not_true, Bool.false_eq_true, if_false]
        exact .next { s with streamHeld := false } rfl (by decide) (.refl s) (.inl rfl) rfl rfl
      | some t =>
        cases hst : t.stage
        case stopped r endedAt =>
          cases r with
          | ok u =>
            simp only [hs, hst, Bool.not_true, Bool.false_eq_true, if_false]
            exact .next { s with streamHeld := false } rfl (by decide) (.refl s) (.inl rfl) rfl rfl
          | error err =>
            simp only [hs, hst, Bool.not_true, Bool.false_eq_true, if_false]
            exact .next _ rfl (by decide) (({ s with streamHeld := false } : Supervisor).fault_keeps _)
              (.inl rfl) rfl rfl
        all_goals
          by_cases hlate : d ≤ sh.now
          · simp only [World.now, hs, hst, hlate, Bool.not_true, Bool.false_eq_true, if_false, if_true]
            exact .next { s.fault (.shutdownTimedOut .stream s.settings.shutdownGrace) with
              streamHeld := false } rfl (by decide) (s.fault_keeps _) (.inl rfl) rfl rfl
          · simp only [World.now, hs, hst, hlate, Bool.not_true, Bool.false_eq_true, if_false]
            exact .stay hj
    · rw [if_pos (show (!s.streamHeld) = true by simpa using hs)]
      exact .next s rfl (by decide) (.refl s) (.inl rfl) rfl rfl
  | snapshot =>
    -- the wait ends with the scheduler: the supervisor finishes with the result of its counters
    dsimp only
    by_cases hheld : s.snapshotHeld = true
    · rw [if_neg (by simpa using hheld)]
      by_cases hdone : w.snapshotDone = true
      · rw [if_pos hdone]
        obtain ⟨-, hfail, hstop, hset, hres⟩ := s.snapshotStopped_facts w.snapshotPanic
        exact .finish _ ⟨hset, hres, hfail, hstop⟩
      · rw [if_neg hdone]
        by_cases hlate : d ≤ w.now
        · rw [if_pos hlate]
          exact .finish { s.fault (.shutdownTimedOut .snapshot s.settings.shutdownGrace) with
            snapshotHeld := false } (s.fault_keeps _)
        · rw [if_neg hlate]
          exact .stay hj
    · rw [if_pos (by simpa using hheld)]
      exact .finish s (.refl s)

/-- What the supervisor's look at the ended tasks gives: a restart of the failed forwarder it
holds, below the limit, with the event it gave up on first; or a supervisor with the same
settings, restarts and fault, still watching, in a world with the same forwarder, shutdown and
supervisor. -/
inductive SeenEnd (w : World) (s : Supervisor) : World × Supervisor → Prop where
  | restart {f : ForwardTask} {err : SinkError} {e : Event} (hheld : s.forwarderHeld = true)
      (hf : w.forwarder = some f) (hr : f.result? = some (.failed err e))
      (hlt : s.restarts < s.settings.maxForwarderRestarts) :
      SeenEnd w s ({ w with forwarder := some (f.retransmitFirst e) }, { s with restarts := s.restarts + 1 })
  | other {w₁ : World} {s₁ : Supervisor} (hset : s₁.settings = s.settings) (hres : s₁.restarts = s.restarts)
      (hstop : s₁.stopFault = s.stopFault) (hstage : s₁.stage = s.stage)
      (hf : w₁.forwarder = w.forwarder) (hc : w₁.shared.cancelled = w.shared.cancelled)
      (hm : w₁.shared.line.metrics = w.shared.line.metrics) : SeenEnd w s (w₁, s₁)

theorem seenEnd_move (w : World) (s : Supervisor) : SeenEnd w s (w.seenEnd s) := by
  unfold World.seenEnd
  split
  · rename_i r hend
    have hheld : s.forwarderHeld = true := by
      by_contra hn
      simp [hn] at hend
    obtain ⟨f, hf, hr⟩ : ∃ f, w.forwarder = some f ∧ f.result? = some r := by
      cases hf : w.forwarder with
      | none => simp [hheld, World.forwarderEnd?, hf] at hend
      | some f => exact ⟨f, rfl, by simpa [hheld, World.forwarderEnd?, hf] using hend⟩
    cases r with
    | drained n => exact .other rfl rfl rfl rfl rfl rfl rfl
    | failed err e =>
      by_cases hlt : s.restarts < s.settings.maxForwarderRestarts
      · simp only [Supervisor.forwarderEnded, hlt, if_true, hf, Option.map_some]
        exact .restart hheld hf hr hlt
      · simp only [Supervisor.forwarderEnded, hlt, if_false]
        exact .other rfl rfl rfl rfl rfl rfl rfl
    | panicked m => exact .other rfl rfl rfl rfl rfl rfl rfl
    | aborted => exact .other rfl rfl rfl rfl rfl rfl rfl
  · -- the stream client's or the scheduler's end changes the supervisor alone
    split
    · have hkeeps := s.streamEnded_keeps
      exact .other (hkeeps _).1 (hkeeps _).2.1 (hkeeps _).2.2.1 (hkeeps _).2.2.2 rfl rfl rfl
    · split
      · obtain ⟨hstage, -, hstop, -, hset, hres⟩ := s.snapshotEnded_facts w.snapshotPanic
        exact .other hset hres hstop hstage rfl rfl rfl
      · exact .other rfl rfl rfl rfl rfl rfl rfl

/-- What a move of the supervisor does. -/
inductive Oversees (w : World) (s : Supervisor) : World → Prop where
  /-- Watching with shutdown not asked, it restarts the failed forwarder it holds, below the
  limit, with the event it gave up on first, and counts the restart. -/
  | restart {f : ForwardTask} {err : SinkError} {e : Event} (hw : s.stage = .watching)
      (hc : w.shared.cancelled = false) (hheld : s.forwarderHeld = true) (hf : w.forwarder = some f)
      (hr : f.result? = some (.failed err e)) (hlt : s.restarts < s.settings.maxForwarderRestarts) :
      Oversees w s { w with
        forwarder := some (f.retransmitFirst e)
        supervisor := some { s with restarts := s.restarts + 1 } }
  /-- It watches on, with no failure found. -/
  | watch {w' : World} {s' : Supervisor} (hw : s.stage = .watching) (hs' : w'.supervisor = some s')
      (hset : s'.settings = s.settings) (hres : s'.restarts = s.restarts) (hfail : s'.failure = none)
      (hstop : s'.stopFault = s.stopFault) (hstage : s'.stage = .watching)
      (hf : w'.forwarder = w.forwarder) (hc : w'.shared.cancelled = w.shared.cancelled)
      (hm : w'.shared.line.metrics = w.shared.line.metrics) : Oversees w s w'
  /-- The watch ends: shutdown is asked, and the wait begins with the forwarder. -/
  | stop {w' : World} {s' : Supervisor} {d : Nat} (hw : s.stage = .watching)
      (hs' : w'.supervisor = some s') (hset : s'.settings = s.settings) (hres : s'.restarts = s.restarts)
      (hstop : s'.stopFault = s.stopFault) (hstage : s'.stage = .joining .forwarder d)
      (hf : w'.forwarder = w.forwarder) (hc : w'.shared.cancelled = true)
      (hm : w'.shared.line.metrics = w.shared.line.metrics) : Oversees w s w'
  | join {w' : World} {c : Component} {d : Nat} (hj : s.stage = .joining c d) (hm : JoinMove w s c w') :
      Oversees w s w'
  | finished {r : Except PipelineError RunSummary} {t : Nat} (hst : s.stage = .finished r t) :
      Oversees w s w

/-- The end of the watch, whatever it found, from the world and supervisor the look left. -/
theorem Oversees.beginJoin {w w₁ : World} {s s₁ : Supervisor} (hw : s.stage = .watching)
    (hset : s₁.settings = s.settings) (hres : s₁.restarts = s.restarts)
    (hstop : s₁.stopFault = s.stopFault) (hf : w₁.forwarder = w.forwarder)
    (hm : w₁.shared.line.metrics = w.shared.line.metrics) : Oversees w s (w₁.beginJoin s₁) :=
  .stop hw rfl hset hres hstop rfl hf rfl hm

/-- A move of the supervisor while it watches, with no failure found yet. -/
theorem watchTasks_move {w : World} {s : Supervisor} (hw : s.stage = .watching) (hfail : s.failure = none) :
    Oversees w s (w.watchTasks s) := by
  unfold World.watchTasks
  split
  · exact .beginJoin hw rfl rfl rfl rfl rfl
  · rename_i hc
    have hc' : w.shared.cancelled = false := by simpa using hc
    have hseen := seenEnd_move w s
    generalize w.seenEnd s = ws at hseen
    cases hseen with
    | restart hheld hf hr hlt =>
      -- the supervisor holds the restarted forwarder, so the watch goes on
      have hover : ({ s with restarts := s.restarts + 1 } : Supervisor).watchOver = false := by
        simp [Supervisor.watchOver, hfail, hheld]
      simp only [hover, Bool.false_eq_true, if_false]
      exact .restart hw hc' hheld hf hr hlt
    | @other w₁ s₁ hset hres hstop hstage hf hcan hmet =>
      dsimp only
      split
      · exact .beginJoin hw hset hres hstop hf hmet
      · rename_i hover
        have hnone : s₁.failure = none := by
          simp only [Supervisor.watchOver, Bool.or_eq_true, not_or] at hover
          exact Option.not_isSome_iff_eq_none.1 hover.1
        exact .watch hw rfl hset hres hnone hstop (hstage.trans hw) hf hcan hmet

/-- Every move of the supervisor is one of those `Oversees` lists, as long as a supervisor
that watches has found no failure. -/
theorem supervise_move {w : World} {s : Supervisor} (hs : w.supervisor = some s)
    (hfail : s.stage = .watching → s.failure = none) : Oversees w s w.supervise := by
  unfold World.supervise
  rw [hs]
  dsimp only
  rcases hstage : s.stage with _ | ⟨c, d⟩ | ⟨r, t⟩ <;> simp only
  case watching => exact watchTasks_move hstage (hfail hstage)
  case joining => exact .join hstage (joinTask_move w s hstage)
  case finished => exact .finished hstage

namespace World

variable {w w' : World}

/-- A move is the supervisor's; or it leaves the supervisor alone, keeps the end of a forwarder
that has ended, and keeps shutdown asked. -/
theorem Moves.supervise_or_keeps (h : w.Accounted) (hm : Moves w w') :
    w' = w.supervise ∨ (w'.supervisor = w.supervisor ∧
      (∀ r, w.forwarderEnd? = some r → w'.forwarderEnd? = some r) ∧
      (w.shared.cancelled = true → w'.shared.cancelled = true)) := by
  obtain ⟨s, -, hp, f, t, st, hf, ht, hst, hl⟩ := h
  cases hm with
  | tick => exact .inr ⟨rfl, fun _ hr => hr, id⟩
  | move m =>
    cases m with
    | supervisor => exact .inl rfl
    | watch =>
      obtain ⟨wa, sa, heq⟩ := w.move_watch
      rw [heq]
      exact .inr ⟨rfl, fun _ hr => hr, id⟩
    | stream =>
      have hc := (StreamTask.step_keeps hl.stream).2.2.cancelled
      rcases hstep : t.step w.shared with ⟨t', sh'⟩
      rw [hstep] at hc
      simp only [World.move, ht, hstep]
      exact .inr ⟨trivial, fun _ hr => hr, fun hc' => by simpa [hc'] using hc⟩
    | forwarder =>
      have hc : (f.step w.shared).2.ledger.cancelled = w.shared.ledger.cancelled :=
        ForwardTask.step_effect.cancelled
      rcases hstep : f.step w.shared with ⟨f', sh'⟩
      rw [hstep] at hc
      simp only [World.move, hf, hstep]
      refine .inr ⟨trivial, fun r hr => ?_, fun hc' => by simpa [hc'] using hc⟩
      -- a forwarder that ended does nothing more
      rw [forwarderEnd_eq hf] at hr
      rw [ForwardTask.step_of_result hr] at hstep
      cases hstep
      simpa [World.forwarderEnd?] using hr
    | snapshot =>
      have hc := (SnapshotTask.step_keeps hl.snapshot).2.2.cancelled
      rcases hstep : st.step w.shared with ⟨st', sh'⟩
      rw [hstep] at hc
      simp only [World.move, hst, hstep]
      exact .inr ⟨trivial, fun _ hr => hr, fun hc' => by simpa [hc'] using hc⟩
    | probe =>
      simp only [World.move, hp]
      exact .inr ⟨trivial, fun _ hr => hr, id⟩
    | shutdown => exact .inr ⟨rfl, fun _ hr => hr, fun _ => rfl⟩
    | exchange =>
      rcases hadv : w.shared.exchange.advance w.now with ⟨x, stop⟩
      simp only [World.move, hadv]
      exact .inr ⟨trivial, fun _ hr => hr, fun hc => by simp [hc]⟩

/-- A move after which a forwarder that had ended in failure runs again. -/
def Restarted (w w' : World) : Prop :=
  (∃ err e, w.forwarderEnd? = some (.failed err e)) ∧ w'.forwarderEnd? = none

theorem not_restarted_of_keeps (h : ∀ r, w.forwarderEnd? = some r → w'.forwarderEnd? = some r) :
    ¬ Restarted w w' := by
  rintro ⟨⟨err, e, hr⟩, hnone⟩
  rw [h _ hr] at hnone
  cases hnone

theorem not_restarted_of_forwarder (h : w'.forwarder = w.forwarder) : ¬ Restarted w w' :=
  not_restarted_of_keeps fun _ hr => by rw [forwarderEnd?, h]; exact hr

end World

/-- The wait restarts nothing: it leaves the forwarder's end alone or aborts a running run. -/
theorem JoinMove.not_restarted {w w' : World} {s : Supervisor} {c : Component} (hm : JoinMove w s c w') :
    ¬ World.Restarted w w' := by
  rintro ⟨⟨err, e, hr⟩, hnone⟩
  rcases hm.forwarder with hf | ⟨-, hf⟩ <;> rw [hf] at hnone
  · rw [hr] at hnone
    cases hnone
  · cases hnone

/-! ## The supervision along a run -/

/-- What the supervision keeps along a run with restart limit `R` that restarted the forwarder
`n` times: the supervisor counts the restarts; while it watches it has found no failure and no
fault; once the watch is over shutdown has been asked; the wait on the forwarder is the first
and finds no fault before it; and a finished supervisor's result is that of its counters. -/
structure Oversight (R n : Nat) (w : World) (s : Supervisor) : Prop where
  limit : s.settings.maxForwarderRestarts = R
  restarts : s.restarts = n
  bounded : n ≤ R
  watching : s.stage = .watching → s.failure = none ∧ s.stopFault = none
  cancelled : s.stage = .watching ∨ w.shared.cancelled = true
  joiningForwarder : ∀ d, s.stage = .joining .forwarder d → s.stopFault = none
  finished : ∀ r t, s.stage = .finished r t → ∃ m, r = s.result m

/-- What one move does to the supervision, for the supervisor `s` before it and `s'` after,
with restart limit `R`. -/
structure SupervisedMove (R : Nat) (w : World) (s : Supervisor) (w' : World) (s' : Supervisor) :
    Prop where
  /-- A restart is the supervisor's, made while it watches with shutdown not asked, on a failure
  of the forwarder it holds below the limit: the same forwarder runs again with the event it
  gave up on first, the restart is counted, and the watch goes on. -/
  restart : World.Restarted w w' → ∃ f err e, s.stage = .watching ∧ w.shared.cancelled = false ∧
    s.forwarderHeld = true ∧ w.forwarder = some f ∧ f.result? = some (.failed err e) ∧
    s.restarts < R ∧ w'.forwarder = some (f.retransmitFirst e) ∧ s'.restarts = s.restarts + 1 ∧
    s'.stage = .watching
  /-- Any other move keeps the count. -/
  counted : ¬ World.Restarted w w' → s'.restarts = s.restarts
  /-- A failure, once found, stays, and only the watch finds one. -/
  failureStays : ∀ f, s.failure = some f → s'.failure = some f
  foundInWatch : s.stage = .watching ∨ s'.failure = s.failure
  /-- The first fault of the wait stays. -/
  faultStays : ∀ e, s.stopFault = some e → s'.stopFault = some e

namespace SupervisedMove

variable {R : Nat} {w w' : World} {s s' : Supervisor}

/-- A move that restarts nothing, keeps the count, and keeps every failure and fault found. -/
theorem of_unrestarted (hnot : ¬ World.Restarted w w') (hres : s'.restarts = s.restarts)
    (hfail : ∀ f, s.failure = some f → s'.failure = some f)
    (hfound : s.stage = .watching ∨ s'.failure = s.failure)
    (hstop : ∀ e, s.stopFault = some e → s'.stopFault = some e) : SupervisedMove R w s w' s' :=
  ⟨fun h => absurd h hnot, fun _ => hres, hfail, hfound, hstop⟩

/-- A move of a supervisor that watches with no failure and no fault, restarting nothing. -/
theorem of_watching (hw : s.stage = .watching) (hnone : s.failure = none) (hclean : s.stopFault = none)
    (hnot : ¬ World.Restarted w w') (hres : s'.restarts = s.restarts) : SupervisedMove R w s w' s' :=
  of_unrestarted hnot hres (fun _ h => nomatch hnone.symm.trans h) (.inl hw)
    (fun _ h => nomatch hclean.symm.trans h)

/-- A move that leaves the supervisor alone. -/
theorem same (hnot : ¬ World.Restarted w w') : SupervisedMove R w s w' s :=
  of_unrestarted hnot rfl (fun _ h => h) (.inr rfl) (fun _ h => h)

end SupervisedMove

namespace Oversight

variable {R n : Nat} {w w' : World} {s : Supervisor}

/-- A supervisor that watches with no failure and no fault, within the limit, keeps the
supervision. -/
theorem watching_of {n' : Nat} {s' : Supervisor} (hO : Oversight R n w s) (hset : s'.settings = s.settings)
    (hres : s'.restarts = n') (hbound : n' ≤ R) (hfail : s'.failure = none) (hstop : s'.stopFault = none)
    (hstage : s'.stage = .watching) : Oversight R n' w' s' :=
  ⟨by rw [hset, hO.limit], hres, hbound, fun _ => ⟨hfail, hstop⟩, .inl hstage,
    (fun _ h => nomatch hstage.symm.trans h), (fun _ _ h => nomatch hstage.symm.trans h)⟩

/-- A move that leaves the supervisor alone, keeps an ended forwarder ended and keeps shutdown
asked keeps the supervision. -/
theorem keeps (hO : Oversight R n w s)
    (hc : w.shared.cancelled = true → w'.shared.cancelled = true) :
    Oversight R n w' s :=
  { hO with cancelled := hO.cancelled.imp_right hc }

/-- What a move of the supervisor does to the supervision. -/
theorem oversees (hO : Oversight R n w s) (hs : w.supervisor = some s) (ho : Oversees w s w') :
    ∃ s', w'.supervisor = some s' ∧ SupervisedMove R w s w' s' ∧
      (World.Restarted w w' → Oversight R (n + 1) w' s') ∧
      (¬ World.Restarted w w' → Oversight R n w' s') := by
  cases ho with
  | @restart f err e hw hc hheld hf hr hlt =>
    obtain ⟨hnone, hstop⟩ := hO.watching hw
    have hrestarted : World.Restarted w { w with
        forwarder := some (f.retransmitFirst e)
        supervisor := some { s with restarts := s.restarts + 1 } } :=
      ⟨⟨err, e, by rw [World.forwarderEnd_eq hf, hr]⟩, rfl⟩
    have hbound : n + 1 ≤ R := by rw [← hO.limit, ← hO.restarts]; omega
    refine ⟨_, rfl, ⟨fun _ => ⟨f, err, e, hw, hc, hheld, hf, hr, hO.limit ▸ hlt, rfl, rfl, hw⟩,
      fun hn => absurd hrestarted hn, fun _ h => h, .inl hw, fun _ h => h⟩,
      fun _ => hO.watching_of rfl (by rw [hO.restarts]) hbound hnone hstop hw,
      fun hn => absurd hrestarted hn⟩
  | @watch w' s' hw hs' hset hres hfail hstop hstage hf hc =>
    have hnot := World.not_restarted_of_forwarder hf
    obtain ⟨hnone, hstop₀⟩ := hO.watching hw
    exact ⟨s', hs', .of_watching hw hnone hstop₀ hnot hres, fun h => absurd h hnot,
      fun _ => hO.watching_of hset (hres.trans hO.restarts) hO.bounded hfail (hstop.trans hstop₀) hstage⟩
  | @stop w' s' d hw hs' hset hres hstop hstage hf hc =>
    have hnot := World.not_restarted_of_forwarder hf
    obtain ⟨hnone, hstop₀⟩ := hO.watching hw
    refine ⟨s', hs', .of_watching hw hnone hstop₀ hnot hres, fun h => absurd h hnot, fun _ => ?_⟩
    -- the wait begins with the forwarder, with shutdown asked and no fault
    refine ⟨by rw [hset, hO.limit], hres.trans hO.restarts, hO.bounded, fun h => ?_, .inr hc,
      fun _ _ => hstop.trans hstop₀, fun r t h => ?_⟩
    · rw [hstage] at h
      cases h
    · rw [hstage] at h
      cases h
  | @join w' c d hj hm =>
    have hnot := hm.not_restarted
    obtain ⟨⟨s', hs', hset, hres, hfail, hstop, hstage⟩, -, hc, -⟩ := hm
    have hcan : w.shared.cancelled = true :=
      hO.cancelled.resolve_left fun h => nomatch h.symm.trans hj
    refine ⟨s', hs', .of_unrestarted hnot hres (fun f h => hfail ▸ h) (.inr hfail) hstop,
      fun h => absurd h hnot, fun _ => ⟨by rw [hset, hO.limit], hres.trans hO.restarts, hO.bounded,
      fun h => ?_, .inr (hc.trans hcan), fun d' h => ?_, fun r t h => ?_⟩⟩
    · rcases hstage with ⟨c', d', h', -⟩ | ⟨t, h'⟩ <;> rw [h'] at h <;> cases h
    · rcases hstage with ⟨c', d', h', hfw⟩ | ⟨t, h'⟩
      · rw [h'] at h
        cases h
        obtain ⟨rfl, hsame⟩ := hfw rfl
        exact hsame.trans (hO.joiningForwarder d hj)
      · rw [h'] at h
        cases h
    · rcases hstage with ⟨c', d', h', -⟩ | ⟨t', h'⟩
      · rw [h'] at h
        cases h
      · rw [h'] at h
        cases h
        exact ⟨_, rfl⟩
  | @finished r t hst =>
    have hnot : ¬ World.Restarted w w := World.not_restarted_of_forwarder rfl
    exact ⟨s, hs, .same hnot, fun h => absurd h hnot, fun _ => hO⟩

end Oversight

/-- A pipeline world under supervision: its tasks are accounted for, and its supervisor keeps
the supervision with restart limit `R` after `n` restarts. -/
def Supervised (R n : Nat) (w : World) : Prop :=
  w.Accounted ∧ ∃ s, w.supervisor = some s ∧ Oversight R n w s

/-- Every move keeps the supervision, counting one more restart exactly when it restarts the
forwarder. -/
theorem Supervised.moves {R n : Nat} {w w' : World} (h : Supervised R n w) (hm : World.Moves w w') :
    ∃ s s', w.supervisor = some s ∧ w'.supervisor = some s' ∧ SupervisedMove R w s w' s' ∧
      (World.Restarted w w' → Supervised R (n + 1) w') ∧
      (¬ World.Restarted w w' → Supervised R n w') := by
  obtain ⟨hacc, s, hs, hO⟩ := h
  have hacc' := (hacc.moves hm).1
  rcases hm.supervise_or_keeps hacc with rfl | ⟨hsup, hend, hc⟩
  · obtain ⟨s', hs', hmove, hup, hsame⟩ :=
      hO.oversees hs (supervise_move hs fun hw => (hO.watching hw).1)
    exact ⟨s, s', hs, hs', hmove, fun hr => ⟨hacc', s', hs', hup hr⟩,
      fun hr => ⟨hacc', s', hs', hsame hr⟩⟩
  · -- another task's move, or the clock's
    have hnot := World.not_restarted_of_keeps hend
    exact ⟨s, s, hs, hsup.trans hs, .same hnot, fun h => absurd h hnot,
      fun _ => ⟨hacc', s, hsup.trans hs, hO.keeps hc⟩⟩

/-- A run of the pipeline from `w₀` to `w` that restarted the forwarder `n` times. -/
inductive RestartRun (w₀ : World) : Nat → World → Prop where
  | start : RestartRun w₀ 0 w₀
  | restart {n : Nat} {w w' : World} : RestartRun w₀ n w → World.Moves w w' → World.Restarted w w' →
      RestartRun w₀ (n + 1) w'
  | keep {n : Nat} {w w' : World} : RestartRun w₀ n w → World.Moves w w' → ¬ World.Restarted w w' →
      RestartRun w₀ n w'

/-- Every run counts its restarts. -/
theorem RestartRun.of_moves {w₀ w : World} (hm : Relation.ReflTransGen World.Moves w₀ w) :
    ∃ n, RestartRun w₀ n w := by
  induction hm with
  | refl => exact ⟨0, .start⟩
  | @tail w w' _ hstep ih =>
    obtain ⟨n, hr⟩ := ih
    by_cases hre : World.Restarted w w'
    · exact ⟨n + 1, hr.restart hstep hre⟩
    · exact ⟨n, hr.keep hstep hre⟩

theorem Supervised.run {R n : Nat} {w₀ w : World} (h₀ : Supervised R 0 w₀) (hr : RestartRun w₀ n w) :
    Supervised R n w := by
  induction hr with
  | start => exact h₀
  | restart _ hm hre ih =>
    obtain ⟨_, _, _, _, _, hup, -⟩ := ih.moves hm
    exact hup hre
  | keep _ hm hre ih =>
    obtain ⟨_, _, _, _, _, -, hsame⟩ := ih.moves hm
    exact hsame hre

/-- A pipeline starts under supervision, with no restart made. -/
theorem PipelineSetup.start_supervised (setup : PipelineSetup) :
    Supervised setup.config.supervisorSettings.maxForwarderRestarts 0 setup.start :=
  ⟨setup.start_accounted, _, rfl, rfl, rfl, Nat.zero_le _, fun _ => ⟨rfl, rfl⟩, .inl rfl,
    (fun _ h => nomatch h), (fun _ _ h => nomatch h)⟩

/-! ## Failures -/

section Failures

variable {w : World} {s : Supervisor}

/-- A failure of the forwarder at the restart limit, seen while shutdown is not asked, ends
the watch with a forwarder failure counting the restarts and carrying its error: shutdown is
asked, and the wait begins with the forwarder. -/
theorem watchTasks_escalates {f : ForwardTask} {err : SinkError} {e : Event}
    (hc : w.shared.cancelled = false) (hheld : s.forwarderHeld = true) (hf : w.forwarder = some f)
    (hr : f.result? = some (.failed err e)) (hlimit : s.restarts = s.settings.maxForwarderRestarts) :
    ∃ s' d, (w.watchTasks s).supervisor = some s' ∧ s'.failure = some (.forwarder s.restarts err) ∧
      s'.stage = .joining .forwarder d ∧ (w.watchTasks s).shared.cancelled = true := by
  have hend : w.forwarderEnd? = some (.failed err e) := by rw [World.forwarderEnd_eq hf, hr]
  unfold World.watchTasks World.seenEnd
  simp only [hc, hheld, hend, Supervisor.forwarderEnded, hlimit, Nat.lt_irrefl, if_true, if_false,
    Bool.false_eq_true, Supervisor.watchOver, Option.isSome_some, Bool.true_or]
  exact ⟨_, _, rfl, rfl, rfl, rfl⟩

/-- A stream client that ended with an error, seen while shutdown is not asked and before any
end of the forwarder, ends the watch with that error: shutdown is asked, and the wait begins. -/
theorem watchTasks_streamFails {t : StreamTask} {err : ConnectionError} {endedAt : Nat}
    (hc : w.shared.cancelled = false) (hfw : s.forwarderHeld = false ∨ w.forwarderEnd? = none)
    (hheld : s.streamHeld = true) (ht : w.stream = some t) (hst : t.stage = .stopped (.error err) endedAt) :
    ∃ s' d, (w.watchTasks s).supervisor = some s' ∧ s'.failure = some (.stream err) ∧
      s'.stage = .joining .forwarder d ∧ (w.watchTasks s).shared.cancelled = true := by
  have hnone : (if s.forwarderHeld then w.forwarderEnd? else none) = none := by
    rcases hfw with h | h <;> simp [h]
  obtain ⟨_, _, _, _, stage, _, _, _, _⟩ := t
  cases hst
  unfold World.watchTasks World.seenEnd
  simp only [hc, hnone, hheld, ht, if_true, if_false, Bool.false_eq_true, Supervisor.streamEnded,
    Supervisor.watchOver, Option.isSome_some, Bool.true_or]
  exact ⟨_, _, rfl, rfl, rfl, rfl⟩

/-- A forwarder that ended in failure while the supervisor waits for it is let go of, and its
failure is a forwarder failure counting the restarts, kept as a fault of the wait unless an
earlier one was. -/
theorem joinTask_forwarderFails {d : Nat} {f : ForwardTask} {err : SinkError} {e : Event}
    (hheld : s.forwarderHeld = true) (hf : w.forwarder = some f) (hr : f.result? = some (.failed err e)) :
    ∃ s', (w.joinTask s .forwarder d).supervisor = some s' ∧
      s'.stopFault = (s.stopFault <|> some (.forwarder s.restarts err)) ∧ s'.failure = s.failure := by
  have hend : w.forwarderEnd? = some (.failed err e) := by rw [World.forwarderEnd_eq hf, hr]
  unfold World.joinTask
  simp only [hheld, if_true, hend, Supervisor.forwarderStopped, Supervisor.fault]
  exact ⟨_, rfl, rfl, rfl⟩

end Failures

namespace World

variable {w : World} {s : Supervisor}

theorem outcome_eq_some (hs : w.supervisor = some s) {r : Except PipelineError RunSummary}
    (h : w.outcome? = some r) : ∃ t, s.stage = .finished r t := by
  rw [World.outcome?, hs] at h
  rcases s with ⟨_, _, _, _, _, _, _, _, _, stage⟩
  cases stage <;> simp_all

theorem supervise_watching (hs : w.supervisor = some s) (hw : s.stage = .watching) :
    w.supervise = w.watchTasks s := by
  simp [World.supervise, hs, hw]

theorem supervise_joining (hs : w.supervisor = some s) {c : Component} {d : Nat}
    (hj : s.stage = .joining c d) : w.supervise = w.joinTask s c d := by
  simp [World.supervise, hs, hj]

end World

/-! ## The law of supervision -/

/-- The supervision of a pipeline with restart limit `R`, at a world its run reached with `n`
restarts of the forwarder, under supervisor `s`. -/
structure SupervisionLaw (R n : Nat) (w : World) (s : Supervisor) : Prop where
  /-- The supervisor counts every restart, and there were at most `R`. -/
  restarts : s.restarts = n
  bounded : n ≤ R
  /-- Once the watch is over, shutdown has been asked. -/
  cancelledAfterWatch : s.stage = .watching ∨ w.shared.cancelled = true
  /-- A failure found in the watch is the outcome, whatever the wait finds; -/
  failureFirst : ∀ f r, s.failure = some f → w.outcome? = some r → r = .error f
  /-- any other failed outcome is the first fault of the wait; -/
  faultNext : ∀ e, w.outcome? = some (.error e) →
    s.failure = some e ∨ (s.failure = none ∧ s.stopFault = some e)
  /-- and the pipeline ends well only with no failure and no fault, reporting the restarts made. -/
  okClean : ∀ summary, w.outcome? = some (.ok summary) →
    s.failure = none ∧ s.stopFault = none ∧ summary.forwarderRestarts = n
  moves : ∀ w', World.Moves w w' → ∃ s', w'.supervisor = some s' ∧ SupervisedMove R w s w' s'
  /-- After `R` restarts, the next failure of the forwarder that the watch sees ends it with a
  forwarder failure counting `R` restarts, with that failure's error; -/
  escalates : ∀ f err e, s.stage = .watching → w.shared.cancelled = false → s.forwarderHeld = true →
    w.forwarder = some f → f.result? = some (.failed err e) → n = R →
    ∃ s' d, (w.move .supervisor).supervisor = some s' ∧ s'.failure = some (.forwarder R err) ∧
      s'.stage = .joining .forwarder d ∧ (w.move .supervisor).shared.cancelled = true
  /-- a stream client that gave up ends it with a stream failure; -/
  streamFails : ∀ t err endedAt, s.stage = .watching → w.shared.cancelled = false →
    (s.forwarderHeld = false ∨ w.forwarderEnd? = none) → s.streamHeld = true → w.stream = some t →
    t.stage = .stopped (.error err) endedAt →
    ∃ s' d, (w.move .supervisor).supervisor = some s' ∧ s'.failure = some (.stream err) ∧
      s'.stage = .joining .forwarder d ∧ (w.move .supervisor).shared.cancelled = true
  /-- and a failure of the forwarder after the watch is the first fault of the wait, a forwarder
  failure counting the restarts made. -/
  lateFailure : ∀ f err e d, s.stage = .joining .forwarder d → s.forwarderHeld = true →
    w.forwarder = some f → f.result? = some (.failed err e) →
    ∃ s', (w.move .supervisor).supervisor = some s' ∧ s'.stopFault = some (.forwarder n err) ∧
      s'.failure = s.failure

theorem Supervised.law {R n : Nat} {w : World} (h : Supervised R n w) :
    ∃ s, w.supervisor = some s ∧ SupervisionLaw R n w s := by
  obtain ⟨-, s, hs, hO⟩ := id h
  -- a finished supervisor's outcome is the result of its counters
  have hresult : ∀ r, w.outcome? = some r → ∃ m, r = s.result m := fun r hr =>
    let ⟨t, ht⟩ := World.outcome_eq_some hs hr
    hO.finished r t ht
  refine ⟨s, hs, hO.restarts, hO.bounded, hO.cancelled, fun f r hf hr => ?_, fun e he => ?_,
    fun summary hok => ?_, fun w' hm => ?_, fun f err e hw hc hheld hf hr hn => ?_,
    fun t err endedAt hw hc hfw hheld ht hst => ?_, fun f err e d hj hheld hf hr => ?_⟩
  · obtain ⟨m, rfl⟩ := hresult r hr
    exact result_failure s m f hf
  · obtain ⟨m, hm⟩ := hresult _ he
    exact Supervisor.result_eq_error hm.symm
  · obtain ⟨m, hm⟩ := hresult _ hok
    obtain ⟨hfail, hstop, hres⟩ := Supervisor.result_eq_ok hm.symm
    exact ⟨hfail, hstop, hres.trans hO.restarts⟩
  · obtain ⟨s₀, s', hs₀, hs', hmove, -⟩ := h.moves hm
    cases hs.symm.trans hs₀
    exact ⟨s', hs', hmove⟩
  · have hlimit : s.restarts = s.settings.maxForwarderRestarts := by rw [hO.restarts, hO.limit, hn]
    obtain ⟨s', d, hs', hfail, hstage, hcan⟩ := watchTasks_escalates hc hheld hf hr hlimit
    rw [hO.restarts, hn] at hfail
    exact ⟨s', d, by rw [World.move, World.supervise_watching hs hw]; exact hs', hfail, hstage,
      by rw [World.move, World.supervise_watching hs hw]; exact hcan⟩
  · obtain ⟨s', d, hs', hfail, hstage, hcan⟩ := watchTasks_streamFails hc hfw hheld ht hst
    exact ⟨s', d, by rw [World.move, World.supervise_watching hs hw]; exact hs', hfail, hstage,
      by rw [World.move, World.supervise_watching hs hw]; exact hcan⟩
  · obtain ⟨s', hs', hstop, hfail⟩ := joinTask_forwarderFails (d := d) hheld hf hr
    rw [hO.joiningForwarder d hj, hO.restarts] at hstop
    exact ⟨s', by rw [World.move, World.supervise_joining hs hj]; exact hs', hstop, hfail⟩

/-- The supervision of every run of a pipeline, under every interleaving of its tasks, whatever
the forwarder, the stream client and the exchange do and whenever shutdown comes. Every run
counts its restarts of the forwarder, and with restart limit `R`: the supervisor counts them,
and there are at most `R`; a restart happens only on a failure of the forwarder seen while the
supervisor watches with shutdown not asked, and runs the same forwarder again with the event
it gave up on first; after `R` restarts, the next such failure ends the watch with a forwarder
failure counting `R` restarts, with that failure's error, and a stream client that gave up ends
it with a stream failure; a forwarder failure after the watch is reported as a forwarder
failure counting the restarts made; once the watch is over shutdown has been asked; a failure
found in the watch stays, and is the outcome whatever the wait finds; and the pipeline ends
well only with no failure, reporting the restarts made. -/
theorem supervision_policy (setup : PipelineSetup) {w : World}
    (hw : Relation.ReflTransGen World.Moves setup.start w) :
    (∃ n, RestartRun setup.start n w) ∧
      ∀ n, RestartRun setup.start n w → ∃ s, w.supervisor = some s ∧
        SupervisionLaw setup.config.supervisorSettings.maxForwarderRestarts n w s :=
  ⟨RestartRun.of_moves hw, fun _ hr => (setup.start_supervised.run hr).law⟩

/-- The law along a run of a pipeline of the default configuration shut down at once, which
ends well with no restart. -/
theorem supervision_policy_after_shutdown :
    let setup : PipelineSetup := { config := Config.RelayConfig.forSymbol "BTCUSDT" }
    let w := [Mover.shutdown, .stream, .snapshot, .forwarder, .forwarder, .supervisor, .supervisor,
      .supervisor, .supervisor].foldl World.move setup.start
    Relation.ReflTransGen World.Moves setup.start w ∧ (∃ summary, w.outcome? = some (.ok summary)) ∧
      ((∃ n, RestartRun setup.start n w) ∧
        ∀ n, RestartRun setup.start n w → ∃ s, w.supervisor = some s ∧
          SupervisionLaw setup.config.supervisorSettings.maxForwarderRestarts n w s) := by
  intro setup w
  have hw : Relation.ReflTransGen World.Moves setup.start w := World.reaches_foldl_move _ _
  exact ⟨hw, shutdown_at_start_ends_ok, supervision_policy setup hw⟩

end BookRelay.Scenario
