import BookRelay.Proofs.ConnectionStates

/-! # The reconnect policy of the stream client

The stream client counts the failed connection attempts in a row, starting again from zero
when a session opens, and gives up once they reach the attempt limit `max(a, 1)`; without a
limit it never gives up. Between attempts it waits the backoff of a retry count: the failed
attempts of the current streak, plus one when the streak follows a lost session. Its loop
ends well only on shutdown.

The policy is read off a run as a history of *sightings*: each failed attempt with its error,
each session opened, each session lost, and each wait with its length. `StreamTask.Turn` says
what each move shows of the policy, and every move shows something (`step_turn`); the
invariant `Policy` ties the client's counts and stage to the history, and gives the law of
the policy along every run (`reconnect_policy`). -/

namespace BookRelay.Time

/-! ## Backoff lengths -/

theorem Duration.toMillis_eq (d : Duration) : d.toMillis = d.toNanos / 1000000 := by
  unfold Duration.toMillis Duration.toNanos nanosPerSec
  omega

theorem Duration.toNanos_min (a b : Duration) :
    (Duration.min a b).toNanos = Min.min a.toNanos b.toNanos := by
  unfold Duration.min Duration.le
  split
  · rename_i h
    simp only [decide_eq_true_eq] at h
    omega
  · rename_i h
    simp only [decide_eq_true_eq] at h
    omega

/-- Saturating at `max` caps the length at that of `max`. -/
theorem Duration.toNanos_ofNanosSat (n : Nat) :
    (Duration.ofNanosSat n).toNanos = Min.min n Duration.max.toNanos := by
  unfold Duration.ofNanosSat Duration.max Duration.toNanos nanosPerSec
  split
  · rename_i h
    simp only [Nat.pow_eq, Nat.reducePow] at h ⊢
    omega
  · rename_i h
    simp only [Nat.pow_eq, Nat.reducePow] at h ⊢
    omega

end BookRelay.Time

namespace BookRelay.Pipeline

open BookRelay.Time

theorem backoffDelay_toNanos (retry : Nat) (initial max : Duration) :
    (backoffDelay retry initial max).toNanos =
      Min.min (Min.min (initial.toNanos * Nat.pow 2 (Min.min (retry - 1) 31)) Duration.max.toNanos)
        max.toNanos := by
  rw [backoffDelay, Duration.toNanos_min, Duration.mulSat, Duration.toNanos_ofNanosSat]

/-- No backoff is longer than the longest. -/
theorem backoffDelay_toMillis_le (retry : Nat) (initial max : Duration) :
    (backoffDelay retry initial max).toMillis ≤ max.toMillis := by
  rw [Duration.toMillis_eq, Duration.toMillis_eq, backoffDelay_toNanos]
  exact Nat.div_le_div_right (Nat.min_le_right _ _)

/-- A higher retry count never waits less. -/
theorem backoffDelay_toMillis_mono {r r' : Nat} (h : r ≤ r') (initial max : Duration) :
    (backoffDelay r initial max).toMillis ≤ (backoffDelay r' initial max).toMillis := by
  rw [Duration.toMillis_eq, Duration.toMillis_eq, backoffDelay_toNanos, backoffDelay_toNanos]
  have hpow : Nat.pow 2 (Min.min (r - 1) 31) ≤ Nat.pow 2 (Min.min (r' - 1) 31) := by
    simp only [Nat.pow_eq]
    exact Nat.pow_le_pow_right (by omega) (by omega)
  have hmul := Nat.mul_le_mul_left initial.toNanos hpow
  -- the lengths before capping, in order
  generalize initial.toNanos * Nat.pow 2 (Min.min (r - 1) 31) = a at hmul ⊢
  generalize initial.toNanos * Nat.pow 2 (Min.min (r' - 1) 31) = b at hmul ⊢
  exact Nat.div_le_div_right (by omega)

/-- Retry count one waits the initial backoff, capped by the longest. -/
theorem backoffDelay_one_toMillis {initial : Duration} (hi : initial.toNanos ≤ Duration.max.toNanos)
    (max : Duration) : (backoffDelay 1 initial max).toMillis = Min.min initial.toMillis max.toMillis := by
  rw [Duration.toMillis_eq, Duration.toMillis_eq, Duration.toMillis_eq, backoffDelay_toNanos]
  simp only [Nat.pow_eq, Nat.sub_self, Nat.zero_min, Nat.pow_zero, Nat.mul_one, Nat.min_eq_left hi]
  omega

end BookRelay.Pipeline

namespace BookRelay.Scenario

open BookRelay.Pipeline BookRelay.Feed BookRelay.Time

/-! ## What the policy sees -/

/-- What the reconnect policy sees of the stream client's loop. -/
inductive Sighting where
  /-- A connection attempt failed, with its error. -/
  | failed (err : ConnectionError)
  | opened
  | lost
  /-- The loop waits this many milliseconds before its next attempt. -/
  | waits (ms : Nat)

namespace Sighting

def isFailure : Sighting → Bool
  | .failed _ => true
  | _ => false

def isLoss : Sighting → Bool
  | .lost => true
  | _ => false

/-- The failed attempts in a row after one more sighting: a session opening starts afresh. -/
def streakStep (n : Nat) : Sighting → Nat
  | .failed _ => n + 1
  | .opened => 0
  | _ => n

/-- Whether the current streak follows a lost session, after one more sighting. -/
def lossStep (b : Bool) : Sighting → Bool
  | .lost => true
  | .opened => false
  | _ => b

/-- The error of the last failed attempt, after one more sighting. -/
def failureStep (e : Option ConnectionError) : Sighting → Option ConnectionError
  | .failed err => some err
  | _ => e

end Sighting

/-- The failed attempts since the last session opened. -/
def failedStreak (h : List Sighting) : Nat := h.foldl Sighting.streakStep 0

def followsLoss (h : List Sighting) : Bool := h.foldl Sighting.lossStep false

/-- The retry count a wait is computed from: the failed attempts of the current streak, plus
one when the streak follows a lost session. -/
def retryCount (h : List Sighting) : Nat := failedStreak h + if followsLoss h then 1 else 0

/-- The error of the last failed attempt. -/
def lastFailure (h : List Sighting) : Option ConnectionError := h.foldl Sighting.failureStep none

@[simp] theorem failedStreak_nil : failedStreak [] = 0 := rfl
@[simp] theorem followsLoss_nil : followsLoss [] = false := rfl
@[simp] theorem lastFailure_nil : lastFailure [] = none := rfl

@[simp] theorem failedStreak_append (h ls : List Sighting) :
    failedStreak (h ++ ls) = ls.foldl Sighting.streakStep (failedStreak h) := List.foldl_append

@[simp] theorem followsLoss_append (h ls : List Sighting) :
    followsLoss (h ++ ls) = ls.foldl Sighting.lossStep (followsLoss h) := List.foldl_append

@[simp] theorem lastFailure_append (h ls : List Sighting) :
    lastFailure (h ++ ls) = ls.foldl Sighting.failureStep (lastFailure h) := List.foldl_append

/-! ## Where the loop stands -/

/-- Where the loop stands for its reconnect policy: between sessions (at the top, connecting
or backing off), in a session, or ended with a result. -/
inductive LoopPhase where
  | between
  | inSession
  | ended (result : Except ConnectionError Unit)

def StreamStage.phase : StreamStage → LoopPhase
  | .starting | .handshaking _ _ | .backingOff _ => .between
  | .reading _ _ | .ponging _ _ _ => .inSession
  | .stopped r _ => .ended r

/-- The wait a stage begins at a time: what is left of a backoff, else nothing. -/
def StreamStage.waitFrom (now : Nat) : StreamStage → List Sighting
  | .backingOff resumeAt => [.waits (resumeAt - now)]
  | _ => []

namespace StreamTask

/-- How the loop ended, once it has. -/
def result? (t : StreamTask) : Option (Except ConnectionError Unit) :=
  match t.stage.phase with
  | .ended r => some r
  | _ => none

theorem result?_eq_some {t : StreamTask} {r : Except ConnectionError Unit} :
    t.result? = some r ↔ t.stage.phase = .ended r := by
  unfold result?
  split <;> simp_all

theorem result?_eq_none {t : StreamTask} (h : t.stage.phase = .between ∨ t.stage.phase = .inSession) :
    t.result? = none := by
  unfold result?
  rcases h with h | h <;> rw [h]

theorem result?_eq_of_phase {u t : StreamTask} (h : u.stage.phase = t.stage.phase) :
    u.result? = t.result? := by
  unfold result?
  rw [h]

/-- The parts of the client the reconnect policy reads are those of `t`. -/
structure SamePolicy (u t : StreamTask) : Prop where
  settings : u.settings = t.settings
  failures : u.failures = t.failures
  retries : u.retries = t.retries

theorem SamePolicy.refl (t : StreamTask) : t.SamePolicy t := ⟨rfl, rfl, rfl⟩

/-- Moving a task to another stage keeps its policy. -/
theorem SamePolicy.restage {u t : StreamTask} (h : u.SamePolicy t) (x : StreamStage) :
    ({ u with stage := x } : StreamTask).SamePolicy t :=
  ⟨h.settings, h.failures, h.retries⟩

/-! ## What each part of the loop does to the policy -/

variable (t : StreamTask) (sh : Shared)

@[simp] theorem setState_settings (now : Nat) (s : ConnectionState) :
    (t.setState now s).settings = t.settings := by
  unfold setState
  split <;> rfl

@[simp] theorem setState_failures (now : Nat) (s : ConnectionState) :
    (t.setState now s).failures = t.failures := by
  unfold setState
  split <;> rfl

@[simp] theorem setState_retries (now : Nat) (s : ConnectionState) :
    (t.setState now s).retries = t.retries := by
  unfold setState
  split <;> rfl

@[simp] theorem setState_stage (now : Nat) (s : ConnectionState) :
    (t.setState now s).stage = t.stage := by
  unfold setState
  split <;> rfl

theorem setState_samePolicy (now : Nat) (s : ConnectionState) : (t.setState now s).SamePolicy t :=
  ⟨by simp, by simp, by simp⟩

/-- The end of the loop keeps the counts and records nothing. -/
theorem finish_policy (r : Except ConnectionError Unit) :
    (t.finish sh r).1.SamePolicy t ∧ (t.finish sh r).1.stage.phase = .ended r ∧
      (t.finish sh r).2.line.metrics = sh.line.metrics :=
  ⟨⟨by simp [finish], by simp [finish], by simp [finish]⟩, rfl, rfl⟩

/-- An open session starts a fresh streak of failures. -/
theorem opened_policy (visit : Nat) :
    (t.opened sh visit).1.settings = t.settings ∧ (t.opened sh visit).1.failures = 0 ∧
      (t.opened sh visit).1.retries = t.retries ∧ (t.opened sh visit).1.stage.phase = .inSession ∧
      (t.opened sh visit).2.line.metrics = sh.line.metrics := by
  simp [opened, StreamStage.phase]
  rfl

/-- A lost session counts a reconnect and waits the backoff of retry count one; a session
ended by shutdown ends the loop well. -/
theorem endSession_lost_policy (visit : Nat) (e : ConnectionError) :
    let r := t.endSession sh visit (some e)
    r.1.settings = t.settings ∧ r.1.failures = t.failures ∧ r.1.retries = 1 ∧
      r.1.stage = .backingOff (sh.now + t.backoffMs 1) ∧
      r.2.line.metrics = sh.line.metrics.recordReconnect := by
  simp [endSession, backoffMs, Shared.note, Shared.record, Shared.updateLink]

theorem endSession_shutdown_policy (visit : Nat) :
    (t.endSession sh visit none).1.SamePolicy t ∧
      (t.endSession sh visit none).1.stage.phase = .ended (.ok ()) ∧
      (t.endSession sh visit none).2.line.metrics = sh.line.metrics := by
  refine ⟨⟨?_, ?_, ?_⟩, rfl, rfl⟩ <;> simp [endSession, finish]

/-- What a failed attempt does to the policy: one more failure; then, once the failures reach
the limit, the loop ends with `RetriesExhausted` and this attempt's error, else it counts one
more retry and waits its backoff. -/
theorem attemptFailed_policy (visit : Option Nat) (err : ConnectionError) :
    let r := t.attemptFailed sh visit err
    r.1.settings = t.settings ∧ r.1.failures = t.failures + 1 ∧
      r.2.line.metrics = sh.line.metrics.recordHandshakeFailure ∧
      ((∃ a, t.settings.maxConnectAttempts = some a ∧ a ≤ t.failures + 1 ∧
          r.1.stage.phase = .ended (.error (.retriesExhausted (t.failures + 1) err))) ∨
        ((∀ a, t.settings.maxConnectAttempts = some a → t.failures + 1 < a) ∧
          r.1.retries = t.retries + 1 ∧ r.1.stage = .backingOff (sh.now + t.backoffMs (t.retries + 1)))) := by
  -- dropping the connection changes only the exchange
  obtain ⟨x, hx⟩ : ∃ x : Exchange,
      t.attemptFailed sh visit err = t.attemptFailed { sh with exchange := x } none err := by
    cases visit with
    | none => exact ⟨sh.exchange, rfl⟩
    | some i => exact ⟨_, rfl⟩
  rw [hx]
  unfold attemptFailed
  dsimp only
  have hs := setState_samePolicy t sh.now .disconnected
  generalize t.setState sh.now .disconnected = u at hs
  rw [hs.settings, hs.failures, hs.retries]
  cases hmost : t.settings.maxConnectAttempts with
  | none =>
    dsimp only
    exact ⟨rfl, rfl, rfl, .inr ⟨(fun _ h => nomatch h), rfl, rfl⟩⟩
  | some a =>
    dsimp only
    by_cases ha : a ≤ t.failures + 1
    · rw [if_pos ha]
      exact ⟨by simp [finish], by simp [finish], rfl, .inl ⟨a, rfl, ha, rfl⟩⟩
    · rw [if_neg ha]
      refine ⟨rfl, rfl, rfl, .inr ⟨fun b hb => ?_, rfl, rfl⟩⟩
      cases hb
      omega

end StreamTask

/-! ## What a move shows of the policy -/

/-- How a move may change where the loop stands without the policy seeing it: not at all, or
by ending the loop with `Ok`, between sessions or in one, on shutdown. -/
inductive PhaseStill (cancelled : Bool) : LoopPhase → LoopPhase → Prop where
  | same (p : LoopPhase) : PhaseStill cancelled p p
  | shutdown {p : LoopPhase} (hp : p = .between ∨ p = .inSession) (hc : cancelled = true) :
      PhaseStill cancelled p (.ended (.ok ()))

theorem PhaseStill.of_eq {c : Bool} {p q : LoopPhase} (h : q = p) : PhaseStill c p q := by
  subst h
  exact .same q

/-- Taking in a text frame counts no connection trouble. -/
theorem Line.takeText_troubles (l : Line) (maxPayload : Nat) (state : ConnectionState) (text : String) :
    (l.takeText maxPayload state text).metrics.handshakeFailures = l.metrics.handshakeFailures ∧
      (l.takeText maxPayload state text).metrics.reconnects = l.metrics.reconnects := by
  unfold Line.takeText Line.offer
  dsimp only
  split
  · exact ⟨rfl, rfl⟩
  · split
    · split
      · exact ⟨rfl, rfl⟩
      · split
        · exact ⟨rfl, rfl⟩
        · split <;> exact ⟨rfl, rfl⟩
    · exact ⟨rfl, rfl⟩
    · exact ⟨rfl, rfl⟩

namespace StreamTask

/-- One move of the stream client from shared state `sh`, with what its reconnect policy sees
of it: nothing; a failed attempt, with the wait after it unless the client gives up; a
session opened; or a session lost, with the wait after it. A move the policy does not see
keeps the counts and the settings and counts no connection trouble. -/
inductive Turn (t : StreamTask) (sh : Shared) : List Sighting → StreamTask × Shared → Prop where
  | still {r : StreamTask × Shared} (hs : r.1.SamePolicy t)
      (hp : PhaseStill sh.cancelled t.stage.phase r.1.stage.phase)
      (hf : r.2.line.metrics.handshakeFailures = sh.line.metrics.handshakeFailures)
      (hr : r.2.line.metrics.reconnects = sh.line.metrics.reconnects) : Turn t sh [] r
  | failed {u : StreamTask} {sh' : Shared} (visit : Option Nat) (err : ConnectionError)
      (hu : u.SamePolicy t) (hp : t.stage.phase = .between) (hnow : sh'.now = sh.now)
      (hm : sh'.line.metrics = sh.line.metrics) :
      Turn t sh (.failed err :: (u.attemptFailed sh' visit err).1.stage.waitFrom sh.now)
        (u.attemptFailed sh' visit err)
  | opened {sh' : Shared} (visit : Nat) (hp : t.stage.phase = .between)
      (hm : sh'.line.metrics = sh.line.metrics) : Turn t sh [.opened] (t.opened sh' visit)
  | lost {sh' : Shared} (visit : Nat) (err : ConnectionError) (hp : t.stage.phase = .inSession)
      (hnow : sh'.now = sh.now) (hm : sh'.line.metrics = sh.line.metrics) :
      Turn t sh (.lost :: (t.endSession sh' visit (some err)).1.stage.waitFrom sh.now)
        (t.endSession sh' visit (some err))

variable {t : StreamTask} {sh : Shared}

/-- A move that leaves the task alone but for its stage, within its phase. -/
theorem Turn.restage {x : StreamStage} (hx : x.phase = t.stage.phase) {sh' : Shared}
    (hf : sh'.line.metrics.handshakeFailures = sh.line.metrics.handshakeFailures)
    (hr : sh'.line.metrics.reconnects = sh.line.metrics.reconnects) :
    t.Turn sh [] ({ t with stage := x }, sh') :=
  .still ((SamePolicy.refl t).restage x) (.of_eq hx) hf hr

/-- The end of the loop on shutdown, between sessions or in one. -/
theorem Turn.shutdown {r : StreamTask × Shared} (hs : r.1.SamePolicy t)
    (hp : t.stage.phase = .between ∨ t.stage.phase = .inSession) (hend : r.1.stage.phase = .ended (.ok ()))
    (hc : sh.cancelled = true) (hm : r.2.line.metrics = sh.line.metrics) : t.Turn sh [] r :=
  .still hs (hend ▸ .shutdown hp hc) (by rw [hm]) (by rw [hm])

theorem connect_turn (hp : t.stage.phase = .between) : ∃ ls, t.Turn sh ls (t.connect sh) := by
  have hout := connect_outcome t sh
  generalize t.connect sh = r at hout
  cases hout with
  | fail text x err => exact ⟨_, .failed none err (setState_samePolicy t _ _) hp rfl rfl⟩
  | linked text x visit deadline =>
    exact ⟨[], .still ((setState_samePolicy t _ _).restage _) (.of_eq (by rw [hp]; rfl)) rfl rfl⟩

theorem handshake_turn (hp : t.stage.phase = .between) (visit deadline : Nat) :
    ∃ ls, t.Turn sh ls (t.handshake sh visit deadline) := by
  have hout := handshake_outcome t sh visit deadline
  generalize t.handshake sh visit deadline = r at hout
  cases hout with
  | wait x => exact ⟨[], .still (.refl t) (.same _) rfl rfl⟩
  | fail x v err => exact ⟨_, .failed v err (.refl t) hp rfl rfl⟩
  | opened x => exact ⟨_, .opened visit hp rfl⟩

/-- The wait for a pong stays in the session or loses it. -/
theorem PongOutcome.turn (hp : t.stage.phase = .inSession) {visit : Nat} {r : StreamTask × Shared}
    (hout : PongOutcome t sh visit r) : ∃ ls, t.Turn sh ls r := by
  cases hout with
  | answered x deadline =>
    exact ⟨[], .restage (x := .reading visit deadline) (hp.symm ▸ rfl) rfl rfl⟩
  | lost x err => exact ⟨_, .lost visit err hp rfl rfl⟩
  | waits x payload deadline =>
    exact ⟨[], .restage (x := .ponging visit payload deadline) (hp.symm ▸ rfl) rfl rfl⟩

theorem readOn_turn (hp : t.stage.phase = .inSession) (visit idleDeadline : Nat) :
    ∃ ls, t.Turn sh ls (t.readOn sh visit idleDeadline) := by
  have hin : (StreamStage.reading visit idleDeadline).phase = t.stage.phase := hp.symm
  have hout := readOn_outcome t sh visit idleDeadline
  generalize t.readOn sh visit idleDeadline = r at hout
  cases hout with
  | lost x err => exact ⟨_, .lost visit err hp rfl rfl⟩
  | wait x => exact ⟨[], .still (.refl t) (.same _) rfl rfl⟩
  | text x deadline text =>
    obtain ⟨hf, hr⟩ := Line.takeText_troubles sh.line t.maxPayload t.state text
    exact ⟨[], .restage (x := .reading visit deadline) (hin.trans rfl) hf hr⟩
  | undecodable x deadline size => exact ⟨[], .restage (x := .reading visit deadline) (hin.trans rfl) rfl rfl⟩
  | ping hping => exact hping.turn hp
  | quiet x deadline => exact ⟨[], .restage (x := .reading visit deadline) (hin.trans rfl) rfl rfl⟩

/-- Every move of the stream client shows the policy one of the four things a `Turn` lists. -/
theorem step_turn (t : StreamTask) (sh : Shared) : ∃ ls, t.Turn sh ls (t.step sh) := by
  unfold step
  split
  · exact ⟨[], .still (.refl t) (.same _) rfl rfl⟩
  · rename_i hst
    have hp : t.stage.phase = .between := by simp [hst, StreamStage.phase]
    split
    · rename_i hc
      obtain ⟨hs, hend, hm⟩ := finish_policy t sh (.ok ())
      exact ⟨[], .shutdown hs (.inl hp) hend hc hm⟩
    · exact connect_turn hp
  · rename_i visit deadline hst
    have hp : t.stage.phase = .between := by simp [hst, StreamStage.phase]
    split
    · rename_i hc
      obtain ⟨hs, hend, hm⟩ := finish_policy t (sh.updateLink visit Link.drop) (.ok ())
      exact ⟨[], .shutdown hs (.inl hp) hend hc hm⟩
    · exact handshake_turn hp visit deadline
  · rename_i visit idleDeadline hst
    have hp : t.stage.phase = .inSession := by simp [hst, StreamStage.phase]
    split
    · rename_i hc
      obtain ⟨hs, hend, hm⟩ := endSession_shutdown_policy t sh visit
      exact ⟨[], .shutdown hs (.inr hp) hend hc hm⟩
    · exact readOn_turn hp visit idleDeadline
  · rename_i visit payload deadline hst
    have hp : t.stage.phase = .inSession := by simp [hst, StreamStage.phase]
    exact (pongWait_outcome t sh visit payload deadline).turn hp
  · rename_i resumeAt hst
    have hp : t.stage.phase = .between := by simp [hst, StreamStage.phase]
    split
    · rename_i hc
      obtain ⟨hs, hend, hm⟩ := finish_policy t sh (.ok ())
      exact ⟨[], .shutdown hs (.inl hp) hend hc hm⟩
    · split
      · exact ⟨[], .restage (x := .starting) hp.symm rfl rfl⟩
      · exact ⟨[], .still (.refl t) (.same _) rfl rfl⟩

end StreamTask

/-! ## Histories -/

namespace StreamStage

theorem waitFrom_of_ended {x : StreamStage} {r : Except ConnectionError Unit} (h : x.phase = .ended r)
    (now : Nat) : x.waitFrom now = [] := by
  cases x <;> simp_all [phase, waitFrom]

theorem waitFrom_any_isFailure (x : StreamStage) (now : Nat) :
    (x.waitFrom now).any Sighting.isFailure = false := by
  cases x <;> rfl

theorem waitFrom_any_isLoss (x : StreamStage) (now : Nat) :
    (x.waitFrom now).any Sighting.isLoss = false := by
  cases x <;> rfl

end StreamStage

/-- Without a session opening, the retry count never goes down. -/
theorem retryCount_le_snoc (h : List Sighting) {x : Sighting} (hx : x ≠ .opened) :
    retryCount h ≤ retryCount (h ++ [x]) := by
  cases x with
  | opened => exact absurd rfl hx
  | lost =>
    simp only [retryCount, failedStreak_append, followsLoss_append, List.foldl_cons, List.foldl_nil,
      Sighting.streakStep, Sighting.lossStep, if_true]
    split <;> omega
  | failed err => simp [retryCount, Sighting.streakStep, Sighting.lossStep]
  | waits ms => simp [retryCount, Sighting.streakStep, Sighting.lossStep]

theorem retryCount_le_append (h : List Sighting) {mid : List Sighting} (hmid : Sighting.opened ∉ mid) :
    retryCount h ≤ retryCount (h ++ mid) := by
  -- one sighting at a time, none of them an opening
  induction mid generalizing h with
  | nil => simp
  | cons x mid ih =>
    obtain ⟨hx, hrest⟩ := List.ne_and_not_mem_of_not_mem_cons hmid
    calc retryCount h ≤ retryCount (h ++ [x]) := retryCount_le_snoc h (Ne.symm hx)
      _ ≤ retryCount (h ++ [x] ++ mid) := ih _ hrest
      _ = retryCount (h ++ x :: mid) := by rw [List.append_assoc, List.singleton_append]

/-- A sighting of an extended history is one of the old history or one of the extension. -/
theorem append_eq_append_cons {h ls pre post : List Sighting} {x : Sighting}
    (e : h ++ ls = pre ++ x :: post) :
    (∃ rest, h = pre ++ x :: rest ∧ post = rest ++ ls) ∨
      ∃ mid, pre = h ++ mid ∧ ls = mid ++ x :: post := by
  rcases List.append_eq_append_iff.1 e with ⟨mid, hpre, hls⟩ | ⟨c, hh, hx⟩
  · exact .inr ⟨mid, hpre, hls⟩
  · cases c with
    | nil => exact .inr ⟨[], by simpa using hh.symm, by simpa using hx.symm⟩
    | cons y rest =>
      simp only [List.cons_append, List.cons.injEq] at hx
      obtain ⟨rfl, rfl⟩ := hx
      exact .inl ⟨rest, hh, rfl⟩

theorem pair_eq_append_cons {a b x : Sighting} {mid post : List Sighting}
    (e : [a, b] = mid ++ x :: post) :
    (mid = [] ∧ x = a ∧ post = [b]) ∨ (mid = [a] ∧ x = b ∧ post = []) := by
  rcases mid with _ | ⟨y, _ | ⟨z, rest⟩⟩ <;> simp_all

/-- Every wait of a history is the backoff of the retry count before it. -/
def WaitsBackoff (s : StreamSettings) (h : List Sighting) : Prop :=
  ∀ pre ms post, h = pre ++ .waits ms :: post →
    ms = (backoffDelay (retryCount pre) s.initialBackoff s.maxBackoff).toMillis

/-- Every lost session of a history follows no failed attempt since its session opened, and is
followed by a wait. -/
def LossesWait (h : List Sighting) : Prop :=
  ∀ pre post, h = pre ++ .lost :: post → failedStreak pre = 0 ∧ ∃ ms rest, post = .waits ms :: rest

theorem WaitsBackoff.append {s : StreamSettings} {h ls : List Sighting} (hw : WaitsBackoff s h)
    (hls : ∀ mid ms post, ls = mid ++ .waits ms :: post →
      ms = (backoffDelay (retryCount (h ++ mid)) s.initialBackoff s.maxBackoff).toMillis) :
    WaitsBackoff s (h ++ ls) := by
  intro pre ms post e
  rcases append_eq_append_cons e with ⟨rest, hh, -⟩ | ⟨mid, rfl, hmid⟩
  · exact hw pre ms rest hh
  · exact hls mid ms post hmid

theorem LossesWait.append {h ls : List Sighting} (hl : LossesWait h)
    (hls : ∀ mid post, ls = mid ++ .lost :: post →
      failedStreak (h ++ mid) = 0 ∧ ∃ ms rest, post = .waits ms :: rest) :
    LossesWait (h ++ ls) := by
  intro pre post e
  rcases append_eq_append_cons e with ⟨rest, hh, rfl⟩ | ⟨mid, rfl, hmid⟩
  · obtain ⟨h0, ms, rest', rfl⟩ := hl pre rest hh
    exact ⟨h0, ms, rest' ++ ls, rfl⟩
  · exact hls mid post hmid

/-- Sightings with no wait keep every wait where it was. -/
theorem WaitsBackoff.append_of_forall {s : StreamSettings} {h ls : List Sighting} (hw : WaitsBackoff s h)
    (hls : ∀ x ∈ ls, ∀ ms, x ≠ .waits ms) : WaitsBackoff s (h ++ ls) :=
  hw.append fun mid ms post e => absurd rfl (hls _ (by simp [e]) ms)

theorem LossesWait.append_of_forall {h ls : List Sighting} (hl : LossesWait h)
    (hls : Sighting.lost ∉ ls) : LossesWait (h ++ ls) :=
  hl.append fun mid post e => absurd (by simp [e]) hls

/-! ## The policy along a run -/

/-- What the reconnect policy keeps along a run of a client with settings `s` that saw `h`:
the count of failures is the streak of failed attempts, and between sessions the retry count
is the history's; a session holds no streak; an unfinished loop is below the attempt limit, and
a loop that gave up did so at the limit with its last failure; every wait is the backoff of its
retry count, and every lost session is followed by a wait. -/
structure Policy (s : StreamSettings) (h : List Sighting) (t : StreamTask) : Prop where
  settings : t.settings = s
  failures : t.failures = failedStreak h
  retries : t.stage.phase = .between → t.retries = retryCount h
  inSession : t.stage.phase = .inSession → failedStreak h = 0
  below : ∀ a, s.maxConnectAttempts = some a → (∀ e, t.result? ≠ some (.error e)) →
    failedStreak h < max a 1
  gaveUp : ∀ e, t.result? = some (.error e) → ∃ a last, s.maxConnectAttempts = some a ∧
    failedStreak h = max a 1 ∧ lastFailure h = some last ∧ e = .retriesExhausted (max a 1) last
  waits : WaitsBackoff s h
  losses : LossesWait h

theorem PhaseStill.eq_or_shutdown {c : Bool} {p q : LoopPhase} (h : PhaseStill c p q) :
    q = p ∨ ((p = .between ∨ p = .inSession) ∧ c = true ∧ q = .ended (.ok ())) := by
  cases h with
  | same => exact .inl rfl
  | shutdown hp hc => exact .inr ⟨hp, hc, rfl⟩

namespace Policy

variable {s : StreamSettings} {h : List Sighting} {t : StreamTask}

theorem fresh (settings : StreamSettings) (symbol : String) (maxPayload producer : Nat) :
    Policy settings []
      { settings := settings, symbol := symbol, maxPayload := maxPayload, producer := producer } where
  settings := rfl
  failures := rfl
  retries _ := rfl
  inSession _ := rfl
  below _ _ _ := by simp only [failedStreak_nil]; omega
  gaveUp _ he := by simp [StreamTask.result?, StreamStage.phase] at he
  waits _ _ _ e := by simp at e
  losses _ _ e := by simp at e

/-- A move the policy does not see keeps it. -/
theorem still (hP : Policy s h t) {u : StreamTask} {c : Bool} (hs : u.SamePolicy t)
    (hp : PhaseStill c t.stage.phase u.stage.phase) : Policy s h u := by
  rcases hp.eq_or_shutdown with hq | ⟨hp, -, hq⟩
  · have hres := StreamTask.result?_eq_of_phase hq
    exact ⟨hs.settings.trans hP.settings, hs.failures.trans hP.failures,
      fun hb => hs.retries.trans (hP.retries (hq ▸ hb)), fun hi => hP.inSession (hq ▸ hi),
      fun a ha hne => hP.below a ha (hres ▸ hne), fun e he => hP.gaveUp e (hres ▸ he),
      hP.waits, hP.losses⟩
  · -- ended well on shutdown, from a loop that had not ended
    have hnone := StreamTask.result?_eq_none hp
    refine ⟨hs.settings.trans hP.settings, hs.failures.trans hP.failures, fun hb => ?_,
      fun hi => ?_, fun a ha _ => hP.below a ha (by simp [hnone]), fun e he => ?_, hP.waits, hP.losses⟩
    · rw [hq] at hb
      cases hb
    · rw [hq] at hi
      cases hi
    · rw [StreamTask.result?_eq_some, hq] at he
      cases he

/-- A failed attempt that reaches the limit ends the loop: it gives up with the streak at the
limit and this attempt's error. -/
theorem exhausted (hP : Policy s h t) {r : StreamTask} {err : ConnectionError} {a : Nat}
    (hp : t.stage.phase = .between) (hs : r.settings = s) (hf : r.failures = failedStreak h + 1)
    (ha : s.maxConnectAttempts = some a) (hle : a ≤ failedStreak h + 1)
    (hend : r.stage.phase = .ended (.error (.retriesExhausted (failedStreak h + 1) err))) :
    Policy s (h ++ [.failed err]) r := by
  -- the loop had not ended, so the streak was below the limit, which it now reaches
  have hmax : failedStreak h + 1 = max a 1 := by
    have := hP.below a ha (by simp [StreamTask.result?_eq_none (.inl hp)])
    omega
  refine ⟨hs, by simpa [Sighting.streakStep] using hf, fun hb => ?_, fun hi => ?_,
    fun b _ hne => absurd (StreamTask.result?_eq_some.2 hend) (hne _), fun e he => ?_,
    hP.waits.append_of_forall (by simp), hP.losses.append_of_forall (by simp)⟩
  · rw [hend] at hb
    cases hb
  · rw [hend] at hi
    cases hi
  · rw [StreamTask.result?_eq_some, hend] at he
    cases he
    exact ⟨a, err, ha, by simpa [Sighting.streakStep] using hmax, by simp [Sighting.failureStep],
      by rw [hmax]⟩

/-- A failed attempt below the limit counts one more retry and waits its backoff. -/
theorem retry (hP : Policy s h t) {u r : StreamTask} {err : ConnectionError} {now : Nat}
    (hu : u.SamePolicy t) (hp : t.stage.phase = .between) (hs : r.settings = s)
    (hf : r.failures = failedStreak h + 1)
    (hlt : ∀ a, s.maxConnectAttempts = some a → failedStreak h + 1 < a)
    (hretries : r.retries = u.retries + 1)
    (hstage : r.stage = .backingOff (now + u.backoffMs (u.retries + 1))) :
    Policy s (h ++ [.failed err, .waits (u.backoffMs (u.retries + 1))]) r := by
  have hph : r.stage.phase = .between := by rw [hstage]; rfl
  have hretry : u.retries + 1 = retryCount (h ++ [.failed err]) := by
    simp only [retryCount, failedStreak_append, followsLoss_append, List.foldl_cons, List.foldl_nil,
      Sighting.streakStep, Sighting.lossStep, hu.retries, hP.retries hp]
    exact Nat.add_right_comm _ _ _
  refine ⟨hs, by simpa [Sighting.streakStep] using hf, fun _ => ?_, fun hi => ?_,
    fun b hb _ => ?_, fun e he => ?_, hP.waits.append ?_, hP.losses.append_of_forall (by simp)⟩
  · rw [hretries, hretry]
    simp [retryCount, Sighting.streakStep, Sighting.lossStep]
  · rw [hph] at hi
    cases hi
  · have := hlt b hb
    simp only [failedStreak_append, List.foldl_cons, List.foldl_nil, Sighting.streakStep]
    omega
  · rw [StreamTask.result?_eq_some, hph] at he
    cases he
  · intro mid ms post e
    rcases pair_eq_append_cons e with ⟨-, he, -⟩ | ⟨rfl, he, -⟩
    · cases he
    · cases he
      rw [← hretry, StreamTask.backoffMs, hu.settings, hP.settings]

/-- A failed attempt extends the streak: at the limit the loop gives up with it, else it waits
the backoff of the next retry count. -/
theorem failed (hP : Policy s h t) {u : StreamTask} {sh sh' : Shared} (visit : Option Nat)
    (err : ConnectionError) (hu : u.SamePolicy t) (hp : t.stage.phase = .between)
    (hnow : sh'.now = sh.now) :
    Policy s (h ++ .failed err :: (u.attemptFailed sh' visit err).1.stage.waitFrom sh.now)
      (u.attemptFailed sh' visit err).1 := by
  obtain ⟨hset, hfail, -, hcase⟩ := StreamTask.attemptFailed_policy u sh' visit err
  generalize u.attemptFailed sh' visit err = r at hset hfail hcase ⊢
  have hs : r.1.settings = s := hset.trans (hu.settings.trans hP.settings)
  have hf : r.1.failures = failedStreak h + 1 := by rw [hfail, hu.failures, hP.failures]
  rw [hu.settings, hP.settings, hu.failures, hP.failures] at hcase
  rcases hcase with ⟨a, ha, hle, hend⟩ | ⟨hlt, hretries, hstage⟩
  · rw [StreamStage.waitFrom_of_ended hend]
    exact hP.exhausted hp hs hf ha hle hend
  · rw [hstage]
    simp only [StreamStage.waitFrom, hnow, Nat.add_sub_cancel_left]
    exact hP.retry hu hp hs hf hlt hretries hstage

/-- An opened session ends the streak. -/
theorem opened (hP : Policy s h t) {sh : Shared} (visit : Nat) :
    Policy s (h ++ [.opened]) (t.opened sh visit).1 := by
  obtain ⟨hset, hfail, -, hph, -⟩ := StreamTask.opened_policy t sh visit
  have hres := StreamTask.result?_eq_none (.inr hph)
  refine ⟨hset.trans hP.settings, by simp [hfail, Sighting.streakStep], fun hb => ?_,
    fun _ => by simp [Sighting.streakStep], fun a _ _ => ?_, fun e he => ?_,
    hP.waits.append_of_forall (by simp), hP.losses.append_of_forall (by simp)⟩
  · rw [hph] at hb
    cases hb
  · simp only [failedStreak_append, List.foldl_cons, List.foldl_nil, Sighting.streakStep]
    omega
  · rw [hres] at he
    cases he

/-- A lost session, which held no streak, waits the backoff of retry count one. -/
theorem lost (hP : Policy s h t) {sh sh' : Shared} (visit : Nat) (err : ConnectionError)
    (hp : t.stage.phase = .inSession) (hnow : sh'.now = sh.now) :
    Policy s (h ++ .lost :: (t.endSession sh' visit (some err)).1.stage.waitFrom sh.now)
      (t.endSession sh' visit (some err)).1 := by
  obtain ⟨hset, hfail, hretries, hstage, -⟩ := StreamTask.endSession_lost_policy t sh' visit err
  generalize t.endSession sh' visit (some err) = r at hset hfail hretries hstage ⊢
  have h0 := hP.inSession hp
  have hph : r.1.stage.phase = .between := by rw [hstage]; rfl
  rw [hstage]
  simp only [StreamStage.waitFrom, hnow, Nat.add_sub_cancel_left]
  refine ⟨hset.trans hP.settings, ?_, fun _ => ?_, fun hi => ?_, fun a _ _ => ?_, fun e he => ?_,
    hP.waits.append ?_, hP.losses.append ?_⟩
  · simp [hfail, hP.failures, Sighting.streakStep]
  · simp [hretries, retryCount, h0, Sighting.streakStep, Sighting.lossStep]
  · rw [hph] at hi
    cases hi
  · simp only [failedStreak_append, List.foldl_cons, List.foldl_nil, Sighting.streakStep, h0]
    omega
  · rw [StreamTask.result?_eq_some, hph] at he
    cases he
  · intro mid ms post e
    rcases pair_eq_append_cons e with ⟨-, he, -⟩ | ⟨rfl, he, -⟩
    · cases he
    · cases he
      simp [StreamTask.backoffMs, retryCount, h0, hP.settings, Sighting.streakStep, Sighting.lossStep]
  · intro mid post e
    rcases pair_eq_append_cons e with ⟨rfl, -, rfl⟩ | ⟨-, he, -⟩
    · exact ⟨by simpa using h0, _, [], rfl⟩
    · cases he

/-- Every move keeps the policy, with what the move shows added to the history. -/
theorem turn (hP : Policy s h t) {sh : Shared} {ls : List Sighting} {r : StreamTask × Shared}
    (ht : t.Turn sh ls r) : Policy s (h ++ ls) r.1 := by
  cases ht with
  | still hs hp => simpa using hP.still hs hp
  | failed visit err hu hp hnow => exact hP.failed visit err hu hp hnow
  | opened visit => exact hP.opened visit
  | lost visit err hp hnow => exact hP.lost visit err hp hnow

end Policy

/-- A run of the stream client from `t₀` to `t`, along which its reconnect policy saw `h`. -/
inductive Run (t₀ : StreamTask) : List Sighting → StreamTask → Prop where
  | start : Run t₀ [] t₀
  | move {h ls : List Sighting} {t : StreamTask} {sh : Shared} :
      Run t₀ h t → t.Turn sh ls (t.step sh) → Run t₀ (h ++ ls) (t.step sh).1

/-- Every run of moves is seen by the policy. -/
theorem Run.of_moves {t₀ t : StreamTask} (hm : Relation.ReflTransGen StreamTask.Moves t₀ t) :
    ∃ h, Run t₀ h t := by
  induction hm with
  | refl => exact ⟨[], .start⟩
  | tail _ hstep ih =>
    obtain ⟨h, hr⟩ := ih
    obtain ⟨sh, rfl⟩ := hstep
    obtain ⟨ls, ht⟩ := StreamTask.step_turn _ sh
    exact ⟨h ++ ls, hr.move ht⟩

theorem Policy.run {s : StreamSettings} {t₀ t : StreamTask} {h : List Sighting} (h0 : Policy s [] t₀)
    (hr : Run t₀ h t) : Policy s h t := by
  induction hr with
  | start => exact h0
  | move _ ht ih => exact ih.turn ht

/-! ## Single moves -/

namespace StreamTask

variable (t : StreamTask) (sh : Shared)

theorem setState_count_connecting (now : Nat) {s : ConnectionState} (hs : s ≠ .connecting) :
    (t.setState now s).announced.count .connecting = t.announced.count .connecting := by
  unfold setState
  split
  · rfl
  · have hzero : [s].count .connecting = 0 := by
      cases s with
      | connecting => exact absurd rfl hs
      | disconnected | «open» | closing => rfl
    simp [announced, hzero]

theorem finish_count_connecting (r : Except ConnectionError Unit) :
    (t.finish sh r).1.announced.count .connecting = t.announced.count .connecting :=
  setState_count_connecting t sh.now (by decide)

theorem endSession_count_connecting (visit : Nat) (lost : Option ConnectionError) :
    (t.endSession sh visit lost).1.announced.count .connecting = t.announced.count .connecting := by
  -- closing, then disconnected, and disconnected again on shutdown: none of them is `Connecting`
  have hclosed : ((t.setState sh.now .closing).setState sh.now .disconnected).announced.count
      .connecting = t.announced.count .connecting := by
    rw [setState_count_connecting _ _ (by decide), setState_count_connecting _ _ (by decide)]
  unfold endSession
  cases lost with
  | none => exact (finish_count_connecting _ _ _).trans hclosed
  | some e => exact hclosed

/-- Waiting for a pong announces nothing but the end of the session. -/
theorem PongOutcome.count_connecting {visit : Nat} {r : StreamTask × Shared}
    (hout : PongOutcome t sh visit r) : r.1.announced.count .connecting = t.announced.count .connecting := by
  cases hout with
  | answered x deadline => rfl
  | lost x err => exact endSession_count_connecting t _ visit _
  | waits x payload deadline => rfl

/-- With shutdown asked, a move announces no `Connecting`: no connection attempt starts. -/
theorem step_count_connecting (hc : sh.cancelled = true) :
    (t.step sh).1.announced.count .connecting = t.announced.count .connecting := by
  unfold step
  split
  · rfl
  · rw [if_pos hc]
    exact finish_count_connecting t sh _
  · rw [if_pos hc]
    exact finish_count_connecting t _ _
  · rw [if_pos hc]
    exact endSession_count_connecting t sh _ none
  · exact PongOutcome.count_connecting t sh (pongWait_outcome t sh _ _ _)
  · rw [if_pos hc]
    exact finish_count_connecting t sh _

variable {t sh}

/-- A failed attempt counts one handshake failure, a lost session one reconnect, and no other
move counts either. -/
theorem Turn.troubles {ls : List Sighting} {r : StreamTask × Shared} (ht : t.Turn sh ls r) :
    r.2.line.metrics.handshakeFailures = (if ls.any Sighting.isFailure
      then Metrics.bump sh.line.metrics.handshakeFailures else sh.line.metrics.handshakeFailures) ∧
    r.2.line.metrics.reconnects = (if ls.any Sighting.isLoss
      then Metrics.bump sh.line.metrics.reconnects else sh.line.metrics.reconnects) := by
  cases ht with
  | still _ _ hf hr => exact ⟨by simpa using hf, by simpa using hr⟩
  | @failed u sh' visit err _ _ _ hm =>
    obtain ⟨-, -, hmet, -⟩ := attemptFailed_policy u sh' visit err
    simp [hmet, hm, Metrics.recordHandshakeFailure, Sighting.isFailure, Sighting.isLoss,
      StreamStage.waitFrom_any_isLoss]
  | @opened sh' visit _ hm =>
    obtain ⟨-, -, -, -, hmet⟩ := opened_policy t sh' visit
    simp [hmet, hm, Sighting.isFailure, Sighting.isLoss]
  | @lost sh' visit err _ _ hm =>
    obtain ⟨-, -, -, -, hmet⟩ := endSession_lost_policy t sh' visit err
    simp [hmet, hm, Metrics.recordReconnect, Sighting.isFailure, Sighting.isLoss,
      StreamStage.waitFrom_any_isFailure]

/-- A move that ends the loop well saw shutdown asked. -/
theorem Turn.cancelled_of_ok {ls : List Sighting} {r : StreamTask × Shared} (ht : t.Turn sh ls r)
    (hnone : t.result? = none) (hok : r.1.result? = some (.ok ())) : sh.cancelled = true := by
  cases ht with
  | still _ hp =>
    rcases hp.eq_or_shutdown with hq | ⟨-, hc, -⟩
    · rw [result?_eq_of_phase hq, hnone] at hok
      cases hok
    · exact hc
  | @failed u sh' visit err =>
    obtain ⟨-, -, -, hcase⟩ := attemptFailed_policy u sh' visit err
    rw [result?_eq_some] at hok
    rcases hcase with ⟨-, -, -, hend⟩ | ⟨-, -, hstage⟩
    · rw [hend] at hok
      cases hok
    · rw [hstage] at hok
      cases hok
  | @opened sh' visit =>
    obtain ⟨-, -, -, hph, -⟩ := opened_policy t sh' visit
    rw [result?_eq_some, hph] at hok
    cases hok
  | @lost sh' visit err =>
    obtain ⟨-, -, -, hstage, -⟩ := endSession_lost_policy t sh' visit err
    rw [result?_eq_some, hstage] at hok
    cases hok

end StreamTask

/-! ## The law of the policy -/

/-- The reconnect policy of a stream client with settings `s` whose run saw `h`. -/
structure ReconnectLaw (s : StreamSettings) (h : List Sighting) (t : StreamTask) : Prop where
  /-- The loop has given up exactly when `max(a, 1)` attempts in a row failed with no session
  opened between them, -/
  exhausted : (∃ e, t.result? = some (.error e)) ↔
    ∃ a, s.maxConnectAttempts = some a ∧ failedStreak h = max a 1
  /-- and then with `RetriesExhausted` counting `max(a, 1)` attempts, with the last failure. -/
  exhaustedWith : ∀ e, t.result? = some (.error e) → ∃ a last, s.maxConnectAttempts = some a ∧
    lastFailure h = some last ∧ e = .retriesExhausted (max a 1) last
  streakBound : ∀ a, s.maxConnectAttempts = some a → failedStreak h ≤ max a 1
  unlimited : s.maxConnectAttempts = none → ∀ e, t.result? ≠ some (.error e)
  waits : WaitsBackoff s h
  waitsCapped : ∀ ms, Sighting.waits ms ∈ h → ms ≤ s.maxBackoff.toMillis
  /-- With no session opened between them, a later wait is no shorter. -/
  waitsGrow : ∀ pre mid post ms₁ ms₂, h = pre ++ .waits ms₁ :: (mid ++ .waits ms₂ :: post) →
    Sighting.opened ∉ mid → ms₁ ≤ ms₂
  waitAfterLoss : s.initialBackoff.toNanos ≤ Duration.max.toNanos → ∀ pre post, h = pre ++ .lost :: post →
    ∃ rest, post = .waits (min s.initialBackoff.toMillis s.maxBackoff.toMillis) :: rest
  /-- Each next move: a connection attempt starts only with shutdown not asked; -/
  attemptsBeforeShutdown : ∀ sh : Shared, sh.cancelled = true →
    (t.step sh).1.announced.count .connecting = t.announced.count .connecting
  /-- only a failed attempt counts a handshake failure, and only a lost session a reconnect; -/
  counted : ∀ sh ls, t.Turn sh ls (t.step sh) →
    (t.step sh).2.line.metrics.handshakeFailures = (if ls.any Sighting.isFailure
      then Metrics.bump sh.line.metrics.handshakeFailures else sh.line.metrics.handshakeFailures) ∧
    (t.step sh).2.line.metrics.reconnects = (if ls.any Sighting.isLoss
      then Metrics.bump sh.line.metrics.reconnects else sh.line.metrics.reconnects)
  /-- and the loop ends well only on shutdown. -/
  okOnShutdown : ∀ sh : Shared, t.result? = none → (t.step sh).1.result? = some (.ok ()) →
    sh.cancelled = true

namespace Policy

variable {s : StreamSettings} {h : List Sighting} {t : StreamTask}

theorem streak_le (hP : Policy s h t) (a : Nat) (ha : s.maxConnectAttempts = some a) :
    failedStreak h ≤ max a 1 := by
  by_cases hend : ∃ e, t.result? = some (.error e)
  · obtain ⟨e, he⟩ := hend
    obtain ⟨a', _, ha', hs, -⟩ := hP.gaveUp e he
    rw [ha] at ha'
    cases ha'
    exact hs.le
  · exact (hP.below a ha (not_exists.1 hend)).le

theorem waits_grow (hP : Policy s h t) {pre mid post : List Sighting} {ms₁ ms₂ : Nat}
    (e : h = pre ++ .waits ms₁ :: (mid ++ .waits ms₂ :: post)) (hmid : Sighting.opened ∉ mid) :
    ms₁ ≤ ms₂ := by
  have h₁ := hP.waits pre ms₁ _ e
  have h₂ := hP.waits (pre ++ .waits ms₁ :: mid) ms₂ post (by simp [e])
  -- the retry count does not go down across the first wait and the sightings after it
  have hle : retryCount pre ≤ retryCount (pre ++ .waits ms₁ :: mid) :=
    retryCount_le_append pre (by simp [hmid])
  rw [h₁, h₂]
  exact backoffDelay_toMillis_mono hle _ _

theorem wait_after_loss (hP : Policy s h t) (hi : s.initialBackoff.toNanos ≤ Duration.max.toNanos)
    {pre post : List Sighting} (e : h = pre ++ .lost :: post) :
    ∃ rest, post = .waits (min s.initialBackoff.toMillis s.maxBackoff.toMillis) :: rest := by
  obtain ⟨h0, ms, rest, rfl⟩ := hP.losses pre post e
  have hms := hP.waits (pre ++ [.lost]) ms rest (by simp [e])
  -- the streak is empty, so the retry count after the loss is one
  have hone : retryCount (pre ++ [.lost]) = 1 := by
    simp [retryCount, h0, Sighting.streakStep, Sighting.lossStep]
  rw [hone, backoffDelay_one_toMillis hi] at hms
  exact ⟨rest, by rw [hms]⟩

theorem law (hP : Policy s h t) : ReconnectLaw s h t where
  exhausted := by
    constructor
    · rintro ⟨e, he⟩
      obtain ⟨a, _, ha, hs, -⟩ := hP.gaveUp e he
      exact ⟨a, ha, hs⟩
    · rintro ⟨a, ha, hs⟩
      by_contra hend
      have := hP.below a ha (not_exists.1 hend)
      omega
  exhaustedWith e he := by
    obtain ⟨a, last, ha, -, hl, rfl⟩ := hP.gaveUp e he
    exact ⟨a, last, ha, hl, rfl⟩
  streakBound := hP.streak_le
  unlimited hn e he := by
    obtain ⟨a, _, ha, -⟩ := hP.gaveUp e he
    rw [hn] at ha
    cases ha
  waits := hP.waits
  waitsCapped ms hm := by
    obtain ⟨pre, post, e⟩ := List.append_of_mem hm
    rw [hP.waits pre ms post e]
    exact backoffDelay_toMillis_le _ _ _
  waitsGrow _ _ _ _ _ e hmid := hP.waits_grow e hmid
  waitAfterLoss hi _ _ e := hP.wait_after_loss hi e
  attemptsBeforeShutdown sh hc := t.step_count_connecting sh hc
  counted _ _ ht := ht.troubles
  okOnShutdown sh hnone hok := by
    obtain ⟨ls, ht⟩ := t.step_turn sh
    exact ht.cancelled_of_ok hnone hok

end Policy

/-- The reconnect policy along every run of a fresh stream client, whatever the exchange does
and whenever shutdown comes. Every run is seen by the policy as a history of sightings, and
along it: the loop gives up exactly when `max(a, 1)` attempts in a row have failed with no
session opened, with `RetriesExhausted` counting `max(a, 1)` attempts and carrying the last
failure, and never without a limit; every wait is the backoff of the retry count, so with no
session opened between them the waits never get shorter and never exceed the longest backoff,
and the first wait after a lost session is the initial backoff, capped; a connection attempt
starts only with shutdown not asked; each failed attempt counts one handshake failure and each
lost session one reconnect; and the loop ends well only on shutdown. -/
theorem reconnect_policy {settings : StreamSettings} {symbol : String} {maxPayload producer : Nat}
    {t : StreamTask}
    (hrun : Relation.ReflTransGen StreamTask.Moves
      { settings := settings, symbol := symbol, maxPayload := maxPayload, producer := producer } t) :
    (∃ h, Run { settings := settings, symbol := symbol, maxPayload := maxPayload, producer := producer }
        h t) ∧
      ∀ h, Run { settings := settings, symbol := symbol, maxPayload := maxPayload, producer := producer }
        h t → ReconnectLaw settings h t :=
  ⟨Run.of_moves hrun, fun _ hr => ((Policy.fresh settings symbol maxPayload producer).run hr).law⟩

/-- The law after a fresh client's first move, made with shutdown asked: the loop ends well. -/
theorem reconnect_policy_of_stopped_client :
    let fresh : StreamTask := { settings := {}, symbol := "BTCUSDT", maxPayload := 65536 }
    let sh : Shared := { line := { queue := Feed.Queue.bounded 1 }, cancelled := true }
    let t := (fresh.step sh).1
    Relation.ReflTransGen StreamTask.Moves fresh t ∧ t.result? = some (.ok ()) ∧
      ((∃ h, Run fresh h t) ∧ ∀ h, Run fresh h t → ReconnectLaw {} h t) := by
  intro fresh sh t
  have hrun : Relation.ReflTransGen StreamTask.Moves fresh t := .single ⟨sh, rfl⟩
  exact ⟨hrun, rfl, reconnect_policy hrun⟩

end BookRelay.Scenario
