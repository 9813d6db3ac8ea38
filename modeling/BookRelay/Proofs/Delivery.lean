import BookRelay.Scenario.ForwardTask

/-! # Delivery by the forwarder

Between two moves of the forwarder the rest of the program may do anything that leaves the
sink alone and only appends to the queue: producers add events, the clock moves, shutdown is
asked, producers go away. A forwarder that gave up on an event may be started again with that
event first. Along every such run the sink takes the frames of the events in queue order, each
once, none skipped; a run ends well only on an empty queue with shutdown asked or no producer
left, and ends badly only after the attempt limit of failed tries of one event. -/

namespace BookRelay.Scenario

open BookRelay.Pipeline BookRelay.Feed BookRelay.Time

/-! ## What the sink took -/

namespace SinkStep

/-- Whether a send decided by this step hands its frame over, for a sender that waits at
most `limit`. -/
def delivers (limit : Duration) : SinkStep → Bool
  | .ok => true
  | .delay ms => decide (ms ≤ limit.toMillis)
  | _ => false

/-- The failure that a send decided by this step ends with, for a sender that waits at most
`limit`: a send that does not finish in time fails with the time-out. -/
def failure (limit : Duration) : SinkStep → Option SinkError
  | .hang => some (.timeout limit)
  | .delay ms => if ms ≤ limit.toMillis then none else some (.timeout limit)
  | s => s.failure?

theorem delivers_eq_false {limit : Duration} {s : SinkStep} {err : SinkError}
    (h : s.failure limit = some err) : s.delivers limit = false := by
  cases s with
  | delay ms =>
      by_cases hms : ms ≤ limit.toMillis
      · simp [failure, hms] at h
      · simp [delivers, hms]
  | _ => simp_all [failure, delivers, failure?]

/-- How the outcome of a try follows from the step that decided it. -/
def Decides (limit : Duration) (s : SinkStep) : Except SinkError Unit → Prop
  | .ok () => s.delivers limit = true
  | .error err => s.failure limit = some err

end SinkStep

namespace ScriptedSink

/-- The sends of the log, oldest first, each with the step that decided it. -/
def tries (s : ScriptedSink) : List (String × SinkStep) :=
  s.log.filterMap fun
    | .sent frame step => some (frame, step)
    | .reset => none

/-- The frames the sink took, oldest first. -/
def accepted (limit : Duration) (s : ScriptedSink) : List String :=
  (s.tries.filter fun t => t.2.delivers limit).map Prod.fst

theorem take_eq (s : ScriptedSink) (frame : String) :
    s.take frame = (s.script.headD .ok,
      { script := s.script.tail, log := s.log ++ [.sent frame (s.script.headD .ok)] }) := by
  rcases s with ⟨_ | ⟨x, rest⟩, log⟩ <;> rfl

@[simp] theorem reset_tries (s : ScriptedSink) : s.reset.tries = s.tries := by
  simp [reset, tries]

@[simp] theorem reset_script (s : ScriptedSink) : s.reset.script = s.script := rfl

@[simp] theorem reset_accepted (limit : Duration) (s : ScriptedSink) :
    s.reset.accepted limit = s.accepted limit := by
  simp [accepted]

theorem take_tries (s : ScriptedSink) (frame : String) :
    (s.take frame).2.tries = s.tries ++ [(frame, (s.take frame).1)] := by
  simp [take_eq, tries]

theorem take_accepted (limit : Duration) (s : ScriptedSink) (frame : String) :
    (s.take frame).2.accepted limit =
      s.accepted limit ++ if (s.take frame).1.delivers limit then [frame] else [] := by
  rw [accepted, take_tries, List.filter_append, List.map_append, accepted]
  split <;> simp_all

/-- The step that decides a send is never a panic while the script holds none. -/
theorem take_ne_panic {s : ScriptedSink} (h : ∀ x ∈ s.script, x ≠ .panic) (frame : String) :
    (s.take frame).1 ≠ .panic := by
  rw [take_eq]
  cases hs : s.script with
  | nil => simp
  | cons x rest => exact h x (by simp [hs])

theorem take_script_ne_panic {s : ScriptedSink} (h : ∀ x ∈ s.script, x ≠ .panic)
    (frame : String) : ∀ x ∈ (s.take frame).2.script, x ≠ .panic := by
  rw [take_eq]
  intro x hx
  exact h x (List.mem_of_mem_tail hx)

end ScriptedSink

/-- The log ends with `n` failed sends of `frame`. -/
def FailedTries (limit : Duration) (frame : String) (n : Nat)
    (tries : List (String × SinkStep)) : Prop :=
  ∃ pre last, tries = pre ++ last ∧ last.length = n ∧
    ∀ t ∈ last, t.1 = frame ∧ (t.2.failure limit).isSome

namespace FailedTries

theorem zero (limit : Duration) (frame : String) (tries : List (String × SinkStep)) :
    FailedTries limit frame 0 tries :=
  ⟨tries, [], by simp, rfl, by simp⟩

theorem snoc {limit : Duration} {frame : String} {n : Nat} {tries : List (String × SinkStep)}
    {s : SinkStep} (h : FailedTries limit frame n tries) (hs : (s.failure limit).isSome) :
    FailedTries limit frame (n + 1) (tries ++ [(frame, s)]) := by
  obtain ⟨pre, last, rfl, hlen, hall⟩ := h
  refine ⟨pre, last ++ [(frame, s)], by simp, by simp [hlen], ?_⟩
  intro t ht
  rcases List.mem_append.mp ht with ht | ht
  · exact hall t ht
  · simp only [List.mem_singleton] at ht
    subst ht
    exact ⟨rfl, hs⟩

end FailedTries

/-! ## What the forwarder owes -/

namespace ForwardTask

/-- The events the forwarder holds that the sink has not taken: the event handed back before
a run starts, the event of a try that has not gone through, and the event a run gave up on. -/
def owed (f : ForwardTask) : List Event :=
  match f.stage with
  | .starting => f.pending.toList
  | .sending e _ _ _ (.error _) | .pausing e _ _ _ | .stopped (.failed _ e) => [e]
  | _ => []

/-- One while a try that went through waits to be counted, else none. -/
def settling (f : ForwardTask) : Nat :=
  match f.stage with
  | .sending _ _ _ _ (.ok ()) => 1
  | _ => 0

/-- What the sink's tries show at each stage of the forwarder. During a try of an event the
earlier tries of it failed and the current one decides the outcome; a pause follows failed
tries only; a run that gave up tried its event the attempt limit of times, every try failed,
and its error names the last failure; a run that ended well counts what it forwarded. -/
def StageFacts (f : ForwardTask) (tries : List (String × SinkStep)) : Prop :=
  let limit := f.settings.sendTimeout
  let most := max f.settings.maxSendAttempts 1
  match f.stage with
  | .starting | .polling _ => True
  | .sending e k _ _ o =>
    1 ≤ k ∧ k ≤ most ∧ ∃ pre s, tries = pre ++ [(e.frame f.settings.connectorName, s)] ∧
      FailedTries limit (e.frame f.settings.connectorName) (k - 1) pre ∧ s.Decides limit o
  | .pausing e k _ _ => 1 ≤ k ∧ k < most ∧ FailedTries limit (e.frame f.settings.connectorName) k tries
  | .stopped (.drained n) => n = f.forwarded
  | .stopped (.failed err e) =>
    ∃ last pre s, err = .exhausted most last ∧ tries = pre ++ [(e.frame f.settings.connectorName, s)] ∧
      FailedTries limit (e.frame f.settings.connectorName) (most - 1) pre ∧ s.failure limit = some last
  | .stopped _ => False

end ForwardTask

/-- The delivery invariant of a forwarder against the events `L` it was given so far, the
frames `acc₀` the sink had taken before, and the count `start` of frames taken when the
current run began: the frames taken since are those of a prefix of `L`, and what follows
that prefix is what the forwarder owes and then the queue. -/
structure Delivery (acc₀ : List String) (L : List Event) (start : Nat) (f : ForwardTask)
    (sh : Shared) : Prop where
  script : ∀ s ∈ sh.sink.script, s ≠ .panic
  order : ∃ D, sh.sink.accepted f.settings.sendTimeout =
      acc₀ ++ D.map (·.frame f.settings.connectorName) ∧ D ++ f.owed ++ sh.line.queue.items = L
  count : (sh.sink.accepted f.settings.sendTimeout).length = start + f.forwarded + f.settling
  stage : f.StageFacts sh.sink.tries

/-- What holds just before a try of event `e`: `e` is owed next, the earlier tries of it
failed, and no try waits to be counted. -/
structure ReadyToTry (acc₀ : List String) (L : List Event) (start : Nat) (f : ForwardTask)
    (sh : Shared) (e : Event) (k : Nat) : Prop where
  script : ∀ s ∈ sh.sink.script, s ≠ .panic
  order : ∃ D, sh.sink.accepted f.settings.sendTimeout =
      acc₀ ++ D.map (·.frame f.settings.connectorName) ∧ D ++ e :: sh.line.queue.items = L
  count : (sh.sink.accepted f.settings.sendTimeout).length = start + f.forwarded
  bounds : 1 ≤ k ∧ k ≤ max f.settings.maxSendAttempts 1
  failed : FailedTries f.settings.sendTimeout (e.frame f.settings.connectorName) (k - 1) sh.sink.tries

@[simp] theorem Shared.record_sink (sh : Shared) (g : Metrics → Metrics) :
    (sh.record g).sink = sh.sink := rfl

@[simp] theorem Shared.record_cancelled (sh : Shared) (g : Metrics → Metrics) :
    (sh.record g).cancelled = sh.cancelled := rfl

@[simp] theorem Shared.record_now (sh : Shared) (g : Metrics → Metrics) :
    (sh.record g).now = sh.now := rfl

attribute [simp] record_queue

@[simp] theorem Shared.withQueue_sink (sh : Shared) (g : Queue → Queue) :
    (sh.withQueue g).sink = sh.sink := rfl

@[simp] theorem Shared.withQueue_queue (sh : Shared) (g : Queue → Queue) :
    (sh.withQueue g).line.queue = g sh.line.queue := rfl

@[simp] theorem Shared.withQueue_cancelled (sh : Shared) (g : Queue → Queue) :
    (sh.withQueue g).cancelled = sh.cancelled := rfl

namespace ForwardTask

@[simp] theorem stop_settings (f : ForwardTask) (r : ForwardEnd) : (f.stop r).settings = f.settings :=
  rfl

@[simp] theorem stop_stage (f : ForwardTask) (r : ForwardEnd) : (f.stop r).stage = .stopped r := rfl

@[simp] theorem stop_forwarded (f : ForwardTask) (r : ForwardEnd) :
    (f.stop r).forwarded = f.forwarded := rfl

@[simp] theorem poll_settings (f : ForwardTask) (now : Nat) : (f.poll now).settings = f.settings :=
  rfl

@[simp] theorem poll_stage (f : ForwardTask) (now : Nat) :
    (f.poll now).stage = .polling (now + f.pollMs) := rfl

@[simp] theorem poll_forwarded (f : ForwardTask) (now : Nat) :
    (f.poll now).forwarded = f.forwarded := rfl

end ForwardTask

/-! ## One try -/

section Try

variable {acc₀ : List String} {L : List Event} {start : Nat} {f : ForwardTask} {sh : Shared}
  {e : Event} {k : Nat}

/-- Right after the sink's step decided a try, the forwarder stands as during that try, with
whatever outcome the step decides. -/
theorem ReadyToTry.tried (h : ReadyToTry acc₀ L start f sh e k) {s : SinkStep}
    {sink : ScriptedSink} (htake : sh.sink.take (e.frame f.settings.connectorName) = (s, sink))
    {o : Except SinkError Unit} (hd : s.Decides f.settings.sendTimeout o) (fromQueue : Bool)
    (endsAt : Nat) :
    Delivery acc₀ L start { f with stage := .sending e k fromQueue endsAt o } { sh with sink := sink } := by
  have hs : (sh.sink.take (e.frame f.settings.connectorName)).1 = s := by rw [htake]
  have hsink : (sh.sink.take (e.frame f.settings.connectorName)).2 = sink := by rw [htake]
  have hacc := ScriptedSink.take_accepted f.settings.sendTimeout sh.sink (e.frame f.settings.connectorName)
  have htries := ScriptedSink.take_tries sh.sink (e.frame f.settings.connectorName)
  rw [hs, hsink] at hacc
  rw [hs, hsink] at htries
  obtain ⟨D, hD, hL⟩ := h.order
  refine ⟨?_, ?_, ?_, ?_⟩
  · rw [← hsink]
    exact ScriptedSink.take_script_ne_panic h.script _
  · cases o with
    | ok u =>
        have hdel : s.delivers f.settings.sendTimeout = true := hd
        refine ⟨D ++ [e], ?_, ?_⟩
        · simp [hacc, hdel, hD]
        · simpa [ForwardTask.owed] using hL
    | error err =>
        have hdel := SinkStep.delivers_eq_false (show s.failure f.settings.sendTimeout = some err from hd)
        exact ⟨D, by simp [hacc, hdel, hD], by simpa [ForwardTask.owed] using hL⟩
  · cases o with
    | ok u =>
        have hdel : s.delivers f.settings.sendTimeout = true := hd
        simp [hacc, hdel, h.count, ForwardTask.settling]
    | error err =>
        have hdel := SinkStep.delivers_eq_false (show s.failure f.settings.sendTimeout = some err from hd)
        simp [hacc, hdel, h.count, ForwardTask.settling]
  · exact ⟨h.bounds.1, h.bounds.2, sh.sink.tries, s, htries, h.failed, hd⟩

variable {fromQueue : Bool} {endsAt : Nat} {o : Except SinkError Unit}

/-- Settling a try keeps the invariant: a try that went through is counted and the forwarder
polls again or ends well; a failed one pauses before the next try, or at the attempt limit
gives the event up with the last failure. -/
theorem Delivery.settle
    (h : Delivery acc₀ L start { f with stage := .sending e k fromQueue endsAt o } sh) :
    Delivery acc₀ L start (f.settle sh e k fromQueue o).1 (f.settle sh e k fromQueue o).2 := by
  obtain ⟨hscript, ⟨D, hD, hL⟩, hcount, hst⟩ := h
  simp only [ForwardTask.StageFacts] at hst
  obtain ⟨hk1, hkm, pre, s, htries, hfail, hd⟩ := hst
  simp only [ForwardTask.owed, ForwardTask.settling] at hL hcount
  cases o with
  | ok u =>
      simp only at hL hcount
      simp only [ForwardTask.settle]
      split
      · refine ⟨by simpa using hscript, ⟨D, by simpa using hD, by simpa [ForwardTask.stop,
          ForwardTask.owed] using hL⟩, ?_, ?_⟩
        · simp [ForwardTask.stop, ForwardTask.settling, hcount]
          omega
        · simp [ForwardTask.stop, ForwardTask.StageFacts]
      · refine ⟨by simpa using hscript, ⟨D, by simpa using hD, by simpa [ForwardTask.poll,
          ForwardTask.owed] using hL⟩, ?_, ?_⟩
        · simp [ForwardTask.poll, ForwardTask.settling, hcount]
          omega
        · simp [ForwardTask.poll, ForwardTask.StageFacts]
  | error err =>
      have hs : (s.failure f.settings.sendTimeout).isSome := by
        simp [show s.failure f.settings.sendTimeout = some err from hd]
      simp only at hL hcount
      simp only [ForwardTask.settle]
      split
      · rename_i hlt
        refine ⟨by simpa using hscript, ⟨D, by simpa using hD, by simpa [ForwardTask.owed]
          using hL⟩, by simpa [ForwardTask.settling] using hcount, ?_⟩
        simp only [ForwardTask.StageFacts]
        refine ⟨hk1, hlt, ?_⟩
        simp only [Shared.record_sink, ScriptedSink.reset_tries, htries]
        have hk : k - 1 + 1 = k := by omega
        simpa [hk] using hfail.snoc hs
      · rename_i hge
        have hk : k = max f.settings.maxSendAttempts 1 := by omega
        refine ⟨by simpa using hscript, ⟨D, by simpa using hD, by simpa [ForwardTask.stop,
          ForwardTask.owed] using hL⟩, by simpa [ForwardTask.stop, ForwardTask.settling]
          using hcount, ?_⟩
        simp only [ForwardTask.stop, ForwardTask.StageFacts, Shared.record_sink,
          ScriptedSink.reset_tries]
        exact ⟨err, pre, s, by rw [hk], htries, hk ▸ hfail, hd⟩

/-- A try keeps the invariant whatever the sink's next step is: a send that takes time leaves
the forwarder waiting for it, and one decided at once is settled. -/
theorem ReadyToTry.attempt (h : ReadyToTry acc₀ L start f sh e k) (fromQueue : Bool) :
    Delivery acc₀ L start (f.attempt sh e k fromQueue).1 (f.attempt sh e k fromQueue).2 := by
  obtain ⟨s, sink, htake⟩ : ∃ s sink, sh.sink.take (e.frame f.settings.connectorName) = (s, sink) :=
    ⟨_, _, rfl⟩
  have hne : s ≠ .panic := by
    have hp := ScriptedSink.take_ne_panic h.script (e.frame f.settings.connectorName)
    rwa [htake] at hp
  simp only [ForwardTask.attempt, htake]
  cases s with
  | hang => exact h.tried htake (o := .error (.timeout f.settings.sendTimeout)) rfl fromQueue _
  | delay ms =>
      by_cases hms : ms ≤ f.settings.sendTimeout.toMillis
      · simp only [hms, if_true]
        exact h.tried htake (o := .ok ()) (by simp [SinkStep.Decides, SinkStep.delivers, hms])
          fromQueue _
      · simp only [hms, if_false]
        exact h.tried htake (o := .error (.timeout _))
          (by simp [SinkStep.Decides, SinkStep.failure, hms]) fromQueue _
  | panic => exact absurd rfl hne
  | ok => exact (h.tried htake (o := .ok ()) rfl fromQueue sh.now).settle
  | io => exact (h.tried htake (o := .error (.io (.kind .brokenPipe))) rfl fromQueue sh.now).settle
  | connect =>
      exact (h.tried htake (o := .error (.connect (.kind .connectionRefused))) rfl fromQueue
        sh.now).settle
  | closed => exact (h.tried htake (o := .error .closed) rfl fromQueue sh.now).settle

end Try

/-! ## One move -/

section Move

variable {acc₀ : List String} {L : List Event} {start : Nat} {f : ForwardTask} {sh : Shared}

/-- With nothing owed and no try to count, the forwarder may poll again. -/
theorem Delivery.poll (h : Delivery acc₀ L start f sh) (howed : f.owed = []) (hset : f.settling = 0)
    (now : Nat) : Delivery acc₀ L start (f.poll now) sh := by
  obtain ⟨hscript, ⟨D, hD, hL⟩, hcount, -⟩ := h
  rw [howed] at hL
  rw [hset] at hcount
  exact ⟨hscript, ⟨D, by simpa using hD, by simpa [ForwardTask.owed] using hL⟩,
    by simpa [ForwardTask.settling] using hcount, by simp [ForwardTask.StageFacts]⟩

/-- With nothing owed and no try to count, the forwarder may end well. -/
theorem Delivery.drain (h : Delivery acc₀ L start f sh) (howed : f.owed = []) (hset : f.settling = 0) :
    Delivery acc₀ L start (f.stop (.drained f.forwarded)) sh := by
  obtain ⟨hscript, ⟨D, hD, hL⟩, hcount, -⟩ := h
  rw [howed] at hL
  rw [hset] at hcount
  exact ⟨hscript, ⟨D, by simpa using hD, by simpa [ForwardTask.owed] using hL⟩,
    by simpa [ForwardTask.settling] using hcount, by simp [ForwardTask.StageFacts]⟩

/-- One move of the forwarder keeps the invariant. -/
theorem Delivery.step (h : Delivery acc₀ L start f sh) :
    Delivery acc₀ L start (f.step sh).1 (f.step sh).2 := by
  cases hstage : f.stage with
  | stopped r => simpa [ForwardTask.step, hstage] using h
  | starting =>
      have hset : f.settling = 0 := by simp [ForwardTask.settling, hstage]
      cases hp : f.pending with
      | none =>
          simp only [ForwardTask.step, hstage, hp]
          exact h.poll (by simp [ForwardTask.owed, hstage, hp]) hset sh.now
      | some e =>
          -- the event handed back is tried first
          simp only [ForwardTask.step, hstage, hp]
          obtain ⟨D, hD, hL⟩ := h.order
          apply ReadyToTry.attempt
          refine ⟨h.script, ⟨D, hD, ?_⟩, ?_, ⟨Nat.le_refl 1, by omega⟩, FailedTries.zero _ _ _⟩
          · simpa [ForwardTask.owed, hstage, hp] using hL
          · simpa [hset] using h.count
  | polling deadline =>
      have howed : f.owed = [] := by simp [ForwardTask.owed, hstage]
      have hset : f.settling = 0 := by simp [ForwardTask.settling, hstage]
      cases hq : sh.line.queue.items with
      | cons e rest =>
          -- the oldest event leaves the queue and is tried
          simp only [ForwardTask.step, hstage, Queue.tryDequeue, hq]
          obtain ⟨D, hD, hL⟩ := h.order
          apply ReadyToTry.attempt
          refine ⟨h.script, ⟨D, hD, ?_⟩, ?_, ⟨Nat.le_refl 1, by omega⟩, FailedTries.zero _ _ _⟩
          · simpa [Shared.withQueue, howed, hq] using hL
          · simpa [hset] using h.count
      | nil =>
          simp only [ForwardTask.step, hstage, Queue.tryDequeue, hq]
          split
          · exact h.drain howed hset
          · split
            · split
              · exact h.drain howed hset
              · exact h.poll howed hset sh.now
            · exact h
  | sending e k fromQueue endsAt o =>
      simp only [ForwardTask.step, hstage]
      split
      · have h' : Delivery acc₀ L start { f with stage := .sending e k fromQueue endsAt o } sh := by
          rw [← hstage]
          exact h
        exact h'.settle
      · exact h
  | pausing e k fromQueue resumeAt =>
      simp only [ForwardTask.step, hstage]
      split
      · -- the next try of the same event
        have hst := h.stage
        simp only [ForwardTask.StageFacts, hstage] at hst
        obtain ⟨D, hD, hL⟩ := h.order
        apply ReadyToTry.attempt
        refine ⟨h.script, ⟨D, hD, ?_⟩, ?_, ⟨by omega, by omega⟩, ?_⟩
        · simpa [ForwardTask.owed, hstage] using hL
        · simpa [ForwardTask.settling, hstage] using h.count
        · simpa using hst.2.2
      · exact h

/-- Producers only append to the queue and leave the sink alone: the invariant holds against
the events given so far with the new ones added. -/
theorem Delivery.arrive (h : Delivery acc₀ L start f sh) {sh' : Shared} {new : List Event}
    (hsink : sh'.sink = sh.sink) (hitems : sh'.line.queue.items = sh.line.queue.items ++ new) :
    Delivery acc₀ (L ++ new) start f sh' := by
  obtain ⟨hscript, ⟨D, hD, hL⟩, hcount, hst⟩ := h
  refine ⟨by rw [hsink]; exact hscript, ⟨D, by rw [hsink]; exact hD, ?_⟩, by rw [hsink]; exact hcount,
    by rw [hsink]; exact hst⟩
  rw [hitems, ← hL]
  simp

/-- A forwarder that gave up on an event, started again with that event first, owes the same
events; its run begins with the frames taken so far. -/
theorem Delivery.restart (h : Delivery acc₀ L start f sh) {err : SinkError} {e : Event}
    (hstage : f.stage = .stopped (.failed err e)) :
    Delivery acc₀ L (sh.sink.accepted f.settings.sendTimeout).length (f.retransmitFirst e) sh := by
  obtain ⟨hscript, ⟨D, hD, hL⟩, -, -⟩ := h
  refine ⟨hscript, ⟨D, hD, ?_⟩, by simp [ForwardTask.retransmitFirst, ForwardTask.settling],
    by simp [ForwardTask.retransmitFirst, ForwardTask.StageFacts]⟩
  simpa [ForwardTask.retransmitFirst, ForwardTask.owed, hstage] using hL

end Move

/-! ## How a run ends well -/

namespace ForwardTask

variable {f : ForwardTask} {sh : Shared} {e : Event} {k n : Nat} {fromQueue : Bool}
  {o : Except SinkError Unit}

theorem settle_settings : (f.settle sh e k fromQueue o).1.settings = f.settings := by
  unfold settle
  cases o <;> dsimp only <;> split <;> rfl

theorem attempt_settings : (f.attempt sh e k fromQueue).1.settings = f.settings := by
  simp only [attempt, ScriptedSink.take_eq]
  cases sh.sink.script.headD .ok with
  | delay ms => dsimp only; split <;> rfl
  | hang | panic => rfl
  | _ => exact settle_settings

/-- The forwarder's settings never change. -/
theorem step_settings : (f.step sh).1.settings = f.settings := by
  unfold step
  split
  · rfl
  · split
    · exact attempt_settings
    · rfl
  · split
    · exact attempt_settings
    · split
      · rfl
      · split <;> (try split) <;> rfl
  · split
    · exact settle_settings
    · rfl
  · split
    · exact attempt_settings
    · rfl

/-- A settled try ends the run well only when the event came from the queue, shutdown was
asked, and the queue is empty. -/
theorem settle_drained (h : (f.settle sh e k fromQueue o).1.stage = .stopped (.drained n)) :
    (f.settle sh e k fromQueue o).2.line.queue.items = [] ∧
      (f.settle sh e k fromQueue o).2.cancelled = true := by
  cases o with
  | ok u =>
      by_cases hc : (fromQueue && sh.cancelled && sh.line.queue.items.isEmpty) = true
      · simp only [Bool.and_eq_true, List.isEmpty_iff] at hc
        simp [settle, hc]
      · simp [settle, hc] at h
  | error err =>
      simp only [settle] at h
      split at h <;> simp at h

/-- A try ends the run well only as a settled try does. -/
theorem attempt_drained (h : (f.attempt sh e k fromQueue).1.stage = .stopped (.drained n)) :
    (f.attempt sh e k fromQueue).2.line.queue.items = [] ∧
      (f.attempt sh e k fromQueue).2.cancelled = true := by
  simp only [attempt, ScriptedSink.take_eq] at h ⊢
  generalize sh.sink.script.headD .ok = s at h ⊢
  cases s with
  | delay ms =>
      simp only at h
      split at h <;> simp at h
  | hang | panic => simp at h
  | _ => exact settle_drained h

/-- A move ends a run well only on an empty queue, with shutdown asked or no producer left. -/
theorem step_drained (hf : f.result? = none) (h : (f.step sh).1.stage = .stopped (.drained n)) :
    (f.step sh).2.line.queue.items = [] ∧
      ((f.step sh).2.cancelled = true ∨ (f.step sh).2.line.queue.closedForConsumer = true) := by
  cases hstage : f.stage with
  | stopped r => simp [result?, hstage] at hf
  | starting =>
      cases hp : f.pending with
      | none => simp [step, hstage, hp] at h
      | some e =>
          simp only [step, hstage, hp] at h ⊢
          exact ⟨(attempt_drained h).1, .inl (attempt_drained h).2⟩
  | polling deadline =>
      cases hq : sh.line.queue.items with
      | cons e rest =>
          simp only [step, hstage, Queue.tryDequeue, hq] at h ⊢
          exact ⟨(attempt_drained h).1, .inl (attempt_drained h).2⟩
      | nil =>
          simp only [step, hstage, Queue.tryDequeue, hq] at h ⊢
          split
          · simp_all
          · rename_i hclosed
            split
            · split
              · simp_all
              · simp [*] at h
            · simp [*] at h
  | sending e k fromQueue endsAt o =>
      simp only [step, hstage] at h ⊢
      split
      · rename_i hle
        simp only [hle, if_true] at h
        exact ⟨(settle_drained h).1, .inl (settle_drained h).2⟩
      · rename_i hle
        simp [hle, hstage] at h
  | pausing e k fromQueue resumeAt =>
      simp only [step, hstage] at h ⊢
      split
      · rename_i hle
        simp only [hle, if_true] at h
        exact ⟨(attempt_drained h).1, .inl (attempt_drained h).2⟩
      · rename_i hle
        simp [hle, hstage] at h

end ForwardTask

/-! ## Along a run -/

/-- A run of a forwarder started as `f₀` on `sh₀`, with the events that arrived in the queue
since and the count of frames the sink had taken when the current run began. Between two
moves of the forwarder the rest of the program may change the shared state in any way that
leaves the sink alone and only appends to the queue; a forwarder that gave up on an event may
be started again with that event first. -/
inductive ForwardRun (f₀ : ForwardTask) (sh₀ : Shared) :
    ForwardTask → Shared → List Event → Nat → Prop where
  | start : ForwardRun f₀ sh₀ f₀ sh₀ [] (sh₀.sink.accepted f₀.settings.sendTimeout).length
  | move {f sh arrived n} : ForwardRun f₀ sh₀ f sh arrived n →
      ForwardRun f₀ sh₀ (f.step sh).1 (f.step sh).2 arrived n
  | arrive {f sh arrived n} (sh' : Shared) (new : List Event) : ForwardRun f₀ sh₀ f sh arrived n →
      sh'.sink = sh.sink → sh'.line.queue.items = sh.line.queue.items ++ new →
      ForwardRun f₀ sh₀ f sh' (arrived ++ new) n
  | restart {f sh arrived n err e} : ForwardRun f₀ sh₀ f sh arrived n →
      f.stage = .stopped (.failed err e) →
      ForwardRun f₀ sh₀ (f.retransmitFirst e) sh arrived
        (sh.sink.accepted f.settings.sendTimeout).length

section Run

variable {s : ForwarderSettings} {p : Option Event} {sh₀ sh : Shared} {f : ForwardTask}
  {arrived : List Event} {start : Nat}

/-- Along every run of a forwarder made with settings `s` and an event `p` handed back to it,
its settings stay and the delivery invariant holds against `p`, the queue at the start and
the events that arrived since. -/
theorem ForwardRun.delivery (hscript : ∀ x ∈ sh₀.sink.script, x ≠ .panic)
    (hrun : ForwardRun { settings := s, pending := p } sh₀ f sh arrived start) :
    f.settings = s ∧
      Delivery (sh₀.sink.accepted s.sendTimeout) (p.toList ++ sh₀.line.queue.items ++ arrived)
        start f sh := by
  induction hrun with
  | start =>
      refine ⟨rfl, hscript, ⟨[], by simp, by simp [ForwardTask.owed]⟩, ?_, ?_⟩
      · simp [ForwardTask.settling]
      · simp [ForwardTask.StageFacts]
  | move _ ih => exact ⟨ForwardTask.step_settings.trans ih.1, ih.2.step⟩
  | arrive sh' new _ hsink hitems ih =>
      exact ⟨ih.1, by simpa [List.append_assoc] using ih.2.arrive hsink hitems⟩
  | restart _ hstage ih => exact ⟨ih.1, ih.2.restart hstage⟩

end Run

/-- The delivery law at one point of a run of a forwarder made with settings `s` and an event
`p` handed back to it, started on `sh₀`, now `f` on `sh`, with `arrived` the events that came
into the queue since and `start` the count of frames taken when the current run began. The
events given to the forwarder are `p`, then the queue at the start, then `arrived`. -/
structure DeliveryLaw (s : ForwarderSettings) (p : Option Event) (sh₀ : Shared) (f : ForwardTask)
    (sh : Shared) (arrived : List Event) (start : Nat) : Prop where
  /-- The sink took, after what it had taken before, the frames of a prefix of the events
  given, in order; after the prefix come what the forwarder owes and then the queue. -/
  inOrder : ∃ D, sh.sink.accepted s.sendTimeout =
      sh₀.sink.accepted s.sendTimeout ++ D.map (·.frame s.connectorName) ∧
    D ++ f.owed ++ sh.line.queue.items = p.toList ++ sh₀.line.queue.items ++ arrived
  /-- A run that ended well counts the frames the sink took during it. -/
  counted : ∀ n, f.stage = .stopped (.drained n) →
    (sh.sink.accepted s.sendTimeout).length = start + n
  /-- A run that gave up on `e` tried it the attempt limit of times, every try failed, and its
  error carries the limit and the last failure; `e` is the first event the sink has not taken,
  and every later one is still in the queue, in order. -/
  gaveUp : ∀ err e, f.stage = .stopped (.failed err e) →
    ∃ last, err = .exhausted (max s.maxSendAttempts 1) last ∧
      (∃ pre x, sh.sink.tries = pre ++ [(e.frame s.connectorName, x)] ∧
        FailedTries s.sendTimeout (e.frame s.connectorName) (max s.maxSendAttempts 1 - 1) pre ∧
        x.failure s.sendTimeout = some last) ∧
      ∃ D, sh.sink.accepted s.sendTimeout =
          sh₀.sink.accepted s.sendTimeout ++ D.map (·.frame s.connectorName) ∧
        D ++ e :: sh.line.queue.items = p.toList ++ sh₀.line.queue.items ++ arrived
  /-- A run ends well or gives up, and in no other way. -/
  ends : ∀ r, f.stage = .stopped r → (∃ n, r = .drained n) ∨ ∃ err e, r = .failed err e
  /-- The next move ends the run well only on an empty queue, with shutdown asked or every
  producer gone, and every event given has then been taken. -/
  exit : ∀ n, f.result? = none → (f.step sh).1.stage = .stopped (.drained n) →
    (f.step sh).2.line.queue.items = [] ∧
      ((f.step sh).2.cancelled = true ∨ (f.step sh).2.line.queue.closedForConsumer = true) ∧
      (f.step sh).2.sink.accepted s.sendTimeout = sh₀.sink.accepted s.sendTimeout ++
        (p.toList ++ sh₀.line.queue.items ++ arrived).map (·.frame s.connectorName)

/-- Whatever the sink does on each try short of panicking, and whatever the rest of the
program does between moves, every point of every run of a forwarder, through its restarts,
obeys the delivery law. -/
theorem forwarder_delivery_law {s : ForwarderSettings} {p : Option Event} {sh₀ : Shared}
    (hscript : ∀ x ∈ sh₀.sink.script, x ≠ .panic) {f : ForwardTask} {sh : Shared}
    {arrived : List Event} {start : Nat}
    (hrun : ForwardRun { settings := s, pending := p } sh₀ f sh arrived start) :
    DeliveryLaw s p sh₀ f sh arrived start := by
  obtain ⟨hset, hinv⟩ := hrun.delivery hscript
  obtain ⟨hset', hnext⟩ := hrun.move.delivery hscript
  subst hset
  refine ⟨hinv.order, ?_, ?_, ?_, ?_⟩
  · intro n hn
    have hfacts := hinv.stage
    simp only [ForwardTask.StageFacts, hn] at hfacts
    have hcount := hinv.count
    simp only [ForwardTask.settling, hn] at hcount
    omega
  · intro err e hst
    obtain ⟨D, hD, hL⟩ := hinv.order
    have hfacts := hinv.stage
    simp only [ForwardTask.StageFacts, hst] at hfacts
    obtain ⟨last, pre, x, herr, htries, hfail, hx⟩ := hfacts
    refine ⟨last, herr, ⟨pre, x, htries, hfail, hx⟩, D, hD, ?_⟩
    simpa [ForwardTask.owed, hst] using hL
  · intro r hr
    have hfacts := hinv.stage
    cases r with
    | drained n => exact .inl ⟨n, rfl⟩
    | failed err e => exact .inr ⟨err, e, rfl⟩
    | panicked m => simp [ForwardTask.StageFacts, hr] at hfacts
    | aborted => simp [ForwardTask.StageFacts, hr] at hfacts
  · intro n hf hn
    obtain ⟨hitems, hwhy⟩ := ForwardTask.step_drained hf hn
    obtain ⟨D, hD, hL⟩ := hnext.order
    have howed : (f.step sh).1.owed = [] := by simp [ForwardTask.owed, hn]
    rw [howed, hitems] at hL
    simp only [List.append_nil] at hL
    subst hL
    rw [hset'] at hD
    exact ⟨hitems, hwhy, hD⟩

/-- A forwarder allowed two tries per event, about to start on a queue of one event with
shutdown asked and a sink whose first send breaks. -/
theorem forwarder_delivery_law_broken_pipe :
    (∀ x ∈ [SinkStep.io], x ≠ .panic) ∧
      ForwardRun { settings := { maxSendAttempts := 2 } }
        { line := { queue := ⟨1, [⟨.snapshot 7, .object []⟩], [true], true, 0, [], []⟩ }, cancelled := true,
          sink := { script := [.io] } }
        { settings := { maxSendAttempts := 2 } }
        { line := { queue := ⟨1, [⟨.snapshot 7, .object []⟩], [true], true, 0, [], []⟩ }, cancelled := true,
          sink := { script := [.io] } } [] 0 ∧
      DeliveryLaw { maxSendAttempts := 2 } none
        { line := { queue := ⟨1, [⟨.snapshot 7, .object []⟩], [true], true, 0, [], []⟩ }, cancelled := true,
          sink := { script := [.io] } }
        { settings := { maxSendAttempts := 2 } }
        { line := { queue := ⟨1, [⟨.snapshot 7, .object []⟩], [true], true, 0, [], []⟩ }, cancelled := true,
          sink := { script := [.io] } } [] 0 :=
  ⟨by simp, .start, forwarder_delivery_law (by simp) .start⟩

end BookRelay.Scenario
