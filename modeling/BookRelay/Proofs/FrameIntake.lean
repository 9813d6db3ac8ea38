import BookRelay.Proofs.Ledger
import BookRelay.Proofs.Payload
import Mathlib.Data.ZMod.Basic
import Mathlib.Tactic.LinearCombination

/-!
# What the stream client counts of the frames it takes in

Every frame the stream client takes in, a text frame or a binary frame that is not UTF-8,
meets one fate (`FateOf`). A text frame over the payload limit is dropped unread; one within it,
the limit included, is read, and is then a parse error, ignored as a reply or another message,
or a depth update whose incremental event is offered to the queue. A binary frame that is not
UTF-8 is a parse error. An offered event is stored, dropped while the connection is not open,
dropped for want of a slot, or refused by a queue whose consumer is gone (`Admits`). `Takes`
says what one frame does, and `takeFrame_takes` that taking a frame in does it.

Between frames the rest of the program may change the connection state, take events from the
queue or drop the consumer (`Intake`). Following a run with the log of its frames' fates
(`Counted`), the counters move only with the frames, each by its fate; they keep their
conservation law (`IntakeBalanced`), in which the refusals are the one fate no counter records;
and the queue passes on exactly the events of the enqueued frames, in arrival order.

Main statement: `frame_intake_accounting`.
-/

namespace BookRelay.Pipeline

open BookRelay.Feed BookRelay.Exchange

/-! ## Frames and their fates -/

/-- A frame the stream client takes in: a text frame, or a binary frame that is not UTF-8, of
which only the size counts. -/
inductive TakenFrame where
  | text (text : String)
  | undecodable (bytes : Nat)

def TakenFrame.bytes : TakenFrame → Nat
  | .text s => s.utf8ByteSize
  | .undecodable n => n

/-- Take in one frame: a text frame is read, a binary one that is not UTF-8 is counted. -/
def Line.takeFrame (l : Line) (maxPayload : Nat) (state : ConnectionState) : TakenFrame → Line
  | .text s => l.takeText maxPayload state s
  | .undecodable n => l.takeUndecodable n

/-- What becomes of an incremental event offered to the queue. -/
inductive Admission where
  /-- Dropped: the connection is not open. -/
  | notOpen
  | enqueued
  /-- Dropped: the queue has no free slot. -/
  | saturated
  /-- Refused by a queue whose consumer is gone. -/
  | refused
  deriving DecidableEq, Repr

inductive Fate where
  | oversize
  | unparseable
  | ignored
  /-- A depth update, whose incremental event `e` is offered to the queue. -/
  | incremental (e : Event) (a : Admission)

/-- The counter an admission bumps: none for a refusal. -/
def Admission.record : Admission → Metrics → Metrics
  | .notOpen => Metrics.recordNotOpenDrop
  | .enqueued => Metrics.recordIncrementalEnqueued
  | .saturated => Metrics.recordQueueSaturation
  | .refused => id

/-- The counters a fate bumps, after the frame's own two. -/
def Fate.record : Fate → Metrics → Metrics
  | .oversize => Metrics.recordOversizeDrop
  | .unparseable => Metrics.recordParseError
  | .ignored => Metrics.recordIgnoredFrame
  | .incremental _ a => fun m => a.record m.recordIncremental

def Fate.isRefused : Fate → Bool
  | .incremental _ .refused => true
  | _ => false

def Fate.enqueued? : Fate → Option Event
  | .incremental e .enqueued => some e
  | _ => none

def countFrame (m : Metrics) (x : TakenFrame × Fate) : Metrics :=
  x.2.record (m.recordFrame x.1.bytes)

def refusals (log : List (TakenFrame × Fate)) : Nat := log.countP (·.2.isRefused)

def totalBytes (log : List (TakenFrame × Fate)) : Nat := log.foldr (fun x n => x.1.bytes + n) 0

/-- The events a log's frames stored in the queue, in order. -/
def enqueuedEvents (log : List (TakenFrame × Fate)) : List Event := log.filterMap (·.2.enqueued?)

/-- The fate a frame's size and reading decide. The admission of a depth update's event is the
queue's to decide (`Admits`). -/
inductive FateOf (maxPayload : Nat) : TakenFrame → Fate → Prop
  | oversize {text : String} (h : maxPayload < text.utf8ByteSize) :
      FateOf maxPayload (.text text) .oversize
  | unparseable {text : String} {err : Json.Error} (h : text.utf8ByteSize ≤ maxPayload)
      (hp : parseStreamText text = .error err) : FateOf maxPayload (.text text) .unparseable
  | reply {text : String} {r : Reply} (h : text.utf8ByteSize ≤ maxPayload)
      (hp : parseStreamText text = .ok (.reply r)) : FateOf maxPayload (.text text) .ignored
  | other {text : String} {v : Json.Value} (h : text.utf8ByteSize ≤ maxPayload)
      (hp : parseStreamText text = .ok (.other v)) : FateOf maxPayload (.text text) .ignored
  | depth {text : String} {f : DepthFrame} (h : text.utf8ByteSize ≤ maxPayload)
      (hp : parseStreamText text = .ok (.depth f)) (a : Admission) :
      FateOf maxPayload (.text text) (.incremental ⟨.incremental f.firstUpdateId f.finalUpdateId, f.body⟩ a)
  | undecodable (bytes : Nat) : FateOf maxPayload (.undecodable bytes) .unparseable

/-- How an offered event fares, by the connection state and the queue. -/
inductive Admits (q : Queue) (state : ConnectionState) (e : Event) : Admission → Queue → Prop
  | notOpen (h : state ≠ .open) : Admits q state e .notOpen q
  | enqueued (h : state = .open) (ha : q.consumerAlive = true) (hf : 0 < q.free) :
      Admits q state e .enqueued ({ q with free := q.free - 1 }.store e)
  | saturated (h : state = .open) (ha : q.consumerAlive = true) (hf : q.free = 0) :
      Admits q state e .saturated q
  | refused (h : state = .open) (ha : q.consumerAlive = false) : Admits q state e .refused q

/-- What taking in `frame` does: the frame meets the fate its size and reading decide, the
counters move by the frame and its fate, and the queue changes only as the admission of a depth
update's event says. -/
inductive Takes (l : Line) (maxPayload : Nat) (state : ConnectionState) (frame : TakenFrame) :
    Fate → Line → Prop
  | dropped {fate : Fate} (hf : FateOf maxPayload frame fate) (hi : ∀ e a, fate ≠ .incremental e a) :
      Takes l maxPayload state frame fate { l with metrics := countFrame l.metrics (frame, fate) }
  | offered {e : Event} {a : Admission} {q : Queue} (hf : FateOf maxPayload frame (.incremental e a))
      (ha : Admits l.queue state e a q) :
      Takes l maxPayload state frame (.incremental e a)
        { queue := q, metrics := countFrame l.metrics (frame, .incremental e a) }

/-! ## One frame -/

theorem offer_admits (l : Line) (state : ConnectionState) (e : Event) :
    ∃ a q, Admits l.queue state e a q ∧ l.offer state e = { queue := q, metrics := a.record l.metrics } := by
  unfold Line.offer
  by_cases hs : state = .open
  · subst hs
    rw [if_neg (by decide)]
    cases ha : l.queue.consumerAlive
    · have hq : l.queue.tryEnqueue e = none := by simp [Queue.tryEnqueue, ha]
      exact ⟨.refused, l.queue, .refused rfl ha, by simp [hq, Queue.closedForProducers, ha, Admission.record]⟩
    · by_cases hf : 0 < l.queue.free
      · have hq : l.queue.tryEnqueue e = some ({ l.queue with free := l.queue.free - 1 }.store e) :=
          Queue.tryEnqueue_eq_some.2 ⟨ha, hf, rfl⟩
        exact ⟨.enqueued, _, .enqueued rfl ha hf, by simp [hq, Admission.record]⟩
      · have hq : l.queue.tryEnqueue e = none := by simp [Queue.tryEnqueue, ha, hf]
        exact ⟨.saturated, l.queue, .saturated rfl ha (by omega),
          by simp [hq, Queue.closedForProducers, ha, Admission.record]⟩
  · have hne : (state != .open) = true := by revert hs; cases state <;> decide
    exact ⟨.notOpen, l.queue, .notOpen hs, by simp [hne, Admission.record]⟩

theorem takeText_takes (l : Line) (maxPayload : Nat) (state : ConnectionState) (text : String) :
    ∃ fate, Takes l maxPayload state (.text text) fate (l.takeText maxPayload state text) := by
  unfold Line.takeText
  dsimp only
  by_cases hsize : text.utf8ByteSize > maxPayload
  · rw [if_pos hsize]
    exact ⟨.oversize, .dropped (.oversize hsize) (by simp)⟩
  · rw [if_neg hsize]
    have hle : text.utf8ByteSize ≤ maxPayload := Nat.le_of_not_lt hsize
    rcases hp : parseStreamText text with err | msg
    · exact ⟨.unparseable, .dropped (.unparseable hle hp) (by simp)⟩
    · cases msg with
      | depth f =>
        obtain ⟨a, q, ha, hoff⟩ := offer_admits
          { l with metrics := (l.metrics.recordFrame text.utf8ByteSize).recordIncremental } state
          ⟨.incremental f.firstUpdateId f.finalUpdateId, f.body⟩
        simp only [hoff]
        exact ⟨_, .offered (.depth hle hp a) ha⟩
      | reply r => exact ⟨.ignored, .dropped (.reply hle hp) (by simp)⟩
      | other v => exact ⟨.ignored, .dropped (.other hle hp) (by simp)⟩

/-- Taking in a frame does what `Takes` says, for some fate. -/
theorem takeFrame_takes (l : Line) (maxPayload : Nat) (state : ConnectionState) (frame : TakenFrame) :
    ∃ fate, Takes l maxPayload state frame fate (l.takeFrame maxPayload state frame) := by
  cases frame with
  | text text => exact takeText_takes l maxPayload state text
  | undecodable bytes => exact ⟨.unparseable, .dropped (.undecodable bytes) (by simp)⟩

namespace Takes

variable {l l' : Line} {maxPayload : Nat} {state : ConnectionState} {frame : TakenFrame} {fate : Fate}

theorem fateOf (h : Takes l maxPayload state frame fate l') : FateOf maxPayload frame fate := by
  cases h with
  | dropped hf _ => exact hf
  | offered hf _ => exact hf

theorem metrics_eq (h : Takes l maxPayload state frame fate l') :
    l'.metrics = countFrame l.metrics (frame, fate) := by
  cases h <;> rfl

theorem items_eq (h : Takes l maxPayload state frame fate l') :
    l'.queue.items = l.queue.items ++ fate.enqueued?.toList := by
  cases h with
  | dropped _ hi =>
    cases fate with
    | incremental e a => exact absurd rfl (hi e a)
    | oversize | unparseable | ignored => simp [Fate.enqueued?]
  | offered _ ha =>
    cases ha <;> simp [Fate.enqueued?]

end Takes

/-- A stored event carries the whole text frame it was read from. -/
theorem FateOf.payload_parse {maxPayload : Nat} {frame : TakenFrame} {e : Event} {a : Admission}
    (h : FateOf maxPayload frame (.incremental e a)) :
    ∃ text, frame = .text text ∧ Json.parse text = .ok e.payload := by
  cases h with
  | depth _ hp => exact ⟨_, rfl, (parseStreamText_keeps_range hp).1⟩

/-! ## Runs of intake moves -/

/-- A move at the stream client's intake: a frame taken in, or a move of the rest of the program
that the intake sees, namely a change of the connection state, the consumer taking the oldest
event, or the consumer going away. -/
inductive Intake where
  | frame (frame : TakenFrame)
  | setState (state : ConnectionState)
  | take
  | leave

namespace Intake

def frame? : Intake → Option TakenFrame
  | .frame f => some f
  | _ => none

/-- What a move does to the line and the connection state. -/
def apply (maxPayload : Nat) : Line × ConnectionState → Intake → Line × ConnectionState
  | (l, state), .frame f => (l.takeFrame maxPayload state f, state)
  | (l, _), .setState state => (l, state)
  | (l, state), .take => ({ l with queue := l.queue.tryDequeue.2 }, state)
  | (l, state), .leave => ({ l with queue := l.queue.dropConsumer }, state)

def run (maxPayload : Nat) (s : Line × ConnectionState) (moves : List Intake) :
    Line × ConnectionState :=
  moves.foldl (apply maxPayload) s

theorem run_concat (maxPayload : Nat) (s : Line × ConnectionState) (moves : List Intake)
    (m : Intake) : run maxPayload s (moves ++ [m]) = apply maxPayload (run maxPayload s moves) m := by
  simp [run]

end Intake

/-- A run of intake moves from `s₀`, with the log of its frames and their fates in arrival order,
and the events `out` that left the queue, taken by the consumer or dropped with it, in the order
they left. -/
inductive Counted (maxPayload : Nat) (s₀ : Line × ConnectionState) :
    List (TakenFrame × Fate) → List Event → Line × ConnectionState → Prop
  | start : Counted maxPayload s₀ [] [] s₀
  | frame {log : List (TakenFrame × Fate)} {out : List Event} {l l' : Line}
      {state : ConnectionState} {frame : TakenFrame} {fate : Fate}
      (h : Counted maxPayload s₀ log out (l, state)) (ht : Takes l maxPayload state frame fate l') :
      Counted maxPayload s₀ (log ++ [(frame, fate)]) out (l', state)
  | setState {log : List (TakenFrame × Fate)} {out : List Event} {l : Line}
      {state : ConnectionState} (state' : ConnectionState)
      (h : Counted maxPayload s₀ log out (l, state)) : Counted maxPayload s₀ log out (l, state')
  | take {log : List (TakenFrame × Fate)} {out : List Event} {l : Line} {state : ConnectionState}
      (h : Counted maxPayload s₀ log out (l, state)) :
      Counted maxPayload s₀ log (out ++ l.queue.tryDequeue.1.toList)
        ({ l with queue := l.queue.tryDequeue.2 }, state)
  | leave {log : List (TakenFrame × Fate)} {out : List Event} {l : Line} {state : ConnectionState}
      (h : Counted maxPayload s₀ log out (l, state)) :
      Counted maxPayload s₀ log (out ++ l.queue.items) ({ l with queue := l.queue.dropConsumer }, state)

/-- Every run of intake moves is counted, with the run's frames in its log in order. -/
theorem Counted.of_run (maxPayload : Nat) (s₀ : Line × ConnectionState) (moves : List Intake) :
    ∃ log out, Counted maxPayload s₀ log out (Intake.run maxPayload s₀ moves) ∧
      log.map Prod.fst = moves.filterMap Intake.frame? := by
  induction moves using List.reverseRecOn with
  | nil => exact ⟨[], [], .start, rfl⟩
  | append_singleton moves m ih =>
    -- The run is a left fold, so the induction takes moves off its end, where a frame
    -- extends the log.
    obtain ⟨log, out, h, hlog⟩ := ih
    rw [Intake.run_concat]
    generalize Intake.run maxPayload s₀ moves = s at h
    obtain ⟨l, state⟩ := s
    cases m with
    | frame f =>
      obtain ⟨fate, ht⟩ := takeFrame_takes l maxPayload state f
      exact ⟨_, _, h.frame ht, by simp [hlog, Intake.frame?]⟩
    | setState state' => exact ⟨_, _, h.setState state', by simp [hlog, Intake.frame?]⟩
    | take => exact ⟨_, _, h.take, by simp [hlog, Intake.frame?]⟩
    | leave => exact ⟨_, _, h.leave, by simp [hlog, Intake.frame?]⟩

theorem tryDequeue_toList_append (q : Queue) :
    q.tryDequeue.1.toList ++ q.tryDequeue.2.items = q.items := by
  unfold Queue.tryDequeue
  split <;> simp_all

namespace Counted

variable {maxPayload : Nat} {s₀ s : Line × ConnectionState} {log : List (TakenFrame × Fate)}
  {out : List Event}

theorem fates (h : Counted maxPayload s₀ log out s) : ∀ x ∈ log, FateOf maxPayload x.1 x.2 := by
  induction h with
  | start => simp
  | frame _ ht ih =>
    intro x hx
    rcases List.mem_append.1 hx with hx | hx
    · exact ih x hx
    · rw [List.mem_singleton.1 hx]
      exact ht.fateOf
  | setState _ _ ih => exact ih
  | take _ ih => exact ih
  | leave _ ih => exact ih

theorem metrics_eq (h : Counted maxPayload s₀ log out s) :
    s.1.metrics = log.foldl countFrame s₀.1.metrics := by
  induction h with
  | start => rfl
  | frame _ ht ih =>
    rw [List.foldl_append, ← ih]
    exact ht.metrics_eq
  | setState _ _ ih => exact ih
  | take _ ih => exact ih
  | leave _ ih => exact ih

/-- The queue is first in, first out over the whole run: the events that left it and those it
holds are those it held at the start and then the stored events of the log. -/
theorem queue_items (h : Counted maxPayload s₀ log out s) :
    out ++ s.1.queue.items = s₀.1.queue.items ++ enqueuedEvents log := by
  induction h with
  | start => simp [enqueuedEvents]
  | @frame _ _ _ _ _ _ fate _ ht ih =>
    rw [ht.items_eq, ← List.append_assoc, ih]
    simp only [enqueuedEvents, List.filterMap_append, List.filterMap_cons, List.filterMap_nil,
      List.append_assoc]
    cases fate.enqueued? <;> rfl
  | setState _ _ ih => exact ih
  | take _ ih => rw [List.append_assoc, tryDequeue_toList_append, ih]
  | leave _ ih => simpa [Queue.dropConsumer] using ih

end Counted

/-! ## The conservation law of the counters -/

/-- The intake counters balance, as 64-bit words: every frame is counted as oversize, a parse
error, ignored or an incremental; every incremental as enqueued, dropped while not open, dropped
for want of a slot, or one of the `refused` that a closed queue turned away; and `bytes` bytes
were taken in. -/
structure IntakeBalanced (m : Metrics) (refused bytes : Nat) : Prop where
  frames : m.framesReceived ≡
    m.oversizeDrops + m.parseErrors + m.ignoredFrames + m.incrementalsReceived [MOD Nat.pow 2 64]
  incrementals : m.incrementalsReceived ≡
    m.incrementalsEnqueued + m.notOpenDrops + m.queueSaturationDrops + refused [MOD Nat.pow 2 64]
  bytes : m.bytesReceived ≡ bytes [MOD Nat.pow 2 64]

/-- The counters on the left of the law are 64-bit words. -/
structure IntakeFits (m : Metrics) : Prop where
  frames : m.framesReceived < Nat.pow 2 64
  incrementals : m.incrementalsReceived < Nat.pow 2 64
  bytes : m.bytesReceived < Nat.pow 2 64

theorem bump_cast (n : Nat) : ((Metrics.bump n : Nat) : ZMod (Nat.pow 2 64)) = n + 1 := by
  rw [Metrics.bump, ZMod.natCast_mod]
  push_cast
  rfl

/-- The law read in the ring of 64-bit words, where each step is a linear equation. -/
theorem intakeBalanced_iff {m : Metrics} {r b : Nat} :
    IntakeBalanced m r b ↔
      (m.framesReceived : ZMod (Nat.pow 2 64)) =
          m.oversizeDrops + m.parseErrors + m.ignoredFrames + m.incrementalsReceived ∧
        (m.incrementalsReceived : ZMod (Nat.pow 2 64)) =
          m.incrementalsEnqueued + m.notOpenDrops + m.queueSaturationDrops + r ∧
        (m.bytesReceived : ZMod (Nat.pow 2 64)) = b := by
  simp only [← Nat.cast_add, ZMod.natCast_eq_natCast_iff]
  exact ⟨fun ⟨h1, h2, h3⟩ => ⟨h1, h2, h3⟩, fun ⟨h1, h2, h3⟩ => ⟨h1, h2, h3⟩⟩

namespace IntakeBalanced

variable {m : Metrics} {r b : Nat}

theorem fresh : IntakeBalanced {} 0 0 := ⟨.refl _, .refl _, .refl _⟩

/-- Each frame keeps the law: it bumps the frame counter and exactly one counter of the first
sum, and an incremental bumps exactly one counter of the second sum or is a refusal. -/
theorem countFrame (h : IntakeBalanced m r b) (x : TakenFrame × Fate) :
    IntakeBalanced (countFrame m x) (r + if x.2.isRefused then 1 else 0) (b + x.1.bytes) := by
  obtain ⟨frame, fate⟩ := x
  -- Read in the ring of words a bump is a plain successor, so each case is linear.
  obtain ⟨hf, hi, hb⟩ := intakeBalanced_iff.1 h
  refine intakeBalanced_iff.2 ?_
  cases fate with
  | oversize | unparseable | ignored =>
    simp only [Pipeline.countFrame, Fate.record, Fate.isRefused, Metrics.recordFrame,
      Metrics.recordOversizeDrop, Metrics.recordParseError, Metrics.recordIgnoredFrame, bump_cast,
      ZMod.natCast_mod, Nat.cast_add, Bool.false_eq_true, ↓reduceIte, Nat.add_zero]
    exact ⟨by linear_combination hf, by linear_combination hi, by linear_combination hb⟩
  | incremental e a =>
    cases a <;>
    simp only [Pipeline.countFrame, Fate.record, Admission.record, Fate.isRefused,
      Metrics.recordFrame, Metrics.recordIncremental, Metrics.recordNotOpenDrop,
      Metrics.recordIncrementalEnqueued, Metrics.recordQueueSaturation, id, bump_cast,
      ZMod.natCast_mod, Nat.cast_add, Nat.cast_one, Bool.false_eq_true, ↓reduceIte, Nat.add_zero] <;>
    exact ⟨by linear_combination hf, by linear_combination hi, by linear_combination hb⟩

theorem foldl (h : IntakeBalanced m r b) (log : List (TakenFrame × Fate)) :
    IntakeBalanced (log.foldl Pipeline.countFrame m) (r + refusals log) (b + totalBytes log) := by
  induction log generalizing m r b with
  | nil => simpa [refusals, totalBytes] using h
  | cons x log ih =>
    have hr : r + refusals (x :: log) = (r + if x.2.isRefused then 1 else 0) + refusals log := by
      simp only [refusals, List.countP_cons]
      omega
    have hb : b + totalBytes (x :: log) = (b + x.1.bytes) + totalBytes log := by
      simp only [totalBytes, List.foldr_cons]
      omega
    rw [List.foldl_cons, hr, hb]
    exact ih (h.countFrame x)

theorem eq_mod (h : IntakeBalanced m r b) (hm : IntakeFits m) :
    m.framesReceived =
        (m.oversizeDrops + m.parseErrors + m.ignoredFrames + m.incrementalsReceived) % Nat.pow 2 64 ∧
      m.incrementalsReceived =
        (m.incrementalsEnqueued + m.notOpenDrops + m.queueSaturationDrops + r) % Nat.pow 2 64 ∧
      m.bytesReceived = b % Nat.pow 2 64 :=
  ⟨(Nat.mod_eq_of_lt hm.frames).symm.trans h.frames,
    (Nat.mod_eq_of_lt hm.incrementals).symm.trans h.incrementals,
    (Nat.mod_eq_of_lt hm.bytes).symm.trans h.bytes⟩

end IntakeBalanced

namespace IntakeFits

variable {m : Metrics}

theorem fresh : IntakeFits {} := ⟨by decide, by decide, by decide⟩

theorem countFrame (h : IntakeFits m) (x : TakenFrame × Fate) : IntakeFits (countFrame m x) := by
  obtain ⟨frame, fate⟩ := x
  have hframe : IntakeFits (m.recordFrame frame.bytes) :=
    { h with frames := Scenario.Ledger.bump_lt _, bytes := Nat.mod_lt _ (by decide) }
  cases fate with
  | oversize | unparseable | ignored => exact ⟨hframe.frames, hframe.incrementals, hframe.bytes⟩
  | incremental e a => cases a <;> exact ⟨hframe.frames, Scenario.Ledger.bump_lt _, hframe.bytes⟩

theorem foldl (h : IntakeFits m) (log : List (TakenFrame × Fate)) :
    IntakeFits (log.foldl Pipeline.countFrame m) := by
  induction log generalizing m with
  | nil => exact h
  | cons x log ih => exact ih (h.countFrame x)

end IntakeFits

/-! ## The accounting of a run -/

/-- What a counted run of intake moves from `s₀` to `s` has done, by the log of its frames and
the events that left the queue. -/
structure IntakeLaw (maxPayload : Nat) (s₀ : Line × ConnectionState) (log : List (TakenFrame × Fate))
    (out : List Event) (s : Line × ConnectionState) : Prop where
  /-- Each frame met the fate its size and its reading decide. -/
  fates : ∀ x ∈ log, FateOf maxPayload x.1 x.2
  /-- The event of each depth update carries the whole text frame it was read from. -/
  payloads : ∀ x ∈ log, ∀ e a, x.2 = .incremental e a →
    ∃ text, x.1 = .text text ∧ Json.parse text = .ok e.payload
  /-- Only frames move the counters, each by its size and its fate, in arrival order. -/
  metrics : s.1.metrics = log.foldl countFrame s₀.1.metrics
  /-- Counters that balance stay balanced, with the run's refusals and bytes added. -/
  balanced : ∀ r b, IntakeBalanced s₀.1.metrics r b →
    IntakeBalanced s.1.metrics (r + refusals log) (b + totalBytes log)
  /-- From a fresh client's counters, the law holds as equations of 64-bit words. -/
  fresh : s₀.1.metrics = {} →
    s.1.metrics.framesReceived = (s.1.metrics.oversizeDrops + s.1.metrics.parseErrors +
        s.1.metrics.ignoredFrames + s.1.metrics.incrementalsReceived) % Nat.pow 2 64 ∧
      s.1.metrics.incrementalsReceived = (s.1.metrics.incrementalsEnqueued +
        s.1.metrics.notOpenDrops + s.1.metrics.queueSaturationDrops + refusals log) % Nat.pow 2 64 ∧
      s.1.metrics.bytesReceived = totalBytes log % Nat.pow 2 64
  /-- The queue is first in, first out: the events that left it and those it holds are those it
  held at the start and then the events of the log's stored frames, in arrival order. -/
  queue : out ++ s.1.queue.items = s₀.1.queue.items ++ enqueuedEvents log

theorem Counted.law {maxPayload : Nat} {s₀ s : Line × ConnectionState}
    {log : List (TakenFrame × Fate)} {out : List Event} (h : Counted maxPayload s₀ log out s) :
    IntakeLaw maxPayload s₀ log out s where
  fates := h.fates
  payloads := by
    intro x hx e a he
    exact (he ▸ h.fates x hx).payload_parse
  metrics := h.metrics_eq
  balanced := by
    intro r b hb
    rw [h.metrics_eq]
    exact hb.foldl log
  fresh := by
    intro hm
    -- Fresh counters balance with nothing refused and no bytes, and they fit in words.
    have hb := IntakeBalanced.fresh.foldl log
    have hf := IntakeFits.fresh.foldl log
    rw [← hm, ← h.metrics_eq] at hb hf
    rw [Nat.zero_add, Nat.zero_add] at hb
    exact hb.eq_mod hf
  queue := h.queue_items

/-- Every run of the stream client's intake, frames between any changes of the connection state
and any moves of the consumer, is counted by a log of its frames in arrival order, and the
run obeys the accounting of `IntakeLaw`. -/
theorem frame_intake_accounting (maxPayload : Nat) (s₀ : Line × ConnectionState) (moves : List Intake) :
    ∃ log out, Counted maxPayload s₀ log out (Intake.run maxPayload s₀ moves) ∧
      log.map Prod.fst = moves.filterMap Intake.frame? ∧
      IntakeLaw maxPayload s₀ log out (Intake.run maxPayload s₀ moves) := by
  obtain ⟨log, out, h, hlog⟩ := Counted.of_run maxPayload s₀ moves
  exact ⟨log, out, h, hlog, h.law⟩

/-- A fresh client with a one-byte limit takes a two-byte text frame, dropped unread, and a
three-byte binary frame that is not UTF-8. -/
theorem frame_intake_accounting_fresh_client :
    let s := Intake.run 1 ({ queue := Queue.bounded 1 }, .open)
      [.frame (.text "ab"), .frame (.undecodable 3)]
    s.1.metrics.framesReceived = (s.1.metrics.oversizeDrops + s.1.metrics.parseErrors +
      s.1.metrics.ignoredFrames + s.1.metrics.incrementalsReceived) % Nat.pow 2 64 := by
  obtain ⟨log, out, -, -, law⟩ := frame_intake_accounting 1 ({ queue := Queue.bounded 1 }, .open)
    [.frame (.text "ab"), .frame (.undecodable 3)]
  exact (law.fresh rfl).1

end BookRelay.Pipeline
