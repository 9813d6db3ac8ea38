import BookRelay.Proofs.StreamLoop
import BookRelay.Scenario.SnapshotTask
import BookRelay.Proofs.Delivery
import BookRelay.Proofs.Payload
import Mathlib.Data.Nat.ModEq
import Mathlib.Logic.Relation

/-! # What the tasks do to the queue and its counters

The accounting of accepted events reads a few parts of the shared state: the queue with its
handles, whether shutdown was asked, and the counters of events enqueued and forwarded of each
kind. This module calls those parts the *ledger* and says what each task's move does to it.

A producer (the stream client, the snapshot scheduler and its fetches) may only give back a
handle it holds, take a new handle while some handle is live, or put an event into the queue
while shutdown is not asked, the consumer is there and some handle is live (`Produces`). The
forwarder only takes the oldest event and counts the events the sink accepted
(`ForwardEffect`). From these descriptions follow the facts the shutdown accounting needs: the
counters balance, and once shutdown is asked or every handle is gone, nothing more enters. -/

namespace BookRelay.Feed.Queue

/-- The queue as the accounting reads it: its events and handles, with the slots left out. -/
def unslotted (q : Queue) : Queue := { q with free := 0, waiting := [], granted := [] }

section Unslotted

variable (q : Queue) (e : Event) (w h : Nat)

@[simp] theorem unslotted_items : q.unslotted.items = q.items := rfl
@[simp] theorem unslotted_producers : q.unslotted.producers = q.producers := rfl
@[simp] theorem unslotted_consumerAlive : q.unslotted.consumerAlive = q.consumerAlive := rfl
@[simp] theorem unslotted_hasProducers : q.unslotted.hasProducers = q.hasProducers := rfl
@[simp] theorem unslotted_producerLive : q.unslotted.producerLive h = q.producerLive h := rfl

@[simp] theorem dropProducer_unslotted : (q.dropProducer h).unslotted = q.unslotted.dropProducer h :=
  rfl

@[simp] theorem cloneProducer_unslotted : q.cloneProducer.2.unslotted = q.unslotted.cloneProducer.2 :=
  rfl

/-- Two queues with the same capacity, events and handles look the same to the accounting. -/
theorem unslotted_congr {q' : Queue} (hc : q'.capacity = q.capacity) (hi : q'.items = q.items)
    (hp : q'.producers = q.producers) (ha : q'.consumerAlive = q.consumerAlive) :
    q'.unslotted = q.unslotted := by
  cases q
  cases q'
  simp only at hc hi hp ha
  subst hc hi hp ha
  rfl

/-- Slots moving between the free count, the line and the grants leave the contents alone. -/
@[simp] theorem release_unslotted : q.release.unslotted = q.unslotted :=
  unslotted_congr q (by simp) (by simp) (by simp) (by simp)

@[simp] theorem withdraw_unslotted : (q.withdraw w).unslotted = q.unslotted :=
  unslotted_congr q (by simp) (by simp) (by simp) (by simp)

@[simp] theorem acquire_unslotted : (q.acquire w).2.unslotted = q.unslotted :=
  unslotted_congr q (by simp) (by simp) (by simp) (by simp)

/-- A poll that did not store its event leaves the contents alone. -/
theorem pollEnqueue_unslotted (t : Time.Duration) (late : Bool)
    (h : (q.pollEnqueue w e t late).1 ≠ some (.ok ())) :
    (q.pollEnqueue w e t late).2.unslotted = q.unslotted := by
  have hq := acquire_unslotted q w
  revert h
  unfold pollEnqueue
  rcases hg : q.acquire w with ⟨g, q'⟩
  rw [hg] at hq
  dsimp only at hq
  cases g with
  | closed => exact fun _ => hq
  | ready => exact fun h => absurd rfl h
  | pending => cases late <;> simp [hq]

/-- A poll that stored its event found the consumer there and added the event to the
contents. -/
theorem pollEnqueue_ok (t : Time.Duration) (late : Bool)
    (h : (q.pollEnqueue w e t late).1 = some (.ok ())) :
    q.consumerAlive = true ∧
      (q.pollEnqueue w e t late).2.unslotted = { q.unslotted with items := q.items ++ [e] } := by
  have hq := acquire_unslotted q w
  have hi := acquire_items q w
  have hc := acquire_closed_iff q w
  revert h
  unfold pollEnqueue
  rcases hg : q.acquire w with ⟨g, q'⟩
  rw [hg] at hq hi hc
  dsimp only at hq hi hc
  cases g with
  | closed => simp
  | ready =>
    refine fun _ => ⟨by simpa using hc, ?_⟩
    rw [← hq, ← hi]
    rfl
  | pending => cases late <;> simp

end Unslotted

end BookRelay.Feed.Queue

namespace BookRelay.Scenario

open BookRelay.Pipeline BookRelay.Feed

/-! ## Handles of the queue -/

namespace Queue

open BookRelay.Feed.Queue

variable (q : Feed.Queue)

theorem hasProducers_of_producerLive {i : Nat} (h : q.producerLive i = true) :
    q.hasProducers = true := by
  unfold producerLive at h
  unfold hasProducers
  rw [List.getD_eq_getElem?_getD] at h
  cases hi : q.producers[i]? with
  | none => simp [hi] at h
  | some b =>
    simp only [hi, Option.getD_some] at h
    subst h
    exact List.any_eq_true.2 ⟨true, List.mem_of_getElem? hi, rfl⟩

theorem producerLive_dropProducer {i h : Nat} (hne : i ≠ h) :
    (q.dropProducer h).producerLive i = q.producerLive i := by
  simp [producerLive, dropProducer, List.getD_eq_getElem?_getD, List.getElem?_set_ne (Ne.symm hne)]

theorem producerLive_cloneProducer {i : Nat} (h : q.producerLive i = true) :
    q.cloneProducer.2.producerLive i = true := by
  unfold producerLive at h ⊢
  rw [List.getD_eq_getElem?_getD] at h ⊢
  cases hi : q.producers[i]? with
  | none => simp [hi] at h
  | some b =>
    have hlt : i < q.producers.length := (List.getElem?_eq_some_iff.1 hi).1
    simpa [cloneProducer, List.getElem?_append_left hlt, hi] using h

theorem cloneProducer_fresh : q.cloneProducer.2.producerLive q.cloneProducer.1 = true := by
  simp [cloneProducer, producerLive]

/-- Giving a handle back never brings a producer back. -/
theorem hasProducers_dropProducer (h : Nat) (hq : q.hasProducers = false) :
    (q.dropProducer h).hasProducers = false := by
  unfold hasProducers dropProducer at *
  rw [List.any_eq_false] at hq ⊢
  intro b hb
  rcases List.mem_or_eq_of_mem_set hb with hb | rfl
  · exact hq b hb
  · simp

end Queue

/-! ## The ledger -/

def kindCount (k : Kind) (es : List Event) : Nat := es.countP fun e => e.kind = k

@[simp] theorem kindCount_nil (k : Kind) : kindCount k [] = 0 := rfl

@[simp] theorem kindCount_append (k : Kind) (es es' : List Event) :
    kindCount k (es ++ es') = kindCount k es + kindCount k es' := List.countP_append

@[simp] theorem kindCount_cons (k : Kind) (e : Event) (es : List Event) :
    kindCount k (e :: es) = kindCount k es + if e.kind = k then 1 else 0 := by
  simp [kindCount, List.countP_cons]

/-- The parts of the shared state that the accounting of accepted events reads. -/
structure Ledger where
  queue : Feed.Queue
  cancelled : Bool
  incrementalsEnqueued : Nat
  snapshotsEnqueued : Nat
  incrementalsForwarded : Nat
  snapshotsForwarded : Nat

def Shared.ledger (sh : Shared) : Ledger :=
  ⟨sh.line.queue.unslotted, sh.cancelled, sh.line.metrics.incrementalsEnqueued,
    sh.line.metrics.snapshotsEnqueued, sh.line.metrics.incrementalsForwarded,
    sh.line.metrics.snapshotsForwarded⟩

namespace Ledger

/-- The counter of events of a kind put into the queue. -/
def enqueued (l : Ledger) : Kind → Nat
  | .incremental => l.incrementalsEnqueued
  | .snapshot => l.snapshotsEnqueued

def forwarded (l : Ledger) : Kind → Nat
  | .incremental => l.incrementalsForwarded
  | .snapshot => l.snapshotsForwarded

/-- Producer handle `h` is given back. -/
def drop (l : Ledger) (h : Nat) : Ledger := { l with queue := l.queue.dropProducer h }

def clone (l : Ledger) : Ledger := { l with queue := l.queue.cloneProducer.2 }

/-- An event enters the queue and the counter of its kind goes up. -/
def enqueue (l : Ledger) (e : Event) : Ledger :=
  let l := { l with queue := { l.queue with items := l.queue.items ++ [e] } }
  match e.kind with
  | .incremental => { l with incrementalsEnqueued := Metrics.bump l.incrementalsEnqueued }
  | .snapshot => { l with snapshotsEnqueued := Metrics.bump l.snapshotsEnqueued }

/-- Modulo the counters' word size, the events of each kind put into the queue are those the
sink accepted, those still queued, and those `held` outside the queue. -/
def Balanced (l : Ledger) (held : List Event) : Prop :=
  ∀ k, l.enqueued k ≡ l.forwarded k + kindCount k l.queue.items + kindCount k held
    [MOD Nat.pow 2 64]

/-- Every counter of the ledger is a 64-bit word. -/
def Bounded (l : Ledger) : Prop :=
  ∀ k, l.enqueued k < Nat.pow 2 64 ∧ l.forwarded k < Nat.pow 2 64

/-- No producer may add an event any more: shutdown was asked, or every handle is gone. -/
def Quiet (l : Ledger) : Prop := l.cancelled = true ∨ l.queue.hasProducers = false

variable (l : Ledger)

@[simp] theorem drop_queue (h : Nat) : (l.drop h).queue = l.queue.dropProducer h := rfl
@[simp] theorem drop_cancelled (h : Nat) : (l.drop h).cancelled = l.cancelled := rfl
@[simp] theorem drop_enqueued (h : Nat) : (l.drop h).enqueued = l.enqueued := rfl
@[simp] theorem drop_forwarded (h : Nat) : (l.drop h).forwarded = l.forwarded := rfl
@[simp] theorem clone_queue : l.clone.queue = l.queue.cloneProducer.2 := rfl
@[simp] theorem clone_cancelled : l.clone.cancelled = l.cancelled := rfl
@[simp] theorem clone_enqueued : l.clone.enqueued = l.enqueued := rfl
@[simp] theorem clone_forwarded : l.clone.forwarded = l.forwarded := rfl

@[simp] theorem enqueue_queue (e : Event) :
    (l.enqueue e).queue = { l.queue with items := l.queue.items ++ [e] } := by
  unfold enqueue
  split <;> rfl

@[simp] theorem enqueue_cancelled (e : Event) : (l.enqueue e).cancelled = l.cancelled := by
  unfold enqueue
  split <;> rfl

@[simp] theorem enqueue_forwarded (e : Event) : (l.enqueue e).forwarded = l.forwarded := by
  unfold enqueue
  split <;> rfl

theorem enqueue_enqueued (e : Event) (k : Kind) :
    (l.enqueue e).enqueued k = if e.kind = k then Metrics.bump (l.enqueued k) else l.enqueued k := by
  unfold enqueue
  split <;> rename_i hk <;> cases k <;> simp [enqueued, hk]

/-- A bumped counter is one more, modulo the word size. -/
theorem bump_modEq (n : Nat) : Metrics.bump n ≡ n + 1 [MOD Nat.pow 2 64] := Nat.mod_modEq _ _

theorem bump_lt (n : Nat) : Metrics.bump n < Nat.pow 2 64 := Nat.mod_lt _ (by decide)

variable {l}

/-- An event put into the queue is counted in the balance. -/
theorem Balanced.enqueue {held : List Event} (h : l.Balanced held) (e : Event) :
    (l.enqueue e).Balanced held := by
  intro k
  rw [enqueue_enqueued, enqueue_forwarded, enqueue_queue]
  by_cases hk : e.kind = k
  · simp only [hk, if_true, kindCount_append, kindCount_cons, kindCount_nil]
    calc Metrics.bump (l.enqueued k) ≡ l.enqueued k + 1 [MOD Nat.pow 2 64] := bump_modEq _
      _ ≡ l.forwarded k + kindCount k l.queue.items + kindCount k held + 1 [MOD Nat.pow 2 64] :=
        (h k).add_right 1
      _ = _ := by omega
  · simpa [hk] using h k

theorem Bounded.enqueue (h : l.Bounded) (e : Event) : (l.enqueue e).Bounded := by
  intro k
  rw [enqueue_enqueued, enqueue_forwarded]
  split
  · exact ⟨bump_lt _, (h k).2⟩
  · exact h k

end Ledger

/-! ## What a producer may do -/

/-- One thing a producer's move may do to the ledger, `own` being the handles it holds: give
one of them back, take a new handle while some handle is live, or put an event into the queue
while shutdown is not asked, the consumer is there and some handle is live. -/
inductive ProduceStep (own : Nat → Prop) : Ledger → Ledger → Prop
  | drop (l : Ledger) (h : Nat) : own h → ProduceStep own l (l.drop h)
  | clone (l : Ledger) : l.queue.hasProducers = true → ProduceStep own l l.clone
  | enqueue (l : Ledger) (e : Event) : l.cancelled = false → l.queue.consumerAlive = true →
      l.queue.hasProducers = true → ProduceStep own l (l.enqueue e)

/-- What one move of a producer may do to the ledger: a few producer steps. -/
def Produces (own : Nat → Prop) : Ledger → Ledger → Prop := Relation.ReflTransGen (ProduceStep own)

namespace Produces

variable {own : Nat → Prop} {l l' : Ledger}

theorem refl (l : Ledger) : Produces own l l := Relation.ReflTransGen.refl

theorem single (h : ProduceStep own l l') : Produces own l l' := Relation.ReflTransGen.single h

theorem trans {l'' : Ledger} (h : Produces own l l') (h' : Produces own l' l'') :
    Produces own l l'' := Relation.ReflTransGen.trans h h'

theorem mono {own' : Nat → Prop} (hown : ∀ h, own h → own' h) (h : Produces own l l') :
    Produces own' l l' := by
  induction h with
  | refl => exact refl _
  | tail _ hs ih =>
    refine ih.trans (single ?_)
    cases hs with
    | drop h hh => exact .drop _ h (hown h hh)
    | clone hp => exact .clone _ hp
    | enqueue e hc ha hp => exact .enqueue _ e hc ha hp

/-- A property that every producer step keeps holds after a producer's move. -/
theorem invariant {P : Ledger → Prop} (hstep : ∀ {a b}, ProduceStep own a b → P a → P b)
    (h : Produces own l l') (hl : P l) : P l' := by
  induction h with
  | refl => exact hl
  | tail _ hs ih => exact hstep hs ih

theorem cancelled (h : Produces own l l') : l'.cancelled = l.cancelled :=
  h.invariant (P := fun m => m.cancelled = l.cancelled) (fun hs hm => by cases hs <;> simpa using hm) rfl

theorem consumerAlive (h : Produces own l l') : l'.queue.consumerAlive = l.queue.consumerAlive :=
  h.invariant (P := fun m => m.queue.consumerAlive = l.queue.consumerAlive)
    (fun hs hm => by cases hs <;> simpa [Feed.Queue.dropProducer, Feed.Queue.cloneProducer] using hm) rfl

theorem forwarded (h : Produces own l l') : l'.forwarded = l.forwarded :=
  h.invariant (P := fun m => m.forwarded = l.forwarded) (fun hs hm => by cases hs <;> simpa using hm) rfl

theorem length_le (h : Produces own l l') : l.queue.producers.length ≤ l'.queue.producers.length :=
  h.invariant (P := fun m => l.queue.producers.length ≤ m.queue.producers.length)
    (fun hs hm => by
      cases hs <;> simp [Feed.Queue.dropProducer, Feed.Queue.cloneProducer] <;> omega) le_rfl

/-- A handle the producer does not hold stays live. -/
theorem producerLive {i : Nat} (hi : ¬ own i) (h : Produces own l l')
    (hl : l.queue.producerLive i = true) : l'.queue.producerLive i = true :=
  h.invariant (P := fun m => m.queue.producerLive i = true)
    (fun hs hm => by
      cases hs with
      | drop j hj =>
        rw [Ledger.drop_queue, Queue.producerLive_dropProducer _ (by rintro rfl; exact hi hj)]
        exact hm
      | clone => exact Queue.producerLive_cloneProducer _ hm
      | enqueue => simpa [Feed.Queue.producerLive] using hm) hl

theorem balanced {held : List Event} (h : Produces own l l') (hl : l.Balanced held) :
    l'.Balanced held :=
  h.invariant (P := fun m => m.Balanced held)
    (fun hs hm => by
      cases hs with
      | drop => exact hm
      | clone => exact hm
      | enqueue e => exact hm.enqueue e) hl

theorem bounded (h : Produces own l l') (hl : l.Bounded) : l'.Bounded :=
  h.invariant (P := Ledger.Bounded)
    (fun hs hm => by
      cases hs with
      | drop => exact hm
      | clone => exact hm
      | enqueue e => exact hm.enqueue e) hl

/-- With the consumer gone, no event enters. -/
theorem items_of_closed (h : Produces own l l') (hc : l.queue.consumerAlive = false) :
    l'.queue.items = l.queue.items :=
  h.invariant (P := fun m => m.queue.consumerAlive = false ∧ m.queue.items = l.queue.items)
    (fun hs hm => by
      cases hs with
      | drop => exact hm
      | clone => exact hm
      | enqueue e _ ha => exact absurd (hm.1.symm.trans ha) (by decide)) ⟨hc, rfl⟩ |>.2

/-- Once no producer may add an event, none does: the queue and the counters of enqueued
events stay as they are. -/
theorem quiet (h : Produces own l l') (hq : l.Quiet) :
    l'.Quiet ∧ l'.queue.items = l.queue.items ∧ l'.enqueued = l.enqueued :=
  h.invariant (P := fun m => m.Quiet ∧ m.queue.items = l.queue.items ∧ m.enqueued = l.enqueued)
    (fun hs hm => by
      obtain ⟨hq, hi, he⟩ := hm
      cases hs with
      | drop j =>
        refine ⟨?_, hi, he⟩
        rcases hq with hc | hp
        · exact .inl hc
        · exact .inr (Queue.hasProducers_dropProducer _ j hp)
      | clone hp =>
        refine ⟨?_, hi, he⟩
        rcases hq with hc | hp'
        · exact .inl hc
        · exact absurd (hp.symm.trans hp') (by decide)
      | enqueue e hc _ hp =>
        rcases hq with hc' | hp'
        · exact absurd (hc.symm.trans hc') (by decide)
        · exact absurd (hp.symm.trans hp') (by decide)) ⟨hq, rfl, rfl⟩

end Produces

/-! ## The shared state seen through the ledger -/

namespace Shared

variable (sh : Shared)

@[simp] theorem ledger_queue : sh.ledger.queue = sh.line.queue.unslotted := rfl

@[simp] theorem ledger_cancelled : sh.ledger.cancelled = sh.cancelled := rfl

theorem withQueue_ledger (g : Feed.Queue → Feed.Queue) :
    (sh.withQueue g).ledger = { sh.ledger with queue := (g sh.line.queue).unslotted } := rfl

/-- Changing the queue without changing its events or handles keeps the ledger. -/
theorem withQueue_ledger_of {g : Feed.Queue → Feed.Queue}
    (hg : (g sh.line.queue).unslotted = sh.line.queue.unslotted) : (sh.withQueue g).ledger = sh.ledger := by
  rw [withQueue_ledger, hg]
  rfl

@[simp] theorem note_ledger (level : Log.Level) (part text : String) :
    (sh.note level part text).ledger = sh.ledger := rfl

@[simp] theorem updateLink_ledger (visit : Nat) (g : Link → Link) :
    (sh.updateLink visit g).ledger = sh.ledger := rfl

@[simp] theorem dropProducer_ledger (h : Nat) : (sh.dropProducer h).ledger = sh.ledger.drop h := rfl

@[simp] theorem exchange_ledger (x : Exchange) : { sh with exchange := x }.ledger = sh.ledger := rfl

@[simp] theorem stub_ledger (s : Stub) : { sh with stub := s }.ledger = sh.ledger := rfl

@[simp] theorem sink_ledger (s : ScriptedSink) : { sh with sink := s }.ledger = sh.ledger := rfl

@[simp] theorem recordHandshakeFailure_ledger :
    (sh.record Metrics.recordHandshakeFailure).ledger = sh.ledger := rfl

@[simp] theorem recordReconnect_ledger : (sh.record Metrics.recordReconnect).ledger = sh.ledger := rfl

@[simp] theorem recordPingAnswered_ledger :
    (sh.record Metrics.recordPingAnswered).ledger = sh.ledger := rfl

@[simp] theorem recordSnapshotFailed_ledger :
    (sh.record Metrics.recordSnapshotFailed).ledger = sh.ledger := rfl

@[simp] theorem recordSnapshotFetched_ledger :
    (sh.record Metrics.recordSnapshotFetched).ledger = sh.ledger := rfl

@[simp] theorem recordSnapshotSkipped_ledger :
    (sh.record Metrics.recordSnapshotSkipped).ledger = sh.ledger := rfl

@[simp] theorem recordSnapshotEnqueueTimeout_ledger :
    (sh.record Metrics.recordSnapshotEnqueueTimeout).ledger = sh.ledger := rfl

@[simp] theorem recordSinkRetry_ledger : (sh.record Metrics.recordSinkRetry).ledger = sh.ledger := rfl

@[simp] theorem recordSinkFailure_ledger :
    (sh.record Metrics.recordSinkFailure).ledger = sh.ledger := rfl

@[simp] theorem takeUndecodable_ledger (size : Nat) :
    { sh with line := sh.line.takeUndecodable size }.ledger = sh.ledger := rfl

end Shared

/-! ## The stream client -/

/-- What a move of the stream client may do, for the client that holds handle `handle`: keep
its handle and the ledger, give the handle back as its loop ends, or put an event into the
queue while shutdown is not asked and the consumer is there. -/
def StreamEffect (handle : Nat) (l : Ledger) (r : StreamTask × Shared) : Prop :=
  r.1.producer = handle ∧
    (r.2.ledger = l ∨ (r.1.done = true ∧ r.2.ledger = l.drop handle) ∨
      ∃ e, l.cancelled = false ∧ l.queue.consumerAlive = true ∧ r.2.ledger = l.enqueue e)

theorem StreamEffect.keep {h : Nat} {l : Ledger} {r : StreamTask × Shared} (hp : r.1.producer = h)
    (hl : r.2.ledger = l) : StreamEffect h l r := ⟨hp, .inl hl⟩

/-- Taking in a text frame enqueues at most one incremental event, and only to a queue whose
consumer is there. -/
theorem Line.takeText_effect (t : StreamTask) (sh : Shared) (maxPayload : Nat)
    (state : ConnectionState) (text : String) (hc : sh.cancelled = false) :
    StreamEffect t.producer sh.ledger
      (t, { sh with line := sh.line.takeText maxPayload state text }) := by
  refine ⟨rfl, ?_⟩
  unfold Line.takeText
  dsimp only
  split
  · exact .inl rfl
  · split
    · rename_i f _
      unfold Line.offer
      split
      · exact .inl rfl
      · split
        · rename_i q hq
          obtain ⟨halive, _, rfl⟩ := Feed.Queue.tryEnqueue_eq_some.1 hq
          exact .inr (.inr ⟨⟨.incremental f.firstUpdateId f.finalUpdateId, f.body⟩, hc, halive, rfl⟩)
        · split <;> exact .inl rfl
    · exact .inl rfl
    · exact .inl rfl

namespace StreamTask

variable (t : StreamTask) (sh : Shared) {l : Ledger} {h : Nat}

@[simp] theorem setState_producer (now : Nat) (s : ConnectionState) :
    (t.setState now s).producer = t.producer := by
  unfold setState
  split <;> rfl

/-! Each helper's lemma takes the ledger and handle it is measured against as equations, so
that callers which pass a changed state or task can discharge them by `simp`. -/

theorem finish_effect (result : Except ConnectionError Unit) (hl : sh.ledger = l)
    (hh : t.producer = h) : StreamEffect h l (t.finish sh result) := by
  subst hl hh
  exact ⟨by simp [finish], .inr (.inl ⟨rfl, rfl⟩)⟩

theorem attemptFailed_effect (visit : Option Nat) (err : ConnectionError) (hl : sh.ledger = l)
    (hh : t.producer = h) : StreamEffect h l (t.attemptFailed sh visit err) := by
  subst hl hh
  have hout := attemptFailed_outcome t sh visit err
  generalize t.attemptFailed sh visit err = r at hout
  cases hout with
  | gaveUp x failures retries text e => exact finish_effect _ _ _ rfl (by simp)
  | retry x failures retries resumeAt text => exact .keep (by simp) rfl

theorem opened_effect (visit : Nat) (hl : sh.ledger = l) (hh : t.producer = h) :
    StreamEffect h l (t.opened sh visit) := by
  subst hl hh
  exact .keep (by simp [opened]) rfl

theorem connect_effect (hl : sh.ledger = l) (hh : t.producer = h) :
    StreamEffect h l (t.connect sh) := by
  subst hl hh
  have hout := connect_outcome t sh
  generalize t.connect sh = r at hout
  cases hout with
  | fail text x e => exact attemptFailed_effect _ _ _ _ rfl (by simp)
  | linked text x visit deadline => exact .keep (by simp) rfl

theorem handshake_effect (visit deadline : Nat) (hl : sh.ledger = l) (hh : t.producer = h) :
    StreamEffect h l (t.handshake sh visit deadline) := by
  subst hl hh
  have hout := handshake_outcome t sh visit deadline
  generalize t.handshake sh visit deadline = r at hout
  cases hout with
  | wait x => exact .keep rfl rfl
  | fail x v err => exact attemptFailed_effect _ _ _ _ rfl rfl
  | opened x => exact opened_effect _ _ _ rfl rfl

theorem endSession_effect (visit : Nat) (lost : Option ConnectionError) (hl : sh.ledger = l)
    (hh : t.producer = h) : StreamEffect h l (t.endSession sh visit lost) := by
  subst hl hh
  unfold endSession
  cases lost with
  | none => exact finish_effect _ _ _ (by simp) (by simp)
  | some e => exact .keep (by simp) (by simp)

/-- Waiting for a pong enqueues nothing. -/
theorem PongOutcome.effect {t : StreamTask} {sh : Shared} {visit : Nat} {r : StreamTask × Shared}
    (hout : PongOutcome t sh visit r) :
    StreamEffect t.producer sh.ledger r := by
  cases hout with
  | answered x deadline => exact .keep rfl rfl
  | lost x err => exact endSession_effect _ _ _ _ rfl rfl
  | waits x payload deadline => exact .keep rfl rfl

/-- A move of an open session enqueues only by taking in a text frame, which it does only
while shutdown is not asked. -/
theorem readOn_effect (visit idleDeadline : Nat) (hc : sh.cancelled = false) :
    StreamEffect t.producer sh.ledger (t.readOn sh visit idleDeadline) := by
  have hout := readOn_outcome t sh visit idleDeadline
  generalize t.readOn sh visit idleDeadline = r at hout
  cases hout with
  | lost x err => exact endSession_effect _ _ _ _ rfl rfl
  | wait x => exact .keep rfl rfl
  | text x deadline text =>
    exact Line.takeText_effect { t with stage := .reading visit deadline } { sh with exchange := x }
      _ _ _ hc
  | undecodable x deadline size => exact .keep rfl rfl
  | ping hp => exact hp.effect
  | quiet x deadline => exact .keep rfl rfl

/-- What one move of the stream client does to the ledger. -/
theorem step_effect : StreamEffect t.producer sh.ledger (t.step sh) := by
  unfold step
  split
  · exact .keep rfl rfl
  · split
    · exact finish_effect _ _ _ rfl rfl
    · exact connect_effect _ _ rfl rfl
  · split
    · exact finish_effect _ _ _ (by simp) rfl
    · exact handshake_effect _ _ _ _ rfl rfl
  · split
    · exact endSession_effect _ _ _ _ rfl rfl
    · rename_i hc
      exact readOn_effect _ _ _ _ (by simpa using hc)
  · exact (pongWait_outcome t sh _ _ _).effect
  · split
    · exact finish_effect _ _ _ rfl rfl
    · split <;> exact .keep rfl rfl

/-- The stream client's hold on the queue: its handle is live while its loop runs. -/
def Sound (t : StreamTask) (l : Ledger) : Prop := t.done = false → l.queue.producerLive t.producer = true

variable {t sh}

theorem step_of_done (hd : t.done = true) : t.step sh = (t, sh) := by
  unfold step
  unfold done at hd
  split <;> simp_all

/-- What one move of the stream client does: it keeps its hold on the queue and its handle, and
acts on the ledger as a producer holding its handle. -/
theorem step_keeps (hs : t.Sound sh.ledger) :
    (t.step sh).1.Sound (t.step sh).2.ledger ∧ (t.step sh).1.producer = t.producer ∧
      Produces (· = t.producer) sh.ledger (t.step sh).2.ledger := by
  cases hd : t.done
  case true =>
    rw [step_of_done hd]
    exact ⟨hs, rfl, .refl _⟩
  case false =>
    have hlive := hs hd
    obtain ⟨hp, hl | ⟨hd', hl⟩ | ⟨e, hc, ha, hl⟩⟩ := step_effect t sh
    · refine ⟨fun _ => ?_, hp, ?_⟩
      · rw [hl, hp]
        exact hlive
      · rw [hl]
        exact .refl _
    · exact ⟨fun h => absurd (hd'.symm.trans h) (by decide), hp, hl ▸ .single (.drop _ _ rfl)⟩
    · refine ⟨fun _ => ?_, hp, ?_⟩
      · rw [hl, hp]
        simpa [Feed.Queue.producerLive] using hlive
      · rw [hl]
        exact .single (.enqueue _ e hc ha (Queue.hasProducers_of_producerLive _ hlive))

/-- Another producer's move keeps the stream client's hold, as long as that producer does not
hold the client's handle. -/
theorem Sound.produces {own : Nat → Prop} {l l' : Ledger} (hs : t.Sound l) (hp : Produces own l l')
    (hown : ¬ own t.producer) : t.Sound l' :=
  fun hd => hp.producerLive hown (hs hd)

theorem Sound.of_producers {l l' : Ledger} (hs : t.Sound l)
    (hq : l'.queue.producers = l.queue.producers) : t.Sound l' := by
  intro hd
  simpa [Feed.Queue.producerLive, hq] using hs hd

end StreamTask

/-! ## The snapshot scheduler -/

/-- A fetch that succeeds brings a snapshot. -/
theorem fetch_outcome_kind (f : SnapshotFetcher) (serve : Http.Request → Served) (symbol : String)
    (limit : Nat) {e : Event} (h : (f.fetch serve symbol limit).outcome = .ok e) :
    e.kind = .snapshot := by
  obtain ⟨id, hseq, -⟩ := Exchange.fetch_keeps_id h
  simp [Event.kind, hseq, Sequence.kind]

namespace FetchJob

/-- The event a fetch brings, once it has one, is a snapshot. -/
def Carries (j : FetchJob) : Prop :=
  match j.stage with
  | .fetching _ outcome => ∀ e : Event, outcome = .ok e → e.kind = .snapshot
  | .enqueueing e _ => e.kind = .snapshot

/-- What a move of a fetch may do: go on with its handle and the ledger as they were, or end
and give its handle back, having put at most one event into the queue while shutdown was not
asked and the consumer was there. -/
def Effect (j : FetchJob) (l : Ledger) (r : Option FetchJob × Shared) : Prop :=
  (∃ j', r.1 = some j' ∧ j'.handle = j.handle ∧ j'.Carries ∧ r.2.ledger = l) ∨
    (r.1 = none ∧ (r.2.ledger = l.drop j.handle ∨
      ∃ e, l.cancelled = false ∧ l.queue.consumerAlive = true ∧
        r.2.ledger = (l.enqueue e).drop j.handle))

theorem offer_effect (j : FetchJob) (sh : Shared) (e : Event) (timeout : Time.Duration)
    (deadline : Nat) {l : Ledger} (hk : e.kind = .snapshot) (hc : sh.cancelled = false)
    (hl : sh.ledger = l) : Effect j l (j.offer sh e timeout deadline) := by
  subst hl
  unfold offer
  have hstored := Feed.Queue.pollEnqueue_ok sh.line.queue e j.handle timeout (deadline ≤ sh.now)
  have hkept := Feed.Queue.pollEnqueue_unslotted sh.line.queue e j.handle timeout (deadline ≤ sh.now)
  rcases hp : sh.line.queue.pollEnqueue j.handle e timeout (deadline ≤ sh.now) with ⟨r, q⟩
  rw [hp] at hstored hkept
  -- a poll that stored nothing moved slots only
  have hsame : r ≠ some (.ok ()) → (sh.withQueue fun _ => q).ledger = sh.ledger := fun hr =>
    Shared.withQueue_ledger_of sh (hkept hr)
  rcases r with _ | _ | _ | _
  · exact .inl ⟨_, rfl, rfl, hk, hsame (by simp)⟩
  · rename_i err
    cases err with
    | timeout d =>
      refine .inr ⟨rfl, .inl ?_⟩
      simp only [Shared.dropProducer_ledger, Shared.recordSnapshotEnqueueTimeout_ledger]
      rw [hsame (by simp)]
    | closed =>
      refine .inr ⟨rfl, .inl ?_⟩
      simp only [Shared.dropProducer_ledger]
      rw [hsame (by simp)]
  · obtain ⟨halive, hq⟩ := hstored rfl
    refine .inr ⟨rfl, .inr ⟨e, hc, by simpa using halive, ?_⟩⟩
    simp only [Shared.dropProducer_ledger, Shared.note_ledger]
    congr 1
    simp only [Ledger.enqueue, hk, Shared.ledger, Shared.record, Shared.withQueue, hq]
    rfl

theorem abandon_ledger (j : FetchJob) (sh : Shared) : (j.abandon sh).ledger = sh.ledger.drop j.handle := by
  simp only [abandon, Shared.dropProducer_ledger]
  rw [Shared.withQueue_ledger_of sh (by simp)]

/-- What one move of a fetch does to the ledger. -/
theorem step_effect (j : FetchJob) (sh : Shared) (timeout : Time.Duration) (hj : j.Carries) :
    Effect j sh.ledger (j.step sh timeout) := by
  unfold step
  by_cases hc : sh.cancelled = true
  · simp only [hc, if_true]
    exact .inr ⟨rfl, .inl (abandon_ledger j sh)⟩
  · simp only [hc, Bool.false_eq_true, if_false]
    cases hs : j.stage with
    | fetching readyAt outcome =>
      have hk : ∀ e : Event, outcome = .ok e → e.kind = .snapshot := by simpa [Carries, hs] using hj
      dsimp only
      split
      · cases outcome with
        | error err => exact .inr ⟨rfl, .inl rfl⟩
        | ok e => exact offer_effect _ _ _ _ _ (hk e rfl) (by simpa using hc) (by simp)
      · exact .inl ⟨j, rfl, rfl, hj, rfl⟩
    | enqueueing e deadline =>
      exact offer_effect _ _ _ _ _ (by simpa [Carries, hs] using hj) (by simpa using hc) rfl

end FetchJob

namespace SnapshotTask

/-- The handles the scheduler holds: its own and its fetch's. -/
def holds (t : SnapshotTask) (h : Nat) : Prop := h = t.producer ∨ ∃ j, t.job = some j ∧ h = j.handle

/-- The scheduler's hold on the queue, for handles numbered from `low` on for fetches: its own
handle is below `low` and live while it runs, the queue has at least `low` handles, and a fetch
under way holds a live handle of its own and brings a snapshot. -/
structure Sound (low : Nat) (t : SnapshotTask) (l : Ledger) : Prop where
  own : t.producer < low
  wide : low ≤ l.queue.producers.length
  live : t.done = false → l.queue.producerLive t.producer = true
  job : ∀ j, t.job = some j → low ≤ j.handle ∧ l.queue.producerLive j.handle = true ∧ j.Carries

/-- A move of the scheduler keeps its hold on the queue and its handle, and acts on the ledger
as a producer holding its handles. -/
def Keeps (low : Nat) (t : SnapshotTask) (l : Ledger) (r : SnapshotTask × Shared) : Prop :=
  r.1.Sound low r.2.ledger ∧ r.1.producer = t.producer ∧ Produces t.holds l r.2.ledger

variable {low : Nat} {t : SnapshotTask} {l l' : Ledger}

/-- Another producer's move keeps the scheduler's hold, as long as that producer holds none of
the scheduler's handles. -/
theorem Sound.produces {own : Nat → Prop} (hs : t.Sound low l) (hp : Produces own l l')
    (hown : ∀ h, own h → h ≠ t.producer ∧ h < low) : t.Sound low l' where
  own := hs.own
  wide := hs.wide.trans hp.length_le
  live hd := hp.producerLive (fun ho => (hown _ ho).1 rfl) (hs.live hd)
  job j hj :=
    have ⟨hlow, hlive, hc⟩ := hs.job j hj
    ⟨hlow, hp.producerLive (fun ho => by have := (hown _ ho).2; omega) hlive, hc⟩

/-- The scheduler's hold depends on the handles only. -/
theorem Sound.of_producers (hs : t.Sound low l) (hq : l'.queue.producers = l.queue.producers) :
    t.Sound low l' where
  own := hs.own
  wide := hq ▸ hs.wide
  live hd := by simpa [Feed.Queue.producerLive, hq] using hs.live hd
  job j hj := by simpa [Feed.Queue.producerLive, hq] using hs.job j hj

theorem Keeps.same {sh : Shared} (hs : t.Sound low sh.ledger) : Keeps low t sh.ledger (t, sh) :=
  ⟨hs, rfl, .refl _⟩

theorem stop_keeps {sh : Shared} (hs : t.Sound low sh.ledger) :
    Keeps low t sh.ledger (t.stop sh) := by
  unfold stop
  dsimp only
  have hstopped : ∀ sh' : Shared, ({ t with stage := .stopped, job := none }, sh').1.Sound low sh'.ledger ↔
      low ≤ sh'.line.queue.producers.length := fun _ =>
    ⟨fun h => h.wide, fun h => ⟨hs.own, h, (nomatch ·), fun _ hj => (nomatch hj)⟩⟩
  cases hj : t.job with
  | none =>
    refine ⟨(hstopped _).2 ?_, rfl, .single (.drop _ _ (.inl rfl))⟩
    simpa [Shared.dropProducer, Shared.withQueue, Feed.Queue.dropProducer] using hs.wide
  | some j =>
    have hl : ((j.abandon sh).dropProducer t.producer).ledger =
        (sh.ledger.drop j.handle).drop t.producer := by
      rw [Shared.dropProducer_ledger, FetchJob.abandon_ledger]
    refine ⟨(hstopped _).2 ?_, rfl, ?_⟩
    · simpa [FetchJob.abandon, Shared.dropProducer, Shared.withQueue, Feed.Queue.dropProducer] using
        hs.wide
    · rw [hl]
      exact (Produces.single (.drop _ _ (.inr ⟨j, hj, rfl⟩))).trans (.single (.drop _ _ (.inl rfl)))

/-- Whether the scheduler panicked is no part of its hold. -/
theorem Keeps.panicked {r : SnapshotTask × Shared} (h : Keeps low t l r) (p : Option String) :
    Keeps low t l ({ r.1 with panicked := p }, r.2) :=
  ⟨⟨h.1.own, h.1.wide, h.1.live, h.1.job⟩, h.2.1, h.2.2⟩

theorem spawn_keeps {sh : Shared} (hs : t.Sound low sh.ledger) (hd : t.done = false) :
    Keeps low t sh.ledger (t.spawn sh) := by
  have hledger : (t.spawn sh).2.ledger = sh.ledger.clone := by
    unfold spawn
    dsimp only
    split <;> rfl
  have hlive := hs.live hd
  refine ⟨⟨hs.own, ?_, ?_, ?_⟩, rfl, ?_⟩
  · rw [hledger]
    simpa [Feed.Queue.cloneProducer] using Nat.le_succ_of_le hs.wide
  · intro _
    rw [hledger]
    exact Queue.producerLive_cloneProducer _ hlive
  · intro j hj
    unfold spawn at hj
    dsimp only at hj
    split at hj <;> (cases hj; rw [hledger]) <;>
      exact ⟨hs.wide, Queue.cloneProducer_fresh _, fun e he => fetch_outcome_kind _ _ _ _ he⟩
  · rw [hledger]
    exact .single (.clone _ (Queue.hasProducers_of_producerLive _ hlive))

theorem ownStep_keeps {sh : Shared} (hs : t.Sound low sh.ledger) :
    Keeps low t sh.ledger (t.ownStep sh) := by
  unfold ownStep
  -- a running scheduler that moves on keeps its handle and the ledger
  have hrun : ∀ (stage : ScheduleStage) (sh' : Shared), t.done = false → sh'.ledger = sh.ledger →
      Keeps low t sh.ledger ({ t with stage := stage }, sh') := by
    intro stage sh' hd hl
    unfold Keeps
    rw [hl]
    exact ⟨⟨hs.own, hs.wide, fun _ => hs.live hd, hs.job⟩, rfl, .refl _⟩
  cases hstage : t.stage with
  | stopped => exact .same hs
  | delaying r =>
    have hd : t.done = false := by simp [done, hstage]
    dsimp only
    split
    · exact stop_keeps hs
    · split
      · split
        · -- a zero period: the ticker panics and the scheduler ends as on shutdown
          exact (stop_keeps hs).panicked _
        · exact hrun _ _ hd (by simp)
      · exact .same hs
  | ticking n =>
    have hd : t.done = false := by simp [done, hstage]
    dsimp only
    split
    · exact stop_keeps hs
    · split
      · split
        · exact hrun _ _ hd rfl
        · have hk : Keeps low { t with stage := .ticking (n + t.interval) } sh.ledger
              ({ t with stage := .ticking (n + t.interval) }.spawn sh) :=
            spawn_keeps ⟨hs.own, hs.wide, fun _ => hs.live hd, hs.job⟩ rfl
          refine ⟨hk.1, hk.2.1, hk.2.2.mono ?_⟩
          rintro h (rfl | ⟨j, hj', rfl⟩)
          · exact .inl rfl
          · exact .inr ⟨j, hj', rfl⟩
      · exact .same hs

/-- What one move of the scheduler does: it keeps its hold on the queue and its handle, and
acts as a producer holding its handles. -/
theorem step_keeps {sh : Shared} (hs : t.Sound low sh.ledger) : Keeps low t sh.ledger (t.step sh) := by
  unfold step
  split
  · rename_i j hj
    split
    · dsimp only
      obtain ⟨hlow, hlive, hcarries⟩ := hs.job j hj
      rcases FetchJob.step_effect j sh t.enqueueTimeout hcarries with
        ⟨j', hj', hh, hc', hl⟩ | ⟨hnone, hl | ⟨e, hc, ha, hl⟩⟩
      · rw [hj']
        refine ⟨⟨hs.own, ?_, fun hd => ?_, ?_⟩, rfl, ?_⟩
        · rw [hl]; exact hs.wide
        · rw [hl]; exact hs.live hd
        · rintro j'' hj''
          cases hj''
          rw [hl, hh]
          exact ⟨hlow, hlive, hc'⟩
        · rw [hl]; exact .refl _
      · have hne : j.handle ≠ t.producer := by have := hs.own; omega
        rw [hnone]
        refine ⟨⟨hs.own, ?_, fun hd => ?_, fun _ h => by cases h⟩, rfl, ?_⟩
        · rw [hl]; simpa [Feed.Queue.dropProducer] using hs.wide
        · rw [hl, Ledger.drop_queue, Queue.producerLive_dropProducer _ hne.symm]
          exact hs.live hd
        · rw [hl]; exact .single (.drop _ _ (.inr ⟨j, hj, rfl⟩))
      · have hne : j.handle ≠ t.producer := by have := hs.own; omega
        rw [hnone]
        refine ⟨⟨hs.own, ?_, fun hd => ?_, fun _ h => by cases h⟩, rfl, ?_⟩
        · rw [hl]; simpa [Feed.Queue.dropProducer] using hs.wide
        · rw [hl, Ledger.drop_queue, Queue.producerLive_dropProducer _ hne.symm]
          simpa [Feed.Queue.producerLive] using hs.live hd
        · rw [hl]
          exact (Produces.single (.enqueue _ e hc ha (Queue.hasProducers_of_producerLive _ hlive))).trans
            (.single (.drop _ _ (.inr ⟨j, hj, rfl⟩)))
    · exact ownStep_keeps hs
  · exact ownStep_keeps hs

end SnapshotTask

/-! ## The forwarder -/

namespace Ledger

/-- The sink accepted an event of kind `k`. -/
def forward (l : Ledger) : Kind → Ledger
  | .incremental => { l with incrementalsForwarded := Metrics.bump l.incrementalsForwarded }
  | .snapshot => { l with snapshotsForwarded := Metrics.bump l.snapshotsForwarded }

variable {l : Ledger}

@[simp] theorem forward_queue (k : Kind) : (l.forward k).queue = l.queue := by cases k <;> rfl

@[simp] theorem forward_cancelled (k : Kind) : (l.forward k).cancelled = l.cancelled := by
  cases k <;> rfl

@[simp] theorem forward_enqueued (k : Kind) : (l.forward k).enqueued = l.enqueued := by
  cases k <;> rfl

theorem forward_forwarded (k k' : Kind) :
    (l.forward k).forwarded k' = if k = k' then Metrics.bump (l.forwarded k') else l.forwarded k' := by
  cases k <;> cases k' <;> rfl

/-- An event the sink accepted leaves the events held and is counted as forwarded. -/
theorem Balanced.forward {e : Event} {held : List Event} (h : l.Balanced (e :: held)) :
    (l.forward e.kind).Balanced held := by
  intro k
  have hk := h k
  rw [kindCount_cons] at hk
  rw [forward_enqueued, forward_queue, forward_forwarded]
  by_cases he : e.kind = k
  · simp only [he, if_true] at hk ⊢
    calc l.enqueued k
        ≡ l.forwarded k + kindCount k l.queue.items + (kindCount k held + 1) [MOD Nat.pow 2 64] := hk
      _ = l.forwarded k + 1 + kindCount k l.queue.items + kindCount k held := by omega
      _ ≡ Metrics.bump (l.forwarded k) + kindCount k l.queue.items + kindCount k held
          [MOD Nat.pow 2 64] := (((bump_modEq _).symm).add_right _).add_right _
  · simpa [he] using hk

theorem Bounded.forward (h : l.Bounded) (k : Kind) : (l.forward k).Bounded := by
  intro k'
  rw [forward_enqueued, forward_forwarded]
  split
  · exact ⟨(h k').1, bump_lt _⟩
  · exact h k'

/-- The balance sees the oldest queued event and an event held the same way. -/
theorem balanced_take {e : Event} {rest held : List Event} (hq : l.queue.items = e :: rest) :
    ({ l with queue := { l.queue with items := rest } } : Ledger).Balanced (e :: held) ↔
      l.Balanced held := by
  unfold Balanced
  refine forall_congr' fun k => ?_
  simp only [hq, kindCount_cons]
  have : l.forwarded k + kindCount k rest + (kindCount k held + if e.kind = k then 1 else 0) =
      l.forwarded k + (kindCount k rest + if e.kind = k then 1 else 0) + kindCount k held := by
    omega
  simp only [forwarded, enqueued] at this ⊢
  rw [this]

end Ledger

@[simp] theorem Shared.recordForwarded_ledger (sh : Shared) (k : Kind) :
    (sh.record (·.recordForwarded k)).ledger = sh.ledger.forward k := by
  cases k <;> rfl

namespace ForwardTask

/-- The events the forwarder holds outside the queue that the counters do not show as
forwarded: the event handed back before a run starts, the event of a try under way or paused,
and the event a run gave up on. -/
def holding (f : ForwardTask) : List Event :=
  match f.stage with
  | .starting => f.pending.toList
  | .sending e _ _ _ _ | .pausing e _ _ _ | .stopped (.failed _ e) => [e]
  | _ => []

variable (f : ForwardTask)

@[simp] theorem poll_holding (now : Nat) : (f.poll now).holding = [] := rfl
@[simp] theorem poll_result (now : Nat) : (f.poll now).result? = none := rfl
@[simp] theorem stop_result (r : ForwardEnd) : (f.stop r).result? = some r := rfl

end ForwardTask

/-- What a move of the forwarder may do, for a forwarder that held `held` and had ended as
`was`: the handles, the consumer, shutdown and the counters of enqueued events stay; the queue
loses at most its oldest events; the balance is kept unless the sink panicked; the run ends
drained only with the queue empty and no producer able to add an event; and it never aborts
itself. -/
structure ForwardEffect (held : List Event) (was : Option ForwardEnd) (l : Ledger)
    (r : ForwardTask × Shared) : Prop where
  producers : r.2.ledger.queue.producers = l.queue.producers
  alive : r.2.ledger.queue.consumerAlive = l.queue.consumerAlive
  cancelled : r.2.ledger.cancelled = l.cancelled
  enqueued : r.2.ledger.enqueued = l.enqueued
  taken : r.2.ledger.queue.items <:+ l.queue.items
  balanced : l.Balanced held → r.2.ledger.Balanced r.1.holding ∨ ∃ m, r.1.result? = some (.panicked m)
  bounded : l.Bounded → r.2.ledger.Bounded
  drained : ∀ n, r.1.result? = some (.drained n) →
    was = some (.drained n) ∨ (r.2.ledger.queue.items = [] ∧ r.2.ledger.Quiet)
  aborted : r.1.result? = some .aborted → was = some .aborted

namespace ForwardEffect

variable {held : List Event} {was : Option ForwardEnd} {l : Ledger} {r : ForwardTask × Shared}

/-- A move that leaves the ledger alone, holds what it held, and either ends as before or gives
up on an event. -/
theorem same (hl : r.2.ledger = l) (hh : r.1.holding = held)
    (hw : r.1.result? = was ∨ ∃ err e, r.1.result? = some (.failed err e)) :
    ForwardEffect held was l r where
  producers := by rw [hl]
  alive := by rw [hl]
  cancelled := by rw [hl]
  enqueued := by rw [hl]
  taken := hl ▸ List.suffix_refl _
  balanced h := .inl (hl ▸ hh ▸ h)
  bounded h := hl ▸ h
  drained n h := by
    rcases hw with hw | ⟨err, e, hw⟩
    · exact .inl (hw ▸ h)
    · simp [hw] at h
  aborted h := by
    rcases hw with hw | ⟨err, e, hw⟩
    · exact hw ▸ h
    · simp [hw] at h

/-- Taking the oldest event from the queue to hold it. -/
theorem take {e : Event} {rest : List Event} (hq : l.queue.items = e :: rest)
    (h : ForwardEffect (e :: held) was { l with queue := { l.queue with items := rest } } r) :
    ForwardEffect held was l r where
  producers := h.producers
  alive := h.alive
  cancelled := h.cancelled
  enqueued := h.enqueued
  taken := hq ▸ h.taken.trans (List.suffix_cons e rest)
  balanced hb := h.balanced ((Ledger.balanced_take hq).2 hb)
  bounded hb := h.bounded hb
  drained := h.drained
  aborted := h.aborted

end ForwardEffect

namespace ForwardTask

variable {f : ForwardTask} {sh : Shared} {e : Event} {k : Nat} {fromQueue : Bool}

/-! The lemmas of the forwarder's helpers take the ledger they are measured against as an
equation, so that callers which pass a changed state can discharge it by `rfl`. -/

theorem settle_effect {l : Ledger} (o : Except SinkError Unit) (hl : sh.ledger = l) :
    ForwardEffect [e] none l (f.settle sh e k fromQueue o) := by
  subst hl
  unfold settle
  cases o with
  | ok u =>
    dsimp only
    have hl : (sh.record (·.recordForwarded e.kind)).ledger = sh.ledger.forward e.kind := by simp
    have hfacts : ∀ g : ForwardTask, g.holding = [] → (g.result? = none ∨ ∃ n, g.result? = some (.drained n) ∧
        sh.cancelled = true ∧ sh.line.queue.items = []) →
        ForwardEffect [e] none sh.ledger (g, sh.record (·.recordForwarded e.kind)) := by
      intro g hh hr
      refine ⟨by rw [hl]; simp, by rw [hl]; simp, by rw [hl]; simp, by rw [hl]; simp, ?_, ?_, ?_, ?_, ?_⟩
      · simpa only [hl, Ledger.forward_queue] using List.suffix_refl sh.ledger.queue.items
      · intro hb
        rw [hl, hh]
        exact .inl hb.forward
      · intro hb
        rw [hl]
        exact hb.forward _
      · intro n hn
        rcases hr with hr | ⟨n', hr, hc, hi⟩
        · simp [hr] at hn
        · refine .inr ⟨by rw [hl]; simpa using hi, .inl (by rw [hl]; simpa using hc)⟩
      · intro ha
        rcases hr with hr | ⟨n', hr, _⟩ <;> simp [hr] at ha
    split
    · rename_i hcond
      simp only [Bool.and_eq_true, List.isEmpty_iff] at hcond
      exact hfacts _ rfl (.inr ⟨_, rfl, by simpa using hcond.1.2, by simpa using hcond.2⟩)
    · exact hfacts _ rfl (.inl rfl)
  | error err =>
    dsimp only
    split
    · exact .same (by simp) rfl (.inl rfl)
    · exact .same (by simp) rfl (.inr ⟨_, _, rfl⟩)

theorem attempt_effect {l : Ledger} (hl : sh.ledger = l) :
    ForwardEffect [e] none l (f.attempt sh e k fromQueue) := by
  subst hl
  unfold attempt
  dsimp only
  split
  · exact .same (by simp) rfl (.inl rfl)
  · split
    · exact .same (by simp) rfl (.inl rfl)
    · exact .same (by simp) rfl (.inl rfl)
  · -- the sink's panic ends the run and loses the event
    refine ⟨by simp, by simp, by simp, by simp, by simp, fun _ => .inr ⟨_, rfl⟩,
      fun h => by simpa using h, fun n h => by simp at h, fun h => by simp at h⟩
  · split <;> exact settle_effect _ rfl

/-- What one move of the forwarder does to the ledger and to the events it holds. -/
theorem step_effect : ForwardEffect f.holding f.result? sh.ledger (f.step sh) := by
  unfold step
  cases hstage : f.stage with
  | stopped r => exact .same rfl (by simp [holding, hstage]) (.inl (by simp [result?, hstage]))
  | starting =>
    have hr : f.result? = none := by simp [result?, hstage]
    dsimp only
    cases hp : f.pending with
    | some e =>
      have hh : f.holding = [e] := by simp [holding, hstage, hp]
      rw [hh, hr]
      exact attempt_effect rfl
    | none => exact .same rfl (by simp [holding, hstage, hp]) (.inl (by simp [hr]))
  | polling deadline =>
    have hh : f.holding = [] := by simp [holding, hstage]
    have hr : f.result? = none := by simp [result?, hstage]
    rw [hh, hr]
    dsimp only
    cases hq : sh.line.queue.items with
    | cons e rest =>
      have hdq : sh.line.queue.tryDequeue = (some e, { sh.line.queue with items := rest }.release) := by
        simp [Feed.Queue.tryDequeue, hq]
      rw [hdq]
      dsimp only
      have hq' : sh.ledger.queue.items = e :: rest := by simpa using hq
      -- the slot the event held goes back, which the ledger does not see
      have hl : (sh.withQueue fun _ => { sh.line.queue with items := rest }.release).ledger =
          { sh.ledger with queue := { sh.ledger.queue with items := rest } } := by
        rw [Shared.withQueue_ledger, Feed.Queue.release_unslotted]
        rfl
      exact ForwardEffect.take hq' (attempt_effect hl)
    | nil =>
      have hdq : sh.line.queue.tryDequeue = (none, sh.line.queue) := by
        simp [Feed.Queue.tryDequeue, hq]
      rw [hdq]
      dsimp only
      -- the run ends drained only with the queue empty and no producer or shutdown asked
      have hend : ∀ n, sh.cancelled = true ∨ sh.line.queue.hasProducers = false →
          ForwardEffect [] none sh.ledger (f.stop (.drained n), sh) := fun n hq' =>
        ⟨rfl, rfl, rfl, rfl, List.suffix_refl _, fun hb => .inl (by simpa [holding] using hb),
          id, fun _ _ => .inr ⟨by simpa using hq, by simpa [Ledger.Quiet] using hq'⟩,
          fun h => by simp at h⟩
      split
      · rename_i hc
        exact hend _ (.inr (by simpa [Feed.Queue.closedForConsumer] using hc))
      · split
        · split
          · rename_i hc
            exact hend _ (.inl hc)
          · exact .same rfl rfl (.inl rfl)
        · exact .same rfl (by simp [holding, hstage]) (.inl (by simp [result?, hstage]))
  | sending e k fromQueue endsAt outcome =>
    have hh : f.holding = [e] := by simp [holding, hstage]
    have hr : f.result? = none := by simp [result?, hstage]
    rw [hh, hr]
    dsimp only
    split
    · exact settle_effect _ rfl
    · exact .same rfl (by simp [holding, hstage]) (.inl (by simp [result?, hstage]))
  | pausing e k fromQueue resumeAt =>
    have hh : f.holding = [e] := by simp [holding, hstage]
    have hr : f.result? = none := by simp [result?, hstage]
    rw [hh, hr]
    dsimp only
    split
    · exact attempt_effect rfl
    · exact .same rfl (by simp [holding, hstage]) (.inl (by simp [result?, hstage]))

end ForwardTask

end BookRelay.Scenario
