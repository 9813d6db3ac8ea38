import BookRelay.Feed.Event
import BookRelay.Time.Duration

/-!
# The event queue

A bounded first-in first-out queue between several producers and one consumer. Its capacity
is at least one. A producer adds an event only while there is room and the consumer is still
there; the consumer takes events in arrival order. When the consumer goes away the queue is
closed for producers and its events are dropped; when the last producer goes away the consumer
may still drain what is left, and then learns that nothing more will come.

Room is counted in slots, the way a semaphore counts permits. A slot is free, holds a buffered
event, or is granted to a waiting enqueue that has not stored its event yet. An enqueue that
finds no free slot may wait in line; a slot that comes back (the consumer took an event, or a
waiting enqueue gave up its grant) goes to the first in line, and becomes free only when nobody
waits. A producer counts the slots taken, buffered or granted; the consumer counts the events.

Producers are handles numbered in the order they were made; a dropped handle stays dropped.
Waiting enqueues are named by numbers their callers choose.

Slots are counted in a word with three bits to spare, so asking for a capacity beyond
`maxSlots` is a panic.
-/

namespace BookRelay.Feed

open BookRelay.Time

inductive EnqueueError where
  | timeout (after : Duration)
  | closed
  deriving Repr, BEq

/-- The text of an enqueue failure. -/
def EnqueueError.message : EnqueueError → String
  | .timeout d => "queue full, enqueue timed out after " ++ d.text
  | .closed => "queue closed"

def EnqueueError.label : EnqueueError → String
  | .timeout _ => "Timeout"
  | .closed => "Closed"

/-- A bounded queue with its handles and its slots. -/
structure Queue where
  capacity : Nat
  items : List Event
  producers : List Bool
  consumerAlive : Bool
  /-- Slots neither holding an event nor granted. -/
  free : Nat
  /-- Waiting enqueues without a slot, first come first served. -/
  waiting : List Nat
  /-- Waiting enqueues granted a slot that have not stored their event yet. -/
  granted : List Nat
  deriving Repr

/-- What a waiting enqueue finds when it asks for a slot. -/
inductive Grant where
  | closed
  /-- It holds a slot: a free one, or one granted to it while it waited. -/
  | ready
  | pending
  deriving Repr, DecidableEq

namespace Queue

/-- A new queue of the given capacity (at least one), with one producer and the consumer. -/
def bounded (capacity : Nat) : Queue := ⟨max capacity 1, [], [true], true, max capacity 1, [], []⟩

/-- The most slots a queue can count: the permits of a semaphore, a word less its top three
bits. -/
def maxSlots : Nat := Nat.pow 2 61 - 1

/-- The message of the panic raised by a queue asked for more slots than it can count. -/
def tooManySlots : String :=
  "a semaphore may not have more than MAX_PERMITS permits (" ++ toString maxSlots ++ ")"

/-- Make a queue: `bounded`, or a panic when its capacity is more than `maxSlots`. -/
def create? (capacity : Nat) : Except String Queue :=
  if max capacity 1 ≤ maxSlots then .ok (bounded capacity) else .error tooManySlots

def len (q : Queue) : Nat := q.items.length

/-- Slots taken, as a producer counts them: the capacity less the free slots. -/
def producerLen (q : Queue) : Nat := q.capacity - q.free

/-- Whether any producer handle is live. -/
def hasProducers (q : Queue) : Bool := q.producers.any id

/-- Whether producer handle `i` is live. -/
def producerLive (q : Queue) (i : Nat) : Bool := q.producers.getD i false

def store (q : Queue) (e : Event) : Queue := { q with items := q.items ++ [e] }

/-- Add an event without waiting: `none` when no slot is free or the consumer is gone. -/
def tryEnqueue (q : Queue) (e : Event) : Option Queue :=
  if q.consumerAlive && 0 < q.free then some ({ q with free := q.free - 1 }.store e) else none

/-- A slot comes back: the first in line is granted it, or it becomes free. -/
def release (q : Queue) : Queue :=
  match q.waiting with
  | [] => { q with free := q.free + 1 }
  | w :: ws => { q with waiting := ws, granted := q.granted ++ [w] }

/-- Waiting enqueue `w` gives up: it leaves the line, or gives back the slot it was granted. -/
def withdraw (q : Queue) (w : Nat) : Queue :=
  if w ∈ q.granted then { q with granted := q.granted.erase w }.release
  else { q with waiting := q.waiting.erase w }

/-- Waiting enqueue `w` asks for a slot: a closed queue turns it away, a slot granted to it
is its own, a free slot is taken at once, and otherwise it waits in line. -/
def acquire (q : Queue) (w : Nat) : Grant × Queue :=
  if !q.consumerAlive then (.closed, q.withdraw w)
  else if w ∈ q.granted then (.ready, { q with granted := q.granted.erase w })
  else if w ∈ q.waiting then (.pending, q)
  else if 0 < q.free then (.ready, { q with free := q.free - 1 })
  else (.pending, { q with waiting := q.waiting ++ [w] })

/-- One poll of waiting enqueue `w` of event `e`: `none` while it waits in line, else how it
ended. A poll stores the event once the enqueue holds a slot; once its time-out has fired
(`late`), a poll that finds no slot gives up and leaves the line. -/
def pollEnqueue (q : Queue) (w : Nat) (e : Event) (timeout : Duration) (late : Bool) :
    Option (Except EnqueueError Unit) × Queue :=
  match q.acquire w with
  | (.closed, q) => (some (.error .closed), q)
  | (.ready, q) => (some (.ok ()), q.store e)
  | (.pending, q) => if late then (some (.error (.timeout timeout)), q.withdraw w) else (none, q)

/-- Add an event as the only caller, waiting at most `timeout`. Nothing else runs while a single
caller waits, so a queue without a free slot stays so: the wait ends at its time-out. -/
def enqueueWaiting (q : Queue) (e : Event) (timeout : Duration) : Except EnqueueError Queue :=
  if !q.consumerAlive then .error .closed
  else if 0 < q.free then .ok ({ q with free := q.free - 1 }.store e)
  else .error (.timeout timeout)

/-- Take the oldest event, if any; its slot comes back. -/
def tryDequeue (q : Queue) : Option Event × Queue :=
  match q.items with
  | [] => (none, q)
  | e :: rest => (some e, { q with items := rest }.release)

/-- A new producer handle; its number is returned with the queue. -/
def cloneProducer (q : Queue) : Nat × Queue :=
  (q.producers.length, { q with producers := q.producers ++ [true] })

/-- Drop producer handle `i`. -/
def dropProducer (q : Queue) (i : Nat) : Queue :=
  { q with producers := q.producers.set i false }

/-- Drop the consumer: the queue closes, its events are dropped and their slots come back, and
the enqueues in line are turned away. -/
def dropConsumer (q : Queue) : Queue :=
  { q with consumerAlive := false, items := [], free := q.free + q.items.length, waiting := [] }

def closedForProducers (q : Queue) : Bool := !q.consumerAlive

/-- Closed for the consumer: every producer is gone. -/
def closedForConsumer (q : Queue) : Bool := !q.hasProducers

/-! Giving slots back and storing touch neither the buffer's order nor the handles. -/

section Fields

variable (q : Queue) (w : Nat) (e : Event)

@[simp] theorem release_items : q.release.items = q.items := by unfold release; split <;> rfl
@[simp] theorem release_producers : q.release.producers = q.producers := by
  unfold release; split <;> rfl
@[simp] theorem release_consumerAlive : q.release.consumerAlive = q.consumerAlive := by
  unfold release; split <;> rfl
@[simp] theorem release_capacity : q.release.capacity = q.capacity := by
  unfold release; split <;> rfl

@[simp] theorem withdraw_items : (q.withdraw w).items = q.items := by
  unfold withdraw; split <;> simp
@[simp] theorem withdraw_producers : (q.withdraw w).producers = q.producers := by
  unfold withdraw; split <;> simp
@[simp] theorem withdraw_consumerAlive : (q.withdraw w).consumerAlive = q.consumerAlive := by
  unfold withdraw; split <;> simp
@[simp] theorem withdraw_capacity : (q.withdraw w).capacity = q.capacity := by
  unfold withdraw; split <;> simp

@[simp] theorem store_items : (q.store e).items = q.items ++ [e] := rfl
@[simp] theorem store_producers : (q.store e).producers = q.producers := rfl
@[simp] theorem store_consumerAlive : (q.store e).consumerAlive = q.consumerAlive := rfl
@[simp] theorem store_capacity : (q.store e).capacity = q.capacity := rfl
@[simp] theorem store_free : (q.store e).free = q.free := rfl
@[simp] theorem store_waiting : (q.store e).waiting = q.waiting := rfl
@[simp] theorem store_granted : (q.store e).granted = q.granted := rfl

@[simp] theorem acquire_items : (q.acquire w).2.items = q.items := by
  unfold acquire; repeat' split
  all_goals simp
@[simp] theorem acquire_producers : (q.acquire w).2.producers = q.producers := by
  unfold acquire; repeat' split
  all_goals simp
@[simp] theorem acquire_consumerAlive : (q.acquire w).2.consumerAlive = q.consumerAlive := by
  unfold acquire; repeat' split
  all_goals simp
@[simp] theorem acquire_capacity : (q.acquire w).2.capacity = q.capacity := by
  unfold acquire; repeat' split
  all_goals simp

/-- A waiting enqueue is turned away exactly when the consumer is gone. -/
theorem acquire_closed_iff : (q.acquire w).1 = .closed ↔ q.consumerAlive = false := by
  unfold acquire
  repeat' split
  all_goals simp_all

/-- A poll leaves the queue as asking for a slot left it, with the event stored, or with the
enqueue gone from the line. -/
theorem pollEnqueue_snd (t : Duration) (late : Bool) :
    (q.pollEnqueue w e t late).2 = (q.acquire w).2 ∨
      (q.pollEnqueue w e t late).2 = (q.acquire w).2.store e ∨
      (q.pollEnqueue w e t late).2 = (q.acquire w).2.withdraw w := by
  unfold pollEnqueue
  rcases q.acquire w with ⟨_ | _ | _, q'⟩
  · exact .inl rfl
  · exact .inr (.inl rfl)
  · cases late
    · exact .inl rfl
    · exact .inr (.inr rfl)

@[simp] theorem pollEnqueue_producers (t : Duration) (late : Bool) :
    (q.pollEnqueue w e t late).2.producers = q.producers := by
  rcases pollEnqueue_snd q w e t late with h | h | h <;> simp [h]
@[simp] theorem pollEnqueue_consumerAlive (t : Duration) (late : Bool) :
    (q.pollEnqueue w e t late).2.consumerAlive = q.consumerAlive := by
  rcases pollEnqueue_snd q w e t late with h | h | h <;> simp [h]
@[simp] theorem pollEnqueue_capacity (t : Duration) (late : Bool) :
    (q.pollEnqueue w e t late).2.capacity = q.capacity := by
  rcases pollEnqueue_snd q w e t late with h | h | h <;> simp [h]

end Fields

/-- An enqueue that does not wait succeeds exactly when the consumer is there and a slot is
free, and then takes the slot and puts the event at the back. -/
theorem tryEnqueue_eq_some {q q' : Queue} {e : Event} :
    q.tryEnqueue e = some q' ↔
      q.consumerAlive = true ∧ 0 < q.free ∧ q' = { q with free := q.free - 1 }.store e := by
  unfold Queue.tryEnqueue
  split
  · rename_i h
    simp only [Bool.and_eq_true, decide_eq_true_eq] at h
    simp [h, eq_comm]
  · rename_i h
    simp only [Bool.and_eq_true, decide_eq_true_eq] at h
    simp only [reduceCtorEq, false_iff]
    exact fun ⟨ha, hf, _⟩ => h ⟨ha, hf⟩

theorem tryEnqueue_len (q : Queue) (e : Event) (q' : Queue) (h : q.tryEnqueue e = some q') :
    q'.len = q.len + 1 := by
  obtain ⟨_, _, rfl⟩ := tryEnqueue_eq_some.1 h
  simp [len, store]

theorem tryDequeue_fifo (q : Queue) (e : Event) (rest : List Event) (h : q.items = e :: rest) :
    (q.tryDequeue).1 = some e := by
  simp [tryDequeue, h]

end Queue

end BookRelay.Feed
