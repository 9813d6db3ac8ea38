import BookRelay.Feed.Queue

/-! # One bounded first-in first-out queue

Producers and the consumer call the queue in any interleaving: enqueues that do not wait,
polls of waiting enqueues (a poll asks for a slot, stores the event once the enqueue holds one,
and gives up once the enqueue's time-out has fired), waiting enqueues dropped before they end,
dequeues, handles made and dropped, and the consumer going away. Whatever the calls, the
consumer is given exactly the accepted events, in the order they were accepted; the producers'
count of taken slots is the events buffered plus the slots granted to waiting enqueues still
under way, and never passes the capacity; and an enqueue is refused exactly when every slot is
taken or the consumer is gone. -/

namespace BookRelay.Feed.Queue

open BookRelay.Time

/-! ## Calls -/

/-- One call on the queue, made in one move. A waiting enqueue is named by its caller; each of
its polls carries its event and time-out, and whether the time-out has fired. -/
inductive Call where
  | tryEnqueue (e : Event)
  | poll (w : Nat) (e : Event) (timeout : Duration) (late : Bool)
  | abandon (w : Nat)
  | dequeue
  | cloneProducer
  | dropProducer (i : Nat)
  | dropConsumer

inductive Reply where
  /-- Whether an enqueue that does not wait was accepted. -/
  | accepted (ok : Bool)
  /-- How a waiting enqueue ended, or `none` while it waits. -/
  | polled (r : Option (Except EnqueueError Unit))
  | event (e : Option Event)
  | handle (i : Nat)
  | done

def answer (q : Queue) : Call → Reply × Queue
  | .tryEnqueue e =>
    match q.tryEnqueue e with
    | some q' => (.accepted true, q')
    | none => (.accepted false, q)
  | .poll w e timeout late => let (r, q') := q.pollEnqueue w e timeout late; (.polled r, q')
  | .abandon w => (.done, q.withdraw w)
  | .dequeue => let (e, q') := q.tryDequeue; (.event e, q')
  | .cloneProducer => let (i, q') := q.cloneProducer; (.handle i, q')
  | .dropProducer i => (.done, q.dropProducer i)
  | .dropConsumer => (.done, q.dropConsumer)

/-- What the callers have seen: the events accepted and the events the consumer was given, each
in order, and the waiting enqueues that a poll left waiting and that have not ended since. -/
structure Seen where
  accepted : List Event := []
  returned : List Event := []
  underWay : List Nat := []

/-- What a call and its reply add to what the callers have seen. -/
def Seen.note (s : Seen) : Call → Reply → Seen
  | .tryEnqueue e, .accepted true => { s with accepted := s.accepted ++ [e] }
  | .poll w _ _ _, .polled none => { s with underWay := s.underWay.insert w }
  | .poll w e _ _, .polled (some (.ok ())) =>
    { s with accepted := s.accepted ++ [e], underWay := s.underWay.erase w }
  | .poll w _ _ _, .polled (some (.error _)) => { s with underWay := s.underWay.erase w }
  | .abandon w, _ => { s with underWay := s.underWay.erase w }
  | .dequeue, .event (some e) => { s with returned := s.returned ++ [e] }
  | _, _ => s

def serve (q : Queue) (s : Seen) : List Call → Queue × Seen
  | [] => (q, s)
  | c :: cs => (q.answer c).2.serve (s.note c (q.answer c).1) cs

/-- The laws of one bounded first-in first-out queue of capacity `cap`, for a queue and what its
callers have seen. -/
structure BoundedFifo (cap : Nat) (q : Queue) (s : Seen) : Prop where
  /-- While the consumer is there, the events it was given and those buffered are the accepted
  events, in the order they were accepted. -/
  order : q.consumerAlive = true → s.returned ++ q.items = s.accepted
  /-- The consumer is never given an event that was not accepted, nor one out of turn. -/
  returned_prefix : s.returned <+: s.accepted
  /-- The consumer counts the accepted events it was not given. -/
  len_eq : q.consumerAlive = true → q.len = s.accepted.length - s.returned.length
  len_le : q.len ≤ cap
  /-- The producers count the events buffered and the slots granted to waiting enqueues. -/
  producerLen_eq : q.producerLen = q.len + q.granted.length
  producerLen_le : q.producerLen ≤ cap
  /-- A granted slot belongs to a waiting enqueue still under way, which holds no other. -/
  granted_underWay : ∀ w ∈ q.granted, w ∈ s.underWay
  granted_nodup : q.granted.Nodup
  /-- An enqueue that does not wait is refused exactly when every slot holds an event or is
  granted, or the consumer is gone. -/
  refused_iff : ∀ e, (q.answer (.tryEnqueue e)).1 = .accepted false ↔
    q.len + q.granted.length = cap ∨ q.consumerAlive = false
  /-- A refused enqueue changes nothing. -/
  refused_keeps : ∀ e, (q.answer (.tryEnqueue e)).1 = .accepted false →
    (q.answer (.tryEnqueue e)).2 = q
  /-- A waiting enqueue is turned away exactly when the consumer is gone. -/
  closed_iff : ∀ w e t late, (q.answer (.poll w e t late)).1 = .polled (some (.error .closed)) ↔
    q.consumerAlive = false
  /-- Once its time-out has fired, a waiting enqueue gives up exactly when the consumer is there,
  no slot was granted to it, and every slot is taken. -/
  timeout_iff : ∀ w e t, (q.answer (.poll w e t true)).1 = .polled (some (.error (.timeout t))) ↔
    q.consumerAlive = true ∧ w ∉ q.granted ∧ q.len + q.granted.length = cap
  /-- Giving up leaves the buffer and the producers' count as they were. -/
  timeout_keeps : ∀ w e t, (q.answer (.poll w e t true)).1 = .polled (some (.error (.timeout t))) →
    (q.answer (.poll w e t true)).2.items = q.items ∧
      (q.answer (.poll w e t true)).2.producerLen = q.producerLen

/-! ## What each operation does to the slots -/

/-- The waiting enqueues the queue knows of: those in line, then those holding a granted slot. -/
def waiters (q : Queue) : List Nat := q.waiting ++ q.granted

section Operations

variable {q : Queue} {w : Nat} {e : Event}

/-- An enqueue that gives up its granted slot is no longer known to the queue. -/
theorem waiters_leave_granted (hn : q.waiters.Nodup) (hg : w ∈ q.granted) :
    { q with granted := q.granted.erase w }.waiters = q.waiters.erase w := by
  -- it holds a granted slot, so it is not also in line
  have hw : w ∉ q.waiting := fun hw => (List.nodup_append.1 hn).2.2 w hw w hg rfl
  simp [waiters, List.erase_append, hw]

/-- An enqueue without a granted slot that leaves the line is no longer known to the queue. -/
theorem waiters_leave_line (hg : w ∉ q.granted) :
    { q with waiting := q.waiting.erase w }.waiters = q.waiters.erase w := by
  by_cases hw : w ∈ q.waiting
  · simp [waiters, List.erase_append, hw]
  · simp [waiters, List.erase_append, hw, List.erase_of_not_mem hg, List.erase_of_not_mem hw]

/-- Every way a slot can come back. -/
theorem release_cases (q : Queue) :
    (q.waiting = [] ∧ q.release = { q with free := q.free + 1 }) ∨
      ∃ v vs, q.waiting = v :: vs ∧ q.release = { q with waiting := vs, granted := q.granted ++ [v] } := by
  unfold release
  split
  · rename_i h
    exact .inl ⟨h, rfl⟩
  · rename_i v vs h
    exact .inr ⟨v, vs, h, rfl⟩

/-- A slot that comes back goes to the first in line, so the waiting enqueues stay the same. -/
theorem release_waiters (q : Queue) : q.release.waiters.Perm q.waiters := by
  rcases release_cases q with ⟨_, hr⟩ | ⟨v, vs, hv, hr⟩
  · simp [hr, waiters]
  · rw [hr]
    simp only [waiters, hv, List.cons_append, ← List.append_assoc]
    exact List.perm_append_singleton v (vs ++ q.granted)

theorem release_slots (q : Queue) :
    q.release.free + q.release.granted.length = q.free + q.granted.length + 1 := by
  rcases release_cases q with ⟨_, hr⟩ | ⟨v, vs, hv, hr⟩ <;> simp [hr] <;> omega

/-- Nobody is left in line while a slot is free. -/
theorem release_line (h : q.waiting ≠ [] → q.free = 0) : q.release.waiting ≠ [] → q.release.free = 0 := by
  rcases release_cases q with ⟨hw, hr⟩ | ⟨v, vs, hv, hr⟩
  · simp [hr, hw]
  · intro _
    simpa [hr] using h (by simp [hv])

/-- Every way a waiting enqueue can give up. -/
theorem withdraw_cases (q : Queue) (w : Nat) :
    (w ∈ q.granted ∧ q.withdraw w = { q with granted := q.granted.erase w }.release) ∨
      (w ∉ q.granted ∧ q.withdraw w = { q with waiting := q.waiting.erase w }) := by
  unfold withdraw
  split
  · rename_i h
    exact .inl ⟨h, rfl⟩
  · rename_i h
    exact .inr ⟨h, rfl⟩

theorem withdraw_waiters (hn : q.waiters.Nodup) : (q.withdraw w).waiters.Perm (q.waiters.erase w) := by
  rcases withdraw_cases q w with ⟨hg, hr⟩ | ⟨hg, hr⟩
  · rw [hr, ← waiters_leave_granted hn hg]
    exact release_waiters _
  · rw [hr, waiters_leave_line hg]

theorem withdraw_slots (q : Queue) (w : Nat) :
    (q.withdraw w).free + (q.withdraw w).granted.length = q.free + q.granted.length := by
  rcases withdraw_cases q w with ⟨hg, hr⟩ | ⟨_, hr⟩
  · rw [hr, release_slots]
    simp only [List.length_erase_of_mem hg]
    have := List.length_pos_of_mem hg
    omega
  · simp [hr]

theorem withdraw_line (h : q.waiting ≠ [] → q.free = 0) :
    (q.withdraw w).waiting ≠ [] → (q.withdraw w).free = 0 := by
  rcases withdraw_cases q w with ⟨_, hr⟩ | ⟨_, hr⟩
  · rw [hr]
    exact release_line h
  · rw [hr]
    intro hne
    exact h fun h0 => hne (by simp [h0])

/-- The reply of an enqueue that does not wait. -/
theorem answer_tryEnqueue_fst :
    (q.answer (.tryEnqueue e)).1 = .accepted (q.consumerAlive && 0 < q.free) := by
  simp only [answer, Queue.tryEnqueue]
  split <;> simp_all

/-- A refused enqueue changes nothing. -/
theorem answer_refused_keeps (q : Queue) (e : Event) :
    (q.answer (.tryEnqueue e)).1 = .accepted false → (q.answer (.tryEnqueue e)).2 = q := by
  intro hr
  simp only [Queue.answer] at hr ⊢
  split at hr
  · simp at hr
  · simp

/-- Every way a poll of a waiting enqueue can go. -/
theorem pollEnqueue_cases (q : Queue) (w : Nat) (e : Event) (t : Duration) (late : Bool) :
    -- the consumer is gone: the enqueue is turned away and gives back a granted slot
    (q.consumerAlive = false ∧ q.pollEnqueue w e t late = (some (.error .closed), q.withdraw w)) ∨
    -- a slot was granted to it while it waited: the event is stored in it
    (q.consumerAlive = true ∧ w ∈ q.granted ∧
      q.pollEnqueue w e t late = (some (.ok ()), { q with granted := q.granted.erase w }.store e)) ∨
    -- a slot is free: it is taken and filled at once
    (q.consumerAlive = true ∧ w ∉ q.waiters ∧ 0 < q.free ∧
      q.pollEnqueue w e t late = (some (.ok ()), { q with free := q.free - 1 }.store e)) ∨
    -- in line already, and still in time: it goes on waiting
    (q.consumerAlive = true ∧ w ∉ q.granted ∧ w ∈ q.waiting ∧ late = false ∧
      q.pollEnqueue w e t late = (none, q)) ∨
    -- no slot is free, and it is in time: it joins the line
    (q.consumerAlive = true ∧ w ∉ q.waiters ∧ q.free = 0 ∧ late = false ∧
      q.pollEnqueue w e t late = (none, { q with waiting := q.waiting ++ [w] })) ∨
    -- no slot, and too late: it leaves the line
    (q.consumerAlive = true ∧ w ∉ q.granted ∧ (w ∈ q.waiting ∨ q.free = 0) ∧ late = true ∧
      q.pollEnqueue w e t late =
        (some (.error (.timeout t)), { q with waiting := q.waiting.erase w })) := by
  unfold pollEnqueue acquire
  by_cases ha : q.consumerAlive = true
  · by_cases hg : w ∈ q.granted
    · exact .inr (.inl ⟨ha, hg, by simp [ha, hg]⟩)
    by_cases hw : w ∈ q.waiting
    · cases late
      · exact .inr (.inr (.inr (.inl ⟨ha, hg, hw, rfl, by simp [ha, hg, hw]⟩)))
      · exact .inr (.inr (.inr (.inr (.inr ⟨ha, hg, .inl hw, rfl, by simp [ha, hg, hw, withdraw]⟩))))
    have hnw : w ∉ q.waiters := by simp [waiters, hg, hw]
    by_cases hf : 0 < q.free
    · exact .inr (.inr (.inl ⟨ha, hnw, hf, by simp [ha, hg, hw, hf]⟩))
    have hf0 : q.free = 0 := by omega
    cases late
    · exact .inr (.inr (.inr (.inr (.inl ⟨ha, hnw, hf0, rfl, by simp [ha, hg, hw, hf]⟩))))
    · refine .inr (.inr (.inr (.inr (.inr ⟨ha, hg, .inr hf0, rfl, ?_⟩))))
      simp [ha, hg, hw, hf, withdraw, List.erase_append, List.erase_of_not_mem hw]
  · have ha' : q.consumerAlive = false := by simpa using ha
    exact .inl ⟨ha', by simp [ha']⟩

/-- A waiting enqueue is turned away exactly when the consumer is gone. -/
theorem answer_closed_iff (q : Queue) (w : Nat) (e : Event) (t : Duration) (late : Bool) :
    (q.answer (.poll w e t late)).1 = .polled (some (.error .closed)) ↔
      q.consumerAlive = false := by
  simp only [Queue.answer]
  rcases pollEnqueue_cases q w e t late with ⟨ha, hp⟩ | ⟨ha, _, hp⟩ | ⟨ha, _, _, hp⟩ |
      ⟨ha, _, _, _, hp⟩ | ⟨ha, _, _, _, hp⟩ | ⟨ha, _, _, _, hp⟩ <;> simp [hp, ha]

/-- Giving up leaves the buffer and the producers' count as they were. -/
theorem answer_timeout_keeps (q : Queue) (w : Nat) (e : Event) (t : Duration) :
    (q.answer (.poll w e t true)).1 = .polled (some (.error (.timeout t))) →
      (q.answer (.poll w e t true)).2.items = q.items ∧
        (q.answer (.poll w e t true)).2.producerLen = q.producerLen := by
  simp only [Queue.answer]
  rcases pollEnqueue_cases q w e t true with ⟨_, hp⟩ | ⟨_, _, hp⟩ | ⟨_, _, _, hp⟩ |
      ⟨_, _, _, ⟨⟩, _⟩ | ⟨_, _, _, ⟨⟩, _⟩ | ⟨_, _, _, _, hp⟩ <;> simp [hp, producerLen]

end Operations

/-! ## The slots add up -/

/-- The slot bookkeeping of a queue: free slots, slots holding an event and granted slots make
the capacity; nobody waits in line while a slot is free; no waiting enqueue is known twice; and
a queue without its consumer holds no event. -/
structure Slotted (q : Queue) : Prop where
  total : q.free + q.len + q.granted.length = q.capacity
  line : q.waiting ≠ [] → q.free = 0
  nodup : q.waiters.Nodup
  closed : q.consumerAlive = false → q.items = []

namespace Slotted

variable {q : Queue} {w : Nat} {e : Event}

/-- A free slot means nobody waits in line. -/
theorem waiting_nil (h : q.Slotted) (hf : 0 < q.free) : q.waiting = [] := by
  match hq : q.waiting with
  | [] => rfl
  | _ :: _ => exact absurd (h.line (by simp [hq])) (by omega)

theorem bounded (c : Nat) : (bounded c).Slotted where
  total := by simp [Queue.bounded, len]
  line := by simp [Queue.bounded]
  nodup := by simp [Queue.bounded, waiters]
  closed := by simp [Queue.bounded]

theorem tryEnqueue {q' : Queue} (h : q.Slotted) (hq : q.tryEnqueue e = some q') : q'.Slotted := by
  obtain ⟨halive, hfree, rfl⟩ := tryEnqueue_eq_some.1 hq
  -- a free slot is taken, so nobody was in line
  have hw := h.waiting_nil hfree
  refine ⟨?_, ?_, ?_, ?_⟩
  · have := h.total
    simp only [len, store_items, store_free, store_granted, store_capacity, List.length_append,
      List.length_singleton] at this ⊢
    omega
  · simp [hw]
  · simpa [waiters] using h.nodup
  · simp [halive]

theorem withdraw (h : q.Slotted) : (q.withdraw w).Slotted where
  total := by
    have hs := withdraw_slots q w
    have := h.total
    simp only [len, withdraw_items, withdraw_capacity] at this ⊢
    omega
  line := withdraw_line h.line
  nodup := ((withdraw_waiters h.nodup).nodup_iff).2 (h.nodup.erase w)
  closed := by simpa using h.closed

theorem tryDequeue (h : q.Slotted) : q.tryDequeue.2.Slotted := by
  unfold Queue.tryDequeue
  split
  · exact h
  · rename_i e rest hq
    refine ⟨?_, release_line h.line, ((release_waiters _).nodup_iff).2 h.nodup, ?_⟩
    · -- the slot of the event taken comes back
      have hs := release_slots { q with items := rest }
      have := h.total
      simp only [len, hq, List.length_cons, release_items, release_capacity] at this hs ⊢
      omega
    · intro ha
      simp only [release_consumerAlive] at ha
      simp [h.closed ha] at hq

theorem dropConsumer (h : q.Slotted) : q.dropConsumer.Slotted where
  total := by
    have := h.total
    simp only [len, Queue.dropConsumer, List.length_nil] at this ⊢
    omega
  line := by simp [Queue.dropConsumer]
  nodup := by
    have := h.nodup
    simp only [waiters, List.nodup_append] at this
    simpa [waiters, Queue.dropConsumer] using this.2.1
  closed := by simp [Queue.dropConsumer]

theorem pollEnqueue (h : q.Slotted) (t : Duration) (late : Bool) :
    (q.pollEnqueue w e t late).2.Slotted := by
  have ht := h.total
  simp only [len] at ht
  rcases pollEnqueue_cases q w e t late with ⟨_, hp⟩ | ⟨ha, hg, hp⟩ | ⟨ha, hw, hf, hp⟩ |
      ⟨_, _, _, _, hp⟩ | ⟨ha, hw, hf, _, hp⟩ | ⟨ha, hg, _, _, hp⟩ <;> rw [hp]
  · exact h.withdraw
  · -- the granted slot now holds the event
    have hl := List.length_erase_of_mem hg
    have := List.length_pos_of_mem hg
    refine ⟨?_, fun hne => h.line (by simpa using hne), ?_, by simp [ha]⟩
    · simp only [len, store_items, store_free, store_granted, store_capacity, List.length_append,
        List.length_singleton, hl]
      omega
    · have hwl : ({ q with granted := q.granted.erase w }.store e).waiters = q.waiters.erase w :=
        waiters_leave_granted h.nodup hg
      rw [hwl]
      exact h.nodup.erase w
  · -- a free slot was taken, so nobody was in line
    have hq := h.waiting_nil hf
    refine ⟨?_, by simp [hq], by simpa [waiters] using h.nodup, by simp [ha]⟩
    simp only [len, store_items, store_free, store_granted, store_capacity, List.length_append,
      List.length_singleton]
    omega
  · exact h
  · refine ⟨by simpa [len] using ht, fun _ => hf, ?_, by simp [ha]⟩
    -- the newcomer was not known before
    have : (w :: q.waiters).Nodup := List.nodup_cons.2 ⟨hw, h.nodup⟩
    refine (List.Perm.nodup_iff ?_).2 this
    simp only [waiters, List.append_assoc, List.singleton_append]
    exact List.perm_middle
  · refine ⟨by simpa [len] using ht, fun hne => h.line fun h0 => hne (by simp [h0]), ?_, by simp [ha]⟩
    rw [waiters_leave_line hg]
    exact h.nodup.erase w

end Slotted

/-! ## The order of events and the enqueues under way -/

/-- What holds of a queue of capacity `cap` and what its callers have seen, after any calls on a
new queue: the slots add up, the accepted events are those given to the consumer followed by
those buffered, and every waiting enqueue the queue knows of is under way. -/
structure Orderly (cap : Nat) (q : Queue) (s : Seen) : Prop where
  slotted : q.Slotted
  capacity : q.capacity = cap
  order : q.consumerAlive = true → s.returned ++ q.items = s.accepted
  returned_prefix : s.returned <+: s.accepted
  held : ∀ w ∈ q.waiters, w ∈ s.underWay

namespace Orderly

variable {cap : Nat} {q : Queue} {s : Seen}

theorem start (c : Nat) : Orderly (max c 1) (bounded c) {} where
  slotted := .bounded c
  capacity := rfl
  order _ := rfl
  returned_prefix := List.prefix_refl _
  held := by simp [Queue.bounded, waiters]

/-- When a waiting enqueue ends, the others the queue knows of are still under way. -/
theorem held_erase (h : Orderly cap q s) {q' : Queue} (w : Nat)
    (hq : q'.waiters.Perm (q.waiters.erase w)) : ∀ v ∈ q'.waiters, v ∈ s.underWay.erase w := by
  intro v hv
  obtain ⟨hne, hv⟩ := (List.Nodup.mem_erase_iff h.slotted.nodup).1 (hq.mem_iff.1 hv)
  exact (List.mem_erase_of_ne hne).2 (h.held v hv)

/-- An accepted event goes to the back of the buffer and of the accepted events. -/
theorem accept (h : Orderly cap q s) (ha : q.consumerAlive = true) (e : Event) :
    s.returned ++ (q.items ++ [e]) = s.accepted ++ [e] ∧ s.returned <+: s.accepted ++ [e] :=
  ⟨by rw [← List.append_assoc, h.order ha], h.returned_prefix.trans (List.prefix_append _ _)⟩

theorem tryEnqueue (h : Orderly cap q s) (e : Event) :
    Orderly cap (q.answer (.tryEnqueue e)).2 (s.note (.tryEnqueue e) (q.answer (.tryEnqueue e)).1) := by
  simp only [Queue.answer]
  split
  · rename_i q' hq
    have hs := h.slotted.tryEnqueue hq
    obtain ⟨ha, _, rfl⟩ := tryEnqueue_eq_some.1 hq
    obtain ⟨hord, hpre⟩ := h.accept ha e
    exact ⟨hs, by simpa using h.capacity, fun _ => by simpa [Seen.note] using hord,
      by simpa [Seen.note] using hpre, by simpa [waiters, Seen.note] using h.held⟩
  · exact h

theorem poll (h : Orderly cap q s) (w : Nat) (e : Event) (t : Duration) (late : Bool) :
    Orderly cap (q.answer (.poll w e t late)).2
      (s.note (.poll w e t late) (q.answer (.poll w e t late)).1) := by
  have hs := h.slotted.pollEnqueue (w := w) (e := e) t late
  have hc : (q.pollEnqueue w e t late).2.capacity = cap := by simpa using h.capacity
  simp only [Queue.answer]
  rcases pollEnqueue_cases q w e t late with ⟨ha, hp⟩ | ⟨ha, hg, hp⟩ | ⟨ha, hw, _, hp⟩ |
      ⟨_, _, _, _, hp⟩ | ⟨_, _, _, _, hp⟩ | ⟨_, hg, _, _, hp⟩ <;> rw [hp] at hs hc ⊢
  · -- turned away: the enqueue ends without its event
    exact ⟨hs, hc, fun ha' => by simp [ha] at ha', h.returned_prefix,
      h.held_erase w (withdraw_waiters h.slotted.nodup)⟩
  · -- the granted slot is filled
    obtain ⟨hord, hpre⟩ := h.accept ha e
    exact ⟨hs, hc, fun _ => by simpa [Seen.note] using hord, hpre,
      h.held_erase w (.of_eq (waiters_leave_granted h.slotted.nodup hg))⟩
  · -- a free slot is taken and filled
    obtain ⟨hord, hpre⟩ := h.accept ha e
    exact ⟨hs, hc, fun _ => by simpa [Seen.note] using hord, hpre,
      h.held_erase w (.of_eq (List.erase_of_not_mem hw).symm)⟩
  · -- still waiting in line
    exact ⟨hs, hc, h.order, h.returned_prefix,
      fun v hv => List.mem_insert_iff.2 (.inr (h.held v hv))⟩
  · -- joining the line
    refine ⟨hs, hc, h.order, h.returned_prefix, fun v hv => List.mem_insert_iff.2 ?_⟩
    simp only [waiters, List.append_assoc, List.mem_append, List.mem_singleton] at hv
    rcases hv with hv | hv | hv
    · exact .inr (h.held v (List.mem_append_left _ hv))
    · exact .inl hv
    · exact .inr (h.held v (List.mem_append_right _ hv))
  · -- leaving the line at the time-out
    exact ⟨hs, hc, h.order, h.returned_prefix, h.held_erase w (.of_eq (waiters_leave_line hg))⟩

theorem abandon (h : Orderly cap q s) (w : Nat) :
    Orderly cap (q.answer (.abandon w)).2 (s.note (.abandon w) (q.answer (.abandon w)).1) := by
  simp only [Queue.answer]
  exact ⟨h.slotted.withdraw, by simpa using h.capacity, by simpa [Seen.note] using h.order,
    h.returned_prefix, h.held_erase w (withdraw_waiters h.slotted.nodup)⟩

theorem dequeue (h : Orderly cap q s) :
    Orderly cap (q.answer .dequeue).2 (s.note .dequeue (q.answer .dequeue).1) := by
  have hs := h.slotted.tryDequeue
  simp only [Queue.answer]
  unfold Queue.tryDequeue at hs ⊢
  split
  · exact h
  · rename_i e rest hq
    simp only [hq] at hs
    -- a queue holding an event still has its consumer
    have ha : q.consumerAlive = true := by
      cases hc : q.consumerAlive
      · simp [h.slotted.closed hc] at hq
      · rfl
    have hord := h.order ha
    rw [hq] at hord
    refine ⟨hs, by simpa using h.capacity, fun _ => ?_, ?_, ?_⟩
    · simpa [Seen.note] using hord
    · have hpre : s.returned ++ [e] <+: s.accepted := by
        rw [← hord]
        exact ⟨rest, by simp⟩
      simpa [Seen.note] using hpre
    · intro v hv
      exact h.held v ((release_waiters { q with items := rest }).mem_iff.1 hv)

theorem cloneProducer (h : Orderly cap q s) :
    Orderly cap (q.answer .cloneProducer).2 (s.note .cloneProducer (q.answer .cloneProducer).1) :=
  ⟨⟨h.slotted.total, h.slotted.line, h.slotted.nodup, h.slotted.closed⟩, h.capacity, h.order,
    h.returned_prefix, h.held⟩

theorem dropProducer (h : Orderly cap q s) (i : Nat) :
    Orderly cap (q.answer (.dropProducer i)).2 (s.note (.dropProducer i) (q.answer (.dropProducer i)).1) :=
  ⟨⟨h.slotted.total, h.slotted.line, h.slotted.nodup, h.slotted.closed⟩, h.capacity, h.order,
    h.returned_prefix, h.held⟩

theorem dropConsumer (h : Orderly cap q s) :
    Orderly cap (q.answer .dropConsumer).2 (s.note .dropConsumer (q.answer .dropConsumer).1) := by
  simp only [Queue.answer]
  -- the line is turned away; the granted slots stay with their enqueues
  exact ⟨h.slotted.dropConsumer, h.capacity, fun ha => by simp [Queue.dropConsumer] at ha,
    h.returned_prefix, fun v hv => h.held v (List.mem_append_right _ (by simpa [waiters,
      Queue.dropConsumer] using hv))⟩

/-- Every call keeps what holds. -/
theorem answer (h : Orderly cap q s) (c : Call) :
    Orderly cap (q.answer c).2 (s.note c (q.answer c).1) := by
  cases c with
  | tryEnqueue e => exact h.tryEnqueue e
  | poll w e t late => exact h.poll w e t late
  | abandon w => exact h.abandon w
  | dequeue => exact h.dequeue
  | cloneProducer => exact h.cloneProducer
  | dropProducer i => exact h.dropProducer i
  | dropConsumer => exact h.dropConsumer

/-- Any sequence of calls keeps what holds. -/
theorem serve (h : Orderly cap q s) (calls : List Call) :
    Orderly cap (q.serve s calls).1 (q.serve s calls).2 := by
  induction calls generalizing q s with
  | nil => exact h
  | cons c cs ih => exact ih (h.answer c)

/-- Every slot holds an event, is granted, or is free. -/
theorem total (h : Orderly cap q s) : q.free + q.len + q.granted.length = cap :=
  h.capacity ▸ h.slotted.total

/-- While the consumer is there, the buffer holds the accepted events it was not given. -/
theorem len_eq (h : Orderly cap q s) (ha : q.consumerAlive = true) :
    q.len = s.accepted.length - s.returned.length := by
  have hl := congrArg List.length (h.order ha)
  simp only [List.length_append] at hl
  simp only [len]
  omega

/-- An enqueue that does not wait is refused exactly when no slot is free or the consumer is
gone. -/
theorem refused_iff (h : Orderly cap q s) (e : Event) :
    (q.answer (.tryEnqueue e)).1 = .accepted false ↔
      q.len + q.granted.length = cap ∨ q.consumerAlive = false := by
  have ht := h.total
  rw [answer_tryEnqueue_fst]
  cases ha : q.consumerAlive <;> simp only [Reply.accepted.injEq, Bool.false_and,
    Bool.true_and, decide_eq_false_iff_not, Nat.not_lt, Bool.true_eq_false, or_true, or_false]
  omega

/-- Once its time-out has fired, a waiting enqueue gives up exactly when the consumer is there,
no slot was granted to it, and every slot is taken. -/
theorem timeout_iff (h : Orderly cap q s) (w : Nat) (e : Event) (t : Duration) :
    (q.answer (.poll w e t true)).1 = .polled (some (.error (.timeout t))) ↔
      q.consumerAlive = true ∧ w ∉ q.granted ∧ q.len + q.granted.length = cap := by
  have ht := h.total
  simp only [Queue.answer]
  rcases pollEnqueue_cases q w e t true with ⟨ha, hp⟩ | ⟨ha, hg, hp⟩ | ⟨ha, hw, hf, hp⟩ |
      ⟨_, _, _, ⟨⟩, _⟩ | ⟨_, _, _, ⟨⟩, _⟩ | ⟨ha, hg, hw, _, hp⟩
  · simp [hp, ha]
  · simp [hp, hg]
  · -- a slot was free, so not every slot was taken
    simp only [hp, Reply.polled.injEq, Option.some.injEq, reduceCtorEq, false_iff, not_and]
    omega
  · -- the enqueue gave up: nobody waits while a slot is free
    have hf : q.free = 0 := hw.elim (fun hw => h.slotted.line (List.ne_nil_of_mem hw)) id
    simp only [hp, ha, hg, not_false_eq_true, true_and, true_iff]
    omega

/-- The laws read off what holds. -/
theorem boundedFifo (h : Orderly cap q s) : BoundedFifo cap q s := by
  have ht := h.total
  refine ⟨h.order, h.returned_prefix, h.len_eq, by omega, ?_, ?_, ?_, ?_, h.refused_iff,
    answer_refused_keeps q, answer_closed_iff q, h.timeout_iff, answer_timeout_keeps q⟩
  · simp only [producerLen, h.capacity]
    omega
  · simp only [producerLen, h.capacity]
    omega
  · exact fun w hw => h.held w (List.mem_append_right _ hw)
  · exact (List.nodup_append.1 h.slotted.nodup).2.1

end Orderly

/-- The event queue is one bounded first-in first-out queue: after any calls from producers and
the consumer, in any order, on a new queue asked for `c` slots, the laws of a queue of capacity
`max c 1` hold. -/
theorem serve_bounded_fifo (c : Nat) (calls : List Call) :
    BoundedFifo (max c 1) ((bounded c).serve {} calls).1 ((bounded c).serve {} calls).2 :=
  ((Orderly.start c).serve calls).boundedFifo

/-- With one slot: an event is buffered and a waiting enqueue joins the line; the consumer takes
the event and the slot goes to the waiting enqueue, so the producers count it as taken and an
enqueue that does not wait is refused, though nothing is buffered. -/
example (a b c : Event) (t : Duration) :
    let q := ((bounded 1).serve {} [.tryEnqueue a, .poll 7 b t false, .dequeue]).1
    q.len = 0 ∧ q.producerLen = 1 ∧ (q.answer (.tryEnqueue c)).1 = .accepted false :=
  ⟨rfl, rfl, rfl⟩

end BookRelay.Feed.Queue
