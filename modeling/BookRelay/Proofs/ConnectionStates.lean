import BookRelay.Proofs.StreamLoop
import Mathlib.Data.List.Chain
import Mathlib.Logic.Relation

/-! # The connection states of the stream client

The stream client announces every change of its connection state. Along any run of its loop,
whatever the exchange does and whenever shutdown comes, the announced states make a path from
`Disconnected` along the allowed changes only (connect, open or fail, close an open session,
finish closing), so no state is announced twice in a row; the state is the last one announced;
and once the loop has ended the state is `Disconnected`. An incremental event enters the queue
only while the state is `Open`, the last announcements being `Connecting` then `Open`, and the
move that puts it there announces nothing. -/

namespace BookRelay.Pipeline

/-- The changes of connection state the stream client may make: connect, open the session or
fail to, close an open session, and finish closing. -/
inductive StateEdge : ConnectionState → ConnectionState → Prop where
  | connect : StateEdge .disconnected .connecting
  | opened : StateEdge .connecting .open
  | failed : StateEdge .connecting .disconnected
  | closing : StateEdge .open .closing
  | closed : StateEdge .closing .disconnected

/-- Every allowed change changes the state. -/
theorem StateEdge.ne {a b : ConnectionState} (h : StateEdge a b) : a ≠ b := by
  cases h <;> decide

/-- `Open` is reached only from `Connecting`. -/
theorem StateEdge.eq_connecting_of_open {a : ConnectionState} (h : StateEdge a .open) :
    a = .connecting := by
  cases h
  rfl

end BookRelay.Pipeline

namespace BookRelay.Scenario

open BookRelay.Pipeline

/-- The states a stream client has announced, oldest first. -/
def StreamTask.announced (t : StreamTask) : List ConnectionState := t.transitions.map Prod.snd

/-- The state each stage of the loop holds the connection in. -/
def StreamStage.holds : StreamStage → ConnectionState
  | .starting | .backingOff _ | .stopped _ _ => .disconnected
  | .handshaking _ _ => .connecting
  | .reading _ _ | .ponging _ _ _ => .open

namespace StreamTask

/-- The announcements of a stream client are in order: from `Disconnected`, each announced state
follows the one before by an allowed change, and the last one is the client's state. -/
structure Announced (t : StreamTask) : Prop where
  path : (ConnectionState.disconnected :: t.announced).IsChain StateEdge
  last : (ConnectionState.disconnected :: t.announced).getLast? = some t.state

/-- The announcements are in order and the state is the one the stage of the loop holds. -/
structure Lawful (t : StreamTask) : Prop extends t.Announced where
  stage : t.state = t.stage.holds

variable {t : StreamTask}

/-- Setting the state it has, or a state one allowed change away, keeps the announcements in
order. -/
theorem Announced.setState (h : t.Announced) (now : Nat) {s : ConnectionState}
    (he : t.state = s ∨ StateEdge t.state s) :
    (t.setState now s).Announced ∧ (t.setState now s).state = s := by
  unfold StreamTask.setState
  split
  · rename_i hs
    exact ⟨h, hs⟩
  · rename_i hs
    have hedge := he.resolve_left hs
    have hpath : (ConnectionState.disconnected :: (t.announced ++ [s])).IsChain StateEdge := by
      rw [← List.cons_append]
      refine List.isChain_append.2 ⟨h.path, List.isChain_singleton s, ?_⟩
      intro x hx y hy
      rw [h.last, Option.mem_some_iff] at hx
      simp only [List.head?_cons, Option.mem_some_iff] at hy
      subst hx hy
      exact hedge
    refine ⟨⟨by simpa [announced] using hpath, ?_⟩, rfl⟩
    simp only [announced, List.map_append, List.map_cons, List.map_nil]
    rw [← List.cons_append, List.getLast?_concat]

theorem Announced.withStage (h : t.Announced) (x : StreamStage) : { t with stage := x }.Announced :=
  ⟨h.path, h.last⟩

theorem Announced.withCounts (h : t.Announced) (failures retries : Nat) :
    { t with failures := failures, retries := retries }.Announced :=
  ⟨h.path, h.last⟩

/-- Entering a stage that holds the state the client is in. -/
theorem Announced.lawful (h : t.Announced) {x : StreamStage} (hx : t.state = x.holds) :
    { t with stage := x }.Lawful :=
  ⟨h.withStage x, hx⟩

/-! ## What each part of the loop does -/

/-- A move of the stream client that leaves it lawful and the queue's events alone. -/
def LawfulMove (sh : Shared) (r : StreamTask × Shared) : Prop :=
  r.1.Lawful ∧ r.2.line.queue.items = sh.line.queue.items

theorem LawfulMove.of_items {sh sh' : Shared} {r : StreamTask × Shared} (h : LawfulMove sh' r)
    (hi : sh'.line.queue.items = sh.line.queue.items) : LawfulMove sh r :=
  ⟨h.1, h.2.trans hi⟩

theorem finish_lawful (h : t.Announced) (he : t.state = .disconnected ∨ StateEdge t.state .disconnected)
    (sh : Shared) (r : Except ConnectionError Unit) : LawfulMove sh (t.finish sh r) := by
  obtain ⟨ha, hs⟩ := h.setState sh.now he
  exact ⟨ha.lawful hs, rfl⟩

theorem Lawful.state_eq (h : t.Lawful) {x : StreamStage} (hx : t.stage = x) : t.state = x.holds :=
  hx ▸ h.stage

/-- A failed attempt drops the state back to `Disconnected`, then waits to retry or, once the
failures reach the limit, ends the loop. -/
theorem attemptFailed_lawful (h : t.Announced) (hs : t.state = .connecting) (sh : Shared)
    (visit : Option Nat) (err : ConnectionError) : LawfulMove sh (t.attemptFailed sh visit err) := by
  obtain ⟨hd, hds⟩ := h.setState sh.now (s := .disconnected) (.inr (hs ▸ .failed))
  have hout := attemptFailed_outcome t sh visit err
  generalize t.attemptFailed sh visit err = r at hout
  cases hout with
  | gaveUp x failures retries text e =>
    exact (finish_lawful (hd.withCounts failures retries) (.inl hds) _ _).of_items rfl
  | retry x failures retries resumeAt text => exact ⟨(hd.withCounts failures retries).lawful hds, rfl⟩

theorem connect_lawful (h : t.Announced) (hs : t.state = .disconnected) (sh : Shared) :
    LawfulMove sh (t.connect sh) := by
  obtain ⟨hc, hcs⟩ := h.setState sh.now (s := .connecting) (.inr (hs ▸ .connect))
  have hout := connect_outcome t sh
  generalize t.connect sh = r at hout
  cases hout with
  | fail text x e => exact (attemptFailed_lawful hc hcs _ _ _).of_items rfl
  | linked text x visit deadline => exact ⟨hc.lawful hcs, rfl⟩

theorem opened_lawful (h : t.Announced) (hs : t.state = .connecting) (sh : Shared) (visit : Nat) :
    LawfulMove sh (t.opened sh visit) := by
  obtain ⟨ho, hos⟩ := h.setState sh.now (s := .open) (.inr (hs ▸ .opened))
  exact ⟨⟨⟨ho.path, ho.last⟩, hos⟩, rfl⟩

theorem handshake_lawful (h : t.Lawful) (hs : t.state = .connecting) (sh : Shared)
    (visit deadline : Nat) : LawfulMove sh (t.handshake sh visit deadline) := by
  have hout := handshake_outcome t sh visit deadline
  generalize t.handshake sh visit deadline = r at hout
  cases hout with
  | wait x => exact ⟨h, rfl⟩
  | fail x v err => exact (attemptFailed_lawful h.toAnnounced hs _ _ _).of_items rfl
  | opened x => exact (opened_lawful h.toAnnounced hs _ _).of_items rfl

/-- The end of a session passes through `Closing` to `Disconnected`, then waits to reconnect or,
on shutdown, ends the loop. -/
theorem endSession_lawful (h : t.Announced) (hs : t.state = .open) (sh : Shared) (visit : Nat)
    (lost : Option ConnectionError) : LawfulMove sh (t.endSession sh visit lost) := by
  obtain ⟨hc, hcs⟩ := h.setState sh.now (s := .closing) (.inr (hs ▸ .closing))
  obtain ⟨hd, hds⟩ := hc.setState sh.now (s := .disconnected) (.inr (by rw [hcs]; exact .closed))
  unfold endSession
  cases lost with
  | none => exact (finish_lawful hd (.inl hds) _ _).of_items rfl
  | some e => exact ⟨⟨⟨hd.path, hd.last⟩, hds⟩, rfl⟩

/-! ## Where events enter the queue -/

/-- A move of the stream client that leaves it lawful and, if it puts anything into the queue,
puts one incremental event at the back, from state `Open`, and announces nothing. -/
def OpenMove (t : StreamTask) (sh : Shared) (r : StreamTask × Shared) : Prop :=
  r.1.Lawful ∧ (r.2.line.queue.items = sh.line.queue.items ∨
    ∃ e : Feed.Event, e.kind = .incremental ∧ r.2.line.queue.items = sh.line.queue.items ++ [e] ∧
      t.state = .open ∧ r.1.state = t.state ∧ r.1.transitions = t.transitions)

theorem LawfulMove.toOpenMove {sh sh' : Shared} {r : StreamTask × Shared} (h : LawfulMove sh' r)
    (hi : sh'.line.queue.items = sh.line.queue.items) : OpenMove t sh r :=
  ⟨h.1, .inl (h.2.trans hi)⟩

end StreamTask

/-- Taking in a text frame puts at most one event into the queue: an incremental one, at the back,
and only while the connection is open. -/
theorem takeText_items (l : Line) (maxPayload : Nat) (state : ConnectionState) (text : String) :
    (l.takeText maxPayload state text).queue.items = l.queue.items ∨
      ∃ e : Feed.Event, e.kind = .incremental ∧
        (l.takeText maxPayload state text).queue.items = l.queue.items ++ [e] ∧ state = .open := by
  unfold Line.takeText
  dsimp only
  split
  · exact .inl rfl
  · split
    · unfold Line.offer
      split
      · exact .inl rfl
      · rename_i hopen
        split
        · rename_i q hq
          obtain ⟨_, _, rfl⟩ := Feed.Queue.tryEnqueue_eq_some.1 hq
          exact .inr ⟨_, rfl, rfl, by revert hopen; cases state <;> decide⟩
        · split <;> exact .inl rfl
    · exact .inl rfl
    · exact .inl rfl

namespace StreamTask

variable {t : StreamTask}

/-- A text frame taken in during a session moves the idle deadline and nothing else of the
client. -/
theorem take_open (h : t.Lawful) (hs : t.state = .open) (sh : Shared) (x : Exchange)
    (visit deadline : Nat) (text : String) :
    OpenMove t sh ({ t with stage := .reading visit deadline },
      { sh with exchange := x, line := sh.line.takeText t.maxPayload t.state text }) := by
  refine ⟨h.toAnnounced.lawful hs, ?_⟩
  rcases takeText_items sh.line t.maxPayload t.state text with hk | ⟨e, hk, he, ho⟩
  · exact .inl hk
  · exact .inr ⟨e, hk, he, ho, rfl, rfl⟩

/-- Waiting for a pong keeps the client in the session, or ends the session. -/
theorem PongOutcome.lawful (h : t.Lawful) (hs : t.state = .open) {sh : Shared} {visit : Nat}
    {r : StreamTask × Shared} (hout : PongOutcome t sh visit r) : LawfulMove sh r := by
  cases hout with
  | answered x deadline => exact ⟨h.toAnnounced.lawful hs, rfl⟩
  | lost x err => exact (endSession_lawful h.toAnnounced hs _ _ _).of_items rfl
  | waits x payload deadline => exact ⟨h.toAnnounced.lawful hs, rfl⟩

theorem readOn_open (h : t.Lawful) {visit idleDeadline : Nat}
    (hst : t.stage = .reading visit idleDeadline) (sh : Shared) :
    OpenMove t sh (t.readOn sh visit idleDeadline) := by
  have hs : t.state = .open := h.state_eq hst
  have hfresh : ∀ d, { t with stage := .reading visit d }.Lawful := fun _ => h.toAnnounced.lawful hs
  have hout := readOn_outcome t sh visit idleDeadline
  generalize t.readOn sh visit idleDeadline = r at hout
  cases hout with
  | lost x err => exact (endSession_lawful h.toAnnounced hs _ _ _).toOpenMove rfl
  | wait x => exact ⟨h, .inl rfl⟩
  | text x deadline text => exact take_open h hs sh x visit deadline text
  | undecodable x deadline size => exact ⟨hfresh deadline, .inl rfl⟩
  | ping hp => exact (hp.lawful h hs).toOpenMove rfl
  | quiet x deadline => exact ⟨hfresh deadline, .inl rfl⟩

/-- One move of a lawful stream client, whatever the shared state: it stays lawful, and it puts
an event into the queue only as an open session reading a frame. -/
theorem step_open (h : t.Lawful) (sh : Shared) : OpenMove t sh (t.step sh) := by
  unfold step
  split
  · exact ⟨h, .inl rfl⟩
  · rename_i hst
    have hs : t.state = .disconnected := h.state_eq hst
    split
    · exact (finish_lawful h.toAnnounced (.inl hs) _ _).toOpenMove rfl
    · exact (connect_lawful h.toAnnounced hs _).toOpenMove rfl
  · rename_i visit deadline hst
    have hs : t.state = .connecting := h.state_eq hst
    split
    · exact (finish_lawful h.toAnnounced (.inr (hs ▸ .failed)) _ _).toOpenMove rfl
    · exact (handshake_lawful h hs _ _ _).toOpenMove rfl
  · rename_i visit idleDeadline hst
    split
    · exact (endSession_lawful h.toAnnounced (h.state_eq hst) _ _ _).toOpenMove rfl
    · exact readOn_open h hst _
  · rename_i visit payload deadline hst
    exact ((pongWait_outcome t sh visit payload deadline).lawful h (h.state_eq hst)).toOpenMove rfl
  · rename_i resumeAt hst
    have hs : t.state = .disconnected := h.state_eq hst
    split
    · exact (finish_lawful h.toAnnounced (.inl hs) _ _).toOpenMove rfl
    · split
      · exact ⟨h.toAnnounced.lawful hs, .inl rfl⟩
      · exact ⟨h, .inl rfl⟩

/-! ## Along a run -/

/-- One move of the stream client, with whatever shared state the rest of the pipeline, the
exchange and the clock have left. -/
def Moves (t t' : StreamTask) : Prop := ∃ sh, (t.step sh).1 = t'

theorem lawful_fresh (settings : StreamSettings) (symbol : String) (maxPayload producer : Nat) :
    ({ settings := settings, symbol := symbol, maxPayload := maxPayload, producer := producer } :
      StreamTask).Lawful :=
  ⟨⟨List.isChain_singleton _, rfl⟩, rfl⟩

theorem Lawful.moves (h : t.Lawful) {t' : StreamTask} (hm : Relation.ReflTransGen Moves t t') :
    t'.Lawful := by
  induction hm with
  | refl => exact h
  | tail _ hstep ih =>
    obtain ⟨sh, rfl⟩ := hstep
    exact (step_open ih sh).1

theorem Lawful.disconnected_of_done (h : t.Lawful) (hd : t.done = true) :
    t.state = .disconnected := by
  unfold done at hd
  split at hd
  · rename_i hst
    exact h.state_eq hst
  · cases hd

/-- A client in state `Open` announced `Connecting` then `Open` last. -/
theorem Announced.transitions_of_open (h : t.Announced) (hs : t.state = .open) :
    ∃ pre n₁ n₂, t.transitions = pre ++ [(n₁, .connecting), (n₂, .open)] := by
  have hlast := h.last
  rcases List.eq_nil_or_concat' t.transitions with h0 | ⟨ts, ⟨n₂, s₂⟩, hts⟩
  · -- nothing announced yet: the state is still the first one
    simp [announced, h0, hs] at hlast
  · have hs₂ : s₂ = .open := by
      simp only [announced, hts, List.map_append, List.map_cons, List.map_nil] at hlast
      rw [← List.cons_append, List.getLast?_concat, hs] at hlast
      exact Option.some_inj.1 hlast
    subst hs₂
    -- `Open` is entered only from `Connecting`, so that is the state announced before it
    rcases List.eq_nil_or_concat' ts with h0 | ⟨pre, ⟨n₁, s₁⟩, hpre⟩
    · have hpath := h.path
      simp only [announced, hts, h0, List.nil_append, List.map_cons, List.map_nil,
        List.isChain_cons_cons] at hpath
      exact absurd (StateEdge.eq_connecting_of_open hpath.1) (by decide)
    · have hsplit : ConnectionState.disconnected :: t.announced =
          (.disconnected :: pre.map Prod.snd) ++ s₁ :: ConnectionState.open :: [] := by
        simp [announced, hts, hpre]
      have hedge : StateEdge s₁ .open :=
        List.isChain_iff_forall_rel_of_append_cons_cons.1 h.path hsplit
      rw [StateEdge.eq_connecting_of_open hedge] at hpre
      exact ⟨pre, n₁, n₂, by rw [hts, hpre, List.append_assoc]; rfl⟩

/-- Along any run of the stream client from a fresh one, whatever the exchange does and whenever
shutdown comes: the announced states make a path from `Disconnected` along the allowed changes,
so no state is announced twice in a row; the state is the last one announced; once the loop has
ended the state is `Disconnected`; and a move that puts anything into the queue puts one
incremental event there while `Open`, the last announcements being `Connecting` then `Open`, and
announces nothing itself. -/
theorem connection_states_follow_allowed_changes {settings : StreamSettings} {symbol : String}
    {maxPayload producer : Nat} {t : StreamTask}
    (hrun : Relation.ReflTransGen Moves
      { settings := settings, symbol := symbol, maxPayload := maxPayload, producer := producer } t) :
    (ConnectionState.disconnected :: t.announced).IsChain StateEdge ∧
      (ConnectionState.disconnected :: t.announced).IsChain (· ≠ ·) ∧
      (ConnectionState.disconnected :: t.announced).getLast? = some t.state ∧
      (t.done = true → t.state = .disconnected) ∧
      ∀ sh : Shared, (t.step sh).2.line.queue.items ≠ sh.line.queue.items →
        ∃ e : Feed.Event, e.kind = .incremental ∧
          (t.step sh).2.line.queue.items = sh.line.queue.items ++ [e] ∧
          t.state = .open ∧
          (∃ pre n₁ n₂, t.transitions = pre ++ [(n₁, .connecting), (n₂, .open)]) ∧
          (t.step sh).1.state = .open ∧ (t.step sh).1.transitions = t.transitions := by
  have h := (lawful_fresh settings symbol maxPayload producer).moves hrun
  refine ⟨h.path, h.path.imp fun _ _ he => he.ne, h.last, h.disconnected_of_done, ?_⟩
  intro sh hne
  obtain ⟨_, hmove⟩ := step_open h sh
  rcases hmove with hsame | ⟨e, hk, he, hs, hst, htr⟩
  · exact absurd hsame hne
  · exact ⟨e, hk, he, hs, h.transitions_of_open hs, hst.trans hs, htr⟩

/-- The law after a fresh client's first move, made with shutdown asked: the client stops,
disconnected. -/
theorem connection_states_of_stopped_client :
    let fresh : StreamTask := { settings := {}, symbol := "BTCUSDT", maxPayload := 65536 }
    let sh : Shared := { line := { queue := Feed.Queue.bounded 1 }, cancelled := true }
    let t := (fresh.step sh).1
    Relation.ReflTransGen Moves fresh t ∧ t.done = true ∧
      ((ConnectionState.disconnected :: t.announced).IsChain StateEdge ∧
      (ConnectionState.disconnected :: t.announced).IsChain (· ≠ ·) ∧
      (ConnectionState.disconnected :: t.announced).getLast? = some t.state ∧
      (t.done = true → t.state = .disconnected) ∧
      ∀ sh : Shared, (t.step sh).2.line.queue.items ≠ sh.line.queue.items →
        ∃ e : Feed.Event, e.kind = .incremental ∧
          (t.step sh).2.line.queue.items = sh.line.queue.items ++ [e] ∧
          t.state = .open ∧
          (∃ pre n₁ n₂, t.transitions = pre ++ [(n₁, .connecting), (n₂, .open)]) ∧
          (t.step sh).1.state = .open ∧ (t.step sh).1.transitions = t.transitions) := by
  intro fresh sh t
  have hrun : Relation.ReflTransGen Moves fresh t := .single ⟨sh, rfl⟩
  exact ⟨hrun, rfl, connection_states_follow_allowed_changes hrun⟩

end StreamTask

end BookRelay.Scenario
