import BookRelay.Proofs.SubscribeHandshake

/-! # How an open session of the stream client ends

Every move of an open session, whatever it reads and whenever shutdown comes, with the loss it
may end in; and the run of moves that go on (`session_outcome`). -/

namespace BookRelay.Scenario

open BookRelay.Pipeline BookRelay.Feed BookRelay.Exchange BookRelay.Time

/-- The sights on which an open session is lost, with the error: `idleTimeout` is the idle
time-out and `idleDeadline` the end of the current idle window. -/
inductive SessionLost (idleTimeout : Duration) (idleDeadline : Nat) (s : Sight) :
    ConnectionError → Prop
  /-- Nothing came in the whole idle window. -/
  | idle (hr : s.reading = .waiting) (hd : idleDeadline ≤ s.now) :
      SessionLost idleTimeout idleDeadline s (.idle idleTimeout)
  | ended (hr : s.reading = .ended) : SessionLost idleTimeout idleDeadline s (.closed "stream ended")
  | failed {text : String} (hr : s.reading = .failed text) :
      SessionLost idleTimeout idleDeadline s (.ofClient (.webSocket text))
  | closeFrame {f : Frame} {reason : Option String} (hr : s.reading = .frame f)
      (hc : f.inbound = .close reason) :
      SessionLost idleTimeout idleDeadline s (.closed (reason.getD "close frame"))

/-- What an open session of client `t` on the connection of `visit` does with a frame it reads
and goes on with, as a change of the shared state; a ping is answered as `PongAnswer` says. -/
inductive SessionTakes (t : StreamTask) (visit : Nat) (s : Sight) : (Shared → Shared) → Prop
  /-- A text, or a binary frame that is UTF-8, is taken in. -/
  | text {f : Frame} {text : String} (hr : s.reading = .frame f) (ht : f.inbound = .text text) :
      SessionTakes t visit s fun sh => { sh with line := sh.line.takeText t.maxPayload t.state text }
  /-- A binary frame that is not UTF-8 is counted as a frame and a parse error. -/
  | undecodable {f : Frame} {n : Nat} (hr : s.reading = .frame f) (hu : f.inbound = .undecodable n) :
      SessionTakes t visit s fun sh => { sh with line := sh.line.takeUndecodable n }
  | pong {f : Frame} (hr : s.reading = .frame f) (hp : f.inbound = .pong) :
      SessionTakes t visit s id

/-- How the pong for a ping with `payload` goes on the connection `l` of `visit`, from shared
state `sh`, when it may wait until `deadline`. -/
inductive PongAnswer (t : StreamTask) (sh : Shared) (visit : Nat) (l : Link) (payload : List UInt8)
    (deadline : Nat) : StreamTask × Shared → Prop
  /-- The pong goes out with the ping's payload; the ping is counted and the idle window
  restarts. -/
  | sent {l' : Link} (hs : l.pongAt sh.now payload = .sent l') :
      PongAnswer t sh visit l payload deadline
        ({ t with stage := .reading visit (sh.now + t.settings.idleTimeout.toMillis) },
          (sh.updateLink visit fun _ => l').record Metrics.recordPingAnswered)
  | refused {text : String} (hs : l.pongAt sh.now payload = .refused text) :
      PongAnswer t sh visit l payload deadline
        (t.endSession sh visit (some (.ofClient (.webSocket text))))
  | timedOut (hs : l.pongAt sh.now payload = .blocked) (hd : deadline ≤ sh.now) :
      PongAnswer t sh visit l payload deadline
        (t.endSession sh visit (some (.pongTimeout t.settings.pongTimeout)))
  | waits (hs : l.pongAt sh.now payload = .blocked) (hd : sh.now < deadline) :
      PongAnswer t sh visit l payload deadline ({ t with stage := .ponging visit payload deadline }, sh)

/-- One move of client `t` in an open session on the connection of `visit`, from shared state
`sh`, with its idle window ending at `idleDeadline`, that sees `s` if it reads. -/
inductive SessionMove (t : StreamTask) (sh : Shared) (visit idleDeadline : Nat) (s : Sight) :
    StreamTask × Shared → Prop
  /-- Shutdown was asked: the session ends before anything is read. -/
  | shutdown (hc : sh.cancelled = true) :
      SessionMove t sh visit idleDeadline s (t.endSession sh visit none)
  | lost {e : ConnectionError} (hc : sh.cancelled = false)
      (he : SessionLost t.settings.idleTimeout idleDeadline s e) :
      SessionMove t sh visit idleDeadline s
        (t.endSession (sh.updateLink visit fun _ => s.link) visit (some e))
  | silent (hc : sh.cancelled = false) (hr : s.reading = .waiting) (hd : s.now < idleDeadline) :
      SessionMove t sh visit idleDeadline s (t, sh.updateLink visit fun _ => s.link)
  /-- A frame, dealt with; the idle window restarts at its time. -/
  | takes {g : Shared → Shared} (hc : sh.cancelled = false) (ht : SessionTakes t visit s g) :
      SessionMove t sh visit idleDeadline s
        ({ t with stage := .reading visit (s.now + t.settings.idleTimeout.toMillis) },
          g (sh.updateLink visit fun _ => s.link))
  /-- A ping, answered by a pong that may wait the pong time-out. -/
  | ping {f : Frame} {payload : List UInt8} {r : StreamTask × Shared} (hc : sh.cancelled = false)
      (hr : s.reading = .frame f) (hp : f.inbound = .ping payload)
      (ha : PongAnswer t (sh.updateLink visit fun _ => s.link) visit s.link payload
        (s.now + t.settings.pongTimeout.toMillis) r) :
      SessionMove t sh visit idleDeadline s r

/-- How the pong of a ping goes on: out, the idle window of `idleMs` restarting, or still
waiting. -/
inductive PongGoesOn (visit idleMs now : Nat) (l : Link) (payload : List UInt8) (deadline : Nat) :
    StreamStage → Prop
  | sent {l' : Link} (hs : l.pongAt now payload = .sent l') :
      PongGoesOn visit idleMs now l payload deadline (.reading visit (now + idleMs))
  | waits (hs : l.pongAt now payload = .blocked) (hd : now < deadline) :
      PongGoesOn visit idleMs now l payload deadline (.ponging visit payload deadline)

/-- A move of the open session of client `t` on the connection `l` of `visit`, from shared state
`sh`, that goes on from stage `x` to stage `x'`. A reading move goes on only without shutdown
asked; a move waiting for a pong does not look at shutdown. -/
inductive GoesOn (t : StreamTask) (visit : Nat) (sh : Shared) (l : Link) :
    StreamStage → StreamStage → Prop
  | silent {d : Nat} (hc : sh.cancelled = false) (hr : (Sight.of sh l).reading = .waiting)
      (hd : sh.now < d) : GoesOn t visit sh l (.reading visit d) (.reading visit d)
  | takes {d : Nat} {g : Shared → Shared} (hc : sh.cancelled = false)
      (ht : SessionTakes t visit (Sight.of sh l) g) :
      GoesOn t visit sh l (.reading visit d) (.reading visit (sh.now + t.settings.idleTimeout.toMillis))
  | ping {d : Nat} {f : Frame} {payload : List UInt8} {x : StreamStage} (hc : sh.cancelled = false)
      (hr : (Sight.of sh l).reading = .frame f) (hp : f.inbound = .ping payload)
      (hg : PongGoesOn visit t.settings.idleTimeout.toMillis sh.now (Sight.of sh l).link payload
        (sh.now + t.settings.pongTimeout.toMillis) x) :
      GoesOn t visit sh l (.reading visit d) x
  | pong {payload : List UInt8} {d : Nat} {x : StreamStage}
      (hg : PongGoesOn visit t.settings.idleTimeout.toMillis sh.now l payload d x) :
      GoesOn t visit sh l (.ponging visit payload d) x

/-- Moves of the open session of client `t` on the connection of `visit`, each from a shared
state holding the connection, that all go on: from stage `x` to stage `x'`. -/
inductive GoesOnThrough (t : StreamTask) (visit : Nat) :
    StreamStage → List (Shared × Link) → StreamStage → Prop
  | nil (x : StreamStage) : GoesOnThrough t visit x [] x
  | cons {x x₁ x' : StreamStage} {sh : Shared} {l : Link} {ms : List (Shared × Link)}
      (hl : sh.exchange.link? visit = some l) (hg : GoesOn t visit sh l x x₁)
      (h : GoesOnThrough t visit x₁ ms x') : GoesOnThrough t visit x ((sh, l) :: ms) x'

/-- What the end of an open session of client `t` does, from shared state `sh`, on shutdown
(`lost = none`) or on a loss: the state goes from open through closing to disconnected, both
announced at the time of the move; the connection is closed and dropped; on shutdown the loop
ends well, and on a loss a reconnect is counted and the client waits the backoff of retry count
one. -/
structure SessionEnded (t : StreamTask) (sh : Shared) (visit : Nat) (lost : Option ConnectionError)
    (r : StreamTask × Shared) : Prop where
  transitions : r.1.transitions = t.transitions ++ [(sh.now, .closing), (sh.now, .disconnected)]
  state : r.1.state = .disconnected
  exchange : r.2.exchange = (sh.updateLink visit fun l => l.close.drop).exchange
  outcome : (lost = none ∧ r.1.stage = .stopped (.ok ()) sh.now ∧ r.2.line.metrics = sh.line.metrics) ∨
    (lost.isSome ∧ r.1.stage = .backingOff (sh.now + t.backoffMs 1) ∧ r.1.retries = 1 ∧
      r.2.line.metrics = sh.line.metrics.recordReconnect)

theorem SessionEnded.stopped_iff {t : StreamTask} {sh : Shared} {visit : Nat}
    {lost : Option ConnectionError} {r : StreamTask × Shared} (h : SessionEnded t sh visit lost r) :
    r.1.stage = .stopped (.ok ()) sh.now ↔ lost = none := by
  rcases h.outcome with ⟨hl, hs, -⟩ | ⟨hl, hs, -⟩
  · simp [hl, hs]
  · rw [hs]
    cases lost <;> simp_all

@[simp] theorem Sight.now_of (sh : Shared) (l : Link) : (Sight.of sh l).now = sh.now := rfl

/-- A pong that goes on leaves the client as `PongGoesOn` says. -/
theorem PongAnswer.fst_of_goesOn {t : StreamTask} {sh : Shared} {visit : Nat} {l : Link}
    {payload : List UInt8} {deadline : Nat} {r : StreamTask × Shared} {x : StreamStage} (ha : PongAnswer t sh visit l payload deadline r)
    (hg : PongGoesOn visit t.settings.idleTimeout.toMillis sh.now l payload deadline x) :
    r.1 = { t with stage := x } := by
  cases hg with
  | sent hs =>
    cases ha with
    | sent _ => rfl
    | refused hs' | timedOut hs' _ | waits hs' _ => rw [hs] at hs'; cases hs'
  | waits hs hd =>
    cases ha with
    | waits _ _ => rfl
    | sent hs' | refused hs' => rw [hs] at hs'; cases hs'
    | timedOut _ hd' => omega

namespace StreamTask

variable {t : StreamTask} {sh : Shared} {visit idleDeadline : Nat} {l : Link}

theorem answerPing_answer (payload : List UInt8) (deadline : Nat) :
    PongAnswer t sh visit l payload deadline (t.answerPing sh visit l payload deadline) := by
  unfold answerPing
  rcases hs : l.pongAt sh.now payload with l' | text | _
  · exact .sent hs
  · exact .refused hs
  · dsimp only
    by_cases hd : deadline ≤ sh.now
    · rw [if_pos hd]
      exact .timedOut hs hd
    · rw [if_neg hd]
      exact .waits hs (Nat.lt_of_not_le hd)

theorem step_reading (hs : t.stage = .reading visit idleDeadline)
    (hl : sh.exchange.link? visit = some l) :
    SessionMove t sh visit idleDeadline (Sight.of sh l) (t.step sh) := by
  unfold step
  rw [hs]
  dsimp only
  cases hc : sh.cancelled
  · rw [if_neg Bool.false_ne_true]
    unfold readOn
    rw [hl]
    -- With the sight unfolded to the read's own fields, each case's guards close by rfl.
    dsimp only [Sight.of]
    rcases hread : l.read with ⟨r, l₁⟩
    dsimp only
    cases r with
    | waiting =>
      dsimp only
      rw [Shared.updateLink_now]
      by_cases hd : idleDeadline ≤ sh.now
      · rw [if_pos hd]
        exact .lost hc (.idle rfl hd)
      · rw [if_neg hd]
        exact .silent hc rfl (Nat.lt_of_not_le hd)
    | failed text => exact .lost hc (.failed rfl)
    | ended => exact .lost hc (.ended rfl)
    | frame f =>
      -- the frames by kind; a binary frame reads as text when it is UTF-8
      cases f with
      | text text => exact .takes hc (.text rfl rfl)
      | binary bs =>
        dsimp only
        cases hdec : Text.Utf8.decode? bs with
        | some text => exact .takes hc (.text rfl (by simp [Frame.inbound, hdec]))
        | none => exact .takes hc (.undecodable rfl (by simp [Frame.inbound, hdec]))
      | ping payload =>
        dsimp only
        exact .ping hc rfl rfl (answerPing_answer _ _)
      | pong _ => exact .takes hc (.pong rfl rfl)
      | close reason => exact .lost hc (.closeFrame rfl rfl)
  · exact .shutdown hc

/-- While the pong of a ping waits, a move tries it again whether or not shutdown was asked. -/
theorem step_ponging {payload : List UInt8} {deadline : Nat}
    (hs : t.stage = .ponging visit payload deadline) (hl : sh.exchange.link? visit = some l) :
    PongAnswer t sh visit l payload deadline (t.step sh) := by
  unfold step pongWait
  rw [hs]
  dsimp only
  rw [hl]
  exact answerPing_answer payload deadline

theorem endSession_ended (ho : t.state = .open) (lost : Option ConnectionError) :
    SessionEnded t sh visit lost (t.endSession sh visit lost) := by
  cases lost with
  | none =>
    refine ⟨?_, ?_, ?_, .inl ⟨rfl, ?_, ?_⟩⟩ <;>
      simp [endSession, finish, setState, ho, Shared.note, Shared.dropProducer, Shared.withQueue]
  | some e =>
    refine ⟨?_, ?_, ?_, .inr ⟨rfl, ?_, ?_, ?_⟩⟩ <;>
      simp [endSession, setState, ho, backoffMs, Shared.note, Shared.record]

/-- A reading move that goes on leaves the client but for its stage as it was. -/
theorem step_reading_of_goesOn {d : Nat} {x' : StreamStage} (hl : sh.exchange.link? visit = some l)
    (hg : GoesOn t visit sh l (.reading visit d) x') :
    ({ t with stage := .reading visit d }.step sh).1 = { t with stage := x' } := by
  have hm := step_reading (t := { t with stage := .reading visit d }) rfl hl
  generalize StreamTask.step _ sh = r at hm ⊢
  -- Both moves read the same thing, so only the matching kinds of move meet; the others
  -- disagree on what was read or on shutdown.
  cases hg with
  | silent hc hr hd =>
    cases hm with
    | silent => rfl
    | lost _ he =>
      cases he with
      | idle _ hd' =>
        rw [Sight.now_of] at hd'
        omega
      | _ => simp_all
    | takes _ ht => cases ht <;> simp_all
    | shutdown | ping => simp_all
  | takes hc ht =>
    cases hm with
    | takes _ ht' => rfl
    | lost _ he => cases he <;> cases ht <;> simp_all
    | ping _ hr hp => cases ht <;> simp_all
    | shutdown | silent => cases ht <;> simp_all
  | ping hc hr hp hg =>
    cases hm with
    | ping _ hr' hp' ha =>
      obtain rfl := Link.Reading.frame.inj (hr.symm.trans hr')
      obtain rfl := Inbound.ping.inj (hp.symm.trans hp')
      exact ha.fst_of_goesOn hg
    | lost _ he => cases he <;> simp_all
    | takes _ ht => cases ht <;> simp_all
    | shutdown | silent => simp_all

/-- A move that goes on leaves the client but for its stage as it was. -/
theorem step_of_goesOn {x x' : StreamStage} (hl : sh.exchange.link? visit = some l)
    (hg : GoesOn t visit sh l x x') : ({ t with stage := x }.step sh).1 = { t with stage := x' } := by
  cases hg with
  | silent hc hr hd => exact step_reading_of_goesOn hl (.silent hc hr hd)
  | takes hc ht => exact step_reading_of_goesOn hl (.takes hc ht)
  | ping hc hr hp hg => exact step_reading_of_goesOn hl (.ping hc hr hp hg)
  | @pong payload d _ hg =>
    exact (step_ponging (t := { t with stage := .ponging visit payload d }) rfl hl).fst_of_goesOn hg

/-- The client after one move from each of the shared states `shs` in turn. -/
def movesFrom (t : StreamTask) (shs : List Shared) : StreamTask := shs.foldl (fun u sh => (u.step sh).1) t

theorem movesFrom_of_goesOn {ms : List (Shared × Link)} {x x' : StreamStage}
    (h : GoesOnThrough t visit x ms x') :
    movesFrom { t with stage := x } (ms.map Prod.fst) = { t with stage := x' } := by
  induction h with
  | nil => rfl
  | cons hl hg _ ih =>
    rw [List.map_cons, movesFrom, List.foldl_cons, ← movesFrom, step_of_goesOn hl hg]
    exact ih

end StreamTask

/-- No pong ends the loop well: it goes on, or it loses the session. -/
theorem PongAnswer.stage_ne_stopped {t : StreamTask} {sh : Shared} {visit : Nat} {l : Link}
    (ho : t.state = .open) {payload : List UInt8} {deadline : Nat} {r : StreamTask × Shared} (ha : PongAnswer t sh visit l payload deadline r) :
    r.1.stage ≠ .stopped (.ok ()) sh.now := by
  cases ha with
  | sent _ | waits _ _ => simp
  | refused _ | timedOut _ _ =>
    intro h
    cases (StreamTask.endSession_ended ho _).stopped_iff.1 h

/-- The law of client `t` in an open session on the connection of `visit`, its idle window ending
at `d`. -/
structure SessionLaw (t : StreamTask) (visit d : Nat) : Prop where
  /-- Every reading move from a shared state that holds the connection is one of `SessionMove`'s. -/
  move : ∀ sh l, sh.exchange.link? visit = some l → SessionMove t sh visit d (Sight.of sh l) (t.step sh)
  /-- While the pong of a ping waits, every move is one of `PongAnswer`'s, shutdown or not. -/
  pong : ∀ payload deadline sh l, sh.exchange.link? visit = some l →
    PongAnswer { t with stage := .ponging visit payload deadline } sh visit l payload deadline
      ({ t with stage := .ponging visit payload deadline }.step sh)
  /-- A reading move ends the loop well exactly when shutdown was asked by then. -/
  shutdown_iff : ∀ sh l, sh.exchange.link? visit = some l →
    ((t.step sh).1.stage = .stopped (.ok ()) sh.now ↔ sh.cancelled = true)
  /-- A move waiting for a pong never ends the loop well. -/
  pong_not_stopped : ∀ payload deadline sh l, sh.exchange.link? visit = some l →
    ({ t with stage := .ponging visit payload deadline }.step sh).1.stage ≠ .stopped (.ok ()) sh.now
  /-- Every end of the session, on shutdown or on a loss, is as `SessionEnded` says. -/
  ended : ∀ x sh lost, SessionEnded { t with stage := x } sh visit lost
    ({ t with stage := x }.endSession sh visit lost)
  /-- Moves that go on keep the client in the session, all but its stage. -/
  run : ∀ ms x', GoesOnThrough t visit (.reading visit d) ms x' →
    t.movesFrom (ms.map Prod.fst) = { t with stage := x' }

/-- Whatever frames come and when, and whenever shutdown is asked, an open session of the stream
client deals with each frame in turn and ends at the first move that decides: on shutdown
exactly when a reading move sees it asked, otherwise lost with the error of what that move saw,
a pong that waits past the pong time-out included; and its end moves the state from open
through closing to disconnected. -/
theorem session_outcome {t : StreamTask} {visit d : Nat} (hs : t.stage = .reading visit d)
    (ho : t.state = .open) : SessionLaw t visit d where
  move _ _ hl := StreamTask.step_reading hs hl
  pong _ _ _ _ hl := StreamTask.step_ponging rfl hl
  shutdown_iff sh l hl := by
    have hm := StreamTask.step_reading hs hl
    generalize t.step sh = r at hm ⊢
    -- Only the ends of the session can stop the loop, and only the end on shutdown does.
    cases hm with
    | shutdown hc => simp [(@StreamTask.endSession_ended t sh visit ho none).stopped_iff, hc]
    | @lost e hc _ =>
      have hend := (@StreamTask.endSession_ended t
        (sh.updateLink visit fun _ => (Sight.of sh l).link) visit ho (some e)).stopped_iff
      rw [Shared.updateLink_now] at hend
      simp [hend, hc]
    | silent hc => simp [hs, hc]
    | takes hc => simp [hc]
    | ping hc _ _ ha =>
      simp only [hc, Bool.false_eq_true, iff_false]
      exact ha.stage_ne_stopped ho
  pong_not_stopped _ _ _ _ hl :=
    PongAnswer.stage_ne_stopped (t := { t with stage := .ponging visit _ _ }) ho
      (StreamTask.step_ponging rfl hl)
  ended x _ lost := StreamTask.endSession_ended (t := { t with stage := x }) ho lost
  run ms x' h := by
    have ht : t = { t with stage := .reading visit d } := by
      cases t
      simp_all
    rw [ht]
    exact StreamTask.movesFrom_of_goesOn h

/-- A client open on the connection of its first visit, with the default settings. -/
theorem session_outcome_of_open_client :
    let t : StreamTask :=
      { settings := {}, symbol := "BTCUSDT", maxPayload := 1024, stage := .reading 0 60000, state := .open }
    SessionLaw t 0 60000 :=
  session_outcome rfl rfl

end BookRelay.Scenario
