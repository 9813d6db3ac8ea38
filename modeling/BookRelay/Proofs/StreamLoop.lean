import BookRelay.Scenario.StreamTask

/-! # How a move of the stream client ends

The stream client's loop is made of a few moves: an attempt to connect, a failed attempt, a
move while waiting for the answer to the subscription, and a move of an open session, which
reads one thing from the connection and acts on it. The rules below list every way each move
ends and what it changes; a proof about the stream client takes these cases instead of the
branches of the loop. -/

namespace BookRelay.Scenario

open BookRelay.Pipeline BookRelay.Feed

namespace StreamTask

/-- How a failed attempt ends: the connection, if any, is dropped, the state falls back to
`Disconnected` and the failure is counted; then the loop ends, once the failures reach the
limit, or waits to retry. -/
inductive FailureOutcome (t : StreamTask) (sh : Shared) : StreamTask × Shared → Prop where
  | gaveUp (x : Exchange) (failures retries : Nat) (text : String) (err : ConnectionError) :
      FailureOutcome t sh
        ({ t.setState sh.now .disconnected with failures := failures, retries := retries }.finish
          (({ sh with exchange := x }.record Metrics.recordHandshakeFailure).note .error "stream" text)
          (.error err))
  | retry (x : Exchange) (failures retries resumeAt : Nat) (text : String) :
      FailureOutcome t sh
        ({ t.setState sh.now .disconnected with
            failures := failures, retries := retries, stage := .backingOff resumeAt },
          ({ sh with exchange := x }.record Metrics.recordHandshakeFailure).note .warn "stream" text)

/-- How a connection attempt begins: the state becomes `Connecting` and the attempt is
reported; then it fails at once, or the connection is up and the subscription sent on it. -/
inductive ConnectOutcome (t : StreamTask) (sh : Shared) : StreamTask × Shared → Prop where
  | fail (text : String) (x : Exchange) (err : ConnectionError) :
      ConnectOutcome t sh ((t.setState sh.now .connecting).attemptFailed
        { sh.note .info "stream" text with exchange := x } none err)
  | linked (text : String) (x : Exchange) (visit deadline : Nat) :
      ConnectOutcome t sh ({ t.setState sh.now .connecting with stage := .handshaking visit deadline },
        { sh.note .info "stream" text with exchange := x })

/-- How a move while waiting for the answer to the subscription ends, from a shared state in
which only the exchange has changed: the client waits on, the attempt fails, or the session
opens on the connection of `visit`. -/
inductive HandshakeOutcome (t : StreamTask) (sh : Shared) (visit : Nat) :
    StreamTask × Shared → Prop where
  | wait (x : Exchange) : HandshakeOutcome t sh visit (t, { sh with exchange := x })
  | fail (x : Exchange) (v : Option Nat) (err : ConnectionError) :
      HandshakeOutcome t sh visit (t.attemptFailed { sh with exchange := x } v err)
  | opened (x : Exchange) : HandshakeOutcome t sh visit (t.opened { sh with exchange := x } visit)

/-- How the wait for the pong of a ping on the connection of `visit` ends, from a shared state in
which only the exchange has changed: the pong goes out, the ping is counted and the idle window
restarts; the session is lost; or the client waits on for the pong. -/
inductive PongOutcome (t : StreamTask) (sh : Shared) (visit : Nat) : StreamTask × Shared → Prop where
  | answered (x : Exchange) (deadline : Nat) :
      PongOutcome t sh visit ({ t with stage := .reading visit deadline },
        { sh with exchange := x }.record Metrics.recordPingAnswered)
  | lost (x : Exchange) (err : ConnectionError) :
      PongOutcome t sh visit (t.endSession { sh with exchange := x } visit (some err))
  | waits (x : Exchange) (payload : List UInt8) (deadline : Nat) :
      PongOutcome t sh visit ({ t with stage := .ponging visit payload deadline }, { sh with exchange := x })

/-- How a move of an open session on the connection of `visit` ends, from a shared state in
which only the exchange has changed: the session is lost, the client waits on, or it takes in
a frame and moves its idle deadline. A text frame's text is taken in, an undecodable frame is
counted, a ping is answered as `PongOutcome` says, and any other frame needs nothing. -/
inductive ReadOutcome (t : StreamTask) (sh : Shared) (visit : Nat) :
    StreamTask × Shared → Prop where
  | lost (x : Exchange) (err : ConnectionError) :
      ReadOutcome t sh visit (t.endSession { sh with exchange := x } visit (some err))
  | wait (x : Exchange) : ReadOutcome t sh visit (t, { sh with exchange := x })
  | text (x : Exchange) (deadline : Nat) (text : String) :
      ReadOutcome t sh visit ({ t with stage := .reading visit deadline },
        { sh with exchange := x, line := sh.line.takeText t.maxPayload t.state text })
  | undecodable (x : Exchange) (deadline size : Nat) :
      ReadOutcome t sh visit ({ t with stage := .reading visit deadline },
        { sh with exchange := x, line := sh.line.takeUndecodable size })
  | ping {r : StreamTask × Shared} (h : PongOutcome t sh visit r) : ReadOutcome t sh visit r
  | quiet (x : Exchange) (deadline : Nat) :
      ReadOutcome t sh visit ({ t with stage := .reading visit deadline }, { sh with exchange := x })

variable (t : StreamTask) (sh : Shared)

theorem attemptFailed_outcome (visit : Option Nat) (err : ConnectionError) :
    FailureOutcome t sh (t.attemptFailed sh visit err) := by
  -- dropping the connection changes only the exchange
  obtain ⟨x, hx⟩ : ∃ x : Exchange,
      t.attemptFailed sh visit err = t.attemptFailed { sh with exchange := x } none err := by
    cases visit with
    | none => exact ⟨sh.exchange, rfl⟩
    | some i => exact ⟨_, rfl⟩
  rw [hx]
  unfold attemptFailed
  dsimp only
  split
  · split
    · exact .gaveUp x _ _ _ _
    · exact .retry x _ _ _ _
  · exact .retry x _ _ _ _

theorem connect_outcome : ConnectOutcome t sh (t.connect sh) := by
  unfold connect
  dsimp only
  split
  · exact .fail _ _ _
  · split
    · exact .fail _ _ _
    · exact .fail _ _ _
    · exact .linked _ _ _ _

theorem answerText_outcome (x : Exchange) (visit : Nat) (text : String) :
    HandshakeOutcome t sh visit (t.answerText { sh with exchange := x } visit text) := by
  unfold answerText
  split
  · split
    · split
      · exact .fail x _ _
      · exact .opened x
    · exact .wait x
  · exact .wait x

theorem handshake_outcome (visit deadline : Nat) :
    HandshakeOutcome t sh visit (t.handshake sh visit deadline) := by
  unfold handshake
  split
  · exact .fail sh.exchange none _
  · dsimp only
    -- the cases of what was read: waiting, failed, ended, then the frames by kind
    split
    case h_1 =>
      split
      · exact .fail _ (some visit) _
      · exact .wait _
    case h_4 => exact answerText_outcome t sh _ visit _
    case h_5 =>
      split
      · exact answerText_outcome t sh _ visit _
      · exact .wait _
    case h_6 =>
      split
      · exact .wait _
      · exact .fail _ (some visit) _
    case h_7 => exact .wait _
    all_goals exact .fail _ (some visit) _

theorem answerPing_outcome (x : Exchange) (visit : Nat) (l : Link) (payload : List UInt8)
    (deadline : Nat) :
    PongOutcome t sh visit (t.answerPing { sh with exchange := x } visit l payload deadline) := by
  unfold answerPing
  split
  · exact .answered _ _
  · exact .lost x _
  · split
    · exact .lost x _
    · exact .waits x _ _

theorem pongWait_outcome (visit : Nat) (payload : List UInt8) (deadline : Nat) :
    PongOutcome t sh visit (t.pongWait sh visit payload deadline) := by
  unfold pongWait
  split
  · exact .lost sh.exchange _
  · exact answerPing_outcome t sh sh.exchange visit _ payload deadline

theorem readOn_outcome (visit idleDeadline : Nat) :
    ReadOutcome t sh visit (t.readOn sh visit idleDeadline) := by
  unfold readOn
  split
  · exact .lost sh.exchange _
  · dsimp only
    split
    case h_1 =>
      split
      · exact .lost _ _
      · exact .wait _
    case h_4 => exact .text _ _ _
    case h_5 =>
      split
      · exact .text _ _ _
      · exact .undecodable _ _ _
    case h_6 => exact .ping (answerPing_outcome t sh _ visit _ _ _)
    case h_7 => exact .quiet _ _
    all_goals exact .lost _ _

end StreamTask

end BookRelay.Scenario
