import BookRelay.Scenario.Shared
import BookRelay.Exchange.Endpoint
import BookRelay.Exchange.Speed
import BookRelay.Pipeline.Settings

/-!
# The stream client as a task

The stream client's loop. At the top it stops if shutdown was asked; otherwise it connects,
subscribes with request id 1 and waits for the answer within the handshake time-out. An open
session reads frames until shutdown, a failure, a close frame, or a silence longer than the idle
time-out; a ping is answered by a pong, and a pong that does not go out within the pong time-out
loses the session, shutdown being not looked at while it waits. The session then closes the
connection and, unless shutting down, waits the initial backoff and connects again. A failed attempt counts a handshake failure and waits the backoff of the
retry count, unless the consecutive failures reach the limit, where the client gives up.

Every change of the connection state is announced with its time; setting the state it already
has announces nothing.
-/

namespace BookRelay.Scenario

open BookRelay.Pipeline BookRelay.Feed BookRelay.Exchange BookRelay.Time

inductive StreamStage where
  | starting
  /-- Subscribed on the connection of a visit, waiting for the answer. -/
  | handshaking (visit : Nat) (deadline : Nat)
  | reading (visit : Nat) (idleDeadline : Nat)
  /-- Waiting until a deadline for the pong of a ping to go out. -/
  | ponging (visit : Nat) (payload : List UInt8) (deadline : Nat)
  | backingOff (resumeAt : Nat)
  | stopped (result : Except ConnectionError Unit) (endedAt : Nat)
  deriving Repr

/-- The stream client with its settings, its queue handle and its counts. -/
structure StreamTask where
  settings : StreamSettings
  symbol : String
  maxPayload : Nat
  producer : Nat := 0
  stage : StreamStage := .starting
  state : ConnectionState := .disconnected
  failures : Nat := 0
  retries : Nat := 0
  /-- Announced states with their times, oldest first. -/
  transitions : List (Nat × ConnectionState) := []
  deriving Repr

/-- The text of a refused connection. -/
def refusedText : String := "IO error: Connection refused (os error 111)"

namespace StreamTask

def setState (t : StreamTask) (now : Nat) (s : ConnectionState) : StreamTask :=
  if t.state = s then t else { t with state := s, transitions := t.transitions ++ [(now, s)] }

def backoffMs (t : StreamTask) (retry : Nat) : Nat :=
  (backoffDelay retry t.settings.initialBackoff t.settings.maxBackoff).toMillis

/-- The loop ends: the state is `Disconnected` and the queue handle is dropped. -/
def finish (t : StreamTask) (sh : Shared) (result : Except ConnectionError Unit) : StreamTask × Shared :=
  ({ t.setState sh.now .disconnected with stage := .stopped result sh.now }, sh.dropProducer t.producer)

/-- A connection attempt failed; the connection, if any, is dropped. -/
def attemptFailed (t : StreamTask) (sh : Shared) (visit : Option Nat) (err : ConnectionError) :
    StreamTask × Shared :=
  let sh := match visit with
    | some i => sh.updateLink i Link.drop
    | none => sh
  let t := t.setState sh.now .disconnected
  let t := { t with failures := t.failures + 1, retries := t.retries + 1 }
  let sh := sh.record Metrics.recordHandshakeFailure
  let details := " failures=" ++ toString t.failures ++ " error=" ++ err.message
  let retry : StreamTask × Shared :=
    ({ t with stage := .backingOff (sh.now + t.backoffMs t.retries) },
      sh.note .warn "stream" ("market stream connect failed" ++ details))
  match t.settings.maxConnectAttempts with
  | some most =>
    if most ≤ t.failures then
      t.finish (sh.note .error "stream" ("market stream gave up reconnecting" ++ details))
        (.error (.retriesExhausted t.failures err))
    else retry
  | none => retry

def connect (t : StreamTask) (sh : Shared) : StreamTask × Shared :=
  let t := t.setState sh.now .connecting
  let sh := sh.note .info "stream" ("connecting market stream url=" ++ t.settings.wsUrl ++ " symbol=" ++ t.symbol)
  match streamUrl t.settings.wsUrl with
  | .error e => t.attemptFailed sh none (.ofClient e)
  | .ok _ =>
    let (dial, x) := sh.exchange.dial
    let sh := { sh with exchange := x }
    match dial with
    | .unreachable => t.attemptFailed sh none (.ofClient (.webSocket refusedText))
    | .refused s => t.attemptFailed sh none (.ofClient (.webSocket ("HTTP error: " ++ Http.statusText s)))
    | .linked i =>
      let text := subscribeText [t.settings.speed.streamName t.symbol] 1
      let sh := sh.updateLink i fun l => match l.sendText text with
        | .ok l' => l'
        | .error _ => l
      ({ t with stage := .handshaking i (sh.now + t.settings.handshakeTimeout.toMillis) }, sh)

def opened (t : StreamTask) (sh : Shared) (visit : Nat) : StreamTask × Shared :=
  let t := t.setState sh.now .open
  ({ t with failures := 0, stage := .reading visit (sh.now + t.settings.idleTimeout.toMillis) },
    sh.note .info "stream" "market stream open")

/-- A text read while waiting for the answer to the subscription. -/
def answerText (t : StreamTask) (sh : Shared) (visit : Nat) (text : String) : StreamTask × Shared :=
  match parseStreamText text with
  | .ok (.reply r) =>
    if r.id == 1 then
      match r.error with
      | some e => t.attemptFailed sh (some visit) (.rejected e.code e.msg)
      | none => t.opened sh visit
    else (t, sh)
  | _ => (t, sh)

def handshake (t : StreamTask) (sh : Shared) (visit deadline : Nat) : StreamTask × Shared :=
  match sh.exchange.link? visit with
  | none => t.attemptFailed sh none (.handshakeTimeout t.settings.handshakeTimeout)
  | some l =>
    let (r, l) := l.read
    let sh := sh.updateLink visit fun _ => l
    match r with
    | .waiting =>
      if deadline ≤ sh.now then t.attemptFailed sh (some visit) (.handshakeTimeout t.settings.handshakeTimeout)
      else (t, sh)
    | .failed text => t.attemptFailed sh (some visit) (.ofClient (.webSocket text))
    | .ended => t.attemptFailed sh (some visit) (.closed "stream ended before subscription ack")
    | .frame (.text s) => t.answerText sh visit s
    | .frame (.binary bs) =>
      match Text.Utf8.decode? bs with
      | some s => t.answerText sh visit s
      | none => (t, sh)
    | .frame (.ping p) =>
      match l.sendPong p with
      | .ok l' => (t, sh.updateLink visit fun _ => l')
      | .error e => t.attemptFailed sh (some visit) (.ofClient (.webSocket e))
    | .frame (.pong _) => (t, sh)
    | .frame (.close r) => t.attemptFailed sh (some visit) (.closed (r.getD "close frame during subscribe"))

/-- The session ends: the connection is closed and dropped. A lost session counts a reconnect
and waits the initial backoff; a shutdown ends the loop. -/
def endSession (t : StreamTask) (sh : Shared) (visit : Nat) (lost : Option ConnectionError) :
    StreamTask × Shared :=
  let t := t.setState sh.now .closing
  let sh := sh.updateLink visit fun l => l.close.drop
  let t := t.setState sh.now .disconnected
  match lost with
  | none => t.finish (sh.note .info "stream" "market stream closed on shutdown") (.ok ())
  | some e =>
    let sh := (sh.record Metrics.recordReconnect).note .warn "stream" ("market stream lost, reconnecting error=" ++ e.message)
    ({ t with retries := 1, stage := .backingOff (sh.now + t.backoffMs 1) }, sh)

/-- Send the pong for a ping on the connection `l` of `visit`, waiting until `deadline` for the
exchange to take it; the idle window restarts once it is out. -/
def answerPing (t : StreamTask) (sh : Shared) (visit : Nat) (l : Link) (payload : List UInt8)
    (deadline : Nat) : StreamTask × Shared :=
  match l.pongAt sh.now payload with
  | .sent l' =>
    ({ t with stage := .reading visit (sh.now + t.settings.idleTimeout.toMillis) },
      (sh.updateLink visit fun _ => l').record Metrics.recordPingAnswered)
  | .refused e => t.endSession sh visit (some (.ofClient (.webSocket e)))
  | .blocked =>
    if deadline ≤ sh.now then t.endSession sh visit (some (.pongTimeout t.settings.pongTimeout))
    else ({ t with stage := .ponging visit payload deadline }, sh)

def readOn (t : StreamTask) (sh : Shared) (visit idleDeadline : Nat) : StreamTask × Shared :=
  match sh.exchange.link? visit with
  | none => t.endSession sh visit (some (.closed "stream ended"))
  | some l =>
    let (r, l) := l.read
    let sh := sh.updateLink visit fun _ => l
    let fresh : StreamTask := { t with stage := .reading visit (sh.now + t.settings.idleTimeout.toMillis) }
    let take (text : String) : Shared :=
      { sh with line := sh.line.takeText t.maxPayload t.state text }
    match r with
    | .waiting =>
      if idleDeadline ≤ sh.now then t.endSession sh visit (some (.idle t.settings.idleTimeout))
      else (t, sh)
    | .failed text => t.endSession sh visit (some (.ofClient (.webSocket text)))
    | .ended => t.endSession sh visit (some (.closed "stream ended"))
    | .frame (.text s) => (fresh, take s)
    | .frame (.binary bs) =>
      match Text.Utf8.decode? bs with
      | some s => (fresh, take s)
      | none => (fresh, { sh with line := sh.line.takeUndecodable bs.length })
    | .frame (.ping p) => t.answerPing sh visit l p (sh.now + t.settings.pongTimeout.toMillis)
    | .frame (.pong _) => (fresh, sh)
    | .frame (.close r) => t.endSession sh visit (some (.closed (r.getD "close frame")))

/-- One move while the pong of a ping waits to go out. -/
def pongWait (t : StreamTask) (sh : Shared) (visit : Nat) (payload : List UInt8) (deadline : Nat) :
    StreamTask × Shared :=
  match sh.exchange.link? visit with
  | none => t.endSession sh visit (some (.closed "stream ended"))
  | some l => t.answerPing sh visit l payload deadline

def step (t : StreamTask) (sh : Shared) : StreamTask × Shared :=
  match t.stage with
  | .stopped _ _ => (t, sh)
  | .starting => if sh.cancelled then t.finish sh (.ok ()) else t.connect sh
  | .handshaking visit deadline =>
    if sh.cancelled then t.finish (sh.updateLink visit Link.drop) (.ok ())
    else t.handshake sh visit deadline
  | .reading visit idleDeadline =>
    if sh.cancelled then t.endSession sh visit none else t.readOn sh visit idleDeadline
  | .ponging visit payload deadline => t.pongWait sh visit payload deadline
  | .backingOff resumeAt =>
    if sh.cancelled then t.finish sh (.ok ())
    else if resumeAt ≤ sh.now then ({ t with stage := .starting }, sh)
    else (t, sh)

def wake? (t : StreamTask) (sh : Shared) : Option Nat :=
  match t.stage with
  | .stopped _ _ => none
  | .starting => some sh.now
  | .handshaking visit deadline | .reading visit deadline =>
    if sh.cancelled || sh.readable visit then some sh.now else some (max deadline sh.now)
  | .ponging visit _ deadline =>
    match sh.exchange.link? visit with
    | some l => some (max (min l.writableAt deadline) sh.now)
    | none => some sh.now
  | .backingOff resumeAt => if sh.cancelled then some sh.now else some (max resumeAt sh.now)

def done (t : StreamTask) : Bool :=
  match t.stage with
  | .stopped _ _ => true
  | _ => false

end StreamTask

theorem setState_same (t : StreamTask) (now : Nat) : t.setState now t.state = t := by
  simp [StreamTask.setState]

end BookRelay.Scenario
