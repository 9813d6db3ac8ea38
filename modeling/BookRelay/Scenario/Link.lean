import BookRelay.Json.Printer
import BookRelay.Json.Reader
import BookRelay.Text.Utf8

/-!
# Stream connections against a scripted exchange

One stream connection between the client and a scripted exchange, with both of its ends. The
exchange runs a script of actions for the connection: it first waits for the client's first
text (its subscription request), then sends frames, sleeps, waits for the pong of a ping it
sent, stops taking the client's writes for a while, closes, drops the connection or holds it.
After the script it reads until the client goes away; the sleeps and shutdowns that follow a
close, drop or hold run after that.

The client reads the frames in the order they were sent. A ping it reads is answered by a pong
on its next read or write, unless it sends a pong of its own first; a pong it sends while the
exchange takes no writes waits. A close frame it reads is
answered by its own close frame in the same way. Once the exchange's side of the connection is
gone, the client reads what was sent before and then the end: after a close handshake the end
is plain, otherwise it is a reset.

Time is in milliseconds of a virtual clock; every action but a sleep or a wait takes none.
-/

namespace BookRelay.Scenario

open BookRelay.Json

inductive Frame where
  | text (text : String)
  | binary (bytes : List UInt8)
  | ping (payload : List UInt8)
  | pong (payload : List UInt8)
  | close (reason : Option String)
  deriving Repr, BEq

/-- One action of the exchange's script for a connection. -/
inductive Action where
  | ack
  | ackWith (id : Value)
  /-- Refuse the subscription request with an error object. -/
  | reject (error : Value)
  | send (frame : Frame) (times : Nat)
  /-- Send a ping named after the action's place and wait for its pong. -/
  | sync
  | close (reason : Option String)
  | drop
  | hold
  /-- Wait a number of milliseconds. -/
  | sleep (ms : Nat)
  /-- Take none of the client's writes for a number of milliseconds: a pong it sends meanwhile
  waits. -/
  | stall (ms : Nat)
  | shutdown
  /-- Answer the upgrade request with an HTTP status instead of upgrading. -/
  | refuseUpgrade (status : Nat)
  deriving Repr

/-- Where the exchange is in its script. -/
inductive Stage where
  | awaitingRequest
  | acting
  | sleeping (wakeAt : Nat)
  | syncing (payload : List UInt8) (seen : Nat)
  | draining
  | finished
  deriving Repr, BEq

/-- Where the client's side is in the close handshake. -/
inductive ClientSide where
  | active
  | closing
  /-- The client read the exchange's close frame; its answer is not sent yet. -/
  | peerClosed
  /-- Both close frames were sent. -/
  | closed
  | terminated
  deriving Repr, BEq

/-- One connection, with the exchange's end and the client's end. -/
structure Link where
  script : List (Nat × Action)
  stage : Stage := .awaitingRequest
  /-- Whether the exchange still sends; after a close, drop or hold only sleeps and shutdowns
  run. -/
  sending : Bool := true
  /-- The id of the client's subscription request. -/
  requestId : Value := .null
  /-- Frames sent by the exchange and not yet read. -/
  outbox : List Frame := []
  exchangeClosed : Bool := false
  /-- The exchange's side of the transport is up. -/
  transportOpen : Bool := true
  clientTexts : List String := []
  pongs : List (List UInt8) := []
  clientClosed : Bool := false
  clientGone : Bool := false
  side : ClientSide := .active
  /-- The pong the client owes for the last ping it read. -/
  pendingPong : Option (List UInt8) := none
  /-- The client's reading has ended. -/
  ended : Bool := false
  /-- The exchange takes the client's writes again from this time on. -/
  writableAt : Nat := 0
  deriving Repr

def Link.start (script : List Action) : Link := { script := script.zipIdx.map fun (a, i) => (i, a) }

/-- The bytes of a text. -/
def bytesOf (s : String) : List UInt8 := Text.Utf8.encode s

def ackText (id : Value) : String := "\x7b\"result\":null,\"id\":" ++ id.render ++ "\x7d"

example : ackText (.number (.nat 1)) = "\x7b\"result\":null,\"id\":1\x7d" := by decide

def rejectText (error id : Value) : String :=
  "\x7b\"error\":" ++ error.render ++ ",\"id\":" ++ id.render ++ "\x7d"

/-- The id of a subscription request, `null` when it has none. -/
def requestIdOf (text : String) : Value :=
  match Json.parse text with
  | .ok v => (v.get? "id").getD .null
  | .error _ => .null

namespace Link

/-- Whether the exchange has received a pong with a payload since the `seen`-th pong. -/
def pongSince (l : Link) (payload : List UInt8) (seen : Nat) : Bool := (l.pongs.drop seen).contains payload

/-- The client's side of the connection is over for the exchange: its close frame or its drop. -/
def clientLeft (l : Link) : Bool := l.clientClosed || l.clientGone

/-- The exchange reads the client's leaving: a close frame is answered unless the exchange
closed first, and the transport goes down. -/
def seeLeaving (l : Link) : Link :=
  let answer := if l.clientClosed && !l.exchangeClosed && !l.clientGone then [Frame.close none] else []
  { l with outbox := l.outbox ++ answer, transportOpen := false, sending := false, stage := .acting }

/-- Run one action of the script. The flag asks for a shutdown. -/
def act (now : Nat) (l : Link) (place : Nat) (a : Action) : Link × Bool :=
  if !l.sending then
    match a with
    | .sleep ms => ({ l with stage := .sleeping (now + ms) }, false)
    | .shutdown => (l, true)
    | _ => (l, false)
  else
    let sendAll (fs : List Frame) : Link := { l with outbox := l.outbox ++ fs }
    match a with
    | .ack => (sendAll [.text (ackText l.requestId)], false)
    | .ackWith id => (sendAll [.text (ackText id)], false)
    | .reject e => (sendAll [.text (rejectText e l.requestId)], false)
    | .send f n => (sendAll (List.replicate n f), false)
    | .sync =>
      let payload := bytesOf ("sync-" ++ toString place)
      ({ sendAll [.ping payload] with stage := .syncing payload l.pongs.length }, false)
    | .close r =>
      ({ sendAll [.close r] with exchangeClosed := true, stage := .draining }, false)
    | .drop => ({ l with transportOpen := false, sending := false }, false)
    | .hold => ({ l with stage := .draining }, false)
    | .sleep ms => ({ l with stage := .sleeping (now + ms) }, false)
    | .stall ms => ({ l with writableAt := now + ms }, false)
    | .shutdown => (l, true)
    | .refuseUpgrade _ => (l, false)

/-- One move of the exchange at time `now`: `none` when it waits. The flag asks for a
shutdown. -/
def tick (now : Nat) (l : Link) : Option (Link × Bool) :=
  match l.stage with
  | .finished => none
  | .awaitingRequest =>
    match l.clientTexts with
    | t :: _ => some ({ l with requestId := requestIdOf t, stage := .acting }, false)
    | [] => if l.clientLeft then some (l.seeLeaving, false) else none
  | .sleeping t => if t ≤ now then some ({ l with stage := .acting }, false) else none
  | .syncing p k =>
    if l.pongSince p k then some ({ l with stage := .acting }, false)
    else if l.clientLeft then some (l.seeLeaving, false)
    else none
  | .draining => if l.clientLeft then some (l.seeLeaving, false) else none
  | .acting =>
    match l.script with
    | [] =>
      if l.sending && l.transportOpen then some ({ l with stage := .draining }, false)
      else some ({ l with stage := .finished }, false)
    | (place, a) :: rest => some (act now { l with script := rest } place a)

/-- Whether the exchange would move at time `now`. -/
def ready (now : Nat) (l : Link) : Bool := (l.tick now).isSome

/-- When the exchange moves next, from time `now` on. -/
def wake? (now : Nat) (l : Link) : Option Nat :=
  match l.stage with
  | .sleeping t => some (max t now)
  | _ => if l.ready now then some now else none

/-- The exchange moves until it waits; at most `fuel` moves. The flag asks for a shutdown. -/
def advance (now : Nat) : Nat → Link → Link × Bool
  | 0, l => (l, false)
  | fuel + 1, l =>
    match l.tick now with
    | none => (l, false)
    | some (l', stop) =>
      let (l'', stop') := advance now fuel l'
      (l'', stop || stop')

def fuel (l : Link) : Nat := 3 * l.script.length + 4

/-! ## The client's end -/

/-- Send the pong and the close answer the client owes, before its next read or write. -/
def flush (l : Link) : Link :=
  let l := match l.pendingPong with
    | some p => { l with pendingPong := none, pongs := if l.transportOpen then l.pongs ++ [p] else l.pongs }
    | none => l
  if l.side == .peerClosed then { l with side := .closed, clientClosed := true } else l

/-- What a read of the client gives. -/
inductive Reading where
  | frame (f : Frame)
  /-- The transport failed, with the text of the failure. -/
  | failed (text : String)
  | ended
  | waiting
  deriving Repr

/-- The text of a transport that ended without a close handshake. -/
def resetText : String := "WebSocket protocol error: Connection reset without closing handshake"

def readable (l : Link) : Bool := l.ended || !l.outbox.isEmpty || !l.transportOpen

/-- The client reads: owed frames go out first, then the oldest frame sent to it comes in. -/
def read (l : Link) : Reading × Link :=
  if l.ended then (.ended, l)
  else
    let l := l.flush
    match l.outbox with
    | f :: rest =>
      let l := { l with outbox := rest }
      match f with
      | .ping p => (.frame f, if l.side == .active then { l with pendingPong := some p } else l)
      | .close _ =>
        let side := match l.side with
          | .active => .peerClosed
          | .closing => .closed
          | s => s
        (.frame f, { l with side := side })
      | _ => (.frame f, l)
    | [] =>
      if l.transportOpen then (.waiting, l)
      else match l.side with
        | .active | .closing => (.failed resetText, { l with ended := true })
        | _ => (.ended, { l with ended := true, side := .terminated })

/-- Why the client could not write. -/
def writeRefusal (l : Link) : Option String :=
  match l.side with
  | .terminated => some "Trying to work with closed connection"
  | .active => none
  | _ => some "WebSocket protocol error: Sending after closing is not allowed"

def sendText (l : Link) (text : String) : Except String Link :=
  match l.writeRefusal with
  | some e => .error e
  | none =>
    let l := l.flush
    .ok { l with clientTexts := if l.transportOpen then l.clientTexts ++ [text] else l.clientTexts }

/-- The client sends a pong; it stands for the pong owed, if any. -/
def sendPong (l : Link) (payload : List UInt8) : Except String Link :=
  match l.writeRefusal with
  | some e => .error e
  | none =>
    let l := ({ l with pendingPong := none } : Link).flush
    .ok { l with pongs := if l.transportOpen then l.pongs ++ [payload] else l.pongs }

/-- How a pong send of the client goes. -/
inductive PongSend where
  | sent (l : Link)
  | refused (text : String)
  /-- The exchange takes no writes yet: the send waits. -/
  | blocked

/-- The client sends a pong at time `now`: a connection that refuses writes refuses it at once,
and a stalled exchange keeps it waiting. -/
def pongAt (now : Nat) (l : Link) (payload : List UInt8) : PongSend :=
  match l.sendPong payload with
  | .error e => .refused e
  | .ok l' => if l.writableAt ≤ now then .sent l' else .blocked

/-- The client closes: its close frame goes out, or its answer to the exchange's. -/
def close (l : Link) : Link :=
  match l.side with
  | .active => { l.flush with side := .closing, clientClosed := true }
  | .peerClosed => l.flush
  | _ => l

def drop (l : Link) : Link := { l with clientGone := true }

end Link

end BookRelay.Scenario
