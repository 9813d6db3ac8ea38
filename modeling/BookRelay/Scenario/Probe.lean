import BookRelay.Scenario.Shared
import BookRelay.Scenario.StreamTask

/-!
# Driving one stream connection step by step

A probe drives one stream connection through a list of steps against the scripted exchange:
connect, subscribe and wait for the answer, read one frame, send a pong, close, show the URL
or the connection itself, drop it. Each step gets an answer, in order. Subscription request
ids count up from 1 on each connection. A step that needs a connection, when there is none,
is answered so; a failed connect keeps the connection there was. A subscription whose deadline
the platform's clock cannot represent panics, which ends the probe.
-/

namespace BookRelay.Scenario

open BookRelay.Exchange BookRelay.Pipeline

inductive ProbeStep where
  | connect
  | subscribe (streams : List String) (ackTimeout : Time.Duration)
  | recv (timeout : Nat)
  | pong (payload : List UInt8)
  | close
  | url
  | debug
  | drop
  deriving Repr

/-- A frame as the client reads it: binary frames that are UTF-8 read as text. -/
inductive Inbound where
  | text (text : String)
  | ping (payload : List UInt8)
  | pong
  | close (reason : Option String)
  | undecodable (bytes : Nat)
  deriving Repr, BEq

def Frame.inbound : Frame → Inbound
  | .text s => .text s
  | .binary bs =>
    match Text.Utf8.decode? bs with
    | some s => .text s
    | none => .undecodable bs.length
  | .ping p => .ping p
  | .pong _ => .pong
  | .close r => .close r

inductive ProbeAnswer where
  | ok
  | failed (error : ClientError)
  | subscribed (id : Nat)
  | received (frame : Inbound)
  | ended
  | timedOut
  | url (text : String)
  | debug (text : String)
  | noConnection
  deriving Repr

structure ProbeConnection where
  visit : Nat
  url : Url.Url
  nextId : Nat := 1

inductive ProbeStage where
  | ready
  | subscribing (id : Nat) (ackTimeout : Time.Duration) (deadline : Nat)
  | receiving (deadline : Nat)
  deriving Repr

/-- A probe: the base URL, the steps left, the connection, and the answers so far. -/
structure Probe where
  base : String
  steps : List ProbeStep
  conn : Option ProbeConnection := none
  stage : ProbeStage := .ready
  answers : List ProbeAnswer := []
  /-- The message of the panic that ended the probe, if one did. -/
  panicked : Option String := none

def ProbeConnection.describe (c : ProbeConnection) : String :=
  "DepthStreamConnection \x7b url: \"" ++ c.url.text ++ "\", next_request_id: " ++
    toString c.nextId ++ " \x7d"

namespace Probe

def answer (p : Probe) (a : ProbeAnswer) : Probe :=
  { p with answers := p.answers ++ [a], stage := .ready }

/-- Connect: the old connection goes only when the new one is made. -/
def connect (p : Probe) (sh : Shared) : Probe × Shared :=
  match streamUrl p.base with
  | .error e => (p.answer (.failed e), sh)
  | .ok u =>
    let (dial, x) := sh.exchange.dial
    let sh := { sh with exchange := x }
    match dial with
    | .unreachable => (p.answer (.failed (.webSocket refusedText)), sh)
    | .refused s => (p.answer (.failed (.webSocket ("HTTP error: " ++ Http.statusText s))), sh)
    | .linked i =>
      let sh := match p.conn with
        | some c => sh.updateLink c.visit Link.drop
        | none => sh
      ({ p with conn := some { visit := i, url := u } }.answer .ok, sh)

def begin (p : Probe) (sh : Shared) (s : ProbeStep) : Probe × Shared :=
  match s, p.conn with
  | .connect, _ => p.connect sh
  | .drop, some c => ({ p with conn := none }.answer .ok, sh.updateLink c.visit Link.drop)
  | .drop, none => (p.answer .ok, sh)
  | _, none => (p.answer .noConnection, sh)
  | .subscribe streams timeout, some c =>
    let p := { p with conn := some { c with nextId := c.nextId + 1 } }
    match sh.exchange.link? c.visit with
    | none => (p.answer (.failed (.webSocket "Trying to work with closed connection")), sh)
    | some l =>
      match l.sendText (subscribeText streams c.nextId) with
      | .error e => (p.answer (.failed (.webSocket e)), sh)
      | .ok l' =>
        let sh := sh.updateLink c.visit fun _ => l'
        -- the deadline is an instant of the platform's clock, and adding to one may panic
        match sh.clock.add? sh.now timeout with
        | some deadline => ({ p with stage := .subscribing c.nextId timeout deadline }, sh)
        | none => ({ p with steps := [], panicked := some Time.Clock.overflowText }, sh)
  | .recv timeout, some _ => ({ p with stage := .receiving (sh.now + timeout) }, sh)
  | .pong payload, some c =>
    match sh.exchange.link? c.visit with
    | none => (p.answer (.failed (.webSocket "Trying to work with closed connection")), sh)
    | some l =>
      match l.sendPong payload with
      | .error e => (p.answer (.failed (.webSocket e)), sh)
      | .ok l' => (p.answer .ok, sh.updateLink c.visit fun _ => l')
  | .close, some c => (p.answer .ok, sh.updateLink c.visit Link.close)
  | .url, some c => (p.answer (.url c.url.text), sh)
  | .debug, some c => (p.answer (.debug c.describe), sh)

/-- A frame read while waiting for the answer to subscription `id`. -/
def subscribeRead (p : Probe) (sh : Shared) (visit id : Nat) (l : Link) (f : Inbound) : Probe × Shared :=
  match f with
  | .text s =>
    match parseStreamText s with
    | .ok (.reply r) =>
      if r.id == id then
        match r.error with
        | some e => (p.answer (.failed (.subscriptionRejected e.code e.msg)), sh)
        | none => (p.answer (.subscribed id), sh)
      else (p, sh)
    | _ => (p, sh)
  | .ping payload =>
    match l.sendPong payload with
    | .error e => (p.answer (.failed (.webSocket e)), sh)
    | .ok l' => (p, sh.updateLink visit fun _ => l')
  | .close r => (p.answer (.failed (.closed (r.getD "close frame during subscribe"))), sh)
  | _ => (p, sh)

def step (p : Probe) (sh : Shared) : Probe × Shared :=
  match p.stage, p.conn with
  | .ready, _ =>
    match p.steps with
    | [] => (p, sh)
    | s :: rest => { p with steps := rest }.begin sh s
  | .subscribing id timeout deadline, some c =>
    match sh.exchange.link? c.visit with
    | none => (p.answer (.failed (.timeoutOfNanos timeout.toNanos)), sh)
    | some l =>
      let (r, l) := l.read
      let sh := sh.updateLink c.visit fun _ => l
      match r with
      | .waiting =>
        if deadline ≤ sh.now then (p.answer (.failed (.timeoutOfNanos timeout.toNanos)), sh) else (p, sh)
      | .failed text => (p.answer (.failed (.webSocket text)), sh)
      | .ended => (p.answer (.failed (.closed "stream ended before subscription ack")), sh)
      | .frame f => p.subscribeRead sh c.visit id l f.inbound
  | .receiving deadline, some c =>
    match sh.exchange.link? c.visit with
    | none => (p.answer .timedOut, sh)
    | some l =>
      let (r, l) := l.read
      let sh := sh.updateLink c.visit fun _ => l
      match r with
      | .waiting => if deadline ≤ sh.now then (p.answer .timedOut, sh) else (p, sh)
      | .failed text => (p.answer (.failed (.webSocket text)), sh)
      | .ended => (p.answer .ended, sh)
      | .frame f => (p.answer (.received f.inbound), sh)
  | _, none => (p.answer .noConnection, sh)

def wake? (p : Probe) (sh : Shared) : Option Nat :=
  match p.stage, p.conn with
  | .ready, _ => if p.steps.isEmpty then none else some sh.now
  | .subscribing _ _ deadline, some c | .receiving deadline, some c =>
    if sh.readable c.visit then some sh.now else some (max deadline sh.now)
  | _, none => some sh.now

/-- Whether every step is answered. -/
def done (p : Probe) : Bool :=
  p.steps.isEmpty && match p.stage with
    | .ready => true
    | _ => false

end Probe

end BookRelay.Scenario
