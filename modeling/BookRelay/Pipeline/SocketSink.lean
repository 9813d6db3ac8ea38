import BookRelay.Pipeline.Sink

/-!
# The local socket sink

The sink that writes each frame to a local stream socket, prefixed by its length in four
big-endian bytes, connecting on the first send and again after a reset or a failed write. A
frame longer than 64 MiB is refused before anything is written. Connecting fails while nothing
listens at the path; writing fails once the listening side dropped the connection.

The listening side is modelled with it: it listens or not, takes pending connections in the
order they came, and drops the pending ones when it stops listening. At the end every taken
connection, then every one still pending, is read to its end.
-/

namespace BookRelay.Pipeline

open BookRelay.Host

def maxFrameLength : Nat := 64 * 1024 * 1024

/-- One connection to the socket, as the listening side sees it. -/
structure PeerConnection where
  /-- The frames written to it, oldest first. -/
  frames : List String := []
  dropped : Bool := false
  taken : Bool := false
  deriving Repr

structure SocketPeer where
  listening : Bool := false
  /-- Every connection made, oldest first. -/
  connections : List PeerConnection := []
  /-- The numbers of the taken connections, in the order they were taken. -/
  takenOrder : List Nat := []
  deriving Repr

/-- What was read from one connection: the bytes, the frames, and the bytes after the last
whole frame. -/
structure Received where
  bytes : Nat
  frames : List String
  trailing : Nat := 0
  deriving Repr

/-- The bytes a frame takes on the socket: its length prefix and its text. -/
def frameBytes (frame : String) : Nat := 4 + frame.utf8ByteSize

namespace SocketPeer

def listen (p : SocketPeer) : SocketPeer := { p with listening := true }

def unlisten (p : SocketPeer) : SocketPeer :=
  { p with listening := false,
           connections := p.connections.map fun c => if c.taken then c else { c with dropped := true } }

/-- Whether a connection is pending: made, neither taken nor dropped. -/
def pending (c : PeerConnection) : Bool := !c.taken && !c.dropped

/-- Take the oldest pending connection: its place in the order of taking. -/
def accept (p : SocketPeer) : Option Nat × SocketPeer :=
  match p.connections.findIdx? pending with
  | none => (none, p)
  | some i =>
    (some p.takenOrder.length,
      { p with connections := p.connections.modify i fun c => { c with taken := true },
               takenOrder := p.takenOrder ++ [i] })

def readAll (c : PeerConnection) : Received :=
  ⟨(c.frames.map frameBytes).foldl (· + ·) 0, c.frames, 0⟩

/-- What is read at the end: the taken connections in the order taken, then the pending ones. -/
def received (p : SocketPeer) : List Received :=
  let taken := p.takenOrder.filterMap fun i => p.connections[i]?
  let waiting := p.connections.filter pending
  (taken ++ waiting).map readAll

end SocketPeer

/-- The socket sink: its path, and the connection it writes to. -/
structure SocketSink where
  path : String
  current : Option Nat := none
  deriving Repr

namespace SocketSink

def connected (s : SocketSink) : Bool := s.current.isSome

def connection (s : SocketSink) (p : SocketPeer) : Except SinkError (Nat × SocketPeer) :=
  match s.current with
  | some i => .ok (i, p)
  | none =>
    if p.listening then .ok (p.connections.length, { p with connections := p.connections ++ [{}] })
    else .error (.connect .notFound)

/-- Send one frame. A failed write leaves the sink without a connection. -/
def send (s : SocketSink) (p : SocketPeer) (frame : String) : Except SinkError Unit × SocketSink × SocketPeer :=
  match s.connection p with
  | .error e => (.error e, s, p)
  | .ok (i, p) =>
    let s := { s with current := some i }
    if frame.utf8ByteSize > maxFrameLength then
      (.error (.io (.custom "frame size too big")), { s with current := none }, p)
    else if (p.connections[i]?.map (·.dropped)).getD true then
      (.error (.io .brokenPipe), { s with current := none }, p)
    else
      (.ok (), s, { p with connections := p.connections.modify i fun c => { c with frames := c.frames ++ [frame] } })

def reset (s : SocketSink) : SocketSink := { s with current := none }

/-- The file name of the sink's path. -/
def fileName (s : SocketSink) : String := ((s.path.splitOn "/").getLast?).getD s.path

end SocketSink

theorem send_unlistened (path frame : String) :
    ((SocketSink.mk path none).send {} frame).1 = .error (.connect .notFound) := rfl

end BookRelay.Pipeline
