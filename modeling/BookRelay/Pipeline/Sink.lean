import BookRelay.Host.OsError
import BookRelay.Time.Duration

/-!
# Sinks

A sink takes whole frames, one per send. A send fails when the sink cannot connect, a write
fails, the write takes longer than allowed, or the sink is closed; after repeated failures the
forwarder gives up on the frame (`exhausted`), naming the last failure.

An in-process channel sink hands frames to a receiver in order and reports `closed` once the
receiver is gone.
-/

namespace BookRelay.Pipeline

open BookRelay.Time BookRelay.Host

/-- Why a send to the sink failed. -/
inductive SinkError where
  | connect (error : OsError)
  | io (error : OsError)
  | timeout (after : Duration)
  | closed
  | exhausted (attempts : Nat) (last : SinkError)
  deriving Repr, BEq

namespace SinkError

/-- The text of a failure. -/
def message : SinkError → String
  | .connect e => "sink connect failed: " ++ e.message
  | .io e => "sink write failed: " ++ e.message
  | .timeout d => "sink write timed out after " ++ d.text
  | .closed => "sink closed"
  | .exhausted n last => "gave up after " ++ toString n ++ " attempt(s): " ++ last.message

def label : SinkError → String
  | .connect _ => "Connect"
  | .io _ => "Io"
  | .timeout _ => "Timeout"
  | .closed => "Closed"
  | .exhausted _ _ => "Exhausted"

/-- The causes under this one, outermost first. -/
def chain : SinkError → List String
  | .connect e => [e.message]
  | .io e => [e.message]
  | .exhausted _ last => last.message :: last.chain
  | _ => []

end SinkError

/-- An in-process sink: frames sent and not yet received, and whether the receiver is there. -/
structure ChannelSink where
  pending : List String := []
  receiverAlive : Bool := true
  deriving Repr

namespace ChannelSink

/-- Send a frame: queued for the receiver, or `closed` without one. -/
def send (s : ChannelSink) (frame : String) : Except SinkError ChannelSink :=
  if s.receiverAlive then .ok { s with pending := s.pending ++ [frame] } else .error .closed

/-- Take the oldest frame, if any. -/
def receive (s : ChannelSink) : Option String × ChannelSink :=
  match s.pending with
  | [] => (none, s)
  | f :: rest => (some f, { s with pending := rest })

/-- The receiver goes away; frames still queued are dropped with it. -/
def dropReceiver (s : ChannelSink) : ChannelSink := { s with pending := [], receiverAlive := false }

end ChannelSink

end BookRelay.Pipeline
