import BookRelay.Exchange.Message
import BookRelay.Feed.Queue
import BookRelay.Feed.Metrics
import BookRelay.Pipeline.Connection

/-!
# Taking in stream frames

What the stream client does with one text frame. The frame is counted with its size in
bytes; a frame larger than the limit is dropped; a frame that is not JSON, or is JSON that
does not read as a stream message, is a parse error; a reply or any other message is
ignored. A depth update becomes an incremental event, which enters the queue only while the
connection is open and the queue has room. A full queue drops it and counts the drop, unless
the consumer is gone, when nothing is counted.

The queue and the counters are shared with the rest of the pipeline, so they are passed in
and returned as a `Line`.
-/

namespace BookRelay.Pipeline

open BookRelay.Feed BookRelay.Exchange

/-- The shared part of the pipeline: the event queue and the counters. -/
structure Line where
  queue : Queue
  metrics : Metrics := {}
  deriving Repr

def Line.offer (l : Line) (state : ConnectionState) (e : Event) : Line :=
  if state != .open then { l with metrics := l.metrics.recordNotOpenDrop }
  else match l.queue.tryEnqueue e with
    | some q => { queue := q, metrics := l.metrics.recordIncrementalEnqueued }
    | none =>
      if l.queue.closedForProducers then l
      else { l with metrics := l.metrics.recordQueueSaturation }

def Line.takeText (l : Line) (maxPayload : Nat) (state : ConnectionState) (text : String) : Line :=
  let size := text.utf8ByteSize
  let l := { l with metrics := l.metrics.recordFrame size }
  if size > maxPayload then { l with metrics := l.metrics.recordOversizeDrop }
  else match parseStreamText text with
    | .ok (.depth f) =>
      ({ l with metrics := l.metrics.recordIncremental }).offer state
        ⟨.incremental f.firstUpdateId f.finalUpdateId, f.body⟩
    | .ok _ => { l with metrics := l.metrics.recordIgnoredFrame }
    | .error _ => { l with metrics := l.metrics.recordParseError }

/-- Take in a binary frame that is not UTF-8: counted, then a parse error. -/
def Line.takeUndecodable (l : Line) (size : Nat) : Line :=
  { l with metrics := (l.metrics.recordFrame size).recordParseError }

/-- A change of state, with the states it announces: none when it is already there. -/
def changeState (current next : ConnectionState) : List ConnectionState :=
  if current == next then [] else [next]

theorem offer_not_open (l : Line) (e : Event) :
    (l.offer .connecting e).queue = l.queue := by
  rfl

end BookRelay.Pipeline
