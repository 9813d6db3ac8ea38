import BookRelay.Json.Value
import BookRelay.Feed.Event

/-!
# Feed counters

Twenty-one counters that the stream client, the snapshot scheduler and the forwarder bump.
Each counter is a 64-bit word: it wraps past `2^64 - 1`. Three of the bumps report the count
they reached, so that a caller can log the first of a run and every thousandth.
-/

namespace BookRelay.Feed

open BookRelay.Json

structure Metrics where
  framesReceived : Nat := 0
  bytesReceived : Nat := 0
  incrementalsReceived : Nat := 0
  incrementalsEnqueued : Nat := 0
  queueSaturationDrops : Nat := 0
  notOpenDrops : Nat := 0
  parseErrors : Nat := 0
  oversizeDrops : Nat := 0
  ignoredFrames : Nat := 0
  pingsAnswered : Nat := 0
  reconnects : Nat := 0
  handshakeFailures : Nat := 0
  snapshotsFetched : Nat := 0
  snapshotsFailed : Nat := 0
  snapshotsSkipped : Nat := 0
  snapshotEnqueueTimeouts : Nat := 0
  snapshotsEnqueued : Nat := 0
  snapshotsForwarded : Nat := 0
  incrementalsForwarded : Nat := 0
  sinkRetries : Nat := 0
  sinkFailures : Nat := 0
  deriving Repr, BEq, DecidableEq, Inhabited

namespace Metrics

/-- One more on a 64-bit counter. -/
def bump (n : Nat) : Nat := (n + 1) % Nat.pow 2 64

/-- Events delivered to the sink, of both kinds. -/
def eventsForwarded (m : Metrics) : Nat := m.snapshotsForwarded + m.incrementalsForwarded

/-- A frame of `bytes` bytes arrived. -/
def recordFrame (m : Metrics) (bytes : Nat) : Metrics :=
  { m with framesReceived := bump m.framesReceived,
           bytesReceived := (m.bytesReceived + bytes) % Nat.pow 2 64 }

def recordIncremental (m : Metrics) : Metrics :=
  { m with incrementalsReceived := bump m.incrementalsReceived }

def recordIncrementalEnqueued (m : Metrics) : Metrics :=
  { m with incrementalsEnqueued := bump m.incrementalsEnqueued }

def recordQueueSaturation (m : Metrics) : Metrics :=
  { m with queueSaturationDrops := bump m.queueSaturationDrops }

def recordNotOpenDrop (m : Metrics) : Metrics := { m with notOpenDrops := bump m.notOpenDrops }

def recordParseError (m : Metrics) : Metrics := { m with parseErrors := bump m.parseErrors }

def recordOversizeDrop (m : Metrics) : Metrics := { m with oversizeDrops := bump m.oversizeDrops }

def recordIgnoredFrame (m : Metrics) : Metrics := { m with ignoredFrames := bump m.ignoredFrames }

def recordPingAnswered (m : Metrics) : Metrics := { m with pingsAnswered := bump m.pingsAnswered }

def recordReconnect (m : Metrics) : Metrics := { m with reconnects := bump m.reconnects }

def recordHandshakeFailure (m : Metrics) : Metrics :=
  { m with handshakeFailures := bump m.handshakeFailures }

def recordSnapshotFetched (m : Metrics) : Metrics :=
  { m with snapshotsFetched := bump m.snapshotsFetched }

def recordSnapshotFailed (m : Metrics) : Metrics :=
  { m with snapshotsFailed := bump m.snapshotsFailed }

def recordSnapshotSkipped (m : Metrics) : Metrics :=
  { m with snapshotsSkipped := bump m.snapshotsSkipped }

def recordSnapshotEnqueueTimeout (m : Metrics) : Metrics :=
  { m with snapshotEnqueueTimeouts := bump m.snapshotEnqueueTimeouts }

def recordSnapshotEnqueued (m : Metrics) : Metrics :=
  { m with snapshotsEnqueued := bump m.snapshotsEnqueued }

/-- An event of kind `k` reached the sink. -/
def recordForwarded (m : Metrics) : Kind → Metrics
  | .snapshot => { m with snapshotsForwarded := bump m.snapshotsForwarded }
  | .incremental => { m with incrementalsForwarded := bump m.incrementalsForwarded }

def recordSinkRetry (m : Metrics) : Metrics := { m with sinkRetries := bump m.sinkRetries }

def recordSinkFailure (m : Metrics) : Metrics := { m with sinkFailures := bump m.sinkFailures }

def describe (m : Metrics) : Value :=
  .object [
    ("bytes_received", .ofNat m.bytesReceived),
    ("events_forwarded", .ofNat m.eventsForwarded),
    ("frames_received", .ofNat m.framesReceived),
    ("handshake_failures", .ofNat m.handshakeFailures),
    ("ignored_frames", .ofNat m.ignoredFrames),
    ("incrementals_enqueued", .ofNat m.incrementalsEnqueued),
    ("incrementals_forwarded", .ofNat m.incrementalsForwarded),
    ("incrementals_received", .ofNat m.incrementalsReceived),
    ("not_open_drops", .ofNat m.notOpenDrops),
    ("oversize_drops", .ofNat m.oversizeDrops),
    ("parse_errors", .ofNat m.parseErrors),
    ("pings_answered", .ofNat m.pingsAnswered),
    ("queue_saturation_drops", .ofNat m.queueSaturationDrops),
    ("reconnects", .ofNat m.reconnects),
    ("sink_failures", .ofNat m.sinkFailures),
    ("sink_retries", .ofNat m.sinkRetries),
    ("snapshot_enqueue_timeouts", .ofNat m.snapshotEnqueueTimeouts),
    ("snapshots_enqueued", .ofNat m.snapshotsEnqueued),
    ("snapshots_failed", .ofNat m.snapshotsFailed),
    ("snapshots_fetched", .ofNat m.snapshotsFetched),
    ("snapshots_forwarded", .ofNat m.snapshotsForwarded),
    ("snapshots_skipped", .ofNat m.snapshotsSkipped)]

theorem recordFrame_frames (m : Metrics) (b : Nat) :
    (m.recordFrame b).framesReceived = bump m.framesReceived := rfl

end Metrics

end BookRelay.Feed
