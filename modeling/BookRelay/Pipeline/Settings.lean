import BookRelay.Exchange.Speed
import BookRelay.Time.Duration
import BookRelay.Json.Value

/-!
# Component settings

The settings each component runs with, and their defaults: the stream client reconnects after
one second at first and thirty at most, the forwarder polls every 250 ms and tries a frame three
times, the queue holds 1024 events, and the pipeline waits five seconds for its tasks to stop.
-/

namespace BookRelay.Pipeline

open BookRelay.Time BookRelay.Exchange BookRelay.Json

/-- The default stream endpoint. -/
def defaultStreamUrl : String := "wss://testnet.binance.vision"

/-- The default REST endpoint. -/
def defaultRestUrl : String := "https://testnet.binance.vision"

/-- The default connector name written into every frame. -/
def defaultConnectorName : String := "Binance"

structure StreamSettings where
  wsUrl : String := defaultStreamUrl
  speed : Speed := .ms1000
  handshakeTimeout : Duration := .ofSecs 5
  pongTimeout : Duration := .ofSecs 5
  idleTimeout : Duration := .ofSecs 60
  initialBackoff : Duration := .ofSecs 1
  maxBackoff : Duration := .ofSecs 30
  maxConnectAttempts : Option Nat := none
  deriving Repr

structure SnapshotSettings where
  initialDelay : Duration := .ofSecs 2
  enqueueTimeout : Duration := .ofSecs 2
  deriving Repr

structure ForwarderSettings where
  connectorName : String := defaultConnectorName
  pollInterval : Duration := .ofMillis 250
  sendTimeout : Duration := .ofSecs 1
  maxSendAttempts : Nat := 3
  retryDelay : Duration := .ofMillis 100
  deriving Repr

structure SupervisorSettings where
  queueCapacity : Nat := 1024
  maxForwarderRestarts : Nat := 1
  shutdownGrace : Duration := .ofSecs 5
  deriving Repr

example : ({} : SupervisorSettings).queueCapacity = 1024 := rfl

structure HttpSettings where
  timeout : Duration := .ofSecs 10
  connectTimeout : Duration := .ofSecs 5
  deriving Repr

def durationValue (d : Duration) : Value := .string d.text

def StreamSettings.describe (s : StreamSettings) (speedText : String) : Value :=
  .object [("depth_speed", .string speedText), ("handshake_timeout", durationValue s.handshakeTimeout),
    ("idle_timeout", durationValue s.idleTimeout), ("initial_backoff", durationValue s.initialBackoff),
    ("max_backoff", durationValue s.maxBackoff),
    ("max_connect_attempts", Value.ofOption Value.ofNat s.maxConnectAttempts),
    ("pong_timeout", durationValue s.pongTimeout), ("ws_url", .string s.wsUrl)]

def SnapshotSettings.describe (s : SnapshotSettings) : Value :=
  .object [("enqueue_timeout", durationValue s.enqueueTimeout),
    ("initial_delay", durationValue s.initialDelay)]

def ForwarderSettings.describe (s : ForwarderSettings) : Value :=
  .object [("connector_name", .string s.connectorName), ("max_send_attempts", .ofNat s.maxSendAttempts),
    ("poll_interval", durationValue s.pollInterval), ("retry_delay", durationValue s.retryDelay),
    ("send_timeout", durationValue s.sendTimeout)]

def SupervisorSettings.describe (s : SupervisorSettings) : Value :=
  .object [("max_forwarder_restarts", .ofNat s.maxForwarderRestarts),
    ("queue_capacity", .ofNat s.queueCapacity), ("shutdown_grace", durationValue s.shutdownGrace)]

def HttpSettings.describe (s : HttpSettings) : Value :=
  .object [("connect_timeout", durationValue s.connectTimeout), ("timeout", durationValue s.timeout)]

end BookRelay.Pipeline
