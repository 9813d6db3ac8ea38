import BookRelay.Pipeline.Settings
import BookRelay.Json.Value

/-!
# Relay configuration

The configuration of one relay: the symbol, the name written into frames, the stream and REST
endpoints, the variable holding the API key, the socket the frames go to, the queue size, the
largest frame accepted, the stream speed, and three sections for the snapshot scheduler, the
stream client and the forwarder, plus the shutdown grace. Every entry but the symbol has a
default; times are whole milliseconds or seconds, as their names say.
-/

namespace BookRelay.Config

open BookRelay.Exchange BookRelay.Json BookRelay.Pipeline

structure SnapshotSection where
  intervalSecs : Nat := 60
  initialDelayMs : Nat := 2000
  depthLimit : Nat := 5000
  enqueueTimeoutMs : Nat := 2000
  requestTimeoutMs : Nat := 10000
  deriving Repr, Inhabited

/-- Settings of the stream client; without a limit it reconnects for ever. -/
structure StreamSection where
  handshakeTimeoutMs : Nat := 5000
  pongTimeoutMs : Nat := 5000
  idleTimeoutSecs : Nat := 60
  initialBackoffMs : Nat := 1000
  maxBackoffMs : Nat := 30000
  maxConnectAttempts : Option Nat := none
  deriving Repr, Inhabited

structure ForwarderSection where
  pollIntervalMs : Nat := 250
  sendTimeoutMs : Nat := 1000
  maxSendAttempts : Nat := 3
  retryDelayMs : Nat := 100
  maxRestarts : Nat := 1
  deriving Repr, Inhabited

structure RelayConfig where
  symbol : String
  connectorName : String := defaultConnectorName
  wsUrl : String := defaultStreamUrl
  restUrl : String := defaultRestUrl
  apiKeyEnv : String := "BINANCE_API_KEY"
  socketPath : String := "/tmp/unix_socket"
  queueCapacity : Nat := 1024
  maxPayloadSize : Nat := 1048576
  depthSpeed : Speed := .ms1000
  snapshot : SnapshotSection := {}
  stream : StreamSection := {}
  forwarder : ForwarderSection := {}
  shutdownGraceMs : Nat := 5000
  deriving Repr, Inhabited

/-- The configuration with defaults for everything but the symbol. -/
def RelayConfig.forSymbol (symbol : String) : RelayConfig := { symbol }

def SnapshotSection.toJson (s : SnapshotSection) : Value :=
  .object [("depth_limit", .ofNat s.depthLimit), ("enqueue_timeout_ms", .ofNat s.enqueueTimeoutMs),
    ("initial_delay_ms", .ofNat s.initialDelayMs), ("interval_secs", .ofNat s.intervalSecs),
    ("request_timeout_ms", .ofNat s.requestTimeoutMs)]

def StreamSection.toJson (s : StreamSection) : Value :=
  .object [("handshake_timeout_ms", .ofNat s.handshakeTimeoutMs),
    ("idle_timeout_secs", .ofNat s.idleTimeoutSecs), ("initial_backoff_ms", .ofNat s.initialBackoffMs),
    ("max_backoff_ms", .ofNat s.maxBackoffMs),
    ("max_connect_attempts", Value.ofOption Value.ofNat s.maxConnectAttempts),
    ("pong_timeout_ms", .ofNat s.pongTimeoutMs)]

def ForwarderSection.toJson (s : ForwarderSection) : Value :=
  .object [("max_restarts", .ofNat s.maxRestarts), ("max_send_attempts", .ofNat s.maxSendAttempts),
    ("poll_interval_ms", .ofNat s.pollIntervalMs), ("retry_delay_ms", .ofNat s.retryDelayMs),
    ("send_timeout_ms", .ofNat s.sendTimeoutMs)]

/-- The configuration as JSON, with the same keys as in YAML. -/
def RelayConfig.toJson (c : RelayConfig) : Value :=
  .object [("api_key_env", .string c.apiKeyEnv), ("connector_name", .string c.connectorName),
    ("depth_speed", .string c.depthSpeed.word), ("forwarder", c.forwarder.toJson),
    ("max_payload_size", .ofNat c.maxPayloadSize), ("queue_capacity", .ofNat c.queueCapacity),
    ("rest_url", .string c.restUrl), ("shutdown_grace_ms", .ofNat c.shutdownGraceMs),
    ("snapshot", c.snapshot.toJson), ("socket_path", .string c.socketPath),
    ("stream", c.stream.toJson), ("symbol", .string c.symbol), ("ws_url", .string c.wsUrl)]

end BookRelay.Config
