import BookRelay.Config.Read
import BookRelay.Host.OsError
import BookRelay.Text.Blank

/-!
# Checking a configuration and deriving component settings

A configuration is checked in a fixed order and the first problem is reported: a blank
symbol or connector name, endpoints of the wrong scheme, an empty queue or frame limit, a
depth limit outside `1..=5000`, a zero among the times and counts that must be positive,
a first reconnect delay above the last, and a connection limit of zero.

From a configuration come the settings of each component, with times as spans.
-/

namespace BookRelay.Config

open BookRelay.Pipeline BookRelay.Time BookRelay.Json

/-- Why a configuration could not be used. -/
inductive ConfigError where
  | read (path : String) (error : Host.OsError)
  | parse (path : String) (failure : Yaml.Failure)
  | invalid (message : String)

/-- The text of a configuration failure. -/
def ConfigError.message : ConfigError → String
  | .read path e => "failed to read config " ++ path ++ ": " ++ e.message
  | .parse path f => "failed to parse config " ++ path ++ ": " ++ f.text
  | .invalid m => "invalid config: " ++ m

/-- The causes under a configuration failure, outermost first. -/
def ConfigError.causes : ConfigError → List String
  | .read _ e => [e.message]
  | .parse _ f => [f.text]
  | .invalid _ => []

def ConfigError.label : ConfigError → String
  | .read _ _ => "Io"
  | .parse _ _ => "Parse"
  | .invalid _ => "Invalid"

/-- Read a configuration from YAML text, naming the text by `path` in failures. -/
def RelayConfig.ofYamlAt (path text : String) : Except ConfigError RelayConfig :=
  (RelayConfig.ofYaml text).mapError (ConfigError.parse path)

/-- The entries that must not be zero, in the order they are checked. -/
def RelayConfig.positiveEntries (c : RelayConfig) : List (String × Nat) :=
  [("snapshot.interval_secs", c.snapshot.intervalSecs),
   ("snapshot.enqueue_timeout_ms", c.snapshot.enqueueTimeoutMs),
   ("snapshot.request_timeout_ms", c.snapshot.requestTimeoutMs),
   ("stream.handshake_timeout_ms", c.stream.handshakeTimeoutMs),
   ("stream.pong_timeout_ms", c.stream.pongTimeoutMs),
   ("stream.idle_timeout_secs", c.stream.idleTimeoutSecs),
   ("stream.initial_backoff_ms", c.stream.initialBackoffMs),
   ("forwarder.poll_interval_ms", c.forwarder.pollIntervalMs),
   ("forwarder.send_timeout_ms", c.forwarder.sendTimeoutMs),
   ("forwarder.max_send_attempts", c.forwarder.maxSendAttempts),
   ("shutdown_grace_ms", c.shutdownGraceMs)]

/-- The first problem of a configuration, if any. -/
def RelayConfig.problem? (c : RelayConfig) : Option String :=
  if Text.isBlank c.symbol then some "symbol must not be empty"
  else if Text.isBlank c.connectorName then some "connector_name must not be empty"
  else if !(c.wsUrl.startsWith "ws://" || c.wsUrl.startsWith "wss://") then
    some ("ws_url must use ws:// or wss://, got " ++ c.wsUrl)
  else if !(c.restUrl.startsWith "http://" || c.restUrl.startsWith "https://") then
    some ("rest_url must use http:// or https://, got " ++ c.restUrl)
  else if c.queueCapacity == 0 then some "queue_capacity must be greater than zero"
  else if c.maxPayloadSize == 0 then some "max_payload_size must be greater than zero"
  else if c.snapshot.depthLimit == 0 || c.snapshot.depthLimit > 5000 then
    some ("snapshot.depth_limit must be within 1..=5000, got " ++ toString c.snapshot.depthLimit)
  else match c.positiveEntries.find? (fun (_, v) => v == 0) with
    | some (name, _) => some (name ++ " must be greater than zero")
    | none =>
      if c.stream.initialBackoffMs > c.stream.maxBackoffMs then
        some ("stream.initial_backoff_ms (" ++ toString c.stream.initialBackoffMs ++
          ") exceeds stream.max_backoff_ms (" ++ toString c.stream.maxBackoffMs ++ ")")
      else if c.stream.maxConnectAttempts == some 0 then
        some "stream.max_connect_attempts must be greater than zero"
      else none

def RelayConfig.validate (c : RelayConfig) : Except ConfigError Unit :=
  match c.problem? with
  | some m => .error (.invalid m)
  | none => .ok ()

/-- What every component shares about the symbol: its name trimmed and in upper case, the
snapshot interval and depth, and the largest frame accepted. -/
structure SymbolConfig where
  symbol : String
  snapshotInterval : Duration
  snapshotDepthLimit : Nat
  maxPayloadSize : Nat

def RelayConfig.symbolConfig (c : RelayConfig) : SymbolConfig :=
  ⟨Text.asciiUpper (Text.trim c.symbol), .ofSecs c.snapshot.intervalSecs, c.snapshot.depthLimit,
    c.maxPayloadSize⟩

def SymbolConfig.describe (s : SymbolConfig) : Value :=
  .object [("max_payload_size", .ofNat s.maxPayloadSize),
    ("snapshot_depth_limit", .ofNat s.snapshotDepthLimit),
    ("snapshot_interval", .string s.snapshotInterval.text), ("symbol", .string s.symbol)]

/-- The stream client's settings. -/
def RelayConfig.streamSettings (c : RelayConfig) : StreamSettings :=
  { wsUrl := c.wsUrl, speed := c.depthSpeed,
    handshakeTimeout := .ofMillis c.stream.handshakeTimeoutMs,
    pongTimeout := .ofMillis c.stream.pongTimeoutMs,
    idleTimeout := .ofSecs c.stream.idleTimeoutSecs,
    initialBackoff := .ofMillis c.stream.initialBackoffMs,
    maxBackoff := .ofMillis c.stream.maxBackoffMs,
    maxConnectAttempts := c.stream.maxConnectAttempts }

/-- The snapshot scheduler's settings. -/
def RelayConfig.snapshotSettings (c : RelayConfig) : SnapshotSettings :=
  { initialDelay := .ofMillis c.snapshot.initialDelayMs,
    enqueueTimeout := .ofMillis c.snapshot.enqueueTimeoutMs }

/-- The forwarder's settings. -/
def RelayConfig.forwarderSettings (c : RelayConfig) : ForwarderSettings :=
  { connectorName := c.connectorName, pollInterval := .ofMillis c.forwarder.pollIntervalMs,
    sendTimeout := .ofMillis c.forwarder.sendTimeoutMs,
    maxSendAttempts := c.forwarder.maxSendAttempts,
    retryDelay := .ofMillis c.forwarder.retryDelayMs }

/-- The supervisor's settings. -/
def RelayConfig.supervisorSettings (c : RelayConfig) : SupervisorSettings :=
  { queueCapacity := c.queueCapacity, maxForwarderRestarts := c.forwarder.maxRestarts,
    shutdownGrace := .ofMillis c.shutdownGraceMs }

/-- The REST client's settings: the request time-out of the snapshot section. -/
def RelayConfig.httpSettings (c : RelayConfig) : HttpSettings :=
  { timeout := .ofMillis c.snapshot.requestTimeoutMs }

theorem problem_blank_symbol (c : RelayConfig) (h : Text.isBlank c.symbol = true) :
    c.problem? = some "symbol must not be empty" := by
  simp [RelayConfig.problem?, h]

end BookRelay.Config
