import BookRelay.Config.Basic
import BookRelay.Yaml.Decode

/-!
# Reading a configuration from YAML

A configuration is read from the first and only document of a YAML text. Its sections are
records; entries not named here are skipped. The symbol is the one required entry.
-/

namespace BookRelay.Config

open BookRelay.Yaml

def textField {σ : Type} (name expected : String) (set : σ → String → σ) : Yaml.Field σ :=
  ⟨name, fun d path pos acc => (readText expected d 2 path pos).map fun (v, p) => (set acc v, p)⟩

/-- An unsigned entry of `bits` bits, named `expected` in messages. -/
def unsignedField {σ : Type} (name expected : String) (bits : Nat) (set : σ → Nat → σ) : Yaml.Field σ :=
  ⟨name, fun d path pos acc =>
    (readUnsigned expected (Nat.pow 2 bits) d 2 path pos).map fun (v, p) => (set acc v, p)⟩

/-- An optional unsigned entry of 32 bits. -/
def optionalU32Field {σ : Type} (name : String) (set : σ → Option Nat → σ) : Yaml.Field σ :=
  ⟨name, fun d path pos acc =>
    (readOptionalUnsigned "u32" (Nat.pow 2 32) d 2 path pos).map fun (v, p) => (set acc v, p)⟩

def snapshotFields : List (Yaml.Field SnapshotSection) :=
  [unsignedField "interval_secs" "u64" 64 fun s v => { s with intervalSecs := v },
   unsignedField "initial_delay_ms" "u64" 64 fun s v => { s with initialDelayMs := v },
   unsignedField "depth_limit" "u32" 32 fun s v => { s with depthLimit := v },
   unsignedField "enqueue_timeout_ms" "u64" 64 fun s v => { s with enqueueTimeoutMs := v },
   unsignedField "request_timeout_ms" "u64" 64 fun s v => { s with requestTimeoutMs := v }]

def streamFields : List (Yaml.Field StreamSection) :=
  [unsignedField "handshake_timeout_ms" "u64" 64 fun s v => { s with handshakeTimeoutMs := v },
   unsignedField "pong_timeout_ms" "u64" 64 fun s v => { s with pongTimeoutMs := v },
   unsignedField "idle_timeout_secs" "u64" 64 fun s v => { s with idleTimeoutSecs := v },
   unsignedField "initial_backoff_ms" "u64" 64 fun s v => { s with initialBackoffMs := v },
   unsignedField "max_backoff_ms" "u64" 64 fun s v => { s with maxBackoffMs := v },
   optionalU32Field "max_connect_attempts" fun s v => { s with maxConnectAttempts := v }]

def forwarderFields : List (Yaml.Field ForwarderSection) :=
  [unsignedField "poll_interval_ms" "u64" 64 fun s v => { s with pollIntervalMs := v },
   unsignedField "send_timeout_ms" "u64" 64 fun s v => { s with sendTimeoutMs := v },
   unsignedField "max_send_attempts" "u32" 32 fun s v => { s with maxSendAttempts := v },
   unsignedField "retry_delay_ms" "u64" 64 fun s v => { s with retryDelayMs := v },
   unsignedField "max_restarts" "u32" 32 fun s v => { s with maxRestarts := v }]

def sectionField {σ τ : Type} (name record : String) (fields : List (Yaml.Field τ)) (init : τ)
    (set : σ → τ → σ) : Yaml.Field σ :=
  ⟨name, fun d path pos acc =>
    (readRecord record fields [] init d 2 path pos).map fun (v, p) => (set acc v, p)⟩

def speedField : Yaml.Field RelayConfig :=
  ⟨"depth_speed", fun d path pos acc =>
    (readVariant ["1000ms", "100ms"] d 2 path pos).map fun (v, p) =>
      ({ acc with depthSpeed := (Exchange.Speed.ofWord? v).getD .ms1000 }, p)⟩

def relayFields : List (Yaml.Field RelayConfig) :=
  [textField "symbol" "a string" fun c v => { c with symbol := v },
   textField "connector_name" "a string" fun c v => { c with connectorName := v },
   textField "ws_url" "a string" fun c v => { c with wsUrl := v },
   textField "rest_url" "a string" fun c v => { c with restUrl := v },
   textField "api_key_env" "a string" fun c v => { c with apiKeyEnv := v },
   textField "socket_path" "path string" fun c v => { c with socketPath := v },
   unsignedField "queue_capacity" "usize" 64 fun c v => { c with queueCapacity := v },
   unsignedField "max_payload_size" "usize" 64 fun c v => { c with maxPayloadSize := v },
   speedField,
   sectionField "snapshot" "SnapshotConfig" snapshotFields {} fun c v => { c with snapshot := v },
   sectionField "stream" "StreamConfig" streamFields {} fun c v => { c with stream := v },
   sectionField "forwarder" "ForwarderConfig" forwarderFields {} fun c v => { c with forwarder := v },
   unsignedField "shutdown_grace_ms" "u64" 64 fun c v => { c with shutdownGraceMs := v }]

/-- Read a configuration from YAML text: the first document is read; a failure that stopped
it counts even when the configuration was complete, and a second document is refused. -/
def RelayConfig.ofYaml (text : String) : Except Failure RelayConfig :=
  let (d, p) := firstDocument text
  match readRecord "ConnectorConfig" relayFields ["symbol"] (RelayConfig.forSymbol "") d 2 .root 0 with
  | .error f => .error f
  | .ok (c, _) =>
    match d.stop with
    | some (.problem pr) => .error (.reader pr)
    | some (.unknownAnchor m) => .error (.unknownAnchor m)
    | none => if hasMoreDocuments text p then .error .moreThanOneDocument else .ok c

end BookRelay.Config
