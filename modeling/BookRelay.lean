import BookRelay.Cli.Args
import BookRelay.Cli.Run
import BookRelay.Config.Basic
import BookRelay.Config.Check
import BookRelay.Config.Read
import BookRelay.Decimal.Shortest
import BookRelay.Exchange.Depth
import BookRelay.Exchange.Endpoint
import BookRelay.Exchange.Error
import BookRelay.Exchange.Message
import BookRelay.Exchange.Rest
import BookRelay.Exchange.Speed
import BookRelay.Feed.Event
import BookRelay.Feed.Metrics
import BookRelay.Feed.Queue
import BookRelay.Host.Files
import BookRelay.Host.OsError
import BookRelay.Http.Message
import BookRelay.Http.Status
import BookRelay.Json.Decode
import BookRelay.Json.Mismatch
import BookRelay.Json.Printer
import BookRelay.Json.Reader
import BookRelay.Json.Value
import BookRelay.Log.Entry
import BookRelay.Log.Filter
import BookRelay.Main
import BookRelay.Pipeline.Connection
import BookRelay.Pipeline.Failure
import BookRelay.Pipeline.Fetch
import BookRelay.Pipeline.Intake
import BookRelay.Pipeline.Settings
import BookRelay.Pipeline.Sink
import BookRelay.Pipeline.Snapshot
import BookRelay.Pipeline.SocketSink
import BookRelay.Scenario.Exchange
import BookRelay.Scenario.ForwardTask
import BookRelay.Scenario.Link
import BookRelay.Scenario.Probe
import BookRelay.Scenario.Runs
import BookRelay.Scenario.Shared
import BookRelay.Scenario.Sink
import BookRelay.Scenario.SnapshotTask
import BookRelay.Scenario.StreamTask
import BookRelay.Scenario.Supervisor
import BookRelay.Scenario.World
import BookRelay.Text.Blank
import BookRelay.Text.Quoted
import BookRelay.Text.Utf8
import BookRelay.Time.Duration
import BookRelay.Url.Address
import BookRelay.Url.Basic
import BookRelay.Url.Domain
import BookRelay.Url.Error
import BookRelay.Url.Form
import BookRelay.Url.Parse
import BookRelay.Url.Punycode
import BookRelay.Yaml.Decode
import BookRelay.Yaml.Document
import BookRelay.Yaml.Parser
import BookRelay.Yaml.Scalar
import BookRelay.Yaml.Scanner
import BookRelay.Yaml.Token
import BookRelay.Yaml.TokenStream
import BookRelay.Proofs.Delivery
import BookRelay.Proofs.Ledger
import BookRelay.Proofs.Shutdown
import BookRelay.Proofs.BoundedFifo
import BookRelay.Proofs.ConnectionStates
import BookRelay.Proofs.Payload
import BookRelay.Proofs.Reconnect
import BookRelay.Proofs.Supervision
import BookRelay.Proofs.Forwarded
import BookRelay.Proofs.Startup
import BookRelay.Proofs.SnapshotSchedule
import BookRelay.Proofs.SocketFrames
import BookRelay.Proofs.Utf8Codec
import BookRelay.Proofs.JsonText
import BookRelay.Proofs.JsonRoundTrip
import BookRelay.Proofs.JsonReaderForm
import BookRelay.Proofs.FrameReadback
import BookRelay.Proofs.StreamText
import BookRelay.Proofs.FrameIntake
import BookRelay.Proofs.SubscribeHandshake
import BookRelay.Proofs.SessionOutcome
import BookRelay.Proofs.Reconciliation
import BookRelay.Proofs.Backoff
import BookRelay.Proofs.SnapshotAnswers
import BookRelay.Proofs.BoundaryCut
