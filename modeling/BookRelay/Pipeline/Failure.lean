import BookRelay.Pipeline.Connection
import BookRelay.Pipeline.Sink

/-!
# Pipeline failures

The supervisor runs three components — the stream client, the snapshot scheduler and the
forwarder — and stops with a failure naming one of them: the forwarder failed after its
restarts, the stream client gave up, a task panicked, or a task did not stop within the
shutdown grace.
-/

namespace BookRelay.Pipeline

open BookRelay.Time

inductive Component where
  | stream
  | snapshot
  | forwarder
  deriving Repr, BEq, DecidableEq

def Component.name : Component → String
  | .stream => "stream client"
  | .snapshot => "snapshot scheduler"
  | .forwarder => "forwarder"

def Component.ofName? : String → Option Component
  | "Stream" => some .stream
  | "Snapshot" => some .snapshot
  | "Forwarder" => some .forwarder
  | _ => none

/-- Why the pipeline stopped with a failure. -/
inductive PipelineError where
  | forwarder (restarts : Nat) (error : SinkError)
  | stream (error : ConnectionError)
  | panicked (component : Component) (message : String)
  | shutdownTimedOut (component : Component) (grace : Duration)
  deriving Repr

namespace PipelineError

/-- The text of a failure. -/
def message : PipelineError → String
  | .forwarder n e => "forwarder failed after " ++ toString n ++ " restart(s): " ++ e.message
  | .stream e => "stream client failed: " ++ e.message
  | .panicked c m => c.name ++ " task panicked: " ++ m
  | .shutdownTimedOut c g => c.name ++ " did not stop within " ++ g.text ++ " and was aborted"

/-- The component a failure belongs to. -/
def component : PipelineError → Component
  | .forwarder _ _ => .forwarder
  | .stream _ => .stream
  | .panicked c _ => c
  | .shutdownTimedOut c _ => c

def label : PipelineError → String
  | .forwarder _ _ => "Forwarder"
  | .stream _ => "Stream"
  | .panicked _ _ => "Panicked"
  | .shutdownTimedOut _ _ => "ShutdownTimedOut"

/-- The causes under this one, outermost first. -/
def chain : PipelineError → List String
  | .forwarder _ e => e.message :: e.chain
  | .stream e => e.message :: e.chain
  | _ => []

end PipelineError

end BookRelay.Pipeline
