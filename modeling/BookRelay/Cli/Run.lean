import BookRelay.Cli.Args
import BookRelay.Scenario.Runs

/-!
# A run of the program

A run reads the command line, checks the log filter, loads and checks the configuration,
and then, unless only a check was asked, builds the REST client and runs the pipeline until
it ends. A signal ends the pipeline cleanly; the program answers it once a line of its log
holding a given text was written to its output, after a short wait.

Exit codes: 0 for a clean end, 1 when the REST client or the pipeline fails, 2 for a refused
command line, log filter or configuration, and 101 when the pipeline panics as it starts. A failure is written as the program's name and
the chain of its causes, joined by colons.
-/

namespace BookRelay.Cli

open BookRelay.Config BookRelay.Exchange BookRelay.Scenario BookRelay.Host

inductive Ending where
  | exited (code : Nat)
  /-- The run had not ended by the time it was given. -/
  | timedOut
  deriving Repr, BEq

/-- What a run leaves: how it ended, its output, and whether it made a log file. -/
structure Outcome where
  ending : Ending
  stdout : String := ""
  stderr : String := ""
  logFileMade : Bool := false
  deriving Repr

/-- The text of a failure: the program's name and the chain of causes. -/
def failureText (chain : List String) : String :=
  programName ++ ": " ++ ": ".intercalate chain ++ "\n"

/-- Where a run stands once the command line is read. -/
inductive Start where
  | done (o : Outcome)
  /-- The configuration is to be read, and the run goes on with the invocation and the log
  filter. -/
  | load (inv : Invocation) (filter : Log.Filter)

def start (args : List String) : Start :=
  match parseArgs args with
  | .help => .done { ending := .exited 0, stdout := helpText }
  | .version => .done { ending := .exited 0, stdout := versionText }
  | .refused text => .done { ending := .exited 2, stderr := text }
  | .run inv =>
    match Log.Filter.parse? inv.logLevel with
    | none => .done { ending := .exited 2, stderr := failureText ["invalid log level", "invalid filter directive"] }
    | some f => .load inv f

/-- Load and check the configuration from the content of its file; a failure is its chain. -/
def loadConfig (path : String) (content : Except OsError String) : Except (List String) RelayConfig :=
  match content with
  | .error e => .error ["load config", (ConfigError.read path e).message, e.message]
  | .ok text =>
    match RelayConfig.ofYamlAt path text with
    | .error e => .error ("load config" :: e.message :: e.causes)
    | .ok c =>
      match c.validate with
      | .error e => .error ["validate config", e.message]
      | .ok () => .ok c

/-- The program's own reports once the configuration is loaded. -/
def startLines (inv : Invocation) (c : RelayConfig) : List Log.Entry :=
  [⟨0, .info, Log.mainTarget,
      "starting depthfeed-connector config_path=" ++ inv.config ++ " dry_run=" ++ toString inv.dryRun⟩,
   ⟨0, .info, Log.mainTarget,
      "configuration loaded symbol=" ++ c.symbol ++ " socket_path=" ++ c.socketPath ++
        " queue_capacity=" ++ toString c.queueCapacity⟩]

/-- The wait between the line a signal answers and the signal. -/
def signalWait : Nat := 300

/-- How the pipeline of a run ends: cleanly, with a failure and its chain of causes, with a
panic and its message, or not by the time given. -/
inductive PipelineEnd where
  | clean
  | failed (chain : List String)
  | panicked (message : String)
  | unfinished

/-- The exit code of a program whose main thread panicked. -/
def panicExitCode : Nat := 101

/-- What a panic of the main thread writes to the error output. -/
def panicText (message : String) : String :=
  "\nthread \x27main\x27 panicked:\n" ++ message ++
    "\nnote: run with `RUST_BACKTRACE=1` environment variable to display a backtrace\n"

/-- Run the pipeline of a configuration, with a signal sent once a line holding `signal`
was written to the output, and given up at `horizon`. -/
def runPipeline (inv : Invocation) (filter : Log.Filter) (c : RelayConfig) (signal : Option String)
    (horizon : Nat) : PipelineEnd :=
  let onOutput := inv.logDir.isNone
  let seen := fun (text : String) (e : Log.Entry) => filter.shows e.target e.level && holdsText e.line text
  let early := onOutput && signal.any fun text => (startLines inv c).any (seen text)
  let setup : PipelineSetup :=
    { config := c, shutdownAt := if early then some signalWait else none,
      shutdownAfter := if onOutput && !early then signal.map fun text => { text, filter, wait := signalWait } else none,
      horizon := some horizon }
  let report := pipelineScenario setup
  match report.panic, report.outcome with
  | some m, _ => .panicked m
  | none, some (.ok _) => .clean
  | none, some (.error e) => .failed ("pipeline failed" :: e.message :: e.chain)
  | none, none => .unfinished

/-- A run that ends with an exit code, a failure text, and whether it made a log file. -/
def failedRun (inv : Invocation) (code : Nat) (chain : List String) : Outcome :=
  { ending := .exited code, stderr := failureText chain, logFileMade := inv.logDir.isSome }

/-- The rest of a run once its configuration passed the check: a check only, or the REST
client and then the pipeline. -/
def proceed (inv : Invocation) (filter : Log.Filter) (c : RelayConfig) (signal : Option String)
    (horizon : Nat) : Outcome :=
  let made := inv.logDir.isSome
  if inv.dryRun then { ending := .exited 0, logFileMade := made }
  else
    match RestClient.ofBase c.restUrl with
    | .error e => failedRun inv 1 ("build REST client" :: e.message :: e.sources)
    | .ok _ =>
      match runPipeline inv filter c signal horizon with
      | .clean => { ending := .exited 0, logFileMade := made }
      | .failed chain => failedRun inv 1 chain
      | .panicked m => { ending := .exited panicExitCode, stderr := panicText m, logFileMade := made }
      | .unfinished => { ending := .timedOut, logFileMade := made }

/-- The rest of a run, from the content of the configuration file. -/
def finish (inv : Invocation) (filter : Log.Filter) (content : Except OsError String)
    (signal : Option String) (horizon : Nat) : Outcome :=
  match loadConfig inv.config content with
  | .error chain => failedRun inv 2 chain
  | .ok c => proceed inv filter c signal horizon

theorem loadConfig_unreadable (path : String) (e : OsError) :
    loadConfig path (.error e) = .error ["load config", (ConfigError.read path e).message, e.message] := rfl

end BookRelay.Cli
