import BookRelay.Cli.Run

/-!
# The program

Reads the command line and the configuration file, runs, writes what the run wrote to its
output and error streams, and exits with the run's code.
-/

open BookRelay BookRelay.Cli

/-- An operating-system failure as the library names it. -/
def osErrorOf : IO.Error → Host.OsError
  | .noFileOrDirectory _ code _ => .errno code.toNat
  | .inappropriateType _ code _ => .errno code.toNat
  | .permissionDenied _ code _ => .errno code.toNat
  | .otherError code _ => .errno code.toNat
  | e => .custom (toString e)

def readConfig (path : String) : IO (Except Host.OsError String) := do
  try
    let bytes ← IO.FS.readBinFile path
    pure (match Text.Utf8.decode? bytes.toList with
      | some text => .ok text
      | none => .error (.custom "stream did not contain valid UTF-8"))
  catch e => pure (.error (osErrorOf e))

/-- How long the pipeline runs on its clock before the program gives up, in milliseconds. -/
def runHorizon : Nat := 86400000

def main (args : List String) : IO UInt32 := do
  let outcome ← match Cli.start args with
    | .done o => pure o
    | .load inv f => do
      let content ← readConfig inv.config
      pure (Cli.finish inv f content none runHorizon)
  IO.print outcome.stdout
  IO.eprint outcome.stderr
  pure (match outcome.ending with
    | .exited code => code.toUInt32
    | .timedOut => 1)
