/-!
# The command line

The program takes `--config <PATH>` (required), `--log-level <LEVEL>` (default `info`),
`--log-dir <DIR>` and `--dry-run`, besides `-h`/`--help` and `-V`/`--version`, which answer at
once. An option's value follows it or is joined to it by `=`; a value may not look like an
option. Each option may be given once. Anything else is refused, with a hint when it is close
to a known option's name.

Refusals are written the way the usual command-line parser of the program writes them: the
error, a tip if any, the usage line, and a pointer to `--help`.
-/

namespace BookRelay.Cli

/-- The program's name. -/
def programName : String := "depthfeed-connector"

/-- The program's version. -/
def programVersion : String := "0.1.0"

/-- A command line that names a configuration. -/
structure Invocation where
  config : String
  logLevel : String := "info"
  logDir : Option String := none
  dryRun : Bool := false
  deriving Repr, BEq

inductive Request where
  | run (inv : Invocation)
  | help
  | version
  /-- A refused command line, with the text that says why. -/
  | refused (text : String)
  deriving Repr, BEq

/-- The options, in the order they are defined. -/
inductive Opt where
  | config
  | logLevel
  | logDir
  | dryRun
  | help
  | version
  deriving Repr, BEq, DecidableEq

namespace Opt

/-- Every option, in order. -/
def all : List Opt := [.config, .logLevel, .logDir, .dryRun, .help, .version]

def long : Opt → String
  | .config => "config"
  | .logLevel => "log-level"
  | .logDir => "log-dir"
  | .dryRun => "dry-run"
  | .help => "help"
  | .version => "version"

/-- The name of an option's value, for the options that take one. -/
def valueName : Opt → Option String
  | .config => some "PATH"
  | .logLevel => some "LEVEL"
  | .logDir => some "DIR"
  | _ => none

def shown (o : Opt) : String :=
  match o.valueName with
  | some v => "--" ++ o.long ++ " <" ++ v ++ ">"
  | none => "--" ++ o.long

/-- Whether an option's value, a path, may not be empty. -/
def refusesEmpty : Opt → Bool
  | .config | .logDir => true
  | _ => false

def ofLong? (name : String) : Option Opt := all.find? (·.long == name)

end Opt

def helpText : String :=
  "Order book depth feed connector\n\nUsage: " ++ programName ++ " [OPTIONS] --config <PATH>\n\n" ++
  "Options:\n" ++
  "      --config <PATH>      \n" ++
  "      --log-level <LEVEL>  [default: info]\n" ++
  "      --log-dir <DIR>      Also write logs to a daily-rolling file in this directory\n" ++
  "      --dry-run            \n" ++
  "  -h, --help               Print help\n" ++
  "  -V, --version            Print version\n"

def versionText : String := programName ++ " " ++ programVersion ++ "\n"

/-! ## Closeness of names -/

/-- Mark the first unmarked character of `b` equal to `c` whose place lies in `lo..hi`. -/
def markMatch (c : Char) (b : List Char) (taken : List Bool) (lo hi : Nat) : Option (List Bool) :=
  let hit := (b.zip taken).zipIdx.find? fun ((x, t), j) => lo ≤ j && j < hi && x == c && !t
  hit.map fun (_, j) => taken.set j true

/-- The matching characters of two names in the Jaro measure: which of `a` and which of `b`
match. -/
def jaroMatches (a b : List Char) : List Bool × List Bool :=
  let range := (max a.length b.length / 2) - 1
  a.zipIdx.foldl (fun (ma, mb) (c, i) =>
    match markMatch c b mb (i - range) (min b.length (i + range + 1)) with
    | some mb' => (ma ++ [true], mb')
    | none => (ma ++ [false], mb)) ([], List.replicate b.length false)

/-- The Jaro measure of two names as a fraction (numerator, denominator): the mean of the
share of matching characters in each name and of matches not transposed. -/
def jaroScore (a b : String) : Nat × Nat :=
  let a := a.toList
  let b := b.toList
  if a.isEmpty && b.isEmpty then (1, 1)
  else if a.isEmpty || b.isEmpty then (0, 1)
  else
    let (ma, mb) := jaroMatches a b
    let m := (ma.filter id).length
    if m == 0 then (0, 1)
    else
      let ca := (a.zip ma).filterMap fun (c, t) => if t then some c else none
      let cb := (b.zip mb).filterMap fun (c, t) => if t then some c else none
      let t := ((ca.zip cb).filter fun (x, y) => x != y).length / 2
      let la := a.length
      let lb := b.length
      (m * lb * m + m * la * m + (m - t) * la * lb, 3 * la * lb * m)

/-- Whether one fraction is at most another. -/
def fractionLe (x y : Nat × Nat) : Bool := x.1 * y.2 ≤ y.1 * x.2

/-- The known option closest to a name, if one is close: its measure exceeds 0.7. Of equally
close options the later wins. -/
def suggestion (name : String) : Option Opt :=
  let close := Opt.all.filterMap fun o =>
    let s := jaroScore name o.long
    if 10 * s.1 > 7 * s.2 then some (s, o) else none
  (close.foldl (fun best (s, o) => match best with
    | some (s', _) => if fractionLe s' s then some (s, o) else best
    | none => some (s, o)) none).map (·.2)

/-! ## Reading the arguments -/

structure Reading where
  config : Option String := none
  logLevel : Option String := none
  logDir : Option String := none
  dryRun : Bool := false
  used : List Opt := []

/-- The usage line, naming the options given; with none given, the usage of the help text. -/
def usageLine (used : List Opt) : String :=
  if used.isEmpty then "Usage: " ++ programName ++ " [OPTIONS] " ++ Opt.config.shown
  else
    "Usage: " ++ programName ++ " " ++ " ".intercalate (Opt.config.shown ::
      ((used.filter (· != .config)).map Opt.shown))

def refusal (lines : String) (used : List Opt) : Request :=
  .refused ("error: " ++ lines ++ "\n\n" ++ usageLine used ++ "\n\nFor more information, try '--help'.\n")

/-- A refused argument, with the options given so far and a close option, if any. The close
option counts as given. -/
def unexpected (arg : String) (used : List Opt) (tip : Option Opt) : Request :=
  let tipText := match tip with
    | some o => "\n\n  tip: a similar argument exists: '--" ++ o.long ++ "'"
    | none => ""
  let used := match tip with
    | some o => if used.contains o then used else used ++ [o]
    | none => used
  refusal ("unexpected argument '" ++ arg ++ "' found" ++ tipText) used

def valueMissing (o : Opt) : Request :=
  .refused ("error: a value is required for '" ++ o.shown ++ "' but none was supplied\n\n" ++
    "For more information, try '--help'.\n")

def givenTwice (o : Opt) : Request :=
  refusal ("the argument '" ++ o.shown ++ "' cannot be used multiple times") []

def looksLikeOption (arg : String) : Bool := arg.startsWith "-" && arg.length > 1

/-- The request once every argument is read. -/
def Reading.finish (r : Reading) : Request :=
  match r.config with
  | some path => .run { config := path, logLevel := r.logLevel.getD "info", logDir := r.logDir, dryRun := r.dryRun }
  | none =>
    .refused ("error: the following required arguments were not provided:\n  " ++ Opt.config.shown ++
      "\n\n" ++ usageLine (.config :: r.used) ++ "\n\nFor more information, try '--help'.\n")

def Reading.set (r : Reading) (o : Opt) (v : String) : Reading :=
  let r := { r with used := r.used ++ [o] }
  match o with
  | .config => { r with config := some v }
  | .logLevel => { r with logLevel := some v }
  | .logDir => { r with logDir := some v }
  | _ => r

def Reading.has (r : Reading) (o : Opt) : Bool := r.used.contains o

def readArgs : List String → Reading → Request
  | [], r => r.finish
  | arg :: rest, r =>
    if arg == "--" then
      match rest with
      | [] => r.finish
      | x :: _ => unexpected x [] none
    else if arg.startsWith "--" then
      let body := (arg.drop 2).toString
      let (name, inline) := match body.splitOn "=" with
        | [n] => (n, none)
        | n :: more => (n, some ("=".intercalate more))
        | [] => (body, none)
      match Opt.ofLong? name with
      | none => unexpected ("--" ++ name) r.used (suggestion name)
      | some .help => .help
      | some .version => .version
      | some .dryRun =>
        if r.has .dryRun then givenTwice .dryRun
        else match inline with
          | some v =>
            refusal ("unexpected value '" ++ v ++ "' for '--dry-run' found; no more were expected")
              (r.used ++ [.dryRun])
          | none => readArgs rest { r with dryRun := true, used := r.used ++ [.dryRun] }
      | some o =>
        if r.has o then givenTwice o
        else match inline with
          | some v => if o.refusesEmpty && v.isEmpty then valueMissing o else readArgs rest (r.set o v)
          | none =>
            match rest with
            | v :: more =>
              if looksLikeOption v || (o.refusesEmpty && v.isEmpty) then valueMissing o
              else readArgs more (r.set o v)
            | [] => valueMissing o
    else if looksLikeOption arg then
      match (arg.drop 1).toString.toList with
      | 'h' :: _ => .help
      | 'V' :: _ => .version
      | c :: _ => unexpected ("-" ++ c.toString) [] none
      | [] => unexpected arg [] none
    else unexpected arg [] none

def parseArgs (args : List String) : Request := readArgs args {}

end BookRelay.Cli
