/-!
# Log entries

What the running program reports: a time, a level, the part of the program that reports
(its target, a path such as `depthfeed_connector::stream`), and the text, which is the
message followed by its fields as `name=value`. A line shows the level padded to five
characters, the target and the text.
-/

namespace BookRelay.Log

/-- How much a report matters, from the most to the least. -/
inductive Level where
  | error
  | warn
  | info
  | debug
  | trace
  deriving Repr, BEq, DecidableEq

namespace Level

def rank : Level → Nat
  | .error => 1
  | .warn => 2
  | .info => 3
  | .debug => 4
  | .trace => 5

def shown : Level → String
  | .error => "ERROR"
  | .warn => " WARN"
  | .info => " INFO"
  | .debug => "DEBUG"
  | .trace => "TRACE"

end Level

structure Entry where
  time : Nat
  level : Level
  target : String
  text : String
  deriving Repr

def Entry.line (e : Entry) : String := e.level.shown ++ " " ++ e.target ++ ": " ++ e.text

/-- The target of the program's own reports. -/
def mainTarget : String := "depthfeed_connector"

def partTarget (part : String) : String := mainTarget ++ "::" ++ part

end BookRelay.Log
