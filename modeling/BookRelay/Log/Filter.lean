import BookRelay.Log.Entry

/-!
# Log filters

A log filter is a list of directives split by commas, empty ones skipped. A directive is a
level alone, or one or two parts, each a target (word characters, `:` and `-`) or a span in
brackets, followed by `=` and a level, by `=` alone, or by nothing. A level is one of `trace`,
`debug`, `info`, `warn`, `error` and `off` in any case, or a digit from 0 (off) to 5 (trace).
A directive that names a target and no level lets every level through.

A report is shown when the most specific directive about its target lets its level through:
one naming the longest prefix of the target, else one naming no target. Directives naming a
span only apply inside that span, and reports are made outside every span.
-/

namespace BookRelay.Log

/-- The most verbose level a directive lets through; `none` lets nothing through. -/
abbrev Ceiling := Option Level

def ceilingOf? (s : String) : Option Ceiling :=
  match s.toLower with
  | "off" | "0" => some none
  | "error" | "1" => some (some .error)
  | "warn" | "2" => some (some .warn)
  | "info" | "3" => some (some .info)
  | "debug" | "4" => some (some .debug)
  | "trace" | "5" => some (some .trace)
  | _ => none

/-- One directive: the target it names, whether it names a span, and its ceiling. -/
structure Directive where
  target : Option String := none
  inSpan : Bool := false
  ceiling : Ceiling
  deriving Repr, BEq

/-- A filter: its directives in the order given. -/
structure Filter where
  directives : List Directive
  deriving Repr, BEq

/-- Whether a character may stand in a target. Characters past ASCII are taken as letters. -/
def targetChar (c : Char) : Bool :=
  c.isAlphanum || c == '_' || c == ':' || c == '-' || c.toNat ≥ 0x80

/-- A directive's leading parts, at most `n` of them: the target it names, whether it names a
span, how many parts there were, and the rest. `none` when a span is not closed. -/
def takeParts : Nat → List Char → Option (Option String × Bool × Nat × List Char)
  | 0, cs => some (none, false, 0, cs)
  | n + 1, cs =>
    match cs with
    | '[' :: more =>
      match more.dropWhile (· != ']') with
      | ']' :: after => (takeParts n after).map fun (t, _, k, r) => (t, true, k + 1, r)
      | _ => none
    | c :: _ =>
      if targetChar c then
        let name := String.ofList (cs.takeWhile targetChar)
        (takeParts n (cs.dropWhile targetChar)).map fun (t, s, k, r) => (t.getD name, s, k + 1, r)
      else some (none, false, 0, cs)
    | [] => some (none, false, 0, [])

def Directive.parse? (d : String) : Option Directive :=
  match ceilingOf? d with
  | some c => some { ceiling := c }
  | none =>
    match takeParts 2 d.toList with
    | some (target, inSpan, k, rest) =>
      if k = 0 then none
      else
        match rest with
        | [] => some { target, inSpan, ceiling := some .trace }
        | '=' :: level =>
          if level.isEmpty then some { target, inSpan, ceiling := some .trace }
          else (ceilingOf? (String.ofList level)).map fun c => { target, inSpan, ceiling := c }
        | _ => none
    | none => none

/-- Read a filter; `none` when a directive is not well formed. -/
def Filter.parse? (f : String) : Option Filter :=
  ((f.splitOn ",").filter (!·.isEmpty)).mapM Directive.parse? |>.map Filter.mk

/-- How specific a directive about a target is: the length of the target it names, past
the directives naming none; `none` when it is not about the target. -/
def Directive.specificity? (d : Directive) (target : String) : Option Nat :=
  if d.inSpan then none
  else match d.target with
    | none => some 0
    | some t => if target.startsWith t then some (t.length + 1) else none

def Ceiling.admits (c : Ceiling) (l : Level) : Bool :=
  match c with
  | some top => l.rank ≤ top.rank
  | none => false

/-- Whether a filter shows a report of a level from a target. Of equally specific
directives the last given wins. -/
def Filter.shows (f : Filter) (target : String) (l : Level) : Bool :=
  let best := f.directives.foldl (fun (acc : Option (Nat × Directive)) d =>
    match d.specificity? target, acc with
    | some k, some (k', _) => if k' ≤ k then some (k, d) else acc
    | some k, none => some (k, d)
    | none, _ => acc) none
  match best with
  | some (_, d) => d.ceiling.admits l
  | none => false

def validFilter (f : String) : Bool := (Filter.parse? f).isSome

end BookRelay.Log
