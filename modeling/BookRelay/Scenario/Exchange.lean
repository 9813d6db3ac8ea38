import BookRelay.Scenario.Link
import BookRelay.Http.Status

/-!
# The scripted exchange

The exchange accepts one connection per script, in order. A script that begins by refusing
the upgrade answers with an HTTP status and no connection is made; once every script is used,
further connections are refused. Each accepted connection runs its own script, so a script
whose client has gone may still sleep and then ask for a shutdown while the client is on its
next connection.
-/

namespace BookRelay.Scenario

/-- What the exchange keeps of one connection attempt that reached it. -/
inductive Visit where
  /-- The upgrade was refused with an HTTP status. -/
  | refused (status : Nat)
  | linked (link : Link)
  deriving Repr

/-- The exchange: the scripts not yet used and the visits so far, oldest first. -/
structure Exchange where
  scripts : List (List Action)
  visits : List Visit := []
  deriving Repr

inductive Dial where
  /-- Nothing listens any more. -/
  | unreachable
  | refused (status : Nat)
  | linked (visit : Nat)
  deriving Repr, BEq

namespace Exchange

def dial (x : Exchange) : Dial × Exchange :=
  match x.scripts with
  | [] => (.unreachable, x)
  | (.refuseUpgrade status :: _) :: rest =>
    (.refused status, { scripts := rest, visits := x.visits ++ [.refused status] })
  | s :: rest => (.linked x.visits.length, { scripts := rest, visits := x.visits ++ [.linked (.start s)] })

def link? (x : Exchange) (i : Nat) : Option Link :=
  match x.visits[i]? with
  | some (.linked l) => some l
  | _ => none

def update (x : Exchange) (i : Nat) (f : Link → Link) : Exchange :=
  { x with visits := x.visits.modify i fun
    | .linked l => .linked (f l)
    | v => v }

/-- When the exchange moves next, from time `now` on. -/
def wake? (now : Nat) (x : Exchange) : Option Nat :=
  x.visits.foldl (fun acc v => match v with
    | .linked l => match acc, l.wake? now with
      | some a, some b => some (min a b)
      | a, none => a
      | none, b => b
    | .refused _ => acc) none

/-- Every connection moves until it waits. The flag asks for a shutdown. -/
def advance (now : Nat) (x : Exchange) : Exchange × Bool :=
  let (visits, stop) := x.visits.foldr (fun v (acc, stop) => match v with
    | .linked l =>
      let (l', s) := l.advance now l.fuel
      (.linked l' :: acc, stop || s)
    | r => (r :: acc, stop)) ([], false)
  ({ x with visits := visits }, stop)

end Exchange

end BookRelay.Scenario
