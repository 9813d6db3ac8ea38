import BookRelay.Yaml.Parser

/-!
# Loaded documents

A document is kept as the flat list of its node events. An anchor gets a number when it is
defined (the count of distinct anchor names seen so far, so a redefined name and the next new
one share a number, the later definition winning); an alias becomes a reference to that
number, and an alias to a name not yet defined stops the document. A reading failure also
stops it: the events before it stay, and the failure is kept for whoever reads past them.
A stream with no document at all reads as one empty document.
-/

namespace BookRelay.Yaml

/-- A node event of a loaded document. -/
inductive Node where
  | alias (id : Nat)
  | scalar (tag : Option String) (text : String) (style : ScalarStyle)
  | sequenceStart
  | sequenceEnd
  | mappingStart
  | mappingEnd
  /-- The whole of a stream without documents. -/
  | empty
  deriving Repr, Inhabited

inductive Stop where
  | problem (p : Problem)
  | unknownAnchor (m : Mark)
  deriving Repr, Inhabited

/-- A loaded document: its node events with their places, where each anchor number points,
and why it stopped early, if it did. -/
structure Document where
  nodes : Array (Node × Mark) := #[]
  anchors : List (Nat × Nat) := []
  stop : Option Stop := none
  deriving Inhabited

/-- Set or replace the value of a key in an association list. -/
def assign {α : Type} [BEq α] (xs : List (α × Nat)) (k : α) (v : Nat) : List (α × Nat) :=
  if (xs.lookup k).isSome then xs.map fun (a, b) => if a == k then (a, v) else (a, b)
  else xs ++ [(k, v)]

def Document.define (d : Document) (names : List (String × Nat)) :
    Option String → List (String × Nat) × Document
  | none => (names, d)
  | some a =>
    let id := names.length
    (assign names a id, { d with anchors := assign d.anchors id d.nodes.size })

def Document.add (d : Document) (n : Node) (m : Mark) : Document := { d with nodes := d.nodes.push (n, m) }

/-- Read events up to the end of one document. On the first call of a stream, the end of
the stream before any document gives an empty document; later it gives none. -/
def collect (first : Bool) : Nat → Parser → List (String × Nat) → Document → Option Document × Parser
  | 0, p, _, d => (some d, p)
  | fuel + 1, p, names, d =>
    match p.next with
    | .error e => (some { d with stop := some (.problem e) }, p)
    | .ok (ev, m, p) =>
      match ev with
      | .streamStart | .documentStart => collect first fuel p names d
      | .streamEnd =>
        if first then (some (if d.nodes.isEmpty then d.add .empty m else d), p) else (none, p)
      | .documentEnd => (some d, p)
      | .alias name =>
        match names.lookup name with
        | some id => collect first fuel p names (d.add (.alias id) m)
        | none => (some { d with stop := some (.unknownAnchor m) }, p)
      | .scalar a tag text style =>
        let (names, d) := d.define names a
        collect first fuel p names (d.add (.scalar tag text style) m)
      | .sequenceStart a _ =>
        let (names, d) := d.define names a
        collect first fuel p names (d.add .sequenceStart m)
      | .mappingStart a _ =>
        let (names, d) := d.define names a
        collect first fuel p names (d.add .mappingStart m)
      | .sequenceEnd => collect first fuel p names (d.add .sequenceEnd m)
      | .mappingEnd => collect first fuel p names (d.add .mappingEnd m)

def eventBound (text : String) : Nat := 8 * (text.length + 8)

/-- The first document of a text, and the reader after it. -/
def firstDocument (text : String) : Document × Parser :=
  match collect true (eventBound text) (Parser.ofString text) [] {} with
  | (some d, p) => (d, p)
  | (none, p) => ({}, p)

/-- Whether anything but the end of the stream follows the first document. -/
def hasMoreDocuments (text : String) (p : Parser) : Bool :=
  (collect false (eventBound text) p [] {}).1.isSome

end BookRelay.Yaml
