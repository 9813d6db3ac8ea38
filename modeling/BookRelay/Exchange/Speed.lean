import BookRelay.Json.Decode

/-!
# Depth streams and subscriptions

The exchange pushes depth updates every second or every 100 ms. A symbol's stream is named by
the symbol in ASCII lower case followed by `@depth`, and `@100ms` for the faster one. A
subscription request is the object `method`, `params`, `id`, in that order.
-/

namespace BookRelay.Exchange

open BookRelay.Json

inductive Speed where
  | ms1000
  | ms100
  deriving Repr, BEq, DecidableEq, Inhabited

namespace Speed

def word : Speed → String
  | .ms1000 => "1000ms"
  | .ms100 => "100ms"

def debugName : Speed → String
  | .ms1000 => "Ms1000"
  | .ms100 => "Ms100"

def ofWord? : String → Option Speed
  | "1000ms" => some .ms1000
  | "100ms" => some .ms100
  | _ => none

/-- A speed from a JSON value: a string naming one of the two speeds. -/
def decode : Value → Except Mismatch Speed
  | .string s =>
    match ofWord? s with
    | some sp => .ok sp
    | none => .error (.unknownVariant s ["1000ms", "100ms"])
  | v => .error (.invalidType v.found "string or map")

def streamName (sp : Speed) (symbol : String) : String :=
  let base := String.map Char.toLower symbol ++ "@depth"
  match sp with
  | .ms1000 => base
  | .ms100 => base ++ "@100ms"

example (s : String) :
    Speed.ms100.streamName s = String.map Char.toLower s ++ "@depth" ++ "@100ms" := rfl

end Speed

def subscribeText (streams : List String) (id : Nat) : String :=
  "\x7b\"method\":\"SUBSCRIBE\",\"params\":" ++ (Value.array (streams.map Value.string)).render ++
    ",\"id\":" ++ toString id ++ "\x7d"

end BookRelay.Exchange
