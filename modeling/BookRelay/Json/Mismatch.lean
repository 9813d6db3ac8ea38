import BookRelay.Json.Printer
import BookRelay.Text.Quoted

/-!
# Decoding mismatches

When a typed field is read out of a parsed document, a failure names what was found and what
was expected. The found side is one of a fixed set of shapes; the expected side is a phrase of
the target type ("u64", "a string", "struct Header"). The four kinds of failure read
`invalid type: F, expected E`, `invalid value: F, expected E`, `missing field` and
`duplicate field`, and a name that is not one of a closed set reads `unknown variant`.
-/

namespace BookRelay.Json

/-- What a decoder found where it expected something else. -/
inductive Found where
  | bool (b : Bool)
  | unsigned (n : Nat)
  | signed (i : Int)
  | float (x : Float) (layout : FloatLayout)
  | str (s : String)
  | unit
  | null
  | seq
  | map
  | other (text : String)

def Found.describe : Found → String
  | .bool b => "boolean `" ++ toString b ++ "`"
  | .unsigned n => "integer `" ++ toString n ++ "`"
  | .signed i => "integer `" ++ toString i ++ "`"
  | .float x layout => "floating point `" ++ floatText layout x ++ "`"
  | .str s => "string " ++ Text.quoted s
  | .unit => "unit value"
  | .null => "null"
  | .seq => "sequence"
  | .map => "map"
  | .other text => text

inductive Mismatch where
  | invalidType (found : Found) (expected : String)
  | invalidValue (found : Found) (expected : String)
  | invalidLength (len : Nat) (expected : String)
  | missingField (name : String)
  | duplicateField (name : String)
  | unknownVariant (name : String) (variants : List String)
  | custom (text : String)

def alternatives : List String → String
  | [] => "there are no variants"
  | [a] => "`" ++ a ++ "`"
  | [a, b] => "`" ++ a ++ "` or `" ++ b ++ "`"
  | names => "one of " ++ ", ".intercalate (names.map fun n => "`" ++ n ++ "`")

def Mismatch.message : Mismatch → String
  | .invalidType f e => "invalid type: " ++ f.describe ++ ", expected " ++ e
  | .invalidValue f e => "invalid value: " ++ f.describe ++ ", expected " ++ e
  | .invalidLength n e => "invalid length " ++ toString n ++ ", expected " ++ e
  | .missingField n => "missing field `" ++ n ++ "`"
  | .duplicateField n => "duplicate field `" ++ n ++ "`"
  | .unknownVariant n [] => "unknown variant `" ++ n ++ "`, " ++ alternatives []
  | .unknownVariant n vs => "unknown variant `" ++ n ++ "`, expected " ++ alternatives vs
  | .custom t => t

theorem message_missingField (n : String) :
    (Mismatch.missingField n).message = "missing field `" ++ n ++ "`" := rfl

end BookRelay.Json
