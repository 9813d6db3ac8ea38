import BookRelay.Json.Value
import BookRelay.Decimal.Shortest

/-!
# Compact JSON text

Values are written without blanks, members in the order the value holds them. A double is
written with its shortest digits: positionally while its decimal point lies between five places
to the left of the first digit and sixteen places to its right, with `.0` after an integer,
and otherwise as one digit, the rest after a point, and an exponent with its sign.
-/

namespace BookRelay.Json

open BookRelay.Decimal

/-- Where positional notation gives way to an exponent, and how the exponent is marked. -/
structure FloatLayout where
  highest : Int
  lowest : Int
  plusSign : Bool

def FloatLayout.json : FloatLayout := ⟨16, -4, true⟩

/-- Positional notation for every double, as in plain decimal display. -/
def FloatLayout.positional : FloatLayout := ⟨400, -400, false⟩

/-- The digits of `n` as characters. -/
def digitsOf (n : Nat) : List Char := Nat.toDigits 10 n

/-- `n` copies of `0`. -/
def zeros (n : Nat) : List Char := List.replicate n '0'

/-- The text of a positive decimal `d · 10^k` under a layout. The decimal-point position is the
number of digits plus `k`. -/
def decimalText (layout : FloatLayout) (x : Decimal) : List Char :=
  let ds := digitsOf x.digits
  let n : Int := ds.length
  let point := n + x.exp
  if 0 ≤ x.exp ∧ point ≤ layout.highest then
    ds ++ zeros x.exp.toNat ++ ['.', '0']
  else if 0 < point ∧ point ≤ layout.highest then
    ds.take point.toNat ++ ['.'] ++ ds.drop point.toNat
  else if layout.lowest ≤ point ∧ point ≤ 0 then
    ['0', '.'] ++ zeros (-point).toNat ++ ds
  else
    let e := point - 1
    let mantissa := match ds with
      | [] => ['0']
      | [d] => [d]
      | d :: rest => d :: '.' :: rest
    let sign := if e < 0 then ['-'] else if layout.plusSign then ['+'] else []
    mantissa ++ ['e'] ++ sign ++ digitsOf e.natAbs

/-- The text of a double; infinities and NaN are spelled `inf`, `-inf` and `NaN`. -/
def floatText (layout : FloatLayout) (x : Float) : String :=
  let bits := x.toBits
  let sign := if signBit bits then "-" else ""
  if biasedExponent bits == 0x7FF then
    if fraction bits == 0 then sign ++ "inf" else "NaN"
  else
    match Binary.ofBits? bits with
    | none => sign ++ "0.0"
    | some b => sign ++ String.ofList (decimalText layout (shortest b))

def Number.text : Number → String
  | .nat n => toString n
  | .negative i => toString i
  | .float x => floatText FloatLayout.json x

def hexDigit (n : Nat) : Char := if n < 10 then Char.ofNat (48 + n) else Char.ofNat (87 + n)

def escapeChar (c : Char) : List Char :=
  if c == '"' then ['\\', '"']
  else if c == '\\' then ['\\', '\\']
  else if c == '\n' then ['\\', 'n']
  else if c == '\r' then ['\\', 'r']
  else if c == '\t' then ['\\', 't']
  else if c.toNat == 8 then ['\\', 'b']
  else if c.toNat == 12 then ['\\', 'f']
  else if c.toNat < 0x20 then ['\\', 'u', '0', '0', hexDigit (c.toNat / 16), hexDigit (c.toNat % 16)]
  else [c]

def quote (s : String) : String :=
  String.ofList ('"' :: (s.toList.flatMap escapeChar ++ ['"']))

mutual
def Value.render : Value → String
  | .null => "null"
  | .bool true => "true"
  | .bool false => "false"
  | .number n => n.text
  | .string s => quote s
  | .array items => "[" ++ renderItems items ++ "]"
  | .object fields => "\x7b" ++ renderFields fields ++ "\x7d"

def renderItems : List Value → String
  | [] => ""
  | [v] => v.render
  | v :: rest => v.render ++ "," ++ renderItems rest

def renderFields : List (String × Value) → String
  | [] => ""
  | [(k, v)] => quote k ++ ":" ++ v.render
  | (k, v) :: rest => quote k ++ ":" ++ v.render ++ "," ++ renderFields rest
end

theorem render_null : Value.render .null = "null" := by
  simp [Value.render]

theorem escapeChar_plain (c : Char) (h1 : c ≠ '"') (h2 : c ≠ '\\') (h3 : 0x20 ≤ c.toNat) :
    escapeChar c = [c] := by
  have h4 : c ≠ '\n' := fun h => by subst h; simp at h3
  have h5 : c ≠ '\r' := fun h => by subst h; simp at h3
  have h6 : c ≠ '\t' := fun h => by subst h; simp at h3
  have h7 : c.toNat ≠ 8 := by omega
  have h8 : c.toNat ≠ 12 := by omega
  have h9 : ¬ c.toNat < 0x20 := by omega
  simp [escapeChar, h1, h2, h4, h5, h6, h7, h8, h9]

end BookRelay.Json
