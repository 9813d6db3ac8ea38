import BookRelay.Url.Punycode

/-!
# Domain names in ASCII

A domain of a URL is brought to ASCII in the way of Unicode IDNA processing (UTS 46, not
transitional): every character is mapped (upper case to lower case, compatibility forms to
their plain form, a few characters dropped, some refused), the result is split into labels at
dots, a label with non-ASCII characters is written as `xn--` and its Punycode, and a label
already in that form must decode to a label that needs it. A label may not begin with a
combining mark. The result may not hold a character that has a meaning in URLs or is a
control or space.

The mapping covers the Latin, Greek and Cyrillic letters with case, the full-width forms, the
dots of East Asian scripts, and the characters that are dropped or refused outright; every
other character is kept as it is.
-/

namespace BookRelay.Url

/-- What the mapping of domains does with a character. -/
inductive CharRule where
  | keep
  | replace (chars : List Char)
  | drop
  | refuse
  deriving Repr, BEq, DecidableEq

/-- The lower-case letter of an upper-case letter `d` code points above it. -/
def shifted (c : Char) (d : Nat) : CharRule := .replace [Char.ofNat (c.toNat + d)]

/-- Whether a code point lies in a range, both ends included. -/
def within (n lo hi : Nat) : Bool := lo ≤ n && n ≤ hi

def asciiRule (c : Char) : CharRule :=
  if 'A' ≤ c && c ≤ 'Z' then shifted c 32 else .keep

/-- The mapping of a character of the Latin blocks below U+0180. -/
def latinRule (c : Char) : CharRule :=
  let n := c.toNat
  if within n 0x80 0x9F then .refuse
  else if n == 0xA0 || n == 0xA8 || n == 0xAF || n == 0xB4 || n == 0xB8 then .refuse
  else if n == 0xAD then .drop
  else if n == 0xAA then .replace ['a']
  else if n == 0xBA then .replace ['o']
  else if n == 0xB2 then .replace ['2']
  else if n == 0xB3 then .replace ['3']
  else if n == 0xB9 then .replace ['1']
  else if n == 0xB5 then .replace [Char.ofNat 0x3BC]
  else if within n 0xC0 0xDE && n != 0xD7 then shifted c 32
  else if n == 0x130 then .replace ['i', Char.ofNat 0x307]
  else if n == 0x132 || n == 0x133 then .replace ['i', 'j']
  else if n == 0x13F || n == 0x140 then .replace ['l', Char.ofNat 0xB7]
  else if n == 0x149 then .replace [Char.ofNat 0x2BC, 'n']
  else if n == 0x178 then .replace [Char.ofNat 0xFF]
  else if n == 0x17F then .replace ['s']
  else if (within n 0x100 0x12F || within n 0x134 0x137 || within n 0x14A 0x177) && n % 2 == 0 then
    shifted c 1
  else if (within n 0x139 0x148 || within n 0x179 0x17E) && n % 2 == 1 then shifted c 1
  else .keep

def greekCyrillicRule (c : Char) : CharRule :=
  let n := c.toNat
  if n == 0x386 then .replace [Char.ofNat 0x3AC]
  else if within n 0x388 0x38A then shifted c 0x25
  else if n == 0x38C then .replace [Char.ofNat 0x3CC]
  else if within n 0x38E 0x38F then shifted c 0x3F
  else if within n 0x391 0x3A9 && n != 0x3A2 then shifted c 0x20
  else if within n 0x400 0x40F then shifted c 0x50
  else if within n 0x410 0x42F then shifted c 0x20
  else .keep

/-- The mapping of a character from U+2000 on. -/
def laterRule (c : Char) : CharRule :=
  let n := c.toNat
  if n == 0x200B || n == 0x2060 || n == 0xFEFF || within n 0xFE00 0xFE0F then .drop
  else if within n 0x2000 0x200A || within n 0x200C 0x200F || within n 0x2028 0x202F ||
      n == 0x205F || within n 0x2061 0x206F || n == 0x3000 then .refuse
  else if n == 0x3002 || n == 0xFF0E || n == 0xFF61 then .replace ['.']
  else if within n 0xFF01 0xFF5E then
    let a := Char.ofNat (n - 0xFEE0)
    match asciiRule a with
    | .replace cs => .replace cs
    | _ => .replace [a]
  else if within n 0xE000 0xF8FF || within n 0xFDD0 0xFDEF || within n 0xFFF0 0xFFFF ||
      0xF0000 ≤ n || (n % 0x10000 ≥ 0xFFFE) then .refuse
  else if within n 0xE0100 0xE01EF then .drop
  else if within n 0xE0000 0xE0FFF then .refuse
  else .keep

def charRule (c : Char) : CharRule :=
  let n := c.toNat
  if n < 0x80 then asciiRule c
  else if n < 0x180 then latinRule c
  else if n == 0x34F || within n 0x180B 0x180D then .drop
  else if n < 0x530 then greekCyrillicRule c
  else if n < 0x2000 then .keep
  else laterRule c

example : charRule 'A' = .replace ['a'] := by decide

/-- The characters of a domain after mapping, none when one is refused. -/
def mapDomain (cs : List Char) : Option (List Char) :=
  cs.foldr (fun c acc => acc.bind fun rest => match charRule c with
    | .keep => some (c :: rest)
    | .replace r => some (r ++ rest)
    | .drop => some rest
    | .refuse => none) (some [])

/-- Whether a character is a combining mark, which may not begin a label. -/
def isCombiningMark (c : Char) : Bool :=
  let n := c.toNat
  within n 0x300 0x36F || within n 0x483 0x489 || within n 0x591 0x5BD ||
    within n 0x610 0x61A || within n 0x64B 0x65F || n == 0x670 || within n 0x6D6 0x6DC ||
    within n 0x900 0x903 || within n 0x93A 0x93C || within n 0x93E 0x94F ||
    within n 0x1AB0 0x1AFF || within n 0x1DC0 0x1DFF || within n 0x20D0 0x20FF ||
    within n 0xFE20 0xFE2F

/-- Whether an ASCII character may not stand in a domain: controls, space, delete, and the
characters with a meaning in URLs. -/
def deniedInDomain (c : Char) : Bool :=
  c.toNat ≤ 0x20 || c.toNat == 0x7F || "%#/:<>?@[\\]^|".contains c

/-- Whether a label is valid once decoded: not empty, not all ASCII, every character kept
by the mapping, and no combining mark first. -/
def validDecoded (label : List Char) : Bool :=
  !label.isEmpty && !label.all (·.toNat < 0x80) && label.all (charRule · == .keep) &&
    !(label.head?.map isCombiningMark).getD false

def asciiLabel (label : List Char) : Option String :=
  match label with
  | 'x' :: 'n' :: '-' :: '-' :: coded =>
    match Punycode.decode? coded with
    | some decoded => if validDecoded decoded then some (String.ofList label) else none
    | none => none
  | _ =>
    if label.all (·.toNat < 0x80) then some (String.ofList label)
    else if (label.head?.map isCombiningMark).getD false then none
    else some ("xn--" ++ Punycode.encode label)

/-- A domain in ASCII, none when it cannot be one. -/
def domainToAscii (cs : List Char) : Option String := do
  let mapped ← mapDomain cs
  let labels ← (mapped.splitOn '.').mapM asciiLabel
  let text := ".".intercalate labels
  if text.toList.any deniedInDomain then none else some text

end BookRelay.Url
