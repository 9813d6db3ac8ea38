/-!
# Quoted text in messages

Error messages show a piece of text between double quotes. Inside them a quote and a backslash
get a backslash, tab, line feed and carriage return their usual two-letter escapes, NUL is
`\0`, and every other character that does not print (controls, format characters, combining
marks) is written as `\u{hex}` with lower-case digits and no leading zeros.
-/

namespace BookRelay.Text

/-- Ranges of characters that do not print on their own and are escaped in quoted text. -/
def nonPrinting : List (Nat × Nat) :=
  [(0x00, 0x1F), (0x7F, 0x9F), (0xAD, 0xAD), (0x300, 0x36F), (0x483, 0x489), (0x591, 0x5BD),
   (0x600, 0x605), (0x61C, 0x61C), (0x6DD, 0x6DD), (0x70F, 0x70F), (0x180E, 0x180E),
   (0x200B, 0x200F), (0x2028, 0x202E), (0x2060, 0x2064), (0x2066, 0x206F), (0x20D0, 0x20F0),
   (0xD800, 0xDFFF), (0xE000, 0xF8FF), (0xFE00, 0xFE0F), (0xFE20, 0xFE2F), (0xFEFF, 0xFEFF),
   (0xFFF9, 0xFFFB), (0xFFFE, 0xFFFF), (0xE0000, 0xE0FFF), (0xF0000, 0x10FFFF)]

def printsAsIs (c : Char) : Bool :=
  !(nonPrinting.any fun (lo, hi) => lo ≤ c.toNat && c.toNat ≤ hi)

/-- Lower-case hexadecimal digits of `n` without leading zeros. -/
def hexText (n : Nat) : List Char := Nat.toDigits 16 n

def quotedChar (c : Char) : List Char :=
  if c == '"' then ['\\', '"']
  else if c == '\\' then ['\\', '\\']
  else if c == '\n' then ['\\', 'n']
  else if c == '\r' then ['\\', 'r']
  else if c == '\t' then ['\\', 't']
  else if c.toNat == 0 then ['\\', '0']
  else if printsAsIs c then [c]
  else ['\\', 'u', '\x7b'] ++ hexText c.toNat ++ ['\x7d']

example : quotedChar '"' = ['\\', '"'] := by
  simp [quotedChar]

def quoted (s : String) : String :=
  String.ofList ('"' :: s.toList.flatMap quotedChar ++ ['"'])

end BookRelay.Text
