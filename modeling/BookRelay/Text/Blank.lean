/-!
# White space

The characters with the Unicode White_Space property, and trimming by them. ASCII case
mapping leaves every other character alone.
-/

namespace BookRelay.Text

def isWhiteSpace (c : Char) : Bool :=
  let n := c.toNat
  (0x09 ≤ n && n ≤ 0x0D) || n == 0x20 || n == 0x85 || n == 0xA0 || n == 0x1680 ||
    (0x2000 ≤ n && n ≤ 0x200A) || n == 0x2028 || n == 0x2029 || n == 0x202F || n == 0x205F ||
    n == 0x3000

/-- A text without white space at either end. -/
def trim (s : String) : String :=
  String.ofList ((s.toList.dropWhile isWhiteSpace).reverse.dropWhile isWhiteSpace).reverse

/-- Whether a text is empty once trimmed. -/
def isBlank (s : String) : Bool := s.toList.all isWhiteSpace

/-- ASCII letters in upper case, every other character unchanged. -/
def asciiUpper (s : String) : String := s.map Char.toUpper

/-- ASCII letters in lower case, every other character unchanged. -/
def asciiLower (s : String) : String := s.map Char.toLower

end BookRelay.Text
