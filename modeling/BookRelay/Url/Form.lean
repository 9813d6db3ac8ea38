import BookRelay.Url.Basic

/-!
# Form-encoded queries

The `application/x-www-form-urlencoded` writing of name and value pairs: ASCII letters,
digits and `*-._` stay, a space becomes `+`, and every other byte of the UTF-8 text is a
percent escape. Pairs are joined by `&` and appended to a URL's query.
-/

namespace BookRelay.Url

def formByte (b : UInt8) : String :=
  let c := Char.ofNat b.toNat
  if b < 0x80 && (c.isAlphanum || c == '*' || c == '-' || c == '.' || c == '_') then c.toString
  else if c == ' ' then "+"
  else escapeByte b

example : formByte 32 = "+" := by decide

def formEncode (s : String) : String := String.join ((Text.Utf8.encode s).map formByte)

def formPairs (pairs : List (String × String)) : String :=
  "&".intercalate (pairs.map fun (k, v) => formEncode k ++ "=" ++ formEncode v)

/-- A URL with pairs added to its query, after an `&` when the query already holds text. -/
def Url.appendPairs (u : Url) (pairs : List (String × String)) : Url :=
  let added := formPairs pairs
  { u with query := some (match u.query with
    | none => added
    | some q => if q.isEmpty then added else q ++ "&" ++ added) }

end BookRelay.Url
