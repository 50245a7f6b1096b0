import Dashboard.Text.Class
import Dashboard.Text.Letter

/-!
# Quoted text

`quoted s` is the form in which messages show a text: between single quotes, or between double
quotes when the text holds a single quote and no double one. The backslash, the quote in use, tabs
and line breaks are escaped by a backslash, and every other letter that is not printable by its
number in two, four or eight hexadecimal digits.
-/

namespace Dashboard
namespace Text

/-- A hexadecimal digit in lower case. -/
def hexDigit (n : Nat) : Char := if n < 10 then Char.ofNat (0x30 + n) else Char.ofNat (0x57 + n)

/-- The last `width` hexadecimal digits of `n`. -/
def hexDigits : Nat → Nat → List Char
  | 0, _ => []
  | width + 1, n => hexDigits width (n / 16) ++ [hexDigit (n % 16)]

/-- A character as it stands between quotes of the kind `q`. -/
def escaped (q c : Char) : List Char :=
  if c == q || c == '\\' then ['\\', c]
  else if c == '\n' then ['\\', 'n']
  else if c == '\r' then ['\\', 'r']
  else if c == '\t' then ['\\', 't']
  else if isPrintable c then [c]
  else if c.toNat < 0x100 then '\\' :: 'x' :: hexDigits 2 c.toNat
  else if c.toNat < 0x10000 then '\\' :: 'u' :: hexDigits 4 c.toNat
  else '\\' :: 'U' :: hexDigits 8 c.toNat

/-- A letter as it stands between quotes of the kind `q`. -/
def escapedLetter (q : Char) : Letter → List Char
  | .char c => escaped q c
  | .half i => '\\' :: 'u' :: hexDigits 4 (Letter.half i).code

/-- The quote that a text is shown between. -/
def quoteFor (s : List Char) : Char :=
  if s.contains '\'' && !s.contains '"' then '"' else '\''

/-- A text between quotes. -/
def quoted (s : String) : String :=
  let q := quoteFor s.toList
  String.ofList (q :: (letters s.toList).flatMap (escapedLetter q) ++ [q])

/-- What a message shows of a long quoted text: its first two hundred characters. -/
def clipped (s : String) : String := String.ofList (s.toList.take 200)

/-- A byte as it stands between quotes of the kind `q`: ASCII alone is shown. -/
def escapedByte (q : Char) (b : UInt8) : List Char :=
  if b.toNat < 0x7F then escaped q (Char.ofNat b.toNat) else '\\' :: 'x' :: hexDigits 2 b.toNat

end Text
end Dashboard
