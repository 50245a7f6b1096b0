import Dashboard.Text.CodeUnit

/-!
# Encodings

A JSON text may come in UTF-8, UTF-16 or UTF-32, with either byte first. It starts with two
characters of ASCII, so the zeros among its first bytes tell which it is: `Encoding.ofBytes`.

`Encoding.decode?` makes letters of bytes. A half of a pair without its partner is let through.
-/

namespace Dashboard
namespace Text

/-- The encodings of a text; in the wide ones the most significant byte may come first. -/
inductive Encoding where
  | utf8
  | utf16 (big : Bool)
  | utf32 (big : Bool)
  deriving Repr, DecidableEq

namespace Encoding

/-- The encoding that the first bytes of a text suggest. -/
def ofBytes : List UInt8 → Encoding
  | a :: b :: c :: d :: _ =>
    if a = 0 then (if b = 0 then utf32 true else utf16 true)
    else if b = 0 then (if c = 0 ∧ d = 0 then utf32 false else utf16 false)
    else utf8
  | [a, b] => if a = 0 then utf16 true else if b = 0 then utf16 false else utf8
  | _ => utf8

/-- The number that two bytes make. -/
def pair (big : Bool) (a b : UInt8) : Nat :=
  if big then 256 * a.toNat + b.toNat else 256 * b.toNat + a.toNat

/-- The code units of bytes, unless there is half a unit too much. -/
def units? (big : Bool) : List UInt8 → Option (List Nat)
  | [] => some []
  | a :: b :: r => (units? big r).map (pair big a b :: ·)
  | [_] => none

/-- The letters of code units of sixteen bits. -/
def ofUnits : List Nat → List Letter
  | [] => []
  | [n] => [.ofCode n]
  | n :: m :: r =>
    if isHighHalf n && isLowHalf m then .char (pairChar n m) :: ofUnits r
    else .ofCode n :: ofUnits (m :: r)

/-- The letters of pairs of units, which make one number of thirty-two bits each. -/
def ofWide? (big : Bool) : List Nat → Option (List Letter)
  | [] => some []
  | [_] => none
  | n :: m :: r =>
    let code := if big then 0x10000 * n + m else 0x10000 * m + n
    if code < 0x110000 then (ofWide? big r).map (.ofCode code :: ·) else none

/-- The letters of bytes. -/
def decode? (e : Encoding) (bytes : List UInt8) : Option (List Letter) :=
  match e with
  | utf8 => (String.fromUTF8? (ByteArray.mk bytes.toArray)).map fun s => s.toList.map .char
  | utf16 big => (units? big bytes).map ofUnits
  | utf32 big => (units? big bytes).bind (ofWide? big)

end Encoding
end Text
end Dashboard
