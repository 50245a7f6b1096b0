import Dashboard.Text.ClassTable

/-!
# Character classes

* `isWord` holds of the characters that a word is made of: letters, digits, numerals and the
  underscore.
* `decimalValue?` is the value of a decimal digit of any script.
* `isPrintable` holds of the characters that a quoted text shows as they are.

Each class is a formula on ASCII and a table beyond it.
-/

namespace Dashboard
namespace Text

/-- Membership in a table of inclusive ranges. -/
def inRanges (table : Array (Nat × Nat)) (n : Nat) : Bool :=
  table.any fun r => decide (r.1 ≤ n) && decide (n ≤ r.2)

/-- The characters of a word on ASCII. -/
def isAsciiWord (c : Char) : Bool :=
  ('a' ≤ c && c ≤ 'z') || ('A' ≤ c && c ≤ 'Z') || ('0' ≤ c && c ≤ '9') || c == '_'

/-- Letters, digits, numerals and the underscore. -/
def isWord (c : Char) : Bool :=
  if c.toNat < 0x80 then isAsciiWord c else inRanges wordRanges c.toNat

/-- The value of a decimal digit. -/
def decimalValue? (c : Char) : Option Nat :=
  if c.toNat < 0x80 then
    if '0' ≤ c && c ≤ '9' then some (c.toNat - 0x30) else none
  else
    (digitZeros.find? fun z => decide (z ≤ c.toNat) && decide (c.toNat ≤ z + 9)).map (c.toNat - ·)

/-- The characters with a visible form of their own, and the space. -/
def isPrintable (c : Char) : Bool :=
  if c.toNat < 0x7F then decide (0x20 ≤ c.toNat) else !inRanges unprintableRanges c.toNat

end Text
end Dashboard
