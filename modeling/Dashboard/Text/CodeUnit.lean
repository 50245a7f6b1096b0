import Dashboard.Text.Letter

/-!
# Code units

A code unit is a number of sixteen bits. The units from `0xD800` to `0xDFFF` are halves of pairs,
which stand for the characters beyond the others: `pairChar`. A half without its partner is a letter
of its own, `Letter.ofCode`.
-/

namespace Dashboard
namespace Text

/-- The first half of a pair of code units. -/
def isHighHalf (n : Nat) : Bool := decide (0xD800 ≤ n) && decide (n < 0xDC00)

/-- The second half of a pair of code units. -/
def isLowHalf (n : Nat) : Bool := decide (0xDC00 ≤ n) && decide (n < 0xE000)

/-- The character of a pair of code units. -/
def pairChar (n m : Nat) : Char := Char.ofNat (0x10000 + (n - 0xD800) * 0x400 + (m - 0xDC00))

end Text
end Dashboard
