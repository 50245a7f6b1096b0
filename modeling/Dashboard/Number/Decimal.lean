import Dashboard.Number.Binary
import Dashboard.Number.Digits
import Dashboard.Text.Blank
import Dashboard.Text.Class

/-!
# Decimal numbers

* `Decimal` is a decimal number of unlimited precision, an infinity, or one of the two kinds of
  missing number.
* `Decimal.ofText?` reads its usual text, as in `-1.50e3`, `Infinity` or `sNaN`.
* `Decimal.toFloat?` is the nearest double; a signaling missing number has none.
-/

namespace Dashboard

/-- A decimal number `± digits · 10 ^ exponent`, or one of the special ones. -/
inductive Decimal where
  | finite (negative : Bool) (digits : Nat) (exponent : Int)
  | infinite (negative : Bool)
  | nan (signaling : Bool)
  deriving Repr, DecidableEq

namespace Decimal

open Text

/-- The leading digits, of any script, and the rest. -/
def splitDigits (s : List Char) : List Nat × List Char := spanDigits decimalValue? s

/-- The exponent part of a number, absent or `e` with a signed integer. -/
def exponentOf? : List Char → Option Int
  | [] => some 0
  | c :: r =>
    if c == 'e' || c == 'E' then
      let (negative, r) := splitSign r
      match splitDigits r with
      | (d :: ds, []) => some (signed negative (ofDigits (d :: ds)))
      | _ => none
    else none

/-- The digits after the point, and what follows them. -/
def splitFraction : List Char → List Nat × List Char
  | '.' :: r => splitDigits r
  | r => ([], r)

/-- A number in digits, with an optional point and exponent. -/
def finiteOf? (negative : Bool) (s : List Char) : Option Decimal :=
  let (whole, r) := splitDigits s
  let (fraction, r) := splitFraction r
  if whole.isEmpty && fraction.isEmpty then none
  else (exponentOf? r).map fun e =>
    finite negative (ofDigits (whole ++ fraction)) (e - fraction.length)

/-- A special number by its name in lower case; a missing number may carry digits. -/
def specialOf? (negative : Bool) (s : List Char) : Option Decimal :=
  match s with
  | ['i', 'n', 'f'] | ['i', 'n', 'f', 'i', 'n', 'i', 't', 'y'] => some (infinite negative)
  | 'n' :: 'a' :: 'n' :: r => if (splitDigits r).2.isEmpty then some (nan false) else none
  | 's' :: 'n' :: 'a' :: 'n' :: r => if (splitDigits r).2.isEmpty then some (nan true) else none
  | _ => none

/-- Reads a decimal number; white space around it and underscores in it do not count. -/
def ofText? (s : String) : Option Decimal :=
  let (negative, body) := splitSign ((strip s.toList).filter (· != '_'))
  (finiteOf? negative body).or (specialOf? negative (body.map Char.toLower))

/-- The double nearest to a decimal number; none for a signaling missing number. -/
def toFloat? : Decimal → Option Float
  | finite negative digits exponent => some (Binary.nearestDecimal negative digits exponent)
  | infinite negative => some (Binary.toFloat negative Binary.overflowBits)
  | nan false => some (Binary.toFloat false (Binary.overflowBits + Nat.pow 2 51))
  | nan true => none

/-- The integer part of `± digits · 10 ^ exponent`. -/
def truncate (negative : Bool) (digits : Nat) (exponent : Int) : Int :=
  let n : Nat := digits * Nat.pow 10 exponent.toNat / Nat.pow 10 (-exponent).toNat
  signed negative n

end Decimal
end Dashboard
