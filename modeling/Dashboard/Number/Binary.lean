import Dashboard.Number.Digits

/-!
# Binary floating point

* `Binary` is what a double stands for: no number, an infinity, or `± mantissa · 2 ^ exponent`.
* `nearestBits num den` is the magnitude of the double nearest to `num / den`, a tie going to the
  even mantissa; `overflowBits` stands for every number too large.
* `nearest?` is the nearest double, unless there is none.
-/

namespace Dashboard

/-- What a double stands for. -/
inductive Binary where
  | nan
  | infinite (negative : Bool)
  | finite (negative : Bool) (mantissa : Nat) (exponent : Int)
  deriving Repr, DecidableEq

namespace Binary

/-- The bits of the infinity. -/
def overflowBits : Nat := 0x7FF * Nat.pow 2 52

/-- The double that a bit pattern encodes. -/
def ofBits (bits : Nat) : Binary :=
  let negative := decide (Nat.pow 2 63 ≤ bits)
  let biased : Nat := bits / Nat.pow 2 52 % Nat.pow 2 11
  let fraction : Nat := bits % Nat.pow 2 52
  if biased = 0x7FF then if fraction = 0 then infinite negative else nan
  else if biased = 0 then finite negative fraction (-1074)
  else finite negative (Nat.pow 2 52 + fraction) ((biased : Int) - 1075)

/-- What a double stands for. -/
def ofFloat (x : Float) : Binary := ofBits x.toBits.toNat

/-- The quotient `num / den` rounded to an integer, a tie going to the even one. -/
def roundHalfEven (num den : Nat) : Nat :=
  let q := num / den
  let r := num % den
  if 2 * r < den then q else if den < 2 * r then q + 1 else q + q % 2

/-- The largest `e` with `2 ^ e ≤ num / den`, for positive `num` and `den`. -/
def floorLog (num den : Nat) : Int :=
  let e : Int := (num.log2 : Int) - den.log2
  if den * Nat.pow 2 e.toNat ≤ num * Nat.pow 2 (-e).toNat then e else e - 1

/-- The magnitude bits of the double nearest to `num / den`. -/
def nearestBits (num den : Nat) : Nat :=
  if num = 0 then 0
  else
    let q : Int := max (floorLog num den - 52) (-1074)
    let m := roundHalfEven (num * Nat.pow 2 (-q).toNat) (den * Nat.pow 2 q.toNat)
    min ((q + 1074).toNat * Nat.pow 2 52 + m) overflowBits

/-- A double from its sign and its magnitude bits. -/
def toFloat (negative : Bool) (magnitude : Nat) : Float :=
  Float.ofBits (UInt64.ofNat ((if negative then Nat.pow 2 63 else 0) + magnitude))

/-- The double nearest to `± num / den`; the infinity when the number is too large. -/
def nearest (negative : Bool) (num den : Nat) : Float := toFloat negative (nearestBits num den)

/-- The double nearest to an integer, unless the integer is too large. -/
def nearestInt? (n : Int) : Option Float :=
  let bits := nearestBits n.natAbs 1
  if bits = overflowBits then none else some (toFloat (decide (n < 0)) bits)

/-- The double nearest to `± digits · 10 ^ exponent`; the infinity when the number is too large. -/
def nearestDecimal (negative : Bool) (digits : Nat) (exponent : Int) : Float :=
  let size : Int := (Nat.toDigits 10 digits).length + exponent
  if digits = 0 ∨ size < -400 then toFloat negative 0
  else if 400 < size then toFloat negative overflowBits
  else nearest negative (digits * Nat.pow 10 exponent.toNat) (Nat.pow 10 (-exponent).toNat)

/-- The integer part of a finite double. -/
def truncate (negative : Bool) (mantissa : Nat) (exponent : Int) : Int :=
  let n : Nat := mantissa * Nat.pow 2 exponent.toNat / Nat.pow 2 (-exponent).toNat
  signed negative n

end Binary
end Dashboard
