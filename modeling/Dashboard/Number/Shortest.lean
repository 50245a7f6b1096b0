import Dashboard.Number.Binary

/-!
# Shortest decimals

A finite positive double `m · 2 ^ q` is the double nearest to every number of an interval around it.
`shortest m q` is the decimal of fewest digits in that interval, and of those the nearest to the
double: for one digit, two digits, … it looks at the two neighbours of the double on that decimal
grid. `floatText` writes a double by its shortest decimal.
-/

namespace Dashboard
namespace Binary

/-- A double as a fraction of four times its value, so that the interval has integer ends. -/
structure Interval where
  value : Nat
  low : Nat
  high : Nat
  den : Nat
  closed : Bool
  deriving Repr, DecidableEq

/-- The numbers whose nearest double is `m · 2 ^ q`; below a power of two the doubles lie closer. -/
def interval (m : Nat) (q : Int) : Interval :=
  let up := Nat.pow 2 q.toNat
  let below := if m = Nat.pow 2 52 ∧ -1074 < q then 1 else 2
  { value := 4 * m * up
    low := (4 * m - below) * up
    high := (4 * m + 2) * up
    den := 4 * Nat.pow 2 (-q).toNat
    closed := m % 2 == 0 }

/-- The largest `e` with `10 ^ e ≤ num / den`, for positive `num` and `den`. -/
def decimalExponent (num den : Nat) : Int :=
  if den ≤ num then (Nat.toDigits 10 (num / den)).length - 1
  else -((Nat.toDigits 10 ((den + num - 1) / num - 1)).length : Int)

/-- The decimal `d · 10 ^ e` lies in the interval. -/
def Interval.contains (i : Interval) (d : Nat) (e : Int) : Bool :=
  let x := d * Nat.pow 10 e.toNat * i.den
  let s := Nat.pow 10 (-e).toNat
  if i.closed then decide (i.low * s ≤ x) && decide (x ≤ i.high * s)
  else decide (i.low * s < x) && decide (x < i.high * s)

/-- The neighbour of the value on the grid of the multiples of `10 ^ e` that lies in the interval;
of two the nearer, and of two equally near the even one. -/
def Interval.onGrid? (i : Interval) (e : Int) : Option Nat :=
  let num := i.value * Nat.pow 10 (-e).toNat
  let den := i.den * Nat.pow 10 e.toNat
  let d := num / den
  let r := num % den
  match i.contains d e, i.contains (d + 1) e with
  | true, true =>
    if 2 * r < den ∨ (2 * r = den ∧ d % 2 = 0) then some d else some (d + 1)
  | true, false => some d
  | false, true => some (d + 1)
  | false, false => none

/-- The first grid with a hit, starting at the grid of `10 ^ e` and growing finer. -/
def Interval.search (i : Interval) : Nat → Int → Nat × Int
  | 0, e => (i.value * Nat.pow 10 (-e).toNat / (i.den * Nat.pow 10 e.toNat), e)
  | n + 1, e => match i.onGrid? e with
    | some d => (d, e)
    | none => i.search n (e - 1)

/-- The shortest decimal `d · 10 ^ e` of a positive finite double, seventeen digits at most. -/
def shortest (m : Nat) (q : Int) : Nat × Int :=
  let i := interval m q
  i.search 17 (decimalExponent i.value i.den)

/-- Where a double is written without an exponent, and how its exponent is written otherwise. -/
structure FloatStyle where
  leastPositional : Int
  mostPositional : Int
  exponentWidth : Nat
  deriving Repr, DecidableEq

/-- Doubles from `0.0001` up to but not including `1e+16` are written without an exponent; an
exponent has a sign and at least two digits. -/
def floatStyle : FloatStyle := ⟨-4, 15, 2⟩

/-- A digit string without its trailing zeros. -/
def trimZeros (ds : List Char) : List Char := (ds.reverse.dropWhile (· == '0')).reverse

/-- Digits `ds` with the point after the first, times `10 ^ e`. -/
def decimalText (style : FloatStyle) (ds : List Char) (e : Int) : List Char :=
  if style.leastPositional ≤ e ∧ e ≤ style.mostPositional then
    if e < 0 then ['0', '.'] ++ List.replicate ((-e).toNat - 1) '0' ++ ds
    else
      let whole := ds.take (e.toNat + 1)
      let rest := ds.drop (e.toNat + 1)
      whole ++ List.replicate (e.toNat + 1 - whole.length) '0' ++ ['.'] ++
        (if rest.isEmpty then ['0'] else rest)
  else
    let ex := Nat.toDigits 10 e.natAbs
    let zeros := List.replicate (style.exponentWidth - ex.length) '0'
    ds.take 1 ++ (if ds.length ≤ 1 then [] else '.' :: ds.drop 1) ++
      ['e', if e < 0 then '-' else '+'] ++ zeros ++ ex

end Binary

open Binary in
/-- The text of a double: its shortest decimal, or `inf`, `-inf` or `nan`. -/
def floatText (x : Float) : String :=
  match Binary.ofFloat x with
  | .nan => "nan"
  | .infinite negative => if negative then "-inf" else "inf"
  | .finite negative m q =>
    let body :=
      if m = 0 then ['0', '.', '0']
      else
        let (d, e) := shortest m q
        let ds := Nat.toDigits 10 d
        decimalText floatStyle (trimZeros ds) (e + ds.length - 1)
    String.ofList (if negative then '-' :: body else body)

end Dashboard
