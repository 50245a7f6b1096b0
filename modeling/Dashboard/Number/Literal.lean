import Dashboard.Text.Blank
import Dashboard.Text.Class

/-!
# Integer literals

`readInt?` reads a text as a decimal integer: white space around it does not count, a sign may
stand in front, and single underscores may stand between digits of any script.

Integers are converted from and to decimal digits only up to `mostDigits` of them. `readInteger`
says which of the two faults a text has, and `isWritable` holds of the integers that can be written.
-/

namespace Dashboard

open Text

/-- Digits with single underscores between them; `value` is what the digits so far write. -/
def readDigits? (value : Nat) : List Char → Option Nat
  | [] => some value
  | '_' :: c :: r => (decimalValue? c).bind fun d => readDigits? (10 * value + d) r
  | c :: r => (decimalValue? c).bind fun d => readDigits? (10 * value + d) r

/-- A natural number that starts with a digit. -/
def readNat? : List Char → Option Nat
  | [] => none
  | c :: r => (decimalValue? c).bind fun d => readDigits? d r

/-- An integer with an optional sign. -/
def readInt? (s : List Char) : Option Int :=
  match strip s with
  | '-' :: r => (readNat? r).map fun n => -(n : Int)
  | '+' :: r => (readNat? r).map Int.ofNat
  | r => (readNat? r).map Int.ofNat

/-! ### Long integers -/

/-- The largest number of digits that is converted. -/
def mostDigits : Nat := 4300

/-- An integer has no more digits than are converted. -/
def isWritable (n : Int) : Bool := decide (n.natAbs < Nat.pow 10 mostDigits)

/-- Why a text is no integer: it does not have the form of one, or it has too many digits. -/
inductive IntegerFault where
  | malformed
  | tooLong (digits : Nat)
  deriving Repr, DecidableEq

/-- What is said of a text with too many digits. -/
def tooLongToRead (digits : Nat) : String :=
  "Exceeds the limit (" ++ toString mostDigits ++ " digits) for integer string conversion: " ++
    "value has " ++ toString digits ++
    " digits; use sys.set_int_max_str_digits() to increase the limit"

/-- What is said of an integer with too many digits. -/
def tooLongToWrite : String :=
  "Exceeds the limit (" ++ toString mostDigits ++ " digits) for integer string conversion; " ++
    "use sys.set_int_max_str_digits() to increase the limit"

/-- The number of digits at the front of a text, `count` of which have been read already; none if
an underscore is not between digits. -/
def digitCount? (count : Nat) : List Char → Option Nat
  | [] => some count
  | '_' :: c :: r => if (decimalValue? c).isSome then digitCount? (count + 1) r else none
  | ['_'] => none
  | c :: r => if (decimalValue? c).isSome then digitCount? (count + 1) r else some count

/-- The number of digits of an integer literal; whatever stands behind them does not count. -/
def literalDigits? (s : List Char) : Option Nat :=
  let body := match strip s with
    | '-' :: r => r
    | '+' :: r => r
    | r => r
  match body with
  | '_' :: _ => none
  | r => digitCount? 0 r

/-- An integer, or why there is none. -/
def readInteger (s : List Char) : Except IntegerFault Int :=
  match (literalDigits? s).filter (mostDigits < ·) with
  | some n => throw (.tooLong n)
  | none => match readInt? s with
    | some n => return n
    | none => throw .malformed

end Dashboard
