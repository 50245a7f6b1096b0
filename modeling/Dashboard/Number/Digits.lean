/-!
# Digits

* `asciiDigit?` is the value of one of the digits `0` to `9`, `hexDigit?` that of a hexadecimal
  digit.
* `spanDigits` splits a text after its leading digits, for any notion of a digit.
* `ofDigits` is the number that digits write, `splitSign` the sign in front of a number.
-/

namespace Dashboard

/-- The value of an ASCII digit. -/
def asciiDigit? (c : Char) : Option Nat :=
  if '0' ≤ c ∧ c ≤ '9' then some (c.toNat - 0x30) else none

/-- The value of a hexadecimal digit. -/
def hexDigit? (c : Char) : Option Nat :=
  if '0' ≤ c ∧ c ≤ '9' then some (c.toNat - 0x30)
  else if 'a' ≤ c ∧ c ≤ 'f' then some (c.toNat - 0x57)
  else if 'A' ≤ c ∧ c ≤ 'F' then some (c.toNat - 0x37)
  else none

/-- The values of the leading digits, and the rest. -/
def spanDigits (digit? : Char → Option Nat) : List Char → List Nat × List Char
  | [] => ([], [])
  | c :: r => match digit? c with
    | some d => (d :: (spanDigits digit? r).1, (spanDigits digit? r).2)
    | none => ([], c :: r)

/-- The number that digits write, most significant digit first. -/
def ofDigits (ds : List Nat) : Nat := ds.foldl (fun n d => 10 * n + d) 0

/-- Whether a minus sign stands in front of a number, and the number without its sign. -/
def splitSign : List Char → Bool × List Char
  | '-' :: r => (true, r)
  | '+' :: r => (false, r)
  | r => (false, r)

/-- A natural number with a sign. -/
def signed (negative : Bool) (n : Nat) : Int := if negative then -n else n

/-- A non-empty run of ASCII digits with an optional sign, and nothing else. -/
def signedDigits? (s : List Char) : Option Int :=
  match splitSign s with
  | (negative, r) => match spanDigits asciiDigit? r with
    | (d :: ds, []) => some (signed negative (ofDigits (d :: ds)))
    | _ => none

end Dashboard
