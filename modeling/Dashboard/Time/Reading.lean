import Dashboard.Number.Binary
import Dashboard.Number.Digits
import Dashboard.Text.Letter
import Dashboard.Time.Timestamp

/-!
# Reading timestamps

A timestamp may be given as a text or as a number.

* `Timestamp.ofText` reads, in this order, a date with a time of day, a count of seconds since
  1970-01-01, and a date alone.
* `Timestamp.ofInt` and `Timestamp.ofFloat` read a count of seconds. A count beyond twenty thousand
  million either way is one of milliseconds.
* `TimeFault` says why there is no timestamp to read, and `TimeFault.message` puts it into words.
-/

namespace Dashboard

/-- What is wrong with the text of a date. -/
inductive DateFault where
  | tooShort
  | yearChar
  | monthChar
  | dayChar
  | separator
  | month
  | day
  | extra
  deriving Repr, DecidableEq

/-- The wording of a fault in a date. -/
def DateFault.message : DateFault → String
  | tooShort => "input is too short"
  | yearChar => "invalid character in year"
  | monthChar => "invalid character in month"
  | dayChar => "invalid character in day"
  | separator => "invalid date separator, expected `-`"
  | month => "month value is outside expected range of 1-12"
  | day => "day value is outside expected range"
  | extra => "unexpected extra characters at the end of the input"

/-- Why a value is no timestamp; a count of seconds may come from a text or be a number. -/
inductive TimeFault where
  | notTime
  | notDate (fault : DateFault)
  | tooLate (fromText : Bool)
  | tooEarly (fromText : Bool)
  | yearZero
  | notANumber
  deriving Repr, DecidableEq

/-- The wording of a fault in a timestamp. -/
def TimeFault.message : TimeFault → String
  | notTime => "Input should be a valid datetime"
  | notDate fault => "Input should be a valid datetime or date, " ++ fault.message
  | tooLate fromText => unix fromText ++ "dates after 9999 are not supported as unix timestamps"
  | tooEarly fromText => unix fromText ++ "dates before 0000 are not supported as unix timestamps"
  | yearZero => "Input should be a valid datetime, year 0 is out of range"
  | notANumber => "Input should be a valid datetime, NaN values not permitted"
where
  unix (fromText : Bool) : String :=
    if fromText then "Input should be a valid datetime or date, "
    else "Input should be a valid datetime, "

namespace Timestamp

/-! ### Counts of seconds -/

/-- The largest count that is one of seconds. -/
def watershed : Nat := 20000000000

/-- Seconds with microseconds, of which a million make a second, between the years 1 and 9999. -/
def ofUnix (fromText : Bool) (seconds : Int) (micro : Nat) : Except TimeFault Timestamp :=
  let s := seconds + (micro / 1000000 : Nat)
  if 253402300799 < s then throw (.tooLate fromText)
  else if s < -62167219200 then throw (.tooEarly fromText)
  else if s < -62135596800 then throw .yearZero
  else return ofSeconds s (micro % 1000000)

/-- An integer count. -/
def ofInt (fromText : Bool) (n : Int) : Except TimeFault Timestamp :=
  if n.natAbs ≤ watershed then ofUnix fromText n 0
  else ofUnix fromText (Int.fdiv n 1000) ((Int.fmod n 1000).toNat * 1000)

/-- The part of a double after the point, in units of `1 / scale`. -/
def fractionIn (scale : Float) (x : Float) : Nat := ((x - x.floor) * scale).round.toUInt64.toNat

/-- The largest integer that is not above a double. -/
def floorOf (x : Float) : Int :=
  match Binary.ofFloat x.floor with
  | .finite negative m q => Binary.truncate negative m q
  | _ => 0

/-- A count with a fraction, which is rounded to microseconds. -/
def ofFloat (x : Float) : Except TimeFault Timestamp :=
  match Binary.ofFloat x with
  | .nan => throw .notANumber
  | .infinite negative => throw (if negative then .tooEarly false else .tooLate false)
  | .finite .. =>
    let n := floorOf x
    if x.abs ≤ 20000000000.0 then ofUnix false n (fractionIn 1000000.0 x)
    else ofUnix false (Int.fdiv n 1000) ((Int.fmod n 1000).toNat * 1000 + fractionIn 1000.0 x)

/-- The exponent of a number: nothing, or `e` with an integer. -/
def readExponent? : List Char → Option Int
  | [] => some 0
  | c :: r => if c == 'e' || c == 'E' then signedDigits? r else none

/-- A timestamp that was read, or why not, unless the count was too large either way. -/
def inRange? : Except TimeFault Timestamp → Option (Except TimeFault Timestamp)
  | .error (.tooLate _) | .error (.tooEarly _) => none
  | r => some r

/-- A count of seconds as a text: an integer of 64 bits, or a number with a point. One with a point
is no count if it is too large, because a text that is no timestamp must at least be a date, and
integers alone count for dates. -/
def ofCount? (s : List Char) : Option (Except TimeFault Timestamp) :=
  let (negative, body) := splitSign s
  match spanDigits asciiDigit? body with
  | (whole, '.' :: r) =>
    let (fraction, r) := spanDigits asciiDigit? r
    if whole.isEmpty && fraction.isEmpty then none
    else (readExponent? r).bind fun e =>
      let digits := ofDigits (whole ++ fraction)
      inRange? (ofFloat (Binary.nearestDecimal negative digits (e - fraction.length)))
  | (d :: ds, []) =>
    let n := ofDigits (d :: ds)
    if n < Nat.pow 2 63 then some (ofInt true (signed negative n)) else none
  | _ => none

/-! ### Dates and times of day -/

/-- A number of exactly `width` digits; any other character is the given fault. -/
def takeNumber (fault : DateFault) : Nat → Nat → List Char → Except DateFault (Nat × List Char)
  | 0, n, s => return (n, s)
  | _ + 1, _, [] => throw .tooShort
  | width + 1, n, c :: r => match asciiDigit? c with
    | some d => takeNumber fault width (10 * n + d) r
    | none => throw fault

/-- The hyphen between the parts of a date. -/
def takeHyphen : List Char → Except DateFault (List Char)
  | '-' :: r => return r
  | [] => throw .tooShort
  | _ => throw .separator

/-- The date at the front of a text, and what follows it. -/
def takeDate (s : String) : Except DateFault (Date × List Char) := do
  if (Text.bytes s).length < 10 then throw .tooShort
  let (year, r) ← takeNumber .yearChar 4 0 s.toList
  let r ← takeHyphen r
  let (month, r) ← takeNumber .monthChar 2 0 r
  let r ← takeHyphen r
  let (day, r) ← takeNumber .dayChar 2 0 r
  if month < 1 ∨ 12 < month then throw .month
  if day < 1 ∨ Date.daysInMonth year month < day then throw .day
  return (⟨year, month, day⟩, r)

/-- Two digits below a limit. -/
def takeTwo? (limit : Nat) : List Char → Option (Nat × List Char)
  | a :: b :: r => do
    let n := 10 * (← asciiDigit? a) + (← asciiDigit? b)
    if n < limit then some (n, r) else none
  | _ => none

/-- The first six digits of a fraction, as microseconds. -/
def microOf (ds : List Nat) : Nat := ofDigits (ds.take 6) * Nat.pow 10 (6 - (ds.take 6).length)

/-- Seconds after the minutes, and their fraction; both may be absent. -/
def takeSeconds? : List Char → Option (Nat × Nat × List Char)
  | ':' :: r => do
    let (second, r) ← takeTwo? 60 r
    match r with
    | c :: r' =>
      if c == '.' || c == ',' then
        match spanDigits asciiDigit? r' with
        | ([], _) => none
        | (ds, r'') => some (second, microOf ds, r'')
      else some (second, 0, r)
    | [] => some (second, 0, r)
  | r => some (0, 0, r)

/-- Hours and minutes of an offset, with or without a colon, up to the end of the text. -/
def offsetOf? (negative : Bool) (s : List Char) : Option Int := do
  let (hour, r) ← takeTwo? 24 s
  let (minute, r) ← takeTwo? 60 (match r with | ':' :: r' => r' | _ => r)
  if r.isEmpty then
    some (signed negative (hour * 3600 + minute * 60))
  else none

/-- The zone at the end of a text: none, UTC, or an offset; the minus sign may be the
mathematical one. -/
def zoneOf? : List Char → Option (Option Int)
  | [] => some none
  | ['Z'] | ['z'] => some (some 0)
  | '+' :: r => (offsetOf? false r).map some
  | '-' :: r | '−' :: r => (offsetOf? true r).map some
  | _ => none

/-- The time of day and zone that follow a date. -/
def ofTail? (date : Date) : List Char → Option Timestamp
  | sep :: r => do
    if ['T', 't', '_', ' '].contains sep then
      let (hour, r) ← takeTwo? 24 r
      let (minute, r) ← (match r with | ':' :: r' => takeTwo? 60 r' | _ => none)
      let (second, micro, r) ← takeSeconds? r
      let offset ← zoneOf? r
      some { date, hour, minute, second, micro, offset }
    else none
  | [] => none

/-- A timestamp whose year the calendar has. -/
def checked (t : Timestamp) : Except TimeFault Timestamp :=
  if t.date.year = 0 then throw .yearZero else return t

/-- Reads a text as a timestamp. -/
def ofText (s : String) : Except TimeFault Timestamp :=
  let dated := takeDate s
  match dated.toOption.bind fun d => ofTail? d.1 d.2 with
  | some t => checked t
  | none => match ofCount? s.toList with
    | some r => r
    | none => match dated with
      | .ok (d, []) => checked (midnight d)
      | .ok _ => throw (.notDate .extra)
      | .error fault => throw (.notDate fault)

end Timestamp
end Dashboard
