/-!
# Dates and timestamps

* `Date` is a day of the proleptic Gregorian calendar; `Date.ofDays` and `Date.days` count days from
  1970-01-01.
* `Timestamp` is a date with a time of day to the microsecond, and either an offset from UTC or
  none. `Timestamp.moment` is the time that it means.
* `Timestamp.iso` writes `YYYY-MM-DDTHH:MM:SS[.ffffff][±HH:MM]`; `Timestamp.wire` is the same text
  with `Z` for UTC.
-/

namespace Dashboard

/-- A day of the calendar. -/
structure Date where
  year : Nat
  month : Nat
  day : Nat
  deriving Repr, DecidableEq

namespace Date

/-- Leap years of the Gregorian calendar. -/
def isLeap (year : Nat) : Bool := year % 4 == 0 && (year % 100 != 0 || year % 400 == 0)

/-- The number of days of a month; `0` if there is no such month. -/
def daysInMonth (year : Nat) : Nat → Nat
  | 1 | 3 | 5 | 7 | 8 | 10 | 12 => 31
  | 4 | 6 | 9 | 11 => 30
  | 2 => if isLeap year then 29 else 28
  | _ => 0

/-- The date `n` days after 1970-01-01, for dates after the year 0. The count starts at a March,
so that a leap day ends its year, and goes by eras of 400 years. -/
def ofDays (n : Int) : Date :=
  let z := n + 719468
  let era := Int.fdiv z 146097
  let doe := (Int.fmod z 146097).toNat
  let yoe := (doe - doe / 1460 + doe / 36524 - doe / 146096) / 365
  let doy := doe - (365 * yoe + yoe / 4 - yoe / 100)
  let mp := (5 * doy + 2) / 153
  let month := if mp < 10 then mp + 3 else mp - 9
  { year := (era * 400 + yoe + (if month ≤ 2 then 1 else 0)).toNat
    month
    day := doy - (153 * mp + 2) / 5 + 1 }

/-- The number of days from 1970-01-01 to a date, the reverse of `ofDays`. -/
def days (d : Date) : Int :=
  let y : Int := (d.year : Int) - (if d.month ≤ 2 then 1 else 0)
  let era := Int.fdiv y 400
  let yoe := Int.fmod y 400
  let mp : Int := ((d.month + 9) % 12 : Nat)
  let doy := (153 * mp + 2) / 5 + d.day - 1
  era * 146097 + (365 * yoe + yoe / 4 - yoe / 100 + doy) - 719468

end Date

/-- A date with a time of day, and possibly an offset from UTC in seconds. -/
structure Timestamp where
  date : Date
  hour : Nat
  minute : Nat
  second : Nat
  micro : Nat
  offset : Option Int
  deriving Repr, DecidableEq

/-- The last `width` decimal digits of `n`. -/
def paddedDigits : Nat → Nat → List Char
  | 0, _ => []
  | width + 1, n => paddedDigits width (n / 10) ++ [Char.ofNat (0x30 + n % 10)]

/-- A date as `YYYY-MM-DD`. -/
def Date.iso (d : Date) : String :=
  String.ofList
    (paddedDigits 4 d.year ++ '-' :: paddedDigits 2 d.month ++ '-' :: paddedDigits 2 d.day)

namespace Timestamp

/-- Midnight, without an offset. -/
def midnight (d : Date) : Timestamp := ⟨d, 0, 0, 0, 0, none⟩

/-- Seconds since 1970-01-01 in UTC, with microseconds. -/
def ofSeconds (s : Int) (micro : Nat) : Timestamp :=
  let t := (Int.fmod s 86400).toNat
  { date := Date.ofDays (Int.fdiv s 86400)
    hour := t / 3600
    minute := t / 60 % 60
    second := t % 60
    micro
    offset := some 0 }

/-- The time that a timestamp means: whether it has an offset, and seconds since 1970-01-01, in UTC
if it has one, with microseconds. -/
def moment (t : Timestamp) : Bool × Int × Nat :=
  let seconds := 86400 * t.date.days + 3600 * t.hour + 60 * t.minute + t.second
  (t.offset.isSome, seconds - t.offset.getD 0, t.micro)

/-- A time of day as `HH:MM:SS`. -/
def clockText (hour minute second : Nat) : List Char :=
  paddedDigits 2 hour ++ ':' :: paddedDigits 2 minute ++ ':' :: paddedDigits 2 second

/-- An offset as `±HH:MM`, with seconds when it has any. -/
def offsetText (offset : Int) : List Char :=
  let n := offset.natAbs
  (if offset < 0 then '-' else '+') :: paddedDigits 2 (n / 3600) ++
    ':' :: paddedDigits 2 (n / 60 % 60) ++
    (if n % 60 = 0 then [] else ':' :: paddedDigits 2 (n % 60))

/-- Date and time of day with the separator `sep`; microseconds only when there are any. -/
def localText (sep : Char) (t : Timestamp) : List Char :=
  t.date.iso.toList ++ sep :: clockText t.hour t.minute t.second ++
    (if t.micro = 0 then [] else '.' :: paddedDigits 6 t.micro)

/-- The text of a timestamp. -/
def iso (t : Timestamp) : String :=
  String.ofList (localText 'T' t ++ (t.offset.map offsetText).getD [])

/-- The text of a timestamp in a response body. -/
def wire (t : Timestamp) : String :=
  String.ofList (localText 'T' t ++ match t.offset with
    | none => []
    | some 0 => ['Z']
    | some o => offsetText o)

end Timestamp
end Dashboard
