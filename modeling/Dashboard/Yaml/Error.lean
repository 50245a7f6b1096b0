import Dashboard.Document

/-!
# What can be wrong with a YAML text

A `YamlError` is a fault in the structure of a text, or a scalar whose text is no value of its type.
`YamlError.message?` is the wording; a fault in the structure has none.
-/

namespace Dashboard

/-- What a date or a time of day lacks. -/
inductive CalendarFault where
  | year
  | month
  | day
  | hour
  | minute
  | second
  | offset (seconds : Int)
  deriving Repr, DecidableEq

/-- The wording of a calendar fault. -/
def CalendarFault.message : CalendarFault → String
  | year => "year 0 is out of range"
  | month => "month must be in 1..12"
  | day => "day is out of range for month"
  | hour => "hour must be in 0..23"
  | minute => "minute must be in 0..59"
  | second => "second must be in 0..59"
  | offset seconds =>
    "offset must be a timedelta strictly between -timedelta(hours=24) and " ++
      "timedelta(hours=24), not " ++ Document.shownLength seconds ++ "."

/-- What is wrong with a YAML text: its structure, the number of a character, or a scalar. An
endless text is nested too deep, or has a scalar that would have to be read from itself; a number
beyond every bound is an overflow. -/
inductive YamlError where
  | malformed
  | endless
  | noCharacter
  | overflow
  | calendar (fault : CalendarFault)
  | integer (base : Nat) (text : String)
  | longInteger (digits : Nat)
  | number (text : String)
  | emptyNumber
  | unknownTruth
  | notATimestamp
  | notAText
  deriving Repr, DecidableEq

/-- The wording of an error; some have none. -/
def YamlError.message? : YamlError → Option String
  | noCharacter => some "chr() arg not in range(0x110000)"
  | calendar fault => some fault.message
  | integer base text =>
    some ("invalid literal for int() with base " ++ toString base ++ ": " ++
      Text.clipped (Text.quoted text))
  | longInteger digits => some (tooLongToRead digits)
  | number text => some ("could not convert string to float: " ++ Text.quoted text)
  | _ => none

end Dashboard
