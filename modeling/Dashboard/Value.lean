import Dashboard.Number.Decimal
import Dashboard.Text.Letter
import Dashboard.Time.Timestamp

/-!
# Database values

A `Value` is what goes to the database as a bound parameter and what comes back in a cell.
`Value.typeName` is the name of its type, as reports about unexpected cells give it.
-/

namespace Dashboard

/-- The kinds of values that are carried without looking inside. -/
inductive ForeignKind where
  | time
  | timedelta
  | complex
  | object
  deriving Repr, DecidableEq

/-- A bound parameter or a cell. -/
inductive Value where
  | null
  | bool (b : Bool)
  | int (n : Int)
  | float (x : Float)
  | decimal (d : Decimal)
  | text (s : String)
  | bytes (bs : List UInt8)
  | date (d : Date)
  | time (t : Timestamp)
  | list (items : List Value)
  | tuple (items : List Value)
  | set (items : List Value)
  | record (fields : List (String × Value))
  | uuid (number : Nat)
  | foreign (kind : ForeignKind)
  deriving Repr, Inhabited

/-- The name of a kind. -/
def ForeignKind.typeName : ForeignKind → String
  | time => "time"
  | timedelta => "timedelta"
  | complex => "complex"
  | object => "object"

namespace Value

/-- The name of the type of a value. -/
def typeName : Value → String
  | null => "NoneType"
  | bool _ => "bool"
  | int _ => "int"
  | float _ => "float"
  | decimal _ => "Decimal"
  | text _ => "str"
  | bytes _ => "bytes"
  | date _ => "date"
  | time _ => "datetime"
  | list _ => "list"
  | tuple _ => "tuple"
  | set _ => "set"
  | record _ => "dict"
  | uuid _ => "UUID"
  | foreign kind => kind.typeName

/-- The parts of a value as a list: the items of a list, the letters of a text, the names of a
record. Most values have no parts. -/
def items? : Value → Option (List Value)
  | text s => some ((Text.letters s.toList).map fun l => text (Text.ofLetters [l]))
  | bytes bs => some (bs.map fun b => int b.toNat)
  | list items => some items
  | tuple items => some items
  | set items => some items
  | record fields => some (fields.map fun f => text f.1)
  | _ => none

end Value
end Dashboard
