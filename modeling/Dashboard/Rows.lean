import Dashboard.Json.Basic
import Dashboard.Value

/-!
# Result rows

A `Row` holds the cells of one result row by their column names. `normalizeRows` gives every number
the same form: integers and decimals become doubles. Texts, doubles, dates, timestamps and missing
values stay as they are, and any other cell fails the whole result with a `CellError`.
-/

namespace Dashboard

/-- The cells of a result row by column. -/
abbrev Row := Fields Value

/-- Why a cell has no normal form. -/
inductive CellError where
  | unknownType (column type : String)
  | tooLarge
  | signaling
  deriving Repr, DecidableEq

/-- The wording of a cell error; a number that is too large has none. -/
def CellError.message? : CellError → Option String
  | unknownType column type => some ("Unknown type " ++ type ++ " for column '" ++ column ++ "'")
  | tooLarge => none
  | signaling => some "cannot convert signaling NaN to float"

/-- The normal form of a cell. -/
def normalizeValue (column : String) (value : Value) : Except CellError Value :=
  match value with
  | .null | .float _ | .text _ | .date _ | .time _ => return value
  | .int n => match Binary.nearestInt? n with
    | some x => return .float x
    | none => throw .tooLarge
  | .decimal d => match d.toFloat? with
    | some x => return .float x
    | none => throw .signaling
  | _ => throw (.unknownType column value.typeName)

/-- The normal form of a row. -/
def normalizeRow (row : Row) : Except CellError Row :=
  row.mapM fun cell => do return (cell.1, ← normalizeValue cell.1 cell.2)

/-- The normal form of a result, unless some cell has none. -/
def normalizeRows (rows : List Row) : Except CellError (List Row) := rows.mapM normalizeRow

end Dashboard
