import Dashboard.Query.Draft
import Dashboard.Registry.Basic
import Dashboard.Sql.Fragment

/-!
# Time buckets

A query that groups by one datetime column and bounds that column from below and above gets a
`BucketPlan`: a generated series of dates, to which the rows of the table are joined, so that
buckets without rows come back too. `Draft.plan` finds the plan, if the query calls for one.

The bounds of a plan are the first lower and the first upper bound among the datetime filters.
-/

namespace Dashboard

/-- The unit that a word names. -/
def temporalUnit (word : String) : Except QueryError TemporalUnit :=
  match Keyword.ofWord? word with
  | some unit => return unit
  | none => throw (.invalid (.unknownUnit word) (some "groupBy"))

/-- The column of the generated series. -/
def seriesColumn : Fragment := .raw "date_series.\"date\""

/-- The bucket that an expression falls into. -/
def dateTrunc (unit : TemporalUnit) (expression : Fragment) : Fragment :=
  .concat [.raw ("DATE_TRUNC('" ++ Keyword.word unit ++ "', "), expression, .raw ")"]

/-- A generated series of dates and the column that is joined to it. -/
structure BucketPlan where
  column : Column
  unit : TemporalUnit
  lower : Draft.Filter
  upper : Draft.Filter
  deriving Repr

namespace BucketPlan

/-- The series, from the lower to the upper bound. -/
def series (p : BucketPlan) : Fragment :=
  .concat [
    .raw "WITH date_series AS (SELECT generate_series(",
    .bind p.lower.value,
    .raw ", ",
    .bind p.upper.value,
    .raw (", '1 " ++ Keyword.word p.unit ++ "'::interval) AS \"date\") ")]

/-- The series joined to a table: each row goes to the dates of its bucket. -/
def source (p : BucketPlan) (t : Table) : Fragment :=
  .concat [
    .raw (" FROM date_series LEFT JOIN " ++ t.source ++ " ON "),
    dateTrunc p.unit (.raw p.column.internal),
    .raw " = ",
    dateTrunc p.unit seriesColumn]

/-- The date of a bucket as a selected column. -/
def selectItem (p : BucketPlan) : Fragment :=
  .concat [seriesColumn, .raw " AS ", .quoted p.column.name]

end BucketPlan

namespace Draft

/-- The operators of lower bounds. -/
def lowerOperators : List String := [">", ">="]

/-- The operators of upper bounds. -/
def upperOperators : List String := ["<", "<="]

/-- The columns and units of the datetime groupings, in order. -/
def datetimeGroups (d : Draft) : List (String × String) :=
  d.groups.filterMap fun
    | .datetime column unit => some (column, unit)
    | .categorical _ => none

/-- The datetime filters, in order. -/
def datetimeFilters (d : Draft) : List Filter := d.filters.filter Filter.isDatetime

/-- The first lower and the first upper bound among the datetime filters. -/
def bounds? (d : Draft) : Option (Filter × Filter) := do
  let lower ← d.datetimeFilters.find? fun f => lowerOperators.contains f.operator
  let upper ← d.datetimeFilters.find? fun f => upperOperators.contains f.operator
  some (lower, upper)

/-- The bucket plan of a query, if it calls for one. -/
def plan (d : Draft) (t : Table) : Except QueryError (Option BucketPlan) :=
  match d.datetimeGroups with
  | [] => return none
  | _ :: _ :: _ => throw .multipleTimeGroups
  | [(name, unit)] =>
    match d.bounds? with
    | none => return none
    | some (lower, upper) => do
      if lower.column ≠ name ∨ upper.column ≠ name then
        throw (.mismatchedRange name lower.column upper.column)
      let column ← t.resolveColumn name (some "groupBy")
      let unit ← temporalUnit unit
      return some { column, unit, lower, upper }

end Draft
end Dashboard
