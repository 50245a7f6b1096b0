import Dashboard.Query.Bucket

/-!
# Clauses of a statement

`Clauses` are the parts of one `SELECT` statement, before they are put together:

    [WITH date_series AS (…)] SELECT … FROM … [WHERE | AND …] [GROUP BY …] [ORDER BY …] [LIMIT :pN];

`Clauses.fragment` puts them together. A bucket plan adds the series in front of the statement, its
date as the first column, grouping and order, and its join in place of the table. The conditions
then go on the condition of that join, so that empty buckets stay.
-/

namespace Dashboard

/-- The parts of a statement; `limit` is absent when it is null. -/
structure Clauses where
  table : Table
  plan : Option BucketPlan
  items : List Fragment
  conditions : List Fragment
  groups : List Fragment
  orders : List Fragment
  limit : Value
  deriving Repr

/-- A clause of terms with a separator between two of them; nothing if there are none. -/
def clause (opening separator : String) (terms : List Fragment) : Fragment :=
  if terms.isEmpty then .empty else .raw opening ++ .join separator terms

namespace Clauses

/-- The series in front of the statement. -/
def seriesFragment (c : Clauses) : Fragment := (c.plan.map BucketPlan.series).getD .empty

/-- The source of the rows: the series joined to the table, or the table alone. -/
def sourceFragment (c : Clauses) : Fragment :=
  match c.plan with
  | some p => p.source c.table
  | none => .raw (" FROM " ++ c.table.source)

/-- The selected columns, after the date of the bucket if there is a plan. -/
def allItems (c : Clauses) : List Fragment :=
  (c.plan.map BucketPlan.selectItem).toList ++ c.items

/-- What stands before the conditions: with a plan they go on the condition of its join. -/
def conditionOpening (c : Clauses) : String := if c.plan.isSome then " AND " else " WHERE "

/-- The terms of the groupings, after the series if there is a plan. -/
def allGroups (c : Clauses) : List Fragment := (c.plan.map fun _ => seriesColumn).toList ++ c.groups

/-- The terms of the order, after the series if there is a plan. -/
def allOrders (c : Clauses) : List Fragment :=
  (c.plan.map fun _ => seriesColumn ++ Fragment.raw " ASC").toList ++ c.orders

/-- The bound on the number of rows. -/
def limitFragment : Value → Fragment
  | .null => .empty
  | v => .raw " LIMIT " ++ .bind v

/-- The statement, with its placeholders not yet numbered. -/
def fragment (c : Clauses) : Fragment :=
  .concat [
    c.seriesFragment,
    .raw "SELECT ",
    .join ", " c.allItems,
    c.sourceFragment,
    clause c.conditionOpening " AND " c.conditions,
    clause " GROUP BY " ", " c.allGroups,
    clause " ORDER BY " ", " c.allOrders,
    limitFragment c.limit,
    .raw ";"]

end Clauses
end Dashboard
