import Dashboard.Query.Basic

/-!
# Drafts of queries

A `Draft` has the structure of a query, but its keywords are arbitrary texts and its values
arbitrary values: it may have been put together without any check. The compiler works on drafts and
looks every word up itself, so nothing in its output relies on an earlier check.

`Query.toDraft` writes a query as a draft.
-/

namespace Dashboard

namespace Draft

/-- A selected column with any word for its aggregation. -/
structure Select where
  column : String
  agg : Option String
  deriving Repr, DecidableEq

/-- A condition. The word `kind` decides which operators there are, the form how the value is
compared. -/
structure Filter where
  kind : String
  form : FilterKind
  column : String
  operator : String
  value : Value
  deriving Repr

/-- A grouping with any word for its unit. -/
inductive Group where
  | categorical (column : String)
  | datetime (column : String) (unit : String)
  deriving Repr, DecidableEq

/-- A column to order by, with any words. -/
structure Order where
  column : String
  agg : Option String
  direction : String
  deriving Repr, DecidableEq

/-- The column that a grouping looks at. -/
def Group.column : Group → String
  | categorical c => c
  | datetime c _ => c

/-- The filters that compare timestamps. -/
def Filter.isDatetime (f : Filter) : Bool := f.form == .datetime

end Draft

/-- A query whose words and values have not been checked; `limit` is absent when it is null. -/
structure Draft where
  table : String
  select : List Draft.Select
  filters : List Draft.Filter
  groups : List Draft.Group
  orders : List Draft.Order
  limit : Value
  deriving Repr

/-- A filter of a query as one of a draft. -/
def Filter.toDraft (f : Filter) : Draft.Filter :=
  { kind := Keyword.word f.kind
    form := f.kind
    column := f.column
    operator := f.operatorWord
    value := f.value }

/-- A grouping of a query as one of a draft. -/
def GroupBy.toDraft : GroupBy → Draft.Group
  | categorical _ c => .categorical c
  | datetime c unit => .datetime c (Keyword.word unit)

/-- A query as a draft. -/
def Query.toDraft (q : Query) : Draft :=
  { table := q.table
    select := q.select.map fun s => ⟨s.column, s.agg.map Keyword.word⟩
    filters := q.filters.map Filter.toDraft
    groups := q.groups.map GroupBy.toDraft
    orders := q.orders.map fun o => ⟨o.column, o.agg.map Keyword.word, Keyword.word o.direction⟩
    limit := (q.limit.map fun n => Value.int n).getD .null }

end Dashboard
