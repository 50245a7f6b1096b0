import Dashboard.Query.Clauses
import Dashboard.Query.Tenant
import Dashboard.Text.Case

/-!
# Compiling queries

* `columnAlias` is the name under which a column comes out, `aggregated` its expression.
* `Draft.clauses` looks up every table, column and keyword of a draft, and makes the fragments of
  its clauses. Their text comes from the registry and from the words of this library alone; the
  values of filters and the limit enter as placeholders.
* `Draft.compile` is the statement of a draft. `Draft.build` scopes a draft to a tenant, plans its
  time buckets and compiles it.
-/

namespace Dashboard

/-- Why a draft is not compiled, or a statement not let through since it has a placeholder of so
many digits. Of the reasons why a draft is not compiled, only the first can arise for a checked
query. -/
inductive BuildError where
  | refused (error : QueryError)
  | unknownAggregation (word : String)
  | unknownDirection (word : String)
  | notAList
  | longPlaceholder (digits : Nat)
  deriving Repr, DecidableEq

/-- The result of a look-up as a step of compiling. -/
def lookedUp {α : Type} (r : Except QueryError α) : Except BuildError α :=
  r.mapError BuildError.refused

/-! ### Column expressions -/

/-- The name under which a column comes out: its own, or that of the aggregation in lower case
before its own with a capital. -/
def columnAlias (name : String) (agg : Option String) : String :=
  match agg with
  | none => name
  | some word =>
    String.ofList (Text.lower word.toList ++ Text.upper (name.toList.take 1) ++ name.toList.drop 1)

/-- The expression of a column, aggregated by the word if there is one. -/
def aggregated (internal : String) (agg : Option String) : Except BuildError Fragment :=
  match agg with
  | none => return .raw internal
  | some word => match Keyword.ofWord? word with
    | some a => return .concat [
        .raw (Aggregation.around a).1, .raw internal, .raw (Aggregation.around a).2]
    | none => throw (.unknownAggregation word)

namespace Draft

/-- A place in a list of the description. -/
def place (part : String) (i : Nat) (name : String) : Option String :=
  some (part ++ "." ++ toString i ++ "." ++ name)

/-- A selected column under its alias. -/
def selectFragment (t : Table) (item : Select) (i : Nat) : Except BuildError Fragment := do
  let column ← lookedUp (t.resolveColumn item.column (place "select" i "column"))
  let expression ← aggregated column.internal item.agg
  return .concat [expression, .raw " AS ", .quoted (columnAlias column.name item.agg)]

/-- A column to order by, with its direction. -/
def orderFragment (t : Table) (item : Order) (i : Nat) : Except BuildError Fragment := do
  let column ← lookedUp (t.resolveColumn item.column (place "orderBy" i "column"))
  let expression ← aggregated column.internal item.agg
  match (Keyword.ofWord? item.direction : Option Direction) with
  | some d => return .concat [expression, .raw (" " ++ Keyword.word d)]
  | none => throw (.unknownDirection item.direction)

/-! ### Filters -/

/-- The SQL of an operator on filters of a kind. -/
def operatorSql (kind operator : String) (field : Option String) : Except QueryError String :=
  match (Keyword.ofWord? kind).bind fun k => FilterKind.operatorSql? k operator with
  | some sql => return sql
  | none => throw (.unsupportedOperator (.unknownOperator operator kind) field)

/-- The cast of a compared value: columns of an enumerated type need one, timestamps never do. -/
def castFragment (cast : Option String) (form : FilterKind) : Fragment :=
  match cast, form with
  | none, _ => .empty
  | some _, .datetime => .empty
  | some c, .options => .raw (" ::\"" ++ c ++ "\"[]")
  | some c, _ => .raw (" ::\"" ++ c ++ "\"")

/-- The condition of a filter. -/
def filterFragment (t : Table) (item : Filter) (i : Nat) : Except BuildError Fragment := do
  let column ← lookedUp (t.resolveColumn item.column (place "filter" i "column"))
  let operator ← lookedUp (operatorSql item.kind item.operator (place "filter" i "operator"))
  let cast := castFragment column.cast item.form
  if item.form = .options then
    match item.value.items? with
    | none => throw .notAList
    | some items => return .concat [
        .raw column.internal, .raw (" " ++ operator ++ "("), .bind (.list items), cast, .raw ")"]
  else
    return .concat [.raw column.internal, .raw (" " ++ operator ++ " "), .bind item.value, cast]

/-! ### Terms -/

/-- The term of a grouping. With a plan the series stands for the datetime column. -/
def groupFragment (t : Table) (planned : Bool) (item : Group) (i : Nat) :
    Except BuildError (Option Fragment) := do
  let column ← lookedUp (t.resolveColumn item.column (place "groupBy" i "column"))
  match item, planned with
  | .datetime .., true => return none
  | _, _ => return some (.raw column.internal)

/-- The selected columns. -/
def itemFragments (d : Draft) (t : Table) : Except BuildError (List Fragment) :=
  d.select.zipIdx.mapM fun s => selectFragment t s.1 s.2

/-- The conditions of the filters. -/
def conditionFragments (d : Draft) (t : Table) : Except BuildError (List Fragment) :=
  d.filters.zipIdx.mapM fun f => filterFragment t f.1 f.2

/-- The terms of the groupings. -/
def groupFragments (d : Draft) (t : Table) (planned : Bool) :
    Except BuildError (List Fragment) := do
  let terms ← d.groups.zipIdx.mapM fun g => groupFragment t planned g.1 g.2
  return terms.filterMap id

/-- The terms of the order. -/
def orderFragments (d : Draft) (t : Table) : Except BuildError (List Fragment) :=
  d.orders.zipIdx.mapM fun o => orderFragment t o.1 o.2

/-- The clauses of a draft, with a bucket plan or without. -/
def clauses (d : Draft) (r : Registry) (plan : Option BucketPlan) : Except BuildError Clauses := do
  let t ← lookedUp (r.resolveTable d.table)
  let items ← d.itemFragments t
  let conditions ← d.conditionFragments t
  let groups ← d.groupFragments t plan.isSome
  let orders ← d.orderFragments t
  return { table := t, plan, items, conditions, groups, orders, limit := d.limit }

/-- The statement of a draft, with a bucket plan or without. -/
def compile (d : Draft) (r : Registry) (plan : Option BucketPlan) :
    Except BuildError Statement := do
  return (← d.clauses r plan).fragment.render

/-- The statement of a draft for one tenant. -/
def build (d : Draft) (tenant : Value) (r : Registry) : Except BuildError Statement := do
  let t ← lookedUp (r.resolveTable d.table)
  let own ← lookedUp (d.scope t tenant)
  let plan ← lookedUp (own.plan t)
  own.compile r plan

end Draft
end Dashboard
