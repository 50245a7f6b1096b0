import Dashboard.Document
import Dashboard.Query.Error

/-!
# The registry of tables

* A `Registry` lists the logical tables that queries may name. A `Table` has a physical source, the
  columns it offers, and the columns that hold the project of each entity it is built from. A
  `Column` has an SQL expression, a semantic type, and the database type that compared values are
  cast to, if any.
* `Registry.table?` and `Table.column?` look up a name and take the first that bears it;
  `Registry.resolveTable` and `Table.resolveColumn` refuse a query that names anything else.
* `Registry.listing` is what the catalog shows.
-/

namespace Dashboard

/-- What the values of a column are. -/
inductive SemanticType where
  | string
  | number
  | datetime
  deriving Repr, DecidableEq

namespace SemanticType

/-- The word for a type. -/
def word : SemanticType → String
  | string => "string"
  | number => "number"
  | datetime => "datetime"

/-- All types. -/
def all : List SemanticType := [string, number, datetime]

/-- The type of a word. -/
def ofWord? (w : String) : Option SemanticType := all.find? fun t => t.word == w

end SemanticType

/-- A column that queries may name. -/
structure Column where
  name : String
  internal : String
  type : SemanticType
  cast : Option String
  deriving Repr, DecidableEq

/-- A table that queries may name. -/
structure Table where
  name : String
  source : String
  columns : List Column
  tenantColumns : List String
  deriving Repr, DecidableEq, Inhabited

/-- The tables that queries may name. -/
structure Registry where
  version : Document
  tables : List Table
  deriving Repr, Inhabited

namespace Table

/-- The first column of a name. -/
def column? (t : Table) (name : String) : Option Column := t.columns.find? fun c => c.name == name

/-- The names of the columns, in order. -/
def columnNames (t : Table) : List String := t.columns.map Column.name

/-- The column of a name, or the reason to refuse a query that has it at `field`. -/
def resolveColumn (t : Table) (name : String) (field : Option String) : Except QueryError Column :=
  match t.column? name with
  | some c => return c
  | none => throw (.unknownColumn t.name name field)

/-- The columns that a table shows in the catalog. -/
def listing (t : Table) : List (String × SemanticType) :=
  t.columns.map fun c => (c.name, c.type)

end Table

namespace Registry

/-- The first table of a name. -/
def table? (r : Registry) (name : String) : Option Table := r.tables.find? fun t => t.name == name

/-- The names of the tables, in order. -/
def tableNames (r : Registry) : List String := r.tables.map Table.name

/-- The table of a name, or the reason to refuse a query from it. -/
def resolveTable (r : Registry) (name : String) : Except QueryError Table :=
  match r.table? name with
  | some t => return t
  | none => throw (.unknownTable name (some "from"))

/-- The tables that the catalog shows, each with its columns. -/
def listing (r : Registry) : List (String × List (String × SemanticType)) :=
  r.tables.map fun t => (t.name, t.listing)

end Registry
end Dashboard
