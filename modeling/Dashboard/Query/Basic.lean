import Dashboard.Query.Keyword
import Dashboard.Value

/-!
# Queries

A `Query` asks for columns of one logical table: what to select, how to filter, group and order the
rows, and how many of them to return. Its keywords are closed sets and its values have the type of
their filter; table and column names are still to be looked up in a registry.
-/

namespace Dashboard

/-- A selected column, aggregated or not. -/
structure SelectItem where
  column : String
  agg : Option Aggregation
  deriving Repr, DecidableEq

/-- The value of a filter on numbers. -/
inductive NumberValue where
  | int (n : Int)
  | float (x : Float)
  deriving Repr

/-- A condition on a column. -/
inductive Filter where
  | string (column : String) (operator : StringOperator) (value : String)
  | number (column : String) (operator : NumberOperator) (value : NumberValue)
  | datetime (column : String) (operator : DatetimeOperator) (value : Timestamp)
  | options (column : String) (operator : OptionsOperator) (values : List String)
  deriving Repr

/-- The two words for a grouping by equal values. -/
inductive CategoricalWord where
  | categorical
  | string
  deriving Repr, DecidableEq

instance : Keyword CategoricalWord where
  all := [.categorical, .string]
  word
    | .categorical => "categorical"
    | .string => "string"

/-- A grouping by equal values of a column or by time buckets. -/
inductive GroupBy where
  | categorical (word : CategoricalWord) (column : String)
  | datetime (column : String) (unit : TemporalUnit)
  deriving Repr, DecidableEq

/-- A column to order by. -/
structure OrderItem where
  column : String
  agg : Option Aggregation
  direction : Direction
  deriving Repr, DecidableEq

/-- A query over one logical table. -/
structure Query where
  table : String
  select : List SelectItem
  filters : List Filter
  groups : List GroupBy
  orders : List OrderItem
  limit : Option Nat
  deriving Repr

/-- A number as it is bound. -/
def NumberValue.toValue : NumberValue → Value
  | int n => .int n
  | float x => .float x

namespace Filter

/-- The kind of a filter. -/
def kind : Filter → FilterKind
  | string .. => .string
  | number .. => .number
  | datetime .. => .datetime
  | options .. => .options

/-- The column that a filter looks at. -/
def column : Filter → String
  | string c .. | number c .. | datetime c .. | options c .. => c

/-- The word for the operator of a filter. -/
def operatorWord : Filter → String
  | string _ op _ => Keyword.word op
  | number _ op _ => Keyword.word op
  | datetime _ op _ => Keyword.word op
  | options _ op _ => Keyword.word op

/-- What a filter compares with. -/
def value : Filter → Value
  | string _ _ v => .text v
  | number _ _ v => v.toValue
  | datetime _ _ v => .time v
  | options _ _ vs => .list (vs.map .text)

end Filter
end Dashboard
