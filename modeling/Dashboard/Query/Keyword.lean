/-!
# Keywords

Every word with a fixed meaning in a query belongs to a closed set: aggregations, units of time,
directions, kinds of filters, and the operators of each kind. `Keyword` gives the words of such a
set in their order, and `Keyword.ofWord?` reads one. Operators and aggregations have their SQL
beside them.
-/

namespace Dashboard

/-- A closed set of words. -/
class Keyword (α : Type) where
  all : List α
  word : α → String

namespace Keyword

/-- What a word stands for. -/
def ofWord? {α : Type} [Keyword α] (w : String) : Option α := all.find? fun a => word a == w

/-- The words of a set. -/
def words (α : Type) [Keyword α] : List String := (all : List α).map word

end Keyword

/-- How the values of a group are made one. -/
inductive Aggregation where
  | sum
  | avg
  | count
  | max
  | min
  | p50
  | p75
  | p90
  | p95
  | p99
  deriving Repr, DecidableEq

instance : Keyword Aggregation where
  all := [.sum, .avg, .count, .max, .min, .p50, .p75, .p90, .p95, .p99]
  word
    | .sum => "SUM"
    | .avg => "AVG"
    | .count => "COUNT"
    | .max => "MAX"
    | .min => "MIN"
    | .p50 => "50thPercentile"
    | .p75 => "75thPercentile"
    | .p90 => "90thPercentile"
    | .p95 => "95thPercentile"
    | .p99 => "99thPercentile"

/-- The SQL before and after the expression that is aggregated. -/
def Aggregation.around : Aggregation → String × String
  | sum => ("SUM(", ")")
  | avg => ("AVG(", ")")
  | count => ("COUNT(", ")")
  | max => ("MAX(", ")")
  | min => ("MIN(", ")")
  | p50 => ("percentile_disc(0.5) WITHIN GROUP (ORDER BY ", ")")
  | p75 => ("percentile_disc(0.75) WITHIN GROUP (ORDER BY ", ")")
  | p90 => ("percentile_disc(0.9) WITHIN GROUP (ORDER BY ", ")")
  | p95 => ("percentile_disc(0.95) WITHIN GROUP (ORDER BY ", ")")
  | p99 => ("percentile_disc(0.99) WITHIN GROUP (ORDER BY ", ")")

/-- The width of a time bucket. -/
inductive TemporalUnit where
  | year
  | month
  | week
  | day
  | hour
  | minute
  deriving Repr, DecidableEq

instance : Keyword TemporalUnit where
  all := [.year, .month, .week, .day, .hour, .minute]
  word
    | .year => "year"
    | .month => "month"
    | .week => "week"
    | .day => "day"
    | .hour => "hour"
    | .minute => "minute"

/-- The direction of an order. -/
inductive Direction where
  | asc
  | desc
  deriving Repr, DecidableEq

instance : Keyword Direction where
  all := [.asc, .desc]
  word
    | .asc => "ASC"
    | .desc => "DESC"

/-- The kinds of filters. -/
inductive FilterKind where
  | string
  | number
  | datetime
  | options
  deriving Repr, DecidableEq

instance : Keyword FilterKind where
  all := [.string, .number, .datetime, .options]
  word
    | .string => "string"
    | .number => "number"
    | .datetime => "datetime"
    | .options => "stringOptions"

/-! ### Operators -/

/-- The operators on texts. -/
inductive StringOperator where
  | eq
  | ne
  | like
  | notLike
  deriving Repr, DecidableEq

instance : Keyword StringOperator where
  all := [.eq, .ne, .like, .notLike]
  word
    | .eq => "="
    | .ne => "!="
    | .like => "like"
    | .notLike => "not like"

/-- The SQL of an operator on texts. -/
def StringOperator.sql : StringOperator → String
  | eq => "="
  | ne => "<>"
  | like => "LIKE"
  | notLike => "NOT LIKE"

/-- The operators on numbers. -/
inductive NumberOperator where
  | eq
  | ne
  | lt
  | gt
  | le
  | ge
  deriving Repr, DecidableEq

instance : Keyword NumberOperator where
  all := [.eq, .ne, .lt, .gt, .le, .ge]
  word
    | .eq => "="
    | .ne => "!="
    | .lt => "<"
    | .gt => ">"
    | .le => "<="
    | .ge => ">="

/-- The SQL of an operator on numbers. -/
def NumberOperator.sql : NumberOperator → String
  | eq => "="
  | ne => "<>"
  | lt => "<"
  | gt => ">"
  | le => "<="
  | ge => ">="

/-- The operators on timestamps. -/
inductive DatetimeOperator where
  | gt
  | lt
  | ge
  | le
  deriving Repr, DecidableEq

instance : Keyword DatetimeOperator where
  all := [.gt, .lt, .ge, .le]
  word
    | .gt => ">"
    | .lt => "<"
    | .ge => ">="
    | .le => "<="

/-- The SQL of an operator on timestamps. -/
def DatetimeOperator.sql : DatetimeOperator → String
  | gt => ">"
  | lt => "<"
  | ge => ">="
  | le => "<="

/-- The operators on a choice of texts. -/
inductive OptionsOperator where
  | anyOf
  | noneOf
  deriving Repr, DecidableEq

instance : Keyword OptionsOperator where
  all := [.anyOf, .noneOf]
  word
    | .anyOf => "any of"
    | .noneOf => "none of"

/-- The SQL of an operator on a choice of texts. -/
def OptionsOperator.sql : OptionsOperator → String
  | anyOf => "= ANY"
  | noneOf => "<> ALL"

/-- The SQL of an operator on filters of a kind, if they have that operator. -/
def FilterKind.operatorSql? (kind : FilterKind) (operator : String) : Option String :=
  match kind with
  | string => (Keyword.ofWord? operator).map StringOperator.sql
  | number => (Keyword.ofWord? operator).map NumberOperator.sql
  | datetime => (Keyword.ofWord? operator).map DatetimeOperator.sql
  | options => (Keyword.ofWord? operator).map OptionsOperator.sql

end Dashboard
