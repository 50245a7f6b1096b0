import Dashboard.Time.Reading

/-!
# What can be wrong with a query

* `Issue` is a fault in the shape of a query description, or in what comes with it.
* `QueryError` is a reason why a query is refused; `QueryError.message` puts it into words,
  `QueryError.field` says where in the description it lies, and `QueryError.report` joins the two.
* `ErrorKind` sorts the reasons. `ErrorKind.lineage` lists the kinds that a kind belongs to, from
  itself to the most general.
-/

namespace Dashboard

/-- Choices as a list with commas, and `or` before the last. -/
def orText : List String → String
  | [] => ""
  | [a] => a
  | [a, b] => a ++ " or " ++ b
  | a :: rest => a ++ ", " ++ orText rest

/-- A fault in the shape of a description, in a tenant id, in a unit or in an operator. -/
inductive Issue where
  | required
  | extra
  | notText
  | notUnicode
  | keyword (allowed : List String)
  | notRecord (name : String)
  | notUnion
  | noTag
  | unknownTag (tag : String) (allowed : List String)
  | notList
  | noItems
  | notInteger
  | negative
  | notNumber
  | notTime (fault : TimeFault)
  | noTenant
  | unknownUnit (word : String)
  | unknownOperator (word kind : String)
  | other (message : String)
  deriving Repr, DecidableEq

/-- A keyword between single quotes. -/
def quotedWord (word : String) : String := "'" ++ word ++ "'"

/-- The wording of an issue. -/
def Issue.message : Issue → String
  | required => "Field required"
  | extra => "Extra inputs are not permitted"
  | notText => "Input should be a valid string"
  | notUnicode =>
    "Input should be a valid string, unable to parse raw data as a unicode string"
  | keyword allowed => "Input should be " ++ orText (allowed.map quotedWord)
  | notRecord name => "Input should be a valid dictionary or instance of " ++ name
  | notUnion => "Input should be a valid dictionary or object to extract fields from"
  | noTag => "Unable to extract tag using discriminator 'type'"
  | unknownTag tag allowed =>
    "Input tag '" ++ tag ++ "' found using 'type' does not match any of the expected tags: " ++
      ", ".intercalate (allowed.map quotedWord)
  | notList => "Input should be a valid tuple"
  | noItems => "Tuple should have at least 1 item after validation, not 0"
  | notInteger => "Input should be a valid integer"
  | negative => "Input should be greater than or equal to 0"
  | notNumber => "Input should be a valid number"
  | notTime fault => fault.message
  | noTenant => "A non-empty tenant id is required"
  | unknownUnit word => "Unsupported temporal unit '" ++ word ++ "'"
  | unknownOperator word kind =>
    "Operator '" ++ word ++ "' is not supported for " ++ kind ++ " filters"
  | other message => message

/-- The kinds of reasons to refuse a query. -/
inductive ErrorKind where
  | query
  | validation
  | unsupportedOperator
  | schemaResolution
  | unknownTable
  | unknownColumn
  | semantics
  | multipleTimeGroups
  | mismatchedRange
  | refusedStatement
  deriving Repr, DecidableEq

namespace ErrorKind

/-- The name under which a kind is reported. -/
def code : ErrorKind → String
  | query => "QueryError"
  | validation => "QueryValidationError"
  | unsupportedOperator => "UnsupportedOperatorError"
  | schemaResolution => "SchemaResolutionError"
  | unknownTable => "UnknownTableError"
  | unknownColumn => "UnknownColumnError"
  | semantics => "QuerySemanticsError"
  | multipleTimeGroups => "MultipleDatetimeGroupByError"
  | mismatchedRange => "MismatchedRangeColumnError"
  | refusedStatement => "UnsafeStatementError"

/-- The kinds that a kind belongs to, itself first. -/
def lineage : ErrorKind → List ErrorKind
  | query => [query]
  | validation => [validation, query]
  | unsupportedOperator => [unsupportedOperator, validation, query]
  | schemaResolution => [schemaResolution, query]
  | unknownTable => [unknownTable, schemaResolution, query]
  | unknownColumn => [unknownColumn, schemaResolution, query]
  | semantics => [semantics, query]
  | multipleTimeGroups => [multipleTimeGroups, semantics, query]
  | mismatchedRange => [mismatchedRange, semantics, query]
  | refusedStatement => [refusedStatement, query]

end ErrorKind

/-- A reason why a query is refused. The reasons with a free message stand for their whole kind. -/
inductive QueryError where
  | query (message : String) (field : Option String)
  | invalid (issue : Issue) (field : Option String)
  | unsupportedOperator (issue : Issue) (field : Option String)
  | schemaResolution (message : String) (field : Option String)
  | unknownTable (table : String) (field : Option String)
  | unknownColumn (table column : String) (field : Option String)
  | semantics (message : String) (field : Option String)
  | multipleTimeGroups
  | mismatchedRange (group lower upper : String)
  | refusedStatement (violations : List String)
  deriving Repr, DecidableEq

namespace QueryError

/-- The kind of a reason. -/
def kind : QueryError → ErrorKind
  | query .. => .query
  | invalid .. => .validation
  | unsupportedOperator .. => .unsupportedOperator
  | schemaResolution .. => .schemaResolution
  | unknownTable .. => .unknownTable
  | unknownColumn .. => .unknownColumn
  | semantics .. => .semantics
  | multipleTimeGroups => .multipleTimeGroups
  | mismatchedRange .. => .mismatchedRange
  | refusedStatement .. => .refusedStatement

/-- The wording of a reason. -/
def message : QueryError → String
  | query m _ => m
  | invalid issue _ => issue.message
  | unsupportedOperator issue _ => issue.message
  | schemaResolution m _ => m
  | unknownTable table _ => "Table '" ++ table ++ "' not found"
  | unknownColumn table column _ =>
    "Column '" ++ column ++ "' not found in table '" ++ table ++ "'"
  | semantics m _ => m
  | multipleTimeGroups => "Only one datetime group by is supported"
  | mismatchedRange group lower upper =>
    "Min date column, max date column must match group by column (group by '" ++ group ++
      "', min '" ++ lower ++ "', max '" ++ upper ++ "')"
  | refusedStatement violations => "; ".intercalate violations

/-- Where in the description a reason lies, if it lies anywhere. -/
def field : QueryError → Option String
  | query _ f | invalid _ f | unsupportedOperator _ f | schemaResolution _ f | unknownTable _ f
  | unknownColumn _ _ f | semantics _ f => f
  | multipleTimeGroups => some "groupBy"
  | mismatchedRange .. => some "filter"
  | refusedStatement _ => none

/-- The message, after the place unless that is missing or empty. -/
def report (e : QueryError) : String :=
  match e.field with
  | none | some "" => e.message
  | some f => f ++ ": " ++ e.message

/-- A reason belongs to a kind. -/
def isA (e : QueryError) (kind : ErrorKind) : Bool := e.kind.lineage.contains kind

end QueryError
end Dashboard
