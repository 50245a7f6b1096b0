import Dashboard.Registry.Basic
import Dashboard.Text.Blank

/-!
# Reading a registry

`Registry.ofDocument` turns the raw content of a registry file into a registry. Whatever ends up in
SQL text is checked here: names and casts are plain identifiers, names are unique, every column has
an expression, and every table has a source and declares its tenant columns among its columns.

A `RegistryError` says what is wrong; the first fault in the order of the file counts. One that
would have to show an integer with too many digits only says so.
-/

namespace Dashboard

/-- The things that bear a name in a registry. -/
inductive NameRole where
  | table
  | column
  | cast
  deriving Repr, DecidableEq

/-- The words for a named thing. -/
def NameRole.words : NameRole → String
  | table => "table name"
  | column => "column name"
  | cast => "cast type"

/-- What is wrong with a registry file. -/
inductive RegistryError where
  | invalidName (role : NameRole) (value : Document)
  | unknownType (column : String) (value : Document)
  | noInternal (column : String)
  | noSource (table : String)
  | duplicateColumns (table : String)
  | noTenantColumns (table : String)
  | foreignTenantColumn (value : Document) (table : String)
  | duplicateTables
  | notAMap
  | notAList
  | longInteger
  deriving Repr

/-- The wording of a fault; where a map or a list is missing there is none. -/
def RegistryError.message? : RegistryError → Option String
  | invalidName role value =>
    some ("Invalid " ++ role.words ++ " " ++ value.shown ++ ": must be a plain identifier")
  | unknownType column value =>
    some ("Column '" ++ column ++ "' has unknown type " ++ value.shown)
  | noInternal column => some ("Column '" ++ column ++ "' has no internal expression")
  | noSource table => some ("Table '" ++ table ++ "' has no source")
  | duplicateColumns table => some ("Table '" ++ table ++ "' has duplicate column names")
  | noTenantColumns table => some ("Table '" ++ table ++ "' declares no tenant columns")
  | foreignTenantColumn value table =>
    some ("Tenant column '" ++ value.sentence ++ "' is not a column of table '" ++ table ++ "'")
  | duplicateTables => some "Duplicate table names in registry"
  | notAMap => none
  | notAList => none
  | longInteger => some tooLongToWrite

/-- The fault of a value, which can be shown only if no integer in it is too long. -/
def RegistryError.ofValue (value : Document) (e : RegistryError) : RegistryError :=
  if value.hasLongInteger then longInteger else e

/-! ### Identifiers -/

/-- The characters that an identifier may start with. -/
def isIdentifierStart (c : Char) : Bool :=
  ('A' ≤ c && c ≤ 'Z') || ('a' ≤ c && c ≤ 'z') || c == '_'

/-- The characters that an identifier may go on with. -/
def isIdentifierPart (c : Char) : Bool := isIdentifierStart c || ('0' ≤ c && c ≤ '9')

/-- The rest of an identifier; one line break may end it. -/
def isIdentifierTail : List Char → Bool
  | [] => true
  | ['\n'] => true
  | c :: r => isIdentifierPart c && isIdentifierTail r

/-- A plain identifier. -/
def isIdentifier : List Char → Bool
  | [] => false
  | c :: r => isIdentifierStart c && isIdentifierTail r

namespace Registry

/-- The entries of a map. -/
def entriesOf (d : Document) : Except RegistryError (List (Document × Document)) :=
  match d.entries? with
  | some entries => return entries
  | none => throw .notAMap

/-- The parts of a document, none if it counts as absent. -/
def itemsOf (d : Document) : Except RegistryError (List Document) :=
  if d.isFalsy then return []
  else match d.items? with
    | some items => return items
    | none => throw .notAList

/-- A text that is a plain identifier. -/
def identifierOf (role : NameRole) (d : Document) : Except RegistryError String :=
  match d with
  | .text s => if isIdentifier s.toList then return s else throw (.invalidName role d)
  | _ => throw (.ofValue d (.invalidName role d))

/-- A text that is not blank. -/
def solidText? : Document → Option String
  | .text s => if (Text.strip s.toList).isEmpty then none else some s
  | _ => none

/-- The semantic type that a document names. -/
def typeOf (column : String) : Document → Except RegistryError SemanticType
  | .text s => match SemanticType.ofWord? s with
    | some t => return t
    | none => throw (.unknownType column (.text s))
  | d => throw (.ofValue d (.unknownType column d))

/-- A column; its type is `string` unless it says otherwise. -/
def columnOf (d : Document) : Except RegistryError Column := do
  let entries ← entriesOf d
  let name ← identifierOf .column ((Document.lookup "name" entries).getD .null)
  let type ← typeOf name ((Document.lookup "type" entries).getD (.text "string"))
  match solidText? ((Document.lookup "internal" entries).getD .null) with
  | none => throw (.noInternal name)
  | some internal =>
    let cast ← match (Document.lookup "cast" entries).getD .null with
      | .null => pure none
      | d => some <$> identifierOf .cast d
    return { name, internal := String.ofList (Text.strip internal.toList), type, cast }

/-- The tenant columns of a table, each of which must be one of its columns. -/
def tenantColumnsOf (table : String) (names : List String) :
    List Document → Except RegistryError (List String)
  | [] => return []
  | d :: ds => match d with
    | .text s => do
      if names.contains s then
        let rest ← tenantColumnsOf table names ds
        return s :: rest
      else throw (.foreignTenantColumn d table)
    | _ => throw (.ofValue d (.foreignTenantColumn d table))

/-- A table. Its source is folded to one line. -/
def tableOf (d : Document) : Except RegistryError Table := do
  let entries ← entriesOf d
  let name ← identifierOf .table ((Document.lookup "name" entries).getD .null)
  match solidText? ((Document.lookup "source" entries).getD .null) with
  | none => throw (.noSource name)
  | some source =>
    let columns ← (← itemsOf ((Document.lookup "columns" entries).getD .null)).mapM columnOf
    let names := columns.map Column.name
    if ¬ names.Nodup then throw (.duplicateColumns name)
    let tenants ← itemsOf ((Document.lookup "tenant_columns" entries).getD .null)
    if tenants.isEmpty then throw (.noTenantColumns name)
    let tenantColumns ← tenantColumnsOf name names tenants
    return { name, source := String.ofList (Text.fold source.toList), columns, tenantColumns }

/-- A registry; its version is `1` unless it says otherwise. -/
def ofDocument (d : Document) : Except RegistryError Registry := do
  let entries ← entriesOf d
  let items ← match ((Document.lookup "tables" entries).getD (.list [])).items? with
    | some items => pure items
    | none => throw .notAList
  let tables ← items.mapM tableOf
  if ¬ (tables.map Table.name).Nodup then throw .duplicateTables
  return { version := (Document.lookup "version" entries).getD (.int 1), tables }

end Registry
end Dashboard
