import Dashboard.Document
import Dashboard.Query.Basic
import Dashboard.Query.Checked
import Dashboard.Time.Reading

/-!
# The shape of a query description

`Query.check` reads a JSON value as a query. It looks at every part of the description on its own
and reports the faults of all of them: those of the fields in the order from, select, filter,
groupBy, orderBy, limit, and then one for each field that there should not be. A fault inside a
list has the position of its entry in its path, and inside a filter or a grouping the kind too.

A text with half a pair of code units is a text, but neither a keyword nor a timestamp.
-/

namespace Dashboard

open Checked

namespace Shape

/-! ### Values -/

/-- A text. -/
def text (path : Path) : Json → Checked String
  | .text s => ok s
  | _ => fault .notText path

/-- A word of a closed set. -/
def keyword (α : Type) [Keyword α] (path : Path) (j : Json) : Checked α :=
  match j with
  | .text s => match Keyword.ofWord? s with
    | some a => ok a
    | none =>
      fault (if Text.hasHalf s then .notUnicode else .keyword (Keyword.words α)) path
  | _ => fault (.keyword (Keyword.words α)) path

/-- A word of a closed set, or null for none. -/
def keyword? (α : Type) [Keyword α] (path : Path) : Json → Checked (Option α)
  | .null => ok none
  | j => (keyword α path j).map some

/-- An operator of a kind of filters. -/
def operator (α : Type) [Keyword α] (path : Path) (j : Json) : Checked α :=
  match keyword α path j with
  | refused (.invalid (.keyword words) field) es =>
    refused (.unsupportedOperator (.keyword words) field) es
  | c => c

/-- A number; whatever is none is reported as no integer and as no number. -/
def number (path : Path) : Json → Checked NumberValue
  | .int n => ok (.int n)
  | .float x => ok (.float x)
  | _ => refused (.invalid .notInteger (Path.field? (path ++ ["int"])))
    [.invalid .notNumber (Path.field? (path ++ ["float"]))]

/-- A timestamp as a text or as a count of seconds. -/
def timestamp (path : Path) (j : Json) : Checked Timestamp :=
  let answer : Except Issue Timestamp := match j with
    | .text s =>
      if Text.hasHalf s then throw .notUnicode else (Timestamp.ofText s).mapError .notTime
    | .int n => (Timestamp.ofInt false n).mapError .notTime
    | .float x => (Timestamp.ofFloat x).mapError .notTime
    | _ => throw (.notTime .notTime)
  match answer with
  | .ok t => ok t
  | .error issue => fault issue path

/-- The limit: null for none, or a natural number. -/
def limit (path : Path) : Json → Checked (Option Nat)
  | .null => ok none
  | .int n => if n < 0 then fault .negative path else ok (some n.toNat)
  | _ => fault .notInteger path

/-! ### Lists -/

/-- The checks of the entries of a list, each with its position in its path. -/
def entries {α : Type} (path : Path) (check : Path → Json → Checked α) (js : List Json) :
    List (Checked α) :=
  js.mapIdx fun i j => check (path ++ [toString i]) j

/-- A list of any length. -/
def list {α : Type} (check : Path → Json → Checked α) (path : Path) : Json → Checked (List α)
  | .list js => every (entries path check js)
  | _ => fault .notList path

/-- A list with at least one entry that passes its check. -/
def someList {α : Type} (check : Path → Json → Checked α) (path : Path) : Json → Checked (List α)
  | .list js =>
    let cs := entries path check js
    (every cs).andNo
      (if cs.any fun c => c.value?.isSome then [] else [.invalid .noItems path.field?])
  | _ => fault .notList path

/-! ### Entries -/

/-- A record of the given name. -/
def record {α : Type} (name : String) (check : Fields Json → Checked α) (path : Path) :
    Json → Checked α
  | .object fields => check fields
  | _ => fault (.notRecord name) path

/-- A selected column. -/
def selectItem (path : Path) : Json → Checked SelectItem :=
  record "SelectColumn" (fun fields =>
    (map2 SelectItem.mk
      (required path ["column"] text fields)
      (optional path ["agg"] none (keyword? Aggregation) fields)).andNo
    (extras path [["column"], ["agg"]] fields)) path

/-- A column to order by. -/
def orderItem (path : Path) : Json → Checked OrderItem :=
  record "OrderBy" (fun fields =>
    (map2 (fun c (p : Option Aggregation × Direction) => OrderItem.mk c p.1 p.2)
      (required path ["column"] text fields)
      (both
        (optional path ["agg"] none (keyword? Aggregation) fields)
        (required path ["direction"] (keyword Direction) fields))).andNo
    (extras path [["column"], ["agg"], ["direction"]] fields)) path

/-- A record whose field `type` holds one of the given words, which then leads on. -/
def tagged {α : Type} (words : List String) (check : String → Path → Fields Json → Checked α)
    (path : Path) : Json → Checked α
  | .object fields => match Fields.field? "type" fields with
    | none => fault .noTag path
    | some j => match j with
      | .text w =>
        if words.contains w then check w (path ++ [w]) fields
        else fault (.unknownTag (Text.replaceHalves w) words) path
      | _ => fault (.unknownTag (Document.ofJson j).sentence words) path
  | _ => fault .notUnion path

/-- The fields that every filter has. -/
def filterFields {α β : Type} [Keyword α] (path : Path) (make : String → α → β → Filter)
    (value : Path → Json → Checked β) (fields : Fields Json) : Checked Filter :=
  (map2 (fun c (p : α × β) => make c p.1 p.2)
    (required path ["column"] text fields)
    (both
      (required path ["operator"] (operator α) fields)
      (required path ["value"] value fields))).andNo
  (extras path [["type"], ["column"], ["operator"], ["value"]] fields)

/-- A filter. -/
def filter : Path → Json → Checked Filter :=
  tagged (Keyword.words FilterKind) fun w path fields =>
    match Keyword.ofWord? w with
    | some FilterKind.number => filterFields path Filter.number number fields
    | some FilterKind.datetime => filterFields path Filter.datetime timestamp fields
    | some FilterKind.options => filterFields path Filter.options (someList text) fields
    | _ => filterFields path Filter.string text fields

/-- A grouping. -/
def group : Path → Json → Checked GroupBy :=
  tagged (Keyword.words CategoricalWord ++ ["datetime"]) fun w path fields =>
    match Keyword.ofWord? w with
    | some word =>
      ((required path ["column"] text fields).map (GroupBy.categorical word)).andNo
        (extras path [["type"], ["column"]] fields)
    | none =>
      (map2 GroupBy.datetime
        (required path ["column"] text fields)
        (required path ["temporalUnit", "temporal_unit"] (keyword TemporalUnit) fields)).andNo
      (extras path [["type"], ["column"], ["temporalUnit", "temporal_unit"]] fields)

/-! ### Queries -/

/-- The names of the fields of a query; three of them go by two names. -/
def queryFields : List (List String) :=
  [["from", "from_"], ["select"], ["filter"], ["groupBy", "group_by"], ["orderBy", "order_by"],
    ["limit"]]

/-- The fields of a query. -/
def query (fields : Fields Json) : Checked Query :=
  (map2 (fun t (p : _ × _ × _ × _ × _) => Query.mk t p.1 p.2.1 p.2.2.1 p.2.2.2.1 p.2.2.2.2)
    (required [] ["from", "from_"] text fields)
    (both (required [] ["select"] (someList selectItem) fields)
      (both (optional [] ["filter"] [] (list filter) fields)
        (both (optional [] ["groupBy", "group_by"] [] (list group) fields)
          (both (optional [] ["orderBy", "order_by"] [] (list orderItem) fields)
            (optional [] ["limit"] none limit fields)))))).andNo
  (extras [] queryFields fields)

end Shape

/-- Reads a description as a query. -/
def Query.check (j : Json) : Checked Query := Shape.record "QuerySpec" Shape.query [] j

end Dashboard
