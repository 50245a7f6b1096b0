/-!
# JSON values

* `Json` is a JSON value. A number written with a point or an exponent is a `float`, any other an
  `int` of unlimited size, so that `2` and `2.0` are different values. The fields of an object keep
  their order.
* `Fields` are the entries of an object; `Fields.put` sets one, and a name that is there already
  keeps its place.
* `Fields.field?` is the value of a field.
-/

namespace Dashboard

/-- A JSON value. -/
inductive Json where
  | null
  | bool (b : Bool)
  | int (n : Int)
  | float (x : Float)
  | text (s : String)
  | list (items : List Json)
  | object (fields : List (String × Json))
  deriving Repr, Inhabited

/-- Entries keyed by names, in order. -/
abbrev Fields (α : Type) := List (String × α)

namespace Fields

variable {α : Type}

/-- The value of the first field of a name. -/
def field? (name : String) (fields : Fields α) : Option α := fields.lookup name

/-- Whether there is a field of a name. -/
def has (name : String) (fields : Fields α) : Bool := fields.any fun f => f.1 == name

/-- Sets a field: a new name goes to the end, a name that is there keeps its place. -/
def put (name : String) (value : α) : Fields α → Fields α
  | [] => [(name, value)]
  | f :: fs => if f.1 == name then (name, value) :: fs else f :: put name value fs

/-- Sets fields one after the other. -/
def ofList (entries : List (String × α)) : Fields α :=
  entries.foldl (fun fields e => put e.1 e.2 fields) []

@[simp] theorem put_nil (name : String) (value : α) : put name value [] = [(name, value)] := rfl

@[simp] theorem ofList_nil : ofList ([] : List (String × α)) = [] := rfl

end Fields
end Dashboard
