import Dashboard.Query.Compile
import Dashboard.Query.Shape
import Dashboard.Rows
import Dashboard.Sql.Gate

/-!
# Requests

A request is a query description together with the tenant it is made for. The tenant is known from
elsewhere and is never part of the description.

* `Query.faults` lists what is wrong with a description, `Query.parse` reads it or stops at the
  first fault.
* `Request.compile` reads, scopes, plans and compiles, and lets the statement through the safety
  gate.
* `Request.check` lists the problems for which a request would be refused. It fails as
  `Request.compile` does where that gives no reason to refuse the request.
* `Request.run` compiles, executes and normalizes.
-/

namespace Dashboard

/-- What is wrong with a description. A shape without faults still has to name a table. -/
def Query.faults (r : Registry) (j : Json) : List QueryError :=
  match Query.check j with
  | .refused e es => e :: es
  | .ok q => match r.resolveTable q.table with
    | .ok _ => []
    | .error e => [e]

/-- The query of a description, or the first of its faults. -/
def Query.parse (r : Registry) (j : Json) : Except QueryError Query := do
  let q ← (Query.check j).toExcept
  let _ ← r.resolveTable q.table
  return q

/-- What a build error says. -/
def BuildError.report : BuildError → String
  | refused e => e.report
  | unknownAggregation word => "Unknown aggregation '" ++ word ++ "'"
  | unknownDirection word => Text.quoted word
  | notAList => "the value is not a list"
  | longPlaceholder digits => (LongPlaceholder.mk digits).message

/-- A query description and the tenant that asks. -/
structure Request where
  description : Json
  tenant : Value
  deriving Repr

/-- Why a request has no result: it is not compiled, not executed, or its rows are not normal. -/
inductive RunError (ε : Type) where
  | build (error : BuildError)
  | executor (error : ε)
  | cell (error : CellError)
  deriving Repr

/-- The statement that was run, and its rows. -/
structure Answer where
  statement : Statement
  rows : List Row
  deriving Repr

/-- The statements that were executed, and what came of it. -/
structure Run (ε : Type) where
  executed : List Statement
  result : Except (RunError ε) Answer

namespace Request

/-- The statement of a request, if nothing speaks against it. -/
def compile (q : Request) (r : Registry) : Except BuildError Statement := do
  let query ← lookedUp (Query.parse r q.description)
  let statement ← query.toDraft.build q.tenant r
  match statement.violations with
  | .ok [] => return statement
  | .ok vs => throw (.refused (.refusedStatement (vs.map Violation.message)))
  | .error fault => throw (.longPlaceholder fault.digits)

/-- The problems for which a request would be refused. -/
def check (q : Request) (r : Registry) : Except BuildError (List String) :=
  match Query.faults r q.description with
  | [] => match q.compile r with
    | .ok _ => return []
    | .error (.refused e) => return [e.report]
    | .error e => throw e
  | faults => return faults.map QueryError.report

/-- Compiles a request, has the statement executed, and normalizes the rows. -/
def run {ε : Type} (q : Request) (r : Registry) (execute : Statement → Except ε (List Row)) :
    Run ε :=
  match q.compile r with
  | .error e => ⟨[], .error (.build e)⟩
  | .ok s => ⟨[s], match execute s with
    | .error e => .error (.executor e)
    | .ok rows => match normalizeRows rows with
      | .error e => .error (.cell e)
      | .ok rows => .ok ⟨s, rows⟩⟩

end Request
end Dashboard
