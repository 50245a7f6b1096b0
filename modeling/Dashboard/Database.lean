import Dashboard.Document
import Dashboard.Number.Literal
import Dashboard.Rows
import Dashboard.Settings
import Dashboard.Sql.Fragment

/-!
# Running statements

`Session.execute` runs a statement in a read-only transaction with a time limit, and rolls the
transaction back. It works against a `Backend`, which says what the database answers, and records
what it asks of the database as a list of `Call`s.

The engine is created by the first statement of a `Session` and kept. Where the database has no
address, no statement creates one, and nothing is asked of the database. A failure before the
transaction is read-only leaves nothing to roll back; the connection is closed in any case.
-/

namespace Dashboard

/-- How the connections of an engine are kept: how many stay open, how many more there may be at a
time, whether each is tried before use, and whether statements are echoed. -/
structure EngineOptions where
  poolSize : Nat
  maxOverflow : Nat
  poolPrePing : Bool
  echo : Bool
  deriving Repr, DecidableEq

/-- The options of the one engine. -/
def EngineOptions.standard : EngineOptions :=
  { poolSize := 5
    maxOverflow := 10
    poolPrePing := true
    echo := false }

/-- What is asked of the database. -/
inductive Call where
  | createEngine (url : String) (options : EngineOptions)
  | connect
  | execute (sql : String) (parameters : Option (List (String × Value)))
  | rollback
  | close
  deriving Repr

/-- Why a statement has no result. -/
inductive DatabaseError where
  | driver (message : String)
  | timeoutText (shown : String)
  | timeoutNaN (name : String)
  | timeoutInfinite
  | timeoutType
  | timeoutTooLong (digits : Option Nat)
  | portTooLong
  deriving Repr, DecidableEq

/-- The wording of an error; some have none. -/
def DatabaseError.message? : DatabaseError → Option String
  | driver message => some message
  | timeoutText shown => some ("invalid literal for int() with base 10: " ++ Text.clipped shown)
  | timeoutNaN name => some ("cannot convert " ++ name ++ " to integer")
  | timeoutInfinite => none
  | timeoutType => none
  | timeoutTooLong (some digits) => some (tooLongToRead digits)
  | timeoutTooLong none => some tooLongToWrite
  | portTooLong => some tooLongToWrite

/-- How the database answers: the names and values of the result, and which executions of a call
fail, counted from one. -/
structure Backend where
  columns : List String
  rows : List (List Value)
  failure : Nat → Option String

/-- A statement to run, its time limit (null for that of the settings), and how the database
answers. -/
structure Job where
  backend : Backend
  statement : Statement
  timeout : Value

/-- What one call has asked for, and its result. -/
structure Execution where
  calls : List Call
  result : Except DatabaseError (List Row)

/-- A time limit as a text, which messages show as `shown`. -/
def readTimeout (shown : String) (s : List Char) : Except DatabaseError Int :=
  (readInteger s).mapError fun
    | .malformed => .timeoutText shown
    | .tooLong digits => .timeoutTooLong (some digits)

/-- A time limit as an integer: numbers are cut off at the point, texts are read. -/
def timeoutOf (value : Value) : Except DatabaseError Int :=
  match value with
  | .bool b => return (if b then 1 else 0)
  | .int n => return n
  | .float x => match Binary.ofFloat x with
    | .finite negative m q => return Binary.truncate negative m q
    | .nan => throw (.timeoutNaN "float NaN")
    | .infinite _ => throw .timeoutInfinite
  | .decimal d => match d with
    | .finite negative digits e => return Decimal.truncate negative digits e
    | .nan _ => throw (.timeoutNaN "NaN")
    | .infinite _ => throw .timeoutInfinite
  | .uuid n => return n
  | .text s => readTimeout (Text.quoted s) s.toList
  | .bytes bs => readTimeout (Document.shownBytes bs) (bs.map fun b => Char.ofNat b.toNat)
  | _ => throw .timeoutType

/-- The state that statements share: whether the engine exists. -/
structure Session where
  created : Bool
  deriving Repr, DecidableEq

namespace Session

/-- The statement that makes a transaction read-only. -/
def readOnly : String := "SET TRANSACTION READ ONLY"

/-- The statement that limits the time of those after it. -/
def limitTime (n : Int) : String := "SET LOCAL statement_timeout = " ++ toString n

/-- A time limit that can be written. -/
def writable (n : Int) : Except DatabaseError Int :=
  if isWritable n then return n else throw (.timeoutTooLong none)

/-- What happens inside the read-only transaction. -/
def inTransaction (b : Backend) (s : Statement) (timeout : Value) : Execution :=
  match (timeoutOf timeout).bind writable with
  | .error e => ⟨[], .error e⟩
  | .ok n =>
    let limit := Call.execute (limitTime n) none
    let query := Call.execute s.text (some s.bindings)
    match b.failure 2 with
    | some message => ⟨[limit], .error (.driver message)⟩
    | none => match b.failure 3 with
      | some message => ⟨[limit, query], .error (.driver message)⟩
      | none => ⟨[limit, query], .ok (b.rows.map fun row => Fields.ofList (b.columns.zip row))⟩

/-- What happens on one connection. -/
def onConnection (b : Backend) (s : Statement) (timeout : Value) : Execution :=
  let start := Call.execute readOnly none
  match b.failure 1 with
  | some message => ⟨[.connect, start, .close], .error (.driver message)⟩
  | none =>
    let e := inTransaction b s timeout
    ⟨[.connect, start] ++ e.calls ++ [.rollback, .close], e.result⟩

/-- Runs a statement; without a time limit of its own, that of the settings holds. -/
def execute (session : Session) (settings : Settings) (b : Backend) (s : Statement)
    (timeout : Value) : Execution × Session :=
  let limit := match timeout with
    | .null => .int settings.queryTimeout
    | v => v
  let e := onConnection b s limit
  if session.created then (e, session)
  else match settings.databaseUrl? with
    | some url => (⟨.createEngine url .standard :: e.calls, e.result⟩, ⟨true⟩)
    | none => (⟨[], .error .portTooLong⟩, session)

/-- Runs statements one after the other. -/
def executeAll (session : Session) (settings : Settings) : List Job → List Execution
  | [] => []
  | j :: js =>
    let (e, session) := session.execute settings j.backend j.statement j.timeout
    e :: executeAll session settings js

end Session
end Dashboard
