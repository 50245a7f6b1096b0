import Dashboard.Json.Basic
import Dashboard.Number.Binary
import Dashboard.Number.Literal

/-!
# Settings

* `Settings` hold the connection to the database and the options of the service; each has a
  default.
* `Settings.ofFields?` takes settings from named values and refuses unknown names and values of the
  wrong type. An integer may be given as an integer, as a double of at most 63 bits without a
  fraction, or as a text.
* `Settings.databaseUrl?` is the address of the database. There is none if the port has too many
  digits to be written.
* `loggerName` is the name of the logger of a module.
-/

namespace Dashboard

/-- The connection to the database and the options of the service. -/
structure Settings where
  user : String
  password : String
  database : String
  host : String
  port : Int
  registryPath : String
  queryTimeout : Int
  apiPort : Int
  logLevel : String
  deriving Repr, DecidableEq

namespace Settings

/-- The settings when nothing is set. -/
def standard : Settings :=
  { user := "tracequery"
    password := "tracequery_pw"
    database := "langfuse"
    host := "localhost"
    port := 5432
    registryPath := ""
    queryTimeout := 10000
    apiPort := 8000
    logLevel := "INFO" }

/-- The address of the database, if its port can be written. -/
def databaseUrl? (s : Settings) : Option String :=
  if isWritable s.port then
    some ("postgresql://" ++ s.user ++ ":" ++ s.password ++ "@" ++ s.host ++ ":" ++
      toString s.port ++ "/" ++ s.database)
  else none

/-- A text without a point and zeros at its end. -/
def dropZeroFraction (s : List Char) : List Char :=
  match s.reverse.dropWhile (· == '0') with
  | '.' :: r => r.reverse
  | _ => s

/-- An integer in one of its three forms. -/
def integer? : Json → Option Int
  | .int n => some n
  | .bool b => some (if b then 1 else 0)
  | .float x => match Binary.ofFloat x with
    | .finite negative m q =>
      let n := Binary.truncate negative m q
      let fraction := m * Nat.pow 2 q.toNat % Nat.pow 2 (-q).toNat
      if fraction = 0 ∧ n.natAbs < Nat.pow 2 63 then some n else none
    | _ => none
  | .text s =>
    let body := dropZeroFraction (Text.strip s.toList)
    if body.all fun c => decide (c.toNat < 0x80) then (readInteger body).toOption else none
  | _ => none

/-- A text. -/
def text? : Json → Option String
  | .text s => some s
  | _ => none

/-- Sets one setting by its name. -/
def set? (s : Settings) (name : String) (j : Json) : Option Settings :=
  match name with
  | "postgres_user" => (text? j).map fun v => { s with user := v }
  | "postgres_password" => (text? j).map fun v => { s with password := v }
  | "postgres_db" => (text? j).map fun v => { s with database := v }
  | "postgres_host" => (text? j).map fun v => { s with host := v }
  | "postgres_port" => (integer? j).map fun v => { s with port := v }
  | "registry_path" => (text? j).map fun v => { s with registryPath := v }
  | "query_timeout_ms" => (integer? j).map fun v => { s with queryTimeout := v }
  | "api_port" => (integer? j).map fun v => { s with apiPort := v }
  | "log_level" => (text? j).map fun v => { s with logLevel := v }
  | _ => none

/-- The standard settings with some of them set anew. -/
def ofFields? (fields : Fields Json) : Option Settings :=
  fields.foldlM (fun s f => set? s f.1 f.2) standard

end Settings

/-- The name that all loggers share. -/
def rootLogger : String := "tracequery"

/-- The name of the logger of a module: below the shared name, unless it lies there already. -/
def loggerName (name : String) : String :=
  if name = rootLogger ∨ (rootLogger.toList ++ ['.']).isPrefixOf name.toList then name
  else rootLogger ++ "." ++ name

end Dashboard
