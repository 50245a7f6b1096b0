import Dashboard.Document
import Dashboard.Json.Reader
import Dashboard.Request
import Dashboard.Text.Encoding

/-!
# The HTTP interface

`Http.handle` answers a request: `GET /health`, `/tables`, `/tables/{name}` and `/catalog`, and
`POST /query`, `/query/compile` and `/query/validate`. The tenant is the first header
`X-Project-Id`.

A malformed body is reported alone; a missing header and a body that is no object are reported
together. After that a refused query has the status of its kind, a cell of an unknown type is an
error of the server, and any other failure says nothing about itself. So does an answer that cannot
be written.
-/

namespace Dashboard
namespace Http

/-- The body of a request: none, bytes that are no text or a text beyond all bounds, a text that is
no JSON, or a JSON value. -/
inductive Body where
  | missing
  | unreadable
  | malformed (fault : JsonFault)
  | json (value : Json)
  deriving Repr

/-- The text without a mark of the byte order in front. -/
def dropMark : List Char → List Char
  | '\uFEFF' :: r => r
  | s => s

/-- The farthest that lists and objects may be nested in a body. -/
def deepestBody : Nat := 960

/-- The text of a body, in the encoding that its bytes suggest. -/
def decoded? (s : String) : Option String :=
  let bytes := Text.bytes s
  match Text.Encoding.ofBytes bytes with
  | .utf8 => some (String.ofList (dropMark s.toList))
  | e => (e.decode? bytes).map Text.ofLetters

/-- The body that a text is; the empty text is none. -/
def Body.ofText (s : String) : Body :=
  if s = "" then missing
  else match decoded? s with
    | none => unreadable
    | some text => match Json.read deepestBody text with
      | .ok j => json j
      | .error f => if f.issue.isSyntax then malformed f else unreadable

/-- A request. -/
structure Message where
  method : String
  path : String
  headers : List (String × String)
  body : Body
  deriving Repr

/-- What an answer consists of. -/
inductive Content where
  | json (value : Json)
  | text (s : String)
  deriving Repr

/-- An answer. -/
structure Response where
  status : Nat
  content : Content
  deriving Repr

/-! ### Values in answers -/

/-- A universal identifier: thirty-two hexadecimal digits in five groups. -/
def uuidText (n : Nat) : String :=
  let ds := Text.hexDigits 32 n
  let group (start width : Nat) : String := String.ofList ((ds.drop start).take width)
  "-".intercalate [group 0 8, group 8 4, group 12 4, group 16 4, group 20 12]

mutual

/-- A value as JSON. Timestamps and dates are texts, and so is whatever has no form of its own;
doubles that are no numbers are null. -/
def jsonOf : Value → Json
  | .null => .null
  | .bool b => .bool b
  | .int n => .int n
  | .float x => if x.isFinite then .float x else .null
  | .decimal d => match d.toFloat? with
    | some x => if x.isFinite then .float x else .null
    | none => .null
  | .text s => .text s
  | .bytes bs => .text (String.ofList (bs.map fun b => Char.ofNat b.toNat))
  | .date d => .text d.iso
  | .time t => .text t.wire
  | .list items => .list (jsonOfItems items)
  | .tuple items => .list (jsonOfItems items)
  | .set items => .list (jsonOfItems items)
  | .record fields => .object (jsonOfFields fields)
  | .uuid n => .text (uuidText n)
  | .foreign kind => .text kind.typeName

/-- Values as JSON. -/
def jsonOfItems : List Value → List Json
  | [] => []
  | v :: vs => jsonOf v :: jsonOfItems vs

/-- Fields as JSON. -/
def jsonOfFields : List (String × Value) → List (String × Json)
  | [] => []
  | (k, v) :: fs => (k, jsonOf v) :: jsonOfFields fs

end

mutual

/-- A document as JSON; a key that is no text is written as in messages. -/
def jsonOfDocument : Document → Json
  | .null => .null
  | .bool b => .bool b
  | .int n => .int n
  | .float x => if x.isFinite then .float x else .null
  | .text s => .text s
  | .bytes bs => .text (String.ofList (bs.map fun b => Char.ofNat b.toNat))
  | .date d => .text d.iso
  | .time t => .text t.wire
  | .list items => .list (jsonOfDocuments items)
  | .tuple items => .list (jsonOfDocuments items)
  | .set items => .list (jsonOfDocuments items)
  | .map entries => .object (jsonOfEntries entries)
  | .named _ d => jsonOfDocument d
  | .again .. => .null

/-- Documents as JSON. -/
def jsonOfDocuments : List Document → List Json
  | [] => []
  | d :: ds => jsonOfDocument d :: jsonOfDocuments ds

/-- Entries as JSON. -/
def jsonOfEntries : List (Document × Document) → List (String × Json)
  | [] => []
  | (k, v) :: es => (k.sentence, jsonOfDocument v) :: jsonOfEntries es

end

/-- A text or null. -/
def textOrNull : Option String → Json
  | some s => .text s
  | none => .null

/-- An answer that only says what went wrong. -/
def detail (status : Nat) (j : Json) : Response := ⟨status, .json (.object [("detail", j)])⟩

/-- The answer to a failure that says nothing about itself. -/
def internalError : Response := ⟨500, .text "Internal Server Error"⟩

/-- The status of a refused query. -/
def statusOf (e : QueryError) : Nat :=
  if e.isA .validation then 422
  else if e.isA .schemaResolution ∨ e.isA .semantics then 400
  else 500

/-- The answer to a refused query. -/
def refusal (e : QueryError) : Response :=
  ⟨statusOf e, .json (.object [
    ("error", .text e.kind.code), ("field", textOrNull e.field), ("detail", .text e.message)])⟩

/-- The answer to a build error. -/
def buildFailure : BuildError → Response
  | .refused e => refusal e
  | _ => internalError

/-! ### Checks of the request -/

/-- One complaint about a request. -/
def complaint (kind message : String) (place : List Json) (input : Json) : Json :=
  .object [("type", .text kind), ("loc", .list place), ("msg", .text message), ("input", input)]

/-- Where the tenant is expected. -/
def tenantHeader : String := "X-Project-Id"

/-- The value of the first header of a name, in any case. -/
def header? (name : String) (headers : List (String × String)) : Option String :=
  (headers.find? fun h => h.1.toLower == name.toLower).map Prod.snd

/-- The tenant of a request, or the complaint that there is none. -/
def tenantOf (m : Message) : Except Json String :=
  match header? tenantHeader m.headers with
  | some v => .ok v
  | none => .error (complaint "missing" "Field required"
      [.text "header", .text tenantHeader] .null)

mutual

/-- Every number and every text in a value can be written. -/
def isWritable : Json → Bool
  | .int n => Dashboard.isWritable n
  | .float x => x.isFinite
  | .text s => !Text.hasHalf s
  | .list items => areWritable items
  | .object fields => areWritableFields fields
  | _ => true

/-- Every number and every text in values can be written. -/
def areWritable : List Json → Bool
  | [] => true
  | j :: js => isWritable j && areWritable js

/-- Every number and every text in fields can be written. -/
def areWritableFields : List (String × Json) → Bool
  | [] => true
  | (k, j) :: fs => !Text.hasHalf k && isWritable j && areWritableFields fs

end

/-- The object in the body of a request, or the complaint that there is none. -/
def objectOf (m : Message) : Except Json Json :=
  match m.body with
  | .json (.object fields) => .ok (.object fields)
  | .json j => .error (complaint "dict_type" "Input should be a valid dictionary" [.text "body"] j)
  | _ => .error (complaint "missing" "Field required" [.text "body"] .null)

/-- The complaint about a malformed body. -/
def malformedBody (f : JsonFault) : Json :=
  .object [
    ("type", .text "json_invalid"), ("loc", .list [.text "body", .int f.count]),
    ("msg", .text "JSON decode error"), ("input", .object []),
    ("ctx", .object [("error", .text f.issue.message)])]

/-- The answer to complaints. -/
def complaints (js : List Json) : Response := detail 422 (.list js)

/-- An answer as it is sent, if it can be written. -/
def Response.sent (r : Response) : Response :=
  match r.content with
  | .json j => if isWritable j then r else internalError
  | .text _ => r

/-- The request that a message makes, or the answer to one that makes none. -/
def requestOf (m : Message) : Except Response Request :=
  match m.body with
  | .malformed f => .error (complaints [malformedBody f])
  | .unreadable => .error (detail 400 (.text "There was an error parsing the body"))
  | _ => match tenantOf m, objectOf m with
    | .ok tenant, .ok description => .ok ⟨description, .text tenant⟩
    | .ok _, .error c => .error (complaints [c])
    | .error c, .ok _ => .error (complaints [c])
    | .error c, .error c' => .error (complaints [c, c'])

/-! ### Routes -/

/-- What a path leads to. -/
inductive Route where
  | health
  | tables
  | table (name : String)
  | catalog
  | query
  | compile
  | validate
  deriving Repr, DecidableEq

/-- The method of a route. -/
def Route.method : Route → String
  | health | tables | table _ | catalog => "GET"
  | query | compile | validate => "POST"

/-- What stands after the given text at the front of a path, if that holds no slash and is not
empty. -/
def lastPart? (front path : String) : Option String :=
  if front.toList.isPrefixOf path.toList then
    let rest := path.toList.drop front.length
    if rest.isEmpty || rest.contains '/' then none else some (String.ofList rest)
  else none

/-- The route of a path. -/
def route? (path : String) : Option Route :=
  match path with
  | "/health" => some .health
  | "/tables" => some .tables
  | "/catalog" => some .catalog
  | "/query" => some .query
  | "/query/compile" => some .compile
  | "/query/validate" => some .validate
  | _ => (lastPart? "/tables/" path).map .table

/-- The path with the slashes at its end left out, or with one put there if there is none. -/
def otherPath (path : String) : String :=
  match path.toList.reverse with
  | '/' :: r => String.ofList (r.dropWhile (· == '/')).reverse
  | _ => path ++ "/"

/-- The columns of a table in the catalog. -/
def columnList (columns : List (String × SemanticType)) : Json :=
  .list (columns.map fun c => .object [("name", .text c.1), ("type", .text c.2.word)])

/-- A table in the catalog. -/
def tableEntry (name : String) (columns : List (String × SemanticType)) : Json :=
  .object [("name", .text name), ("columns", columnList columns)]

/-- Names of all tables. -/
def tablesAnswer (r : Registry) : Response :=
  ⟨200, .json (.object [("tables", .list (r.tableNames.map .text))])⟩

/-- One table. -/
def tableAnswer (r : Registry) (name : String) : Response :=
  match r.table? name with
  | some t => ⟨200, .json (tableEntry t.name t.listing)⟩
  | none => detail 404 (.text ("Table '" ++ name ++ "' not found"))

/-- All tables with their columns. -/
def catalogAnswer (r : Registry) : Response :=
  ⟨200, .json (.object [
    ("version", jsonOfDocument r.version),
    ("tables", .list (r.listing.map fun t => tableEntry t.1 t.2))])⟩

/-- The problems of a request. -/
def validateAnswer (r : Registry) (q : Request) : Response :=
  match q.check r with
  | .ok errors => ⟨200, .json (.object [
      ("errors", .list (errors.map .text)), ("is_valid", .bool errors.isEmpty)])⟩
  | .error e => buildFailure e

/-- The statement of a request. -/
def compileAnswer (r : Registry) (q : Request) : Response :=
  match q.compile r with
  | .ok s => ⟨200, .json (.object [
      ("sql", .text s.text), ("parameters", .list (s.parameters.map jsonOf))])⟩
  | .error e => buildFailure e

/-- The rows of a request, and the milliseconds it took. -/
def queryAnswer {ε : Type} (latency : Nat) (run : Run ε) : Response :=
  match run.result with
  | .ok a => ⟨200, .json (.object [
      ("rows", .list (a.rows.map fun row => .object (jsonOfFields row))),
      ("latency_ms", .int latency)])⟩
  | .error (.build e) => buildFailure e
  | .error (.cell (.unknownType column type)) =>
    detail 500 (textOrNull (CellError.unknownType column type).message?)
  | .error _ => internalError

/-- An answer, and the statements that were executed for it. -/
abbrev Served := Response × List Statement

/-- Answers a request that the checks have let through. -/
def served {ε : Type} (r : Registry) (execute : Statement → Except ε (List Row)) (latency : Nat)
    (m : Message) (route : Route) : Served :=
  match route with
  | .health => (⟨200, .json (.object [("status", .text "ok")])⟩, [])
  | .tables => (tablesAnswer r, [])
  | .table name => (tableAnswer r name, [])
  | .catalog => (catalogAnswer r, [])
  | .validate => match requestOf m with
    | .ok q => (validateAnswer r q, [])
    | .error answer => (answer, [])
  | .compile => match requestOf m with
    | .ok q => (compileAnswer r q, [])
    | .error answer => (answer, [])
  | .query => match requestOf m with
    | .ok q =>
      let run := q.run r execute
      (queryAnswer latency run, run.executed)
    | .error answer => (answer, [])

/-- The methods that a page of another origin may ask for. -/
def allowedMethods : List String := ["DELETE", "GET", "HEAD", "OPTIONS", "PATCH", "POST", "PUT"]

/-- The answer to the question of a page of another origin, whether it may use a method, if the
message is such a question. -/
def preflight? (m : Message) : Option Response :=
  if m.method = "OPTIONS" ∧ (header? "Origin" m.headers).isSome then
    (header? "Access-Control-Request-Method" m.headers).map fun method =>
      if allowedMethods.contains method then ⟨200, .text "OK"⟩
      else ⟨400, .text "Disallowed CORS method"⟩
  else none

/-- Answers a request. A path that only differs by a slash at its end is redirected. -/
def handle {ε : Type} (r : Registry) (execute : Statement → Except ε (List Row)) (latency : Nat)
    (m : Message) : Served :=
  match preflight? m, route? m.path with
  | some answer, _ => (answer, [])
  | none, some route =>
    if m.method = route.method then
      let (answer, executed) := served r execute latency m route
      (answer.sent, executed)
    else (detail 405 (.text "Method Not Allowed"), [])
  | none, none =>
    if m.path ≠ "/" ∧ (route? (otherPath m.path)).isSome then (⟨307, .text ""⟩, [])
    else (detail 404 (.text "Not Found"), [])

end Http
end Dashboard
