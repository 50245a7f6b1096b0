import Dashboard.Http
import Dashboard.Proofs.Refusals

/-!
# The endpoints for queries

The three endpoints read the same request from a message, and come to the same decision about it.

* `Http.handle_of_route`: a message with the method of its route is answered by that route, and the
  answer sent if it can be written.
* `Http.statusOf_eq_validation`, `statusOf_eq_resolution` and `statusOf_eq_refused` say which
  reasons have which status.
* `endpoints_agree`: the executor is asked for exactly the requests that are reported as valid, and
  all other requests are refused by all endpoints for the same reason, or fail in all of them at a
  placeholder that the gate cannot read. An answer that cannot be written is sent as a failure of
  the server. So a valid request may still have no statement to show: its values can be executed
  with, but not written.
-/

namespace Dashboard
namespace Http

/-! ### Answers -/

/-- A request is reported as valid. -/
def Response.IsValid (answer : Response) : Prop :=
  ∃ errors, answer = ⟨200, .json (.object [("errors", .list errors), ("is_valid", .bool true)])⟩

/-- A list of problems. -/
def problems (lines : List String) : Response :=
  ⟨200, .json (.object [("errors", .list (lines.map .text)), ("is_valid", .bool lines.isEmpty)])⟩

/-- A statement with its values. -/
def statementJson (s : Statement) : Json :=
  .object [("sql", .text s.text), ("parameters", .list (s.parameters.map jsonOf))]

theorem sent_json (status : Nat) (j : Json) : (Response.mk status (.json j)).sent =
    if isWritable j = true then ⟨status, .json j⟩ else internalError := rfl

theorem isValid_problems_nil : (problems []).sent.IsValid := ⟨[], rfl⟩

theorem not_isValid_problems_cons (line : String) (rest : List String) :
    ¬(problems (line :: rest)).sent.IsValid := by
  rintro ⟨errors, h⟩
  rw [problems, sent_json] at h
  split at h
  · cases h
  · cases h

theorem not_isValid_internalError : ¬internalError.IsValid := by
  rintro ⟨errors, h⟩
  cases h

theorem status_sent_json {j : Json} :
    (Response.mk 200 (.json j)).sent.status = 200 ↔ isWritable j = true := by
  rw [sent_json]
  split
  · simp [*]
  · simp [*, internalError]

/-! ### Refusals -/

/-- The detail of a reason, after the field if there is one. -/
def lineOf (e : QueryError) : String :=
  match e.field with
  | none => e.message
  | some field => field ++ ": " ++ e.message

theorem lineOf_eq_report {e : QueryError} (h : e.Definite) : lineOf e = e.report := by
  have hplace := h.field
  unfold lineOf QueryError.report
  generalize e.field = place at hplace
  match place with
  | none => rfl
  | some field =>
    have hfield : field ≠ "" := fun heq => hplace (congrArg some heq)
    simp

theorem statusOf_eq_validation (e : QueryError) :
    statusOf e = 422 ↔ e.isA .validation = true := by
  unfold statusOf QueryError.isA
  cases e.kind <;> decide

theorem statusOf_eq_resolution (e : QueryError) :
    statusOf e = 400 ↔ e.isA .schemaResolution = true ∨ e.isA .semantics = true := by
  unfold statusOf QueryError.isA
  cases e.kind <;> decide

theorem statusOf_eq_refused {e : QueryError} (h : e.Definite) :
    statusOf e = 500 ↔ e.isA .refusedStatement = true := by
  have hkind := h.kind
  unfold statusOf QueryError.isA
  revert hkind
  cases e.kind <;> decide

theorem status_sent_refusal (e : QueryError) : (refusal e).sent.status ≠ 200 := by
  have hstatus : statusOf e ≠ 200 := by
    unfold statusOf QueryError.isA
    cases e.kind <;> decide
  rw [refusal, sent_json]
  split
  · exact hstatus
  · nofun

/-! ### Messages -/

variable {ε : Type} (r : Registry) (execute : Statement → Except ε (List Row)) (latency : Nat)

theorem preflight?_eq_none {m : Message} (h : m.method ≠ "OPTIONS") : preflight? m = none :=
  if_neg fun hoptions => h hoptions.1

/-- A message with the method of its route is answered by that route. -/
theorem handle_of_route {m : Message} (route : Route) (hmethod : m.method = route.method)
    (hroute : route? m.path = some route) :
    handle r execute latency m =
      ((served r execute latency m route).1.sent, (served r execute latency m route).2) := by
  have hpreflight : preflight? m = none := by
    refine preflight?_eq_none ?_
    rw [hmethod]
    cases route <;> simp [Route.method]
  unfold handle
  simp only [hpreflight, hroute, hmethod, if_true]

theorem requestOf_object {m : Message} {tenant : String} {fields : Fields Json}
    (hheader : header? tenantHeader m.headers = some tenant)
    (hbody : m.body = .json (.object fields)) :
    requestOf m = .ok ⟨.object fields, .text tenant⟩ := by
  simp only [requestOf, tenantOf, objectOf, hheader, hbody]

section
variable {m : Message} {q : Request} (hmethod : m.method = "POST") (hq : requestOf m = .ok q)
include hmethod hq

theorem handle_validate (hpath : m.path = "/query/validate") :
    handle r execute latency m = ((validateAnswer r q).sent, []) := by
  rw [handle_of_route r execute latency .validate hmethod (by rw [hpath]; rfl)]
  simp only [served, hq]

theorem handle_compile (hpath : m.path = "/query/compile") :
    handle r execute latency m = ((compileAnswer r q).sent, []) := by
  rw [handle_of_route r execute latency .compile hmethod (by rw [hpath]; rfl)]
  simp only [served, hq]

theorem handle_query (hpath : m.path = "/query") :
    handle r execute latency m =
      ((queryAnswer latency (q.run r execute)).sent, (q.run r execute).executed) := by
  rw [handle_of_route r execute latency .query hmethod (by rw [hpath]; rfl)]
  simp only [served, hq]

end

section
variable {q : Request}

theorem validateAnswer_of_ok {lines : List String} (h : q.check r = .ok lines) :
    validateAnswer r q = problems lines := by
  simp only [validateAnswer, h, problems]

theorem validateAnswer_of_error {e : BuildError} (h : q.check r = .error e) :
    validateAnswer r q = buildFailure e := by
  simp only [validateAnswer, h]

theorem compileAnswer_of_ok {s : Statement} (h : q.compile r = .ok s) :
    compileAnswer r q = ⟨200, .json (statementJson s)⟩ := by
  simp only [compileAnswer, h, statementJson]

theorem compileAnswer_of_error {e : BuildError} (h : q.compile r = .error e) :
    compileAnswer r q = buildFailure e := by
  simp only [compileAnswer, h]

theorem queryAnswer_of_error {e : BuildError} (h : q.compile r = .error e) :
    queryAnswer latency (q.run r execute) = buildFailure e := by
  simp only [queryAnswer, Request.run_of_error h]

end

end Http

open Http in
/-- For every object in the body and every tenant in the header: a request is executed exactly if it
is reported as valid, and what is executed is the statement that the other endpoint shows, if that
can be written. Of a request that is not valid, all three endpoints give the same reason, two of
them in the same answer with the status of its kind, and the third in the first line of its list.
There is no such reason if the gate cannot read a placeholder of the statement, and then all three
fail. -/
theorem endpoints_agree {ε : Type} (r : Registry) (execute : Statement → Except ε (List Row))
    (latency : Nat) {headers : List (String × String)} {tenant : String}
    (htenant : header? tenantHeader headers = some tenant) (fields : Fields Json) :
    let answer (path : String) : Served :=
      handle r execute latency ⟨"POST", path, headers, .json (.object fields)⟩
    let validated := answer "/query/validate"
    let compiled := answer "/query/compile"
    let queried := answer "/query"
    (validated.1.IsValid ↔ queried.2 ≠ []) ∧
    (∀ s, s ∈ queried.2 →
      queried.2 = [s] ∧ compiled = ((Response.mk 200 (.json (statementJson s))).sent, [])) ∧
    (compiled.1.status = 200 ↔ ∃ s, s ∈ queried.2 ∧ Http.isWritable (statementJson s) = true) ∧
    (¬validated.1.IsValid →
      (∃ e rest, compiled = ((refusal e).sent, []) ∧ queried = compiled ∧
        validated = ((problems (lineOf e :: rest)).sent, []) ∧
        (statusOf e = 422 ↔ e.isA .validation = true) ∧
        (statusOf e = 400 ↔ e.isA .schemaResolution = true ∨ e.isA .semantics = true) ∧
        (statusOf e = 500 ↔ e.isA .refusedStatement = true)) ∨
      (∃ digits, (Request.mk (.object fields) (.text tenant)).Unreadable r digits) ∧
        compiled = (internalError, []) ∧ queried = compiled ∧ validated = compiled) := by
  intro answer validated compiled queried
  have hrequest (path : String) := requestOf_object
    (m := ⟨"POST", path, headers, .json (.object fields)⟩) htenant rfl
  have hvalidated : validated = _ := handle_validate r execute latency rfl (hrequest _) rfl
  have hcompiled : compiled = _ := handle_compile r execute latency rfl (hrequest _) rfl
  have hqueried : queried = _ := handle_query r execute latency rfl (hrequest _) rfl
  generalize Request.mk (.object fields) (.text tenant) = q at hvalidated hcompiled hqueried ⊢
  cases hc : q.compile r with
  | ok s =>
    rw [validateAnswer_of_ok r (Request.check_of_ok hc)] at hvalidated
    rw [compileAnswer_of_ok r hc] at hcompiled
    have hexecuted : queried.2 = [s] := by
      rw [hqueried]
      exact Request.executed_of_ok hc
    have hvalid : validated.1.IsValid := by
      rw [hvalidated]
      exact isValid_problems_nil
    refine ⟨by simp [hvalid, hexecuted], fun s' hs' => ?_, ?_, fun h => absurd hvalid h⟩
    · rw [hexecuted, List.mem_singleton] at hs'
      exact ⟨hs' ▸ hexecuted, hs' ▸ hcompiled⟩
    · rw [hcompiled]
      simp [hexecuted, status_sent_json]
  | error e =>
    rw [compileAnswer_of_error r hc] at hcompiled
    rw [queryAnswer_of_error r execute latency hc, Request.run_of_error hc, ← hcompiled]
      at hqueried
    have hnone : queried.2 = [] := by rw [hqueried, hcompiled]
    -- what is left is to say that neither answer is that to a valid request
    suffices hrefused : ¬validated.1.IsValid ∧ compiled.1.status ≠ 200 ∧ (_ ∨ _) by
      obtain ⟨hinvalid, hstatus, hcases⟩ := hrefused
      exact ⟨by simp [hinvalid, hnone], by simp [hnone], by simp [hstatus, hnone], fun _ => hcases⟩
    rcases Request.check_of_error hc with
      ⟨reason, rest, rfl, hcheck⟩ | ⟨digits, rfl, hunreadable, hcheck⟩
    · have hdefinite := Request.definite_of_compile_error hc
      rw [validateAnswer_of_ok r hcheck, ← lineOf_eq_report hdefinite] at hvalidated
      refine ⟨?_, ?_, .inl ⟨reason, rest, hcompiled, hqueried, hvalidated,
        statusOf_eq_validation reason, statusOf_eq_resolution reason,
        statusOf_eq_refused hdefinite⟩⟩
      · rw [hvalidated]
        exact not_isValid_problems_cons _ _
      · rw [hcompiled]
        exact status_sent_refusal reason
    · rw [validateAnswer_of_error r hcheck, ← hcompiled] at hvalidated
      refine ⟨?_, ?_, .inr ⟨⟨digits, hunreadable⟩, hcompiled, hqueried, hvalidated⟩⟩
      · rw [hvalidated, hcompiled]
        exact not_isValid_internalError
      · rw [hcompiled]
        nofun

namespace Events

/-- A text of half a pair of code units. -/
def halfText : String := Text.ofLetters [.ofCode 0xD800]

/-- The fields of a description that compares the owner with half a pair. -/
def halfFields : Fields Json :=
  [("from", .text "events"), ("select", .list [.object [("column", .text "owner")]]),
    ("filter", .list [.object [("type", .text "string"), ("column", .text "owner"),
      ("operator", .text "="), ("value", .text halfText)]])]

/-- Its statement for the tenant `a`. -/
def halfStatement : Statement where
  text := "SELECT e.owner AS \"owner\" FROM events e" ++
    " WHERE e.owner = :p1 ::\"Owner\" AND e.owner = :p2 ::\"Owner\";"
  parameters := [.text halfText, .text "a"]

/-- The answer of an endpoint to that description, with an executor that finds no rows. -/
def halfAnswer (path : String) : Http.Served :=
  Http.handle registry (fun _ => (.ok [] : Except String (List Row))) 0
    ⟨"POST", path, [("X-Project-Id", "a")], .json (.object halfFields)⟩

end Events

open Events in
/-- The comparison with half a pair is reported as valid and executed, but its statement is not
shown: the half cannot be written. -/
theorem endpoints_agree_half :
    Http.header? Http.tenantHeader [("X-Project-Id", "a")] = some "a" ∧
    (halfAnswer "/query").2 = [halfStatement] ∧ (halfAnswer "/query/validate").1.IsValid ∧
    (halfAnswer "/query/compile").1.status = 500 := by
  have hheader : Http.header? Http.tenantHeader [("X-Project-Id", "a")] = some "a" := by
    decide +kernel
  have hgate : halfStatement.violations = .ok [] := by decide +kernel
  have hcompile : (Request.mk (.object halfFields) (.text "a")).compile registry =
      .ok halfStatement := Request.compile_eq_ok.2 ⟨_, rfl, rfl, hgate⟩
  obtain ⟨hvalid, hshown, -, -⟩ :=
    endpoints_agree registry (fun _ => (.ok [] : Except String (List Row))) 0 hheader halfFields
  have hexecuted : (halfAnswer "/query").2 = [halfStatement] := by
    rw [halfAnswer, Http.handle_query _ _ _ rfl (Http.requestOf_object hheader rfl) rfl,
      Request.executed_of_ok hcompile]
  have hcompiled : halfAnswer "/query/compile" = _ :=
    (hshown halfStatement (hexecuted ▸ List.mem_singleton_self _)).2
  have hhalf : ¬Http.isWritable (Http.statementJson halfStatement) = true := by decide +kernel
  refine ⟨hheader, hexecuted, hvalid.2 (hexecuted ▸ List.cons_ne_nil _ _), ?_⟩
  rw [hcompiled, Http.sent_json, if_neg hhalf, Http.internalError]

end Dashboard
