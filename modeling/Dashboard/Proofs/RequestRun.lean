import Dashboard.Proofs.DryRun

/-!
# When a request is executed

Compiling a request reads its description, scopes it to the tenant, plans, compiles, and passes the
safety gate. `Request.run` has the statement executed after all of that.

* `Request.Reads`, `Scopes`, `Plans` and `Compiles` say how far a request comes, and `Request.Stops`
  at which step it fails, and why. `Request.compile_eq_error` says that there is no other failure.
* `normalizeRows_eq_error`: a result is rejected for the first of its cells, in reading order, that
  has no normal form.
* `run_executes_compiled`: the executor is asked once, for the compiled statement, or not at all.
-/

namespace Dashboard

/-- Building fails where it is scoped, planned or compiled. -/
theorem Draft.build_eq_error {d : Draft} {r : Registry} {t : Table} (ht : r.table? d.table = some t)
    {tenant : Value} {e : BuildError} :
    d.build tenant r = .error e ↔
      (∃ reason, d.scope t tenant = .error reason ∧ e = .refused reason) ∨
      ∃ own, d.scope t tenant = .ok own ∧
        ((∃ reason, own.plan t = .error reason ∧ e = .refused reason) ∨
          ∃ plan, own.plan t = .ok plan ∧ own.compile r plan = .error e) := by
  have ht : lookedUp (r.resolveTable d.table) = .ok t :=
    lookedUp_eq_ok.2 (Registry.resolveTable_eq_ok.2 ht)
  rw [Draft.build, ht]
  show (lookedUp (d.scope t tenant) >>= fun own =>
    lookedUp (own.plan t) >>= fun plan => own.compile r plan) = .error e ↔ _
  simp only [bind_eq_error, lookedUp_eq_error, lookedUp_eq_ok]

namespace Request

/-! ### How far a request comes -/

/-- The description is read, and its table is found. -/
def Reads (q : Request) (r : Registry) (query : Query) (t : Table) : Prop :=
  Query.parse r q.description = .ok query ∧ r.table? query.table = some t

/-- What was read is restricted to the tenant. -/
def Scopes (q : Request) (r : Registry) (t : Table) (own : Draft) : Prop :=
  ∃ query, q.Reads r query t ∧ query.toDraft.scope t q.tenant = .ok own

/-- What was restricted gets its time buckets. -/
def Plans (q : Request) (r : Registry) (own : Draft) (plan : Option BucketPlan) : Prop :=
  ∃ t, q.Scopes r t own ∧ own.plan t = .ok plan

/-- What was planned becomes a statement, which may not be safe. -/
def Compiles (q : Request) (r : Registry) (s : Statement) : Prop :=
  ∃ own plan, q.Plans r own plan ∧ own.compile r plan = .ok s

/-- A request stops at the first step that fails, with the error of that step. -/
inductive Stops (q : Request) (r : Registry) : BuildError → Prop
  | validation {e : QueryError} (h : Query.parse r q.description = .error e) :
      Stops q r (.refused e)
  | scoping {query : Query} {t : Table} {e : QueryError} (hq : q.Reads r query t)
      (h : query.toDraft.scope t q.tenant = .error e) : Stops q r (.refused e)
  | planning {t : Table} {own : Draft} {e : QueryError} (hq : q.Scopes r t own)
      (h : own.plan t = .error e) : Stops q r (.refused e)
  | compilation {own : Draft} {plan : Option BucketPlan} {e : BuildError} (hq : q.Plans r own plan)
      (h : own.compile r plan = .error e) : Stops q r e
  | safety {s : Statement} {vs : List Violation} (hq : q.Compiles r s)
      (h : s.violations = .ok vs) (hne : vs ≠ []) :
      Stops q r (.refused (.refusedStatement (vs.map Violation.message)))
  | reading {s : Statement} {fault : LongPlaceholder} (hq : q.Compiles r s)
      (h : s.violations = .error fault) : Stops q r (.longPlaceholder fault.digits)

variable {q : Request} {r : Registry}

theorem Reads.exists_table {query : Query} (h : Query.parse r q.description = .ok query) :
    ∃ t, q.Reads r query t := by
  obtain ⟨-, t, ht⟩ := Query.parse_eq_ok.1 h
  exact ⟨t, h, ht⟩

theorem Reads.build_eq_ok {query : Query} {t : Table} (h : q.Reads r query t) {s : Statement} :
    query.toDraft.build q.tenant r = .ok s ↔ q.Compiles r s := by
  have ht : r.table? query.toDraft.table = some t := h.2
  simp only [Draft.build, bind_eq_ok, lookedUp_eq_ok, Registry.resolveTable_eq_ok, ht]
  constructor
  · rintro ⟨t', ht', own, hown, plan, hplan, hs⟩
    cases ht'
    exact ⟨own, plan, ⟨t, ⟨query, h, hown⟩, hplan⟩, hs⟩
  · rintro ⟨own, plan, ⟨t', ⟨query', h', hown⟩, hplan⟩, hs⟩
    obtain rfl : query = query' := Except.ok.inj (h.1.symm.trans h'.1)
    obtain rfl : t = t' := Option.some.inj (h.2.symm.trans h'.2)
    exact ⟨t, rfl, own, hown, plan, hplan, hs⟩

/-- Compiling fails at one of the steps. -/
theorem compile_eq_error {e : BuildError} : q.compile r = .error e ↔ q.Stops r e := by
  unfold compile
  simp only [bind_eq_error, lookedUp_eq_error, lookedUp_eq_ok]
  constructor
  · rintro (⟨reason, h, rfl⟩ | ⟨query, hquery, h⟩)
    · exact .validation h
    obtain ⟨t, hq⟩ := Reads.exists_table hquery
    rcases h with hbuild | ⟨s, hs, hgate⟩
    · rcases (Draft.build_eq_error hq.2).1 hbuild with ⟨reason, hscope, rfl⟩ | ⟨own, hown, hrest⟩
      · exact .scoping hq hscope
      rcases hrest with ⟨reason, hplan, rfl⟩ | ⟨plan, hplan, hcompile⟩
      · exact .planning ⟨query, hq, hown⟩ hplan
      · exact .compilation ⟨t, ⟨query, hq, hown⟩, hplan⟩ hcompile
    · split at hgate
      · cases hgate
      · rename_i vs hne hv
        cases hgate
        exact .safety (hq.build_eq_ok.1 hs) hv hne
      · rename_i hfault
        cases hgate
        exact .reading (hq.build_eq_ok.1 hs) hfault
  · intro hstops
    cases hstops with
    | validation h => exact .inl ⟨_, h, rfl⟩
    | scoping hq h =>
      exact .inr ⟨_, hq.1, .inl ((Draft.build_eq_error hq.2).2 (.inl ⟨_, h, rfl⟩))⟩
    | planning hown h =>
      obtain ⟨query, hq, hown⟩ := hown
      exact .inr ⟨query, hq.1, .inl ((Draft.build_eq_error hq.2).2
        (.inr ⟨_, hown, .inl ⟨_, h, rfl⟩⟩))⟩
    | compilation hplan h =>
      obtain ⟨t, ⟨query, hq, hown⟩, hplan⟩ := hplan
      exact .inr ⟨query, hq.1, .inl ((Draft.build_eq_error hq.2).2
        (.inr ⟨_, hown, .inr ⟨_, hplan, h⟩⟩))⟩
    | @safety s vs hs hv hne =>
      obtain ⟨own, plan, ⟨t, ⟨query, hq, hown⟩, hplan⟩, hcompile⟩ := id hs
      refine .inr ⟨query, hq.1, .inr ⟨_, hq.build_eq_ok.2 hs, ?_⟩⟩
      rw [hv]
      cases vs with
      | nil => exact absurd rfl hne
      | cons => rfl
    | reading hs hfault =>
      obtain ⟨own, plan, ⟨t, ⟨query, hq, hown⟩, hplan⟩, hcompile⟩ := id hs
      refine .inr ⟨query, hq.1, .inr ⟨_, hq.build_eq_ok.2 hs, ?_⟩⟩
      rw [hfault]
      rfl

end Request

/-! ### Rows -/

/-- The first of the cells, in reading order, that has no normal form, has none for this reason. -/
def RejectedFor (rows : List Row) (e : CellError) : Prop :=
  ∃ before column cell after, rows.flatten = before ++ (column, cell) :: after ∧
    (∀ c ∈ before, ∃ v, normalizeValue c.1 c.2 = .ok v) ∧ normalizeValue column cell = .error e

theorem normalizeRows_eq_error {rows : List Row} {e : CellError} :
    normalizeRows rows = .error e ↔ RejectedFor rows e := by
  have hrows : normalizeRows rows =
      rows.mapM (List.mapM fun c => Prod.mk c.1 <$> normalizeValue c.1 c.2) := rfl
  rw [hrows, ← map_eq_error (f := List.flatten), ← mapM_flatten, mapM_eq_error]
  simp only [map_eq_error, exists_map_eq_ok, RejectedFor, Prod.exists]

/-! ### Runs -/

namespace Request

variable {ε : Type} (q : Request) (r : Registry) (execute : Statement → Except ε (List Row))

/-- The ways that a run can end. -/
inductive Ends : Run ε → Prop
  | stopped {e : BuildError} (h : q.compile r = .error e) : Ends ⟨[], .error (.build e)⟩
  | failed {s : Statement} {e : ε} (h : q.compile r = .ok s) (hs : execute s = .error e) :
      Ends ⟨[s], .error (.executor e)⟩
  | rejected {s : Statement} {rows : List Row} {e : CellError} (h : q.compile r = .ok s)
      (hs : execute s = .ok rows) (hrows : normalizeRows rows = .error e) :
      Ends ⟨[s], .error (.cell e)⟩
  | answered {s : Statement} {rows normal : List Row} (h : q.compile r = .ok s)
      (hs : execute s = .ok rows) (hrows : normalizeRows rows = .ok normal) :
      Ends ⟨[s], .ok ⟨s, normal⟩⟩

variable {q r execute} {run : Run ε}

/-- A request that is not compiled is not executed. -/
theorem run_of_error {e : BuildError} (h : q.compile r = .error e) :
    q.run r execute = ⟨[], .error (.build e)⟩ := by
  simp only [Request.run, h]

theorem executed_of_ok {s : Statement} (h : q.compile r = .ok s) :
    (q.run r execute).executed = [s] := by
  simp only [Request.run, h]

variable (q r execute) in
/-- A run ends in one of these ways. -/
theorem run_ends : q.Ends r execute (q.run r execute) := by
  cases hc : q.compile r with
  | error e =>
    rw [run_of_error hc]
    exact .stopped hc
  | ok s =>
    unfold Request.run
    rw [hc]
    cases hs : execute s with
    | error e => simpa only [hs] using .failed hc hs
    | ok rows =>
      cases hrows : normalizeRows rows with
      | error e => simpa only [hs, hrows] using .rejected hc hs hrows
      | ok normal => simpa only [hs, hrows] using .answered hc hs hrows

theorem Ends.mem_executed (h : q.Ends r execute run) {s : Statement} :
    s ∈ run.executed ↔ q.compile r = .ok s := by
  cases h with
  | stopped hc => simp [hc]
  | failed hc | rejected hc | answered hc => simp [hc, eq_comm]

theorem Ends.length_executed (h : q.Ends r execute run) : run.executed.length ≤ 1 := by
  cases h <;> simp

theorem Ends.build_error (h : q.Ends r execute run) {e : BuildError} :
    run.result = .error (.build e) ↔ q.Stops r e := by
  rw [← compile_eq_error]
  cases h with
  | stopped hc | failed hc | rejected hc | answered hc => simp [hc]

theorem Ends.executor_error (h : q.Ends r execute run) {e : ε} :
    run.result = .error (.executor e) ↔ ∃ s, q.compile r = .ok s ∧ execute s = .error e := by
  cases h with
  | stopped hc => simp [hc]
  | failed hc hs | rejected hc hs | answered hc hs => simp [hc, hs]

theorem Ends.cell_error (h : q.Ends r execute run) {e : CellError} :
    run.result = .error (.cell e) ↔
      ∃ s rows, q.compile r = .ok s ∧ execute s = .ok rows ∧ RejectedFor rows e := by
  simp only [← normalizeRows_eq_error]
  cases h with
  | stopped hc => simp [hc]
  | failed hc hs => simp [hc, hs]
  | rejected hc hs hrows | answered hc hs hrows => simp [hc, hs, hrows]

theorem Ends.answer (h : q.Ends r execute run) {a : Answer} :
    run.result = .ok a ↔ ∃ s rows normal, q.compile r = .ok s ∧ execute s = .ok rows ∧
      normalizeRows rows = .ok normal ∧ a = ⟨s, normal⟩ := by
  cases h with
  | stopped hc => simp [hc]
  | failed hc hs => simp [hc, hs]
  | rejected hc hs hrows | answered hc hs hrows => simp [hc, hs, hrows, eq_comm]

/-- The executor matters only for the statement that is executed. -/
theorem run_congr {other : Statement → Except ε (List Row)}
    (h : ∀ s, q.compile r = .ok s → other s = execute s) : q.run r other = q.run r execute := by
  unfold Request.run
  cases hc : q.compile r with
  | error e => rfl
  | ok s => simp only [h s hc]

end Request

/-- A run has at most one statement executed, which is the compiled one and violates no rule of the
gate. Where a step before that fails, its error is the result and nothing is executed. Otherwise
the result is the error of the executor, or the error of the first cell that has no normal form, or
the statement with all its rows in normal form. The executor is asked for nothing else. -/
theorem run_executes_compiled {ε : Type} (q : Request) (r : Registry)
    (execute : Statement → Except ε (List Row)) :
    let run := q.run r execute
    run.executed.length ≤ 1 ∧
    (∀ s, s ∈ run.executed ↔ q.compile r = .ok s) ∧
    (∀ s, s ∈ run.executed → s.violations = .ok []) ∧
    (∀ e, q.Stops r e → run.executed = []) ∧
    (∀ e, run.result = .error (.build e) ↔ q.Stops r e) ∧
    (∀ e, run.result = .error (.executor e) ↔
      ∃ s, q.compile r = .ok s ∧ execute s = .error e) ∧
    (∀ e, run.result = .error (.cell e) ↔
      ∃ s rows, q.compile r = .ok s ∧ execute s = .ok rows ∧ RejectedFor rows e) ∧
    (∀ a, run.result = .ok a ↔ ∃ s rows normal, q.compile r = .ok s ∧ execute s = .ok rows ∧
      normalizeRows rows = .ok normal ∧ a = ⟨s, normal⟩) ∧
    ∀ other : Statement → Except ε (List Row),
      (∀ s, s ∈ run.executed → other s = execute s) → q.run r other = run := by
  intro run
  have h : q.Ends r execute run := q.run_ends r execute
  refine ⟨h.length_executed, fun s => h.mem_executed, fun s hs => ?_, fun e he => ?_,
    fun e => h.build_error, fun e => h.executor_error, fun e => h.cell_error, fun a => h.answer,
    fun other hother => ?_⟩
  · obtain ⟨-, -, -, hgate⟩ := Request.compile_eq_ok.1 (h.mem_executed.1 hs)
    exact hgate
  · have hcompile := Request.compile_eq_error.2 he
    refine List.eq_nil_iff_forall_not_mem.2 fun s hs => ?_
    rw [h.mem_executed, hcompile] at hs
    cases hs
  · exact Request.run_congr fun s hs => hother s (h.mem_executed.2 hs)

namespace Events

/-- A description of all owners. -/
def ownersJson : Json :=
  .object [("from", .text "events"), ("select", .list [.object [("column", .text "owner")]])]

/-- Its statement for the tenant `a`. -/
def ownersStatement : Statement where
  text := "SELECT e.owner AS \"owner\" FROM events e WHERE e.owner = :p1 ::\"Owner\";"
  parameters := [.text "a"]

/-- A result whose second row holds a cell that has no normal form. -/
def ownersRows : List Row := [[("owner", .text "a")], [("owner", .bool true)]]

end Events

open Events in
/-- The owners are asked for once, and the cell in the second row fails the whole run, also with an
executor that fails for all other statements. Without a tenant nothing is asked for. -/
theorem run_executes_compiled_owners :
    let q : Request := ⟨ownersJson, .text "a"⟩
    let execute : Statement → Except String (List Row) := fun _ => .ok ownersRows
    let other : Statement → Except String (List Row) := fun s =>
      if s.text = ownersStatement.text then .ok ownersRows else .error "unknown"
    ownersStatement ∈ (q.run registry execute).executed ∧ ownersStatement.violations = .ok [] ∧
    (q.run registry execute).result = .error (.cell (.unknownType "owner" "bool")) ∧
    q.run registry other = q.run registry execute ∧
    ((Request.mk ownersJson (.text "")).run registry execute).executed = [] := by
  intro q execute other
  have hgate : ownersStatement.violations = .ok [] := by decide +kernel
  have hcompile : q.compile registry = .ok ownersStatement :=
    Request.compile_eq_ok.2 ⟨_, rfl, rfl, hgate⟩
  have hrejected : RejectedFor ownersRows (.unknownType "owner" "bool") :=
    ⟨[("owner", .text "a")], "owner", .bool true, [], rfl, by simpa using ⟨_, rfl⟩, rfl⟩
  have hstop : (Request.mk ownersJson (.text "")).Stops registry
      (.refused (.invalid .noTenant (some "tenant_id"))) := .scoping ⟨rfl, rfl⟩ rfl
  obtain ⟨-, hmem, hsafe, -, -, -, hcell, -, hother⟩ := run_executes_compiled q registry execute
  obtain ⟨-, -, -, hnone, -⟩ := run_executes_compiled ⟨ownersJson, .text ""⟩ registry execute
  have hin := (hmem ownersStatement).2 hcompile
  refine ⟨hin, hsafe _ hin, (hcell _).2 ⟨_, _, hcompile, rfl, hrejected⟩,
    hother other fun s hs => ?_, hnone _ hstop⟩
  obtain rfl : ownersStatement = s := Except.ok.inj (hcompile.symm.trans ((hmem s).1 hs))
  exact if_pos rfl

end Dashboard
