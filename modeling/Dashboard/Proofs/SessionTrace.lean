import Dashboard.Database
import Mathlib.Data.List.Forall2

/-!
# What a session asks of the database

The calls for a sequence of statements, whatever the statements, their time limits and the results
are, and whichever of the executions fail.

* `Session.Course` lists the ways that the calls for one statement can go, and `Session.course`
  says that there are no others. `Session.execute_of_url` adds the engine, which only the first
  statement creates. `Session.execute_eq_ok` says when a statement has a result, and which.
* `Backend.Done` says that a statement of the session itself was executed and did not fail.
  `Job.Served` collects what holds of the calls for one statement, and `Session.served_execute`
  proves it course by course.
* `Session.Orderly` is about the calls for all statements in a row. `Session.orderly_append` is its
  step and `Session.orderly_executeAll` the induction along the statements.
* `executeAll_served` puts these together for a session that begins without an engine. If there is
  no address to create one with, nothing is asked of the database at all.
-/

namespace Dashboard

/-! ### Counting calls -/

/-- What a call is for, without its texts and values. -/
inductive Call.Kind where
  | createEngine
  | connect
  | execute
  | rollback
  | close
  deriving DecidableEq

namespace Call

@[simp] def kind : Call → Kind
  | createEngine .. => .createEngine
  | connect => .connect
  | execute .. => .execute
  | rollback => .rollback
  | close => .close

/-- How many calls are of a kind. -/
def count (k : Kind) (calls : List Call) : Nat := (calls.map kind).count k

@[simp] theorem count_nil (k : Kind) : count k [] = 0 := rfl

@[simp] theorem count_cons (k : Kind) (c : Call) (calls : List Call) :
    count k (c :: calls) = count k calls + if c.kind = k then 1 else 0 := by
  simp only [count, List.map_cons, List.count_cons, beq_iff_eq]

@[simp] theorem count_append (k : Kind) (xs ys : List Call) :
    count k (xs ++ ys) = count k xs + count k ys := by
  simp [count]

theorem count_eq_zero {k : Kind} {calls : List Call} :
    count k calls = 0 ↔ ∀ c ∈ calls, c.kind ≠ k := by
  simp [count, List.count_eq_zero]

end Call

/-- A statement of the session itself was executed in the course of calls, and did not fail. -/
def Backend.Done (b : Backend) (sql : String) (calls : List Call) : Prop :=
  ∃ before after, calls = before ++ .execute sql none :: after ∧
    b.failure (Call.count .execute before + 1) = none

namespace Job

/-- The time limit of a job, which is that of the settings if it has none of its own. -/
def limit (j : Job) (settings : Settings) : Value :=
  match j.timeout with
  | .null => .int settings.queryTimeout
  | v => v

/-- The job as the first of a session. -/
def alone (j : Job) (settings : Settings) : Execution :=
  (Session.execute ⟨false⟩ settings j.backend j.statement j.timeout).1

/-- The calls of a job use one connection. On it, the statement is executed only when the
transaction is read-only and its time limited, and what was begun is rolled back. -/
structure Served (j : Job) (settings : Settings) (calls : List Call) : Prop where
  connect : Call.count .connect calls = 1
  close : ∃ before, calls = before ++ [.close] ∧ Call.count .close before = 0
  query : ∀ before sql parameters after,
    calls = before ++ .execute sql (some parameters) :: after →
      sql = j.statement.text ∧ parameters = j.statement.bindings ∧
      ∃ opening within, before = opening ++ .connect :: within ∧
        Call.count .execute opening = 0 ∧ Call.count .close within = 0 ∧
        j.backend.Done Session.readOnly within ∧
        ∃ n, timeoutOf (j.limit settings) = .ok n ∧ j.backend.Done (Session.limitTime n) within
  rollback : j.backend.Done Session.readOnly calls →
    ∃ before, calls = before ++ [.rollback, .close] ∧ Call.count .rollback before = 0
  noRollback : ¬j.backend.Done Session.readOnly calls → Call.count .rollback calls = 0

end Job

theorem Settings.exists_databaseUrl {s : Settings} (h : isWritable s.port = true) :
    ∃ url, s.databaseUrl? = some url :=
  ⟨_, if_pos h⟩

namespace Session

/-! ### One statement -/

/-- The ways that the calls for a statement can go once there is an engine. -/
inductive Course (b : Backend) (s : Statement) (limit : Value) : List Call → Prop
  | refused (h : b.failure 1 ≠ none) : Course b s limit [.connect, .execute readOnly none, .close]
  | noLimit (h : b.failure 1 = none) :
      Course b s limit [.connect, .execute readOnly none, .rollback, .close]
  | limited (h : b.failure 1 = none) {n : Int} (hn : timeoutOf limit = .ok n) :
      Course b s limit
        [.connect, .execute readOnly none, .execute (limitTime n) none, .rollback, .close]
  | queried (h : b.failure 1 = none) {n : Int} (hn : timeoutOf limit = .ok n)
      (hlimit : b.failure 2 = none) :
      Course b s limit
        [.connect, .execute readOnly none, .execute (limitTime n) none,
          .execute s.text (some s.bindings), .rollback, .close]

theorem writable_eq_ok {m n : Int} (h : writable m = .ok n) : m = n := by
  simp only [writable] at h
  generalize isWritable m = fits at h
  cases fits with
  | true => exact Except.ok.inj h
  | false => cases h

theorem timeoutOf_of_writable {limit : Value} {n : Int}
    (h : (timeoutOf limit).bind writable = .ok n) : timeoutOf limit = .ok n := by
  cases ht : timeoutOf limit with
  | error e =>
    rw [ht] at h
    cases h
  | ok m =>
    simp only [ht, Except.bind] at h
    rw [writable_eq_ok h]

/-- The calls for a statement on a connection go one of these ways. -/
theorem course (b : Backend) (s : Statement) (limit : Value) :
    Course b s limit (onConnection b s limit).calls := by
  unfold onConnection
  cases h1 : b.failure 1 with
  | some message => exact .refused (by simp [h1])
  | none =>
    unfold inTransaction
    cases ht : (timeoutOf limit).bind writable with
    | error e => exact .noLimit h1
    | ok n =>
      have hn := timeoutOf_of_writable ht
      cases h2 : b.failure 2 with
      | some message => simpa [h2] using .limited h1 hn
      | none =>
        cases h3 : b.failure 3 with
        | some message => simpa [h2, h3] using .queried h1 hn h2
        | none => simpa [h2, h3] using .queried h1 hn h2

/-- A connection gives a result exactly if the time limit can be written and none of its three
statements fails: the rows of the database under the names of its columns. -/
theorem onConnection_eq_ok {b : Backend} {s : Statement} {limit : Value} {rows : List Row} :
    (onConnection b s limit).result = .ok rows ↔
      (∃ n, (timeoutOf limit).bind writable = .ok n) ∧
      (b.failure 1 = none ∧ b.failure 2 = none ∧ b.failure 3 = none) ∧
      rows = b.rows.map fun cells => Fields.ofList (b.columns.zip cells) := by
  unfold onConnection
  cases h1 : b.failure 1 with
  | some message => simp
  | none =>
    unfold inTransaction
    cases ht : (timeoutOf limit).bind writable with
    | error e => simp
    | ok n =>
      cases h2 : b.failure 2 with
      | some message => simp
      | none =>
        cases h3 : b.failure 3 with
        | some message => simp
        | none => simp [eq_comm]

/-- How many engines are to be created. -/
def missing (session : Session) : Nat := if session.created then 0 else 1

/-- What precedes the connection: the engine, unless there is one. -/
def opening (session : Session) (url : String) : List Call :=
  if session.created then [] else [.createEngine url .standard]

/-- Where the database has an address, a statement is left to its connection, and there is an engine
after it. -/
theorem execute_of_url {settings : Settings} {url : String}
    (hurl : settings.databaseUrl? = some url) (session : Session) (j : Job) :
    session.execute settings j.backend j.statement j.timeout =
      (⟨session.opening url ++ (onConnection j.backend j.statement (j.limit settings)).calls,
        (onConnection j.backend j.statement (j.limit settings)).result⟩, ⟨true⟩) := by
  obtain ⟨created⟩ := session
  unfold execute
  rw [hurl]
  cases created <;> rfl

/-- Where the database has no address, a statement without an engine fails, and creates none. -/
theorem execute_of_no_url {settings : Settings} (hurl : settings.databaseUrl? = none) (j : Job) :
    execute ⟨false⟩ settings j.backend j.statement j.timeout =
      (⟨[], .error .portTooLong⟩, ⟨false⟩) := by
  unfold execute
  rw [hurl]
  rfl

/-- A job has a result if there is an engine for it and its connection gives one. -/
theorem execute_eq_ok {session : Session} {settings : Settings} {b : Backend} {s : Statement}
    {timeout : Value} {rows : List Row} :
    (session.execute settings b s timeout).1.result = .ok rows ↔
      (session.created = true ∨ ∃ url, settings.databaseUrl? = some url) ∧
      (∃ n, (timeoutOf (Job.limit ⟨b, s, timeout⟩ settings)).bind writable = .ok n) ∧
      (b.failure 1 = none ∧ b.failure 2 = none ∧ b.failure 3 = none) ∧
      rows = b.rows.map fun cells => Fields.ofList (b.columns.zip cells) := by
  rw [← onConnection_eq_ok (s := s)]
  cases hurl : settings.databaseUrl? with
  | some url => simp [execute_of_url hurl session ⟨b, s, timeout⟩]
  | none =>
    obtain ⟨created⟩ := session
    cases created with
    | false => simp [execute_of_no_url hurl ⟨b, s, timeout⟩]
    | true => exact (and_iff_right (.inl rfl)).symm

section
variable {session : Session} {settings : Settings} {url : String} {j : Job} {calls : List Call}

theorem createEngine_of_mem_opening {c : Call} (h : c ∈ session.opening url) :
    c = .createEngine url .standard := by
  unfold opening at h
  split at h
  · cases h
  · exact List.mem_singleton.1 h

theorem execute_not_mem_opening (sql : String) (parameters : Option (List (String × Value))) :
    .execute sql parameters ∉ session.opening url := fun h => by
  cases createEngine_of_mem_opening h

@[simp] theorem count_createEngine_opening :
    Call.count .createEngine (session.opening url) = session.missing := by
  unfold opening missing
  split <;> rfl

theorem count_opening {k : Call.Kind} (h : k ≠ .createEngine) :
    Call.count k (session.opening url) = 0 :=
  Call.count_eq_zero.2 fun c hc => by
    rw [createEngine_of_mem_opening hc]
    exact h.symm

/-- A course connects first, closes the connection last, and does neither in between. -/
theorem Course.connected {b : Backend} {s : Statement} {limit : Value}
    (h : Course b s limit calls) :
    ∃ within, calls = .connect :: within ++ [.close] ∧ Call.count .createEngine within = 0 ∧
      Call.count .connect within = 0 ∧ Call.count .close within = 0 := by
  cases h with
  | refused => exact ⟨[_], rfl, by simp⟩
  | noLimit => exact ⟨[_, _], rfl, by simp⟩
  | limited => exact ⟨[_, _, _], rfl, by simp⟩
  | queried => exact ⟨[_, _, _, _], rfl, by simp⟩

/-- The first execution of a course is the one that makes the transaction read-only. -/
theorem Course.done_iff {limit : Value} (h : Course j.backend j.statement limit calls) :
    j.backend.Done readOnly (session.opening url ++ calls) ↔ j.backend.failure 1 = none := by
  constructor
  · rintro ⟨before, after, heq, hdone⟩
    cases h with
    | refused hfailed =>
      have hsplit : session.opening url ++ [.connect] ++
          Call.execute readOnly none :: [.close] = before ++ .execute readOnly none :: after := by
        simpa using heq
      obtain ⟨rfl, -, -⟩ := (List.append_cons_inj_of_notMem
        (by simp [execute_not_mem_opening]) (by simp)).1 hsplit
      simpa [count_opening] using hdone
    | noLimit hone => exact hone
    | limited hone => exact hone
    | queried hone => exact hone
  · intro hone
    have hhead : ∃ after, calls = .connect :: .execute readOnly none :: after := by
      cases h <;> exact ⟨_, rfl⟩
    obtain ⟨after, rfl⟩ := hhead
    exact ⟨session.opening url ++ [.connect], after, by simp,
      by simpa [count_opening] using hone⟩

/-- A course that goes beyond its first execution ends with a rollback. -/
theorem Course.rolledBack {b : Backend} {s : Statement} {limit : Value}
    (h : Course b s limit calls) (hone : b.failure 1 = none) :
    ∃ before, calls = before ++ [.rollback, .close] ∧ Call.count .rollback before = 0 := by
  cases h with
  | refused hfailed => exact absurd hone hfailed
  | noLimit => exact ⟨[_, _], rfl, by simp⟩
  | limited => exact ⟨[_, _, _], rfl, by simp⟩
  | queried => exact ⟨[_, _, _, _], rfl, by simp⟩

theorem Course.not_rolledBack {b : Backend} {s : Statement} {limit : Value}
    (h : Course b s limit calls) (hone : b.failure 1 ≠ none) :
    Call.count .rollback calls = 0 := by
  cases h with
  | refused => simp
  | noLimit h => exact absurd h hone
  | limited h => exact absurd h hone
  | queried h => exact absurd h hone

/-- A statement with parameters is executed in one course only, after both statements of the
session were. -/
theorem Course.query_eq {b : Backend} {s : Statement} {limit : Value}
    (h : Course b s limit calls) {before after : List Call} {sql : String}
    {parameters : List (String × Value)}
    (heq : session.opening url ++ calls = before ++ .execute sql (some parameters) :: after) :
    sql = s.text ∧ parameters = s.bindings ∧ b.failure 1 = none ∧ b.failure 2 = none ∧
      ∃ n, timeoutOf limit = .ok n ∧ before = session.opening url ++
        [.connect, .execute readOnly none, .execute (limitTime n) none] := by
  have hmem : .execute sql (some parameters) ∈ session.opening url ++ calls := by
    simp [heq]
  replace hmem := (List.mem_append.1 hmem).resolve_left fun h => execute_not_mem_opening _ _ h
  cases h with
  | refused => simp at hmem
  | noLimit => simp at hmem
  | limited => simp at hmem
  | @queried hone n hn hlimit =>
    have hsplit : session.opening url ++
        [.connect, .execute readOnly none, .execute (limitTime n) none] ++
        Call.execute s.text (some s.bindings) :: [.rollback, .close] =
          before ++ .execute sql (some parameters) :: after := by
      simpa using heq
    obtain ⟨rfl, hcall, -⟩ := (List.append_cons_inj_of_notMem
      (by simp [execute_not_mem_opening]) (by simp)).1 hsplit
    cases hcall
    exact ⟨rfl, rfl, hone, hlimit, n, hn, rfl⟩

theorem Course.served (h : Course j.backend j.statement (j.limit settings) calls) :
    j.Served settings (session.opening url ++ calls) where
  connect := by
    obtain ⟨within, rfl, -, hconnect, -⟩ := h.connected
    simp [count_opening, hconnect]
  close := by
    obtain ⟨within, rfl, -, -, hclose⟩ := h.connected
    exact ⟨session.opening url ++ .connect :: within, by simp,
      by simp [count_opening, hclose]⟩
  query before sql parameters after heq := by
    obtain ⟨rfl, rfl, hone, htwo, n, hn, rfl⟩ := h.query_eq heq
    refine ⟨rfl, rfl, session.opening url, _, rfl, count_opening (by simp), by simp, ?_,
      n, hn, ?_⟩
    · exact ⟨[], _, rfl, hone⟩
    · exact ⟨[.execute readOnly none], _, rfl, htwo⟩
  rollback hdone := by
    obtain ⟨before, rfl, hbefore⟩ := h.rolledBack (h.done_iff.1 hdone)
    exact ⟨session.opening url ++ before, by simp, by simp [count_opening, hbefore]⟩
  noRollback hdone := by
    have hnone := h.not_rolledBack (mt h.done_iff.2 hdone)
    simp [count_opening, hnone]

/-- A job that comes later differs from one that comes first in the engine only. -/
theorem filter_opening_append (calls : List Call) :
    (session.opening url ++ calls).filter (·.kind ≠ .createEngine) =
      calls.filter (·.kind ≠ .createEngine) := by
  have hopening : (session.opening url).filter (·.kind ≠ .createEngine) = [] :=
    List.filter_eq_nil_iff.2 fun c hc => by simp [createEngine_of_mem_opening hc]
  rw [List.filter_append, hopening, List.nil_append]

end

/-! ### Statements in a row -/

/-- In a row of calls, the engine that is missing comes first and no other after it, and a
connection is opened only when those before it are closed. -/
structure Orderly (session : Session) (calls : List Call) : Prop where
  engine : Call.count .createEngine calls ≤ session.missing
  connect : ∀ before after, calls = before ++ .connect :: after →
    Call.count .createEngine before = session.missing ∧
      Call.count .connect before = Call.count .close before

theorem orderly_nil (session : Session) : session.Orderly [] := ⟨by simp, by simp⟩

/-- The calls for one statement leave an engine and a closed connection to those after them. -/
theorem orderly_append {session : Session} {url : String} {b : Backend} {s : Statement}
    {limit : Value} {calls later : List Call} (h : Course b s limit calls)
    (hlater : Orderly ⟨true⟩ later) :
    session.Orderly (session.opening url ++ calls ++ later) := by
  obtain ⟨within, rfl, hengine, hconnect, hclose⟩ := h.connected
  constructor
  · have hnone := hlater.engine
    rw [missing, if_pos rfl, Nat.le_zero] at hnone
    simp [hengine, hnone]
  · intro before after heq
    -- The connection is opened by a later statement, or it is the one of this statement.
    have hpast (rest : List Call) (hlast : later = rest ++ .connect :: after)
        (hbefore : before = session.opening url ++ (.connect :: within ++ [.close]) ++ rest) :
        Call.count .createEngine before = session.missing ∧
          Call.count .connect before = Call.count .close before := by
      obtain ⟨hnone, hbalanced⟩ := hlater.connect rest after hlast
      rw [missing, if_pos rfl] at hnone
      subst hbefore
      refine ⟨by simp [hengine, hnone], ?_⟩
      simp [count_opening, hconnect, hclose, hbalanced]
    obtain ⟨rest, hbefore, hlast⟩ | ⟨rest, hsplit, hlast⟩ := List.append_eq_append_iff.1 heq
    · exact hpast rest hlast hbefore
    · cases rest with
      | nil => exact hpast [] hlast.symm (by simpa using hsplit.symm)
      | cons c rest =>
        obtain ⟨rfl, -⟩ := List.cons.inj hlast
        have hin : .connect ∉ within ++ [.close] := by
          simpa using fun hmem => Call.count_eq_zero.1 hconnect _ hmem rfl
        have hout : .connect ∉ session.opening url := fun hmem => by
          cases createEngine_of_mem_opening hmem
        obtain ⟨rfl, -⟩ := (List.append_cons_inj_of_notMem hout hin).1 hsplit
        simp [count_opening]

section
variable {settings : Settings} {url : String} (hurl : settings.databaseUrl? = some url)
include hurl

theorem executeAll_cons (session : Session) (j : Job) (js : List Job) :
    session.executeAll settings (j :: js) =
      ⟨session.opening url ++ (onConnection j.backend j.statement (j.limit settings)).calls,
        (onConnection j.backend j.statement (j.limit settings)).result⟩ ::
        executeAll ⟨true⟩ settings js := by
  rw [executeAll, execute_of_url hurl]

/-- Whatever the statements are, their calls are in order. -/
theorem orderly_executeAll (jobs : List Job) :
    ∀ session : Session,
      session.Orderly ((session.executeAll settings jobs).flatMap Execution.calls) := by
  induction jobs with
  | nil => exact fun session => session.orderly_nil
  | cons j js ih =>
    intro session
    rw [executeAll_cons hurl, List.flatMap_cons]
    exact orderly_append (course ..) (ih ⟨true⟩)

/-- Each statement is served, whatever became of those before it. -/
theorem forall₂_executeAll (jobs : List Job) :
    ∀ session : Session, List.Forall₂
      (fun j e => j.Served settings e.calls ∧ e.result = (j.alone settings).result ∧
        e.calls.filter (·.kind ≠ .createEngine) =
          (j.alone settings).calls.filter (·.kind ≠ .createEngine))
      jobs (session.executeAll settings jobs) := by
  induction jobs with
  | nil => exact fun _ => .nil
  | cons j js ih =>
    intro session
    rw [executeAll_cons hurl]
    refine .cons ⟨(course ..).served, ?_, ?_⟩ (ih ⟨true⟩)
    · rw [Job.alone, execute_of_url hurl]
    · rw [Job.alone, execute_of_url hurl, filter_opening_append, filter_opening_append]

end

/-- Without an address, every statement fails before anything is asked of the database. -/
theorem executeAll_of_no_url {settings : Settings} (hurl : settings.databaseUrl? = none)
    (jobs : List Job) :
    executeAll ⟨false⟩ settings jobs = jobs.map fun _ => ⟨[], .error .portTooLong⟩ := by
  induction jobs with
  | nil => rfl
  | cons j js ih =>
    rw [executeAll, execute_of_no_url hurl, List.map_cons, ← ih]

end Session

/-- The calls for any statements, in a session that begins without an engine: one engine at most,
which precedes every connection, and one connection at a time. Each statement is served, and gets
the same calls and the same result as it would alone. Only if the port of the database cannot be
written, no statement asks anything of it. -/
theorem executeAll_served (settings : Settings) (jobs : List Job) :
    Session.Orderly ⟨false⟩ ((Session.executeAll ⟨false⟩ settings jobs).flatMap Execution.calls) ∧
      List.Forall₂
        (fun j e => (isWritable settings.port = true → j.Served settings e.calls) ∧
          (isWritable settings.port = false → e.calls = []) ∧
          e.result = (j.alone settings).result ∧
          e.calls.filter (·.kind ≠ .createEngine) =
            (j.alone settings).calls.filter (·.kind ≠ .createEngine))
        jobs (Session.executeAll ⟨false⟩ settings jobs) := by
  cases hport : isWritable settings.port with
  | true =>
    obtain ⟨url, hurl⟩ := Settings.exists_databaseUrl hport
    refine ⟨Session.orderly_executeAll hurl jobs ⟨false⟩, ?_⟩
    exact (Session.forall₂_executeAll hurl jobs ⟨false⟩).imp fun j e h =>
      ⟨fun _ => h.1, nofun, h.2⟩
  | false =>
    have hurl : settings.databaseUrl? = none := by rw [Settings.databaseUrl?, hport]; rfl
    rw [Session.executeAll_of_no_url hurl]
    constructor
    · have hnone : (jobs.map fun _ => (⟨[], .error .portTooLong⟩ : Execution)).flatMap
          Execution.calls = [] := by simp
      rw [hnone]
      exact Session.orderly_nil _
    · rw [List.forall₂_map_right_iff, List.forall₂_same]
      intro j _
      rw [Job.alone, Session.execute_of_no_url hurl]
      exact ⟨nofun, fun _ => rfl, rfl, rfl⟩

/-- A statement that the database lets through, after one that fails at once and before one whose
time limit is no number. -/
example :
    let s : Statement := ⟨"SELECT 1;", []⟩
    let b (failure : Nat → Option String) : Backend := ⟨["n"], [[.int 1]], failure⟩
    let refusing := b fun n => if n = 1 then some "no" else none
    (Session.executeAll ⟨false⟩ .standard
      [⟨refusing, s, .null⟩, ⟨b fun _ => none, s, .null⟩, ⟨b fun _ => none, s, .text "soon"⟩]).map
        (fun e => e.calls.map Call.kind) =
      [[.createEngine, .connect, .execute, .close],
        [.connect, .execute, .execute, .execute, .rollback, .close],
        [.connect, .execute, .rollback, .close]] := by
  decide +kernel

end Dashboard
