import Dashboard.Proofs.BuildOutcome

/-!
# Requests and their dry runs

A description is read twice over: `Query.faults` lists what is wrong with it, `Query.parse` stops at
the first fault. Likewise `Request.check` lists the problems of a request, and `Request.compile`
stops at the first.

* `Query.parse_cases`, `Request.check_of_ok` and `Request.check_of_error` say how these runs can end,
  and what their lists hold then.
* `Query.refused_of_build_error`: a query that was read is refused with a reason that can be shown,
  and in no other way. `Request.compile_error_cases`: a request is so refused too, unless its
  statement is `Request.Unreadable`.
* `dry_run_agrees`: the lists are empty exactly if the runs succeed, and otherwise start with the
  reason that the runs stop for. Where the gate cannot read a placeholder, both runs fail.
-/

namespace Dashboard

/-! ### Reading a description -/

/-- Either a description is read and has no fault, or reading it stops at its first fault. -/
theorem Query.parse_cases (r : Registry) (j : Json) :
    ((∃ q, Query.parse r j = .ok q) ∧ Query.faults r j = []) ∨
    ∃ e es, Query.parse r j = .error e ∧ Query.faults r j = e :: es := by
  cases hcheck : Query.check j with
  | refused e es =>
    refine .inr ⟨e, es, Query.parse_eq_error.2 (.inl ?_), ?_⟩
    · rw [hcheck, Checked.toExcept]
    · rw [Query.faults, hcheck]
  | ok q =>
    cases ht : r.resolveTable q.table with
    | ok t =>
      have hq := Query.parse_eq_ok.2 ⟨hcheck, t, Registry.resolveTable_eq_ok.1 ht⟩
      refine .inl ⟨⟨q, hq⟩, ?_⟩
      simp only [Query.faults, hcheck, ht]
    | error e =>
      obtain ⟨hnone, he⟩ := Registry.resolveTable_eq_error.1 ht
      refine .inr ⟨e, [], Query.parse_eq_error.2 (.inr ⟨q, ?_, hnone, he⟩), ?_⟩
      · rw [hcheck, Checked.toExcept]
      · simp only [Query.faults, hcheck, ht]

/-! ### Building what was read -/

/-- Building the statement of a query fails only with a reason to refuse it: none of its words is
unknown to the compiler. -/
theorem Query.refused_of_build_error {q : Query} {r : Registry} {tenant : Value} {e : BuildError}
    (h : q.toDraft.build tenant r = .error e) : ∃ reason, e = .refused reason := by
  have hlookup {α : Type} {x : Except QueryError α} (hx : lookedUp x = .error e) :
      ∃ reason, e = .refused reason := by
    obtain ⟨reason, -, he⟩ := lookedUp_eq_error.1 hx
    exact ⟨reason, he⟩
  unfold Draft.build at h
  rcases bind_eq_error.1 h with h | ⟨t, ht, h⟩
  · exact hlookup h
  rcases bind_eq_error.1 h with h | ⟨own, hown, h⟩
  · exact hlookup h
  rcases bind_eq_error.1 h with h | ⟨plan, -, h⟩
  · exact hlookup h
  obtain ⟨p, -, -, rfl⟩ := Query.scope_toDraft_eq_ok.1 (lookedUp_eq_ok.1 hown)
  have ht : r.table? (q.scoped t p).table = some t :=
    Registry.resolveTable_eq_ok.1 (lookedUp_eq_ok.1 ht)
  rcases bind_eq_error.1 h with h | ⟨c, -, h⟩
  · obtain ⟨name, -, -, field, he⟩ := Query.unknown_of_clauses_error ht h
    exact ⟨_, he⟩
  · cases h

namespace Request

variable {q : Request} {r : Registry}

/-! ### Compiling a request -/

/-- A request is compiled if its description is read, its statement is built and the gate has
nothing against it. -/
theorem compile_eq_ok {s : Statement} :
    q.compile r = .ok s ↔ ∃ query, Query.parse r q.description = .ok query ∧
      query.toDraft.build q.tenant r = .ok s ∧ s.violations = .ok [] := by
  simp only [compile, bind_eq_ok, lookedUp_eq_ok]
  refine exists_congr fun query => and_congr_right fun _ => ?_
  constructor
  · rintro ⟨s', hs', h⟩
    split at h
    · rename_i hv
      cases pure_eq_ok.1 h
      exact ⟨hs', hv⟩
    · cases h
    · cases h
  · rintro ⟨hs, hv⟩
    refine ⟨s, hs, ?_⟩
    rw [hv]
    rfl

/-- A request has a statement, and the gate cannot read a placeholder of so many digits in it. -/
def Unreadable (q : Request) (r : Registry) (digits : ℕ) : Prop :=
  ∃ query s, Query.parse r q.description = .ok query ∧
    query.toDraft.build q.tenant r = .ok s ∧ s.violations = .error ⟨digits⟩

/-- A request that is not compiled is refused with a reason that can be shown, or its statement has
a placeholder that the gate cannot read. -/
theorem compile_error_cases {e : BuildError} (h : q.compile r = .error e) :
    (∃ reason, e = .refused reason) ∨
      ∃ digits, e = .longPlaceholder digits ∧ q.Unreadable r digits := by
  unfold compile at h
  rcases bind_eq_error.1 h with h | ⟨query, hparse, h⟩
  · obtain ⟨reason, -, he⟩ := lookedUp_eq_error.1 h
    exact .inl ⟨reason, he⟩
  rcases bind_eq_error.1 h with h | ⟨s, hs, h⟩
  · exact .inl (Query.refused_of_build_error h)
  · split at h
    · cases h
    · cases h
      exact .inl ⟨_, rfl⟩
    · rename_i fault hfault
      cases h
      exact .inr ⟨_, rfl, query, s, lookedUp_eq_ok.1 hparse, hs, hfault⟩

/-- A description with faults is refused for the first of them. -/
theorem compile_of_parse_error {e : QueryError} (h : Query.parse r q.description = .error e) :
    q.compile r = .error (.refused e) := by
  rw [compile, h]
  rfl

/-- The problems of a request with a faulty description are the faults of the description. -/
theorem check_of_faults (h : Query.faults r q.description ≠ []) :
    q.check r = .ok ((Query.faults r q.description).map QueryError.report) := by
  unfold check
  split
  · rename_i hnil
    exact absurd hnil h
  · rfl

/-- A request that is compiled has no problem. -/
theorem check_of_ok {s : Statement} (h : q.compile r = .ok s) : q.check r = .ok [] := by
  rcases Query.parse_cases r q.description with ⟨-, hfaults⟩ | ⟨e, es, hparse, -⟩
  · simp only [check, hfaults, h]
    rfl
  · rw [compile_of_parse_error hparse] at h
    cases h

/-- A request that is refused has the reason as its first problem. Where the gate cannot read a
placeholder, there is no list of problems either. -/
theorem check_of_error {e : BuildError} (h : q.compile r = .error e) :
    (∃ reason rest, e = .refused reason ∧ q.check r = .ok (reason.report :: rest)) ∨
      ∃ digits, e = .longPlaceholder digits ∧ q.Unreadable r digits ∧ q.check r = .error e := by
  rcases Query.parse_cases r q.description with ⟨-, hfaults⟩ | ⟨fault, es, hparse, hfaults⟩
  · rcases compile_error_cases h with ⟨reason, rfl⟩ | ⟨digits, rfl, hunreadable⟩
    · refine .inl ⟨reason, [], rfl, ?_⟩
      simp only [check, hfaults, h]
      rfl
    · refine .inr ⟨digits, rfl, hunreadable, ?_⟩
      simp only [check, hfaults, h]
      rfl
  · rw [compile_of_parse_error hparse] at h
    cases h
    refine .inl ⟨fault, es.map QueryError.report, rfl, ?_⟩
    rw [check_of_faults (by simp [hfaults]), hfaults, List.map_cons]

/-- A request has no problem exactly if it is compiled. -/
theorem check_eq_nil_iff : q.check r = .ok [] ↔ ∃ s, q.compile r = .ok s := by
  constructor
  · intro hcheck
    cases hc : q.compile r with
    | ok s => exact ⟨s, rfl⟩
    | error e =>
      rcases check_of_error hc with ⟨reason, rest, -, hproblems⟩ | ⟨digits, -, -, hfails⟩
      · rw [hproblems] at hcheck
        cases hcheck
      · rw [hfails] at hcheck
        cases hcheck
  · rintro ⟨s, hs⟩
    exact check_of_ok hs

end Request

/-- The lists of faults and of problems agree with the runs that stop at the first: they are empty
exactly if the run succeeds, and start with the reason for which it is refused. Any other failure is
the same in both runs, and is that of a gate that cannot read a placeholder. The problems of a
faulty description are its faults, whoever asks. -/
theorem dry_run_agrees (r : Registry) (j : Json) (tenant : Value) :
    ((Request.mk j tenant).check r = .ok [] ↔ ∃ s, (Request.mk j tenant).compile r = .ok s) ∧
    (∀ reason, (Request.mk j tenant).compile r = .error (.refused reason) →
      ∃ rest, (Request.mk j tenant).check r = .ok (reason.report :: rest)) ∧
    (∀ e, (Request.mk j tenant).compile r = .error e → (∀ reason, e ≠ .refused reason) →
      (Request.mk j tenant).check r = .error e ∧
        ∃ digits, e = .longPlaceholder digits ∧ (Request.mk j tenant).Unreadable r digits) ∧
    ((∃ q, Query.parse r j = .ok q) ↔ (Query.faults r j).map QueryError.report = []) ∧
    (∀ e, Query.parse r j = .error e →
      ((Query.faults r j).map QueryError.report).head? = some e.report) ∧
    ((Query.faults r j).map QueryError.report ≠ [] →
      (Request.mk j tenant).check r = .ok ((Query.faults r j).map QueryError.report)) := by
  have hparse := Query.parse_cases r j
  refine ⟨Request.check_eq_nil_iff, fun reason he => ?_, fun e he hother => ?_, ?_, fun e he => ?_,
    fun h => ?_⟩
  · rcases Request.check_of_error he with ⟨_, rest, ⟨⟩, hcheck⟩ | ⟨_, ⟨⟩, -⟩
    exact ⟨rest, hcheck⟩
  · rcases Request.check_of_error he with ⟨reason, _, rfl, -⟩ | ⟨digits, rfl, hlong, hcheck⟩
    · exact absurd rfl (hother reason)
    · exact ⟨hcheck, digits, rfl, hlong⟩
  · rcases hparse with ⟨hok, hfaults⟩ | ⟨e, es, herror, hfaults⟩
    · exact ⟨fun _ => by rw [hfaults, List.map_nil], fun _ => hok⟩
    · simp [herror, hfaults]
  · rcases hparse with ⟨⟨q, hq⟩, -⟩ | ⟨e', es, herror, hfaults⟩
    · rw [hq] at he
      cases he
    · rw [herror] at he
      cases he
      rw [hfaults, List.map_cons, List.head?_cons]
  · exact Request.check_of_faults fun hnil => h (by simp [hnil])

end Dashboard
