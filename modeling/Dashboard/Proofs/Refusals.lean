import Dashboard.Proofs.RequestRun
import Dashboard.Proofs.ShapeFaults

/-!
# Reasons to refuse a request

A reason is shown with the place that it lies at, and sorted by its kind. `QueryError.Definite` says
that neither is left open: the place is not without a name, and the kind is not the general one.

Every step that can refuse a request gives definite reasons. `definite_bind` and `definite_mapM`
carry this along the steps of compiling, and `Request.definite_of_compile_error` is the sum.
-/

namespace Dashboard

/-- A reason of a kind of its own, whose place is not without a name. -/
structure QueryError.Definite (e : QueryError) : Prop where
  kind : e.kind ≠ .query
  field : e.field ≠ some ""

theorem QueryError.IsFault.definite {e : QueryError} (h : e.IsFault) : e.Definite := by
  refine ⟨fun hkind => ?_, h.field⟩
  have hvalidation := h.validation
  rw [isA, hkind] at hvalidation
  cases hvalidation

/-! ### Steps -/

section
variable {α β : Type}

/-- A step of compiling refuses nothing without a definite reason. -/
def Definite (x : Except BuildError α) : Prop :=
  ∀ reason, x = .error (.refused reason) → reason.Definite

theorem definite_pure (a : α) : Definite (pure a) := nofun

theorem definite_lookedUp {x : Except QueryError α} (h : ∀ e, x = .error e → e.Definite) :
    Definite (lookedUp x) := by
  intro reason hx
  obtain ⟨e, he, heq⟩ := lookedUp_eq_error.1 hx
  cases heq
  exact h _ he

theorem definite_bind {x : Except BuildError α} {f : α → Except BuildError β} (hx : Definite x)
    (hf : ∀ a, Definite (f a)) : Definite (x >>= f) := by
  intro reason h
  rcases bind_eq_error.1 h with h | ⟨a, -, h⟩
  · exact hx reason h
  · exact hf a reason h

theorem definite_mapM {f : α → Except BuildError β} (h : ∀ a, Definite (f a)) (xs : List α) :
    Definite (xs.mapM f) := by
  intro reason hxs
  obtain ⟨x, -, hx⟩ := exists_of_mapM_eq_error hxs
  exact h x reason hx

end

/-! ### Look-ups -/

theorem definite_unknownTable (name : String) :
    (QueryError.unknownTable name (some "from")).Definite :=
  ⟨nofun, by simp [QueryError.field]⟩

theorem Table.definite_of_resolveColumn {t : Table} {name : String} {field : Option String}
    (hfield : field ≠ some "") {e : QueryError} (h : t.resolveColumn name field = .error e) :
    e.Definite := by
  obtain ⟨-, rfl⟩ := Table.resolveColumn_eq_error.1 h
  exact ⟨nofun, hfield⟩

theorem Table.definite_of_tenantFilters {t : Table} {tenant : Value} {e : QueryError}
    (h : t.tenantFilters tenant = .error e) : e.Definite := by
  have hnone : (QueryError.invalid .noTenant (some "tenant_id")).Definite :=
    ⟨nofun, by simp [QueryError.field]⟩
  unfold tenantFilters at h
  split at h
  · split at h
    · cases h
      exact hnone
    · cases h
  · cases h
    exact hnone

namespace Draft

theorem place_ne_empty (part : String) (i : Nat) (name : String) :
    place part i name ≠ some "" := by
  intro h
  have hlength := congrArg String.length (Option.some.inj h)
  simp [String.length_append] at hlength

theorem definite_of_scope {d : Draft} {t : Table} {tenant : Value} {e : QueryError}
    (h : d.scope t tenant = .error e) : e.Definite := by
  rcases bind_eq_error.1 h with h | ⟨mandatory, -, h⟩
  · exact Table.definite_of_tenantFilters h
  · cases h

theorem definite_of_temporalUnit {word : String} {e : QueryError}
    (h : temporalUnit word = .error e) : e.Definite := by
  unfold temporalUnit at h
  split at h
  · cases h
  · cases h
    exact ⟨nofun, by simp [QueryError.field]⟩

theorem definite_of_plan {d : Draft} {t : Table} {e : QueryError} (h : d.plan t = .error e) :
    e.Definite := by
  unfold plan at h
  split at h
  · cases h
  · cases h
    exact ⟨nofun, by simp [QueryError.field]⟩
  · split at h
    · cases h
    · split at h
      · cases h
        exact ⟨nofun, by simp [QueryError.field]⟩
      · rcases bind_eq_error.1 h with h | ⟨column, -, h⟩
        · exact Table.definite_of_resolveColumn (by simp) h
        rcases bind_eq_error.1 h with h | ⟨unit, -, h⟩
        · exact definite_of_temporalUnit h
        · cases h

/-! ### Fragments -/

theorem definite_column (t : Table) (name part : String) (i : Nat) :
    Definite (lookedUp (t.resolveColumn name (place part i "column"))) :=
  definite_lookedUp fun _ h => Table.definite_of_resolveColumn (place_ne_empty _ _ _) h

theorem definite_aggregated (internal : String) (agg : Option String) :
    Definite (aggregated internal agg) := by
  unfold aggregated
  split
  · exact definite_pure _
  · split
    · exact definite_pure _
    · nofun

theorem definite_selectFragment (t : Table) (item : Select) (i : Nat) :
    Definite (selectFragment t item i) :=
  definite_bind (definite_column _ _ _ _) fun _ =>
    definite_bind (definite_aggregated _ _) fun _ => definite_pure _

theorem definite_orderFragment (t : Table) (item : Order) (i : Nat) :
    Definite (orderFragment t item i) := by
  refine definite_bind (definite_column _ _ _ _) fun _ =>
    definite_bind (definite_aggregated _ _) fun _ => ?_
  split
  · exact definite_pure _
  · nofun

theorem definite_operatorSql (kind operator part : String) (i : Nat) :
    Definite (lookedUp (operatorSql kind operator (place part i "operator"))) := by
  refine definite_lookedUp fun e h => ?_
  unfold operatorSql at h
  split at h
  · cases h
  · cases h
    exact ⟨nofun, place_ne_empty _ _ _⟩

theorem definite_filterFragment (t : Table) (item : Filter) (i : Nat) :
    Definite (filterFragment t item i) := by
  refine definite_bind (definite_column _ _ _ _) fun _ =>
    definite_bind (definite_operatorSql _ _ _ _) fun _ => ?_
  extract_lets cast
  split
  · split
    · nofun
    · exact definite_pure _
  · exact definite_pure _

theorem definite_groupFragment (t : Table) (planned : Bool) (item : Group) (i : Nat) :
    Definite (groupFragment t planned item i) := by
  refine definite_bind (definite_column _ _ _ _) fun _ => ?_
  split
  · exact definite_pure _
  · exact definite_pure _

theorem definite_compile (d : Draft) (r : Registry) (plan : Option BucketPlan) :
    Definite (d.compile r plan) := by
  have hclauses : Definite (d.clauses r plan) := by
    refine definite_bind (definite_lookedUp fun e he => ?_) fun t => ?_
    · obtain ⟨-, rfl⟩ := Registry.resolveTable_eq_error.1 he
      exact definite_unknownTable _
    refine definite_bind (definite_mapM (fun _ => definite_selectFragment _ _ _) _) fun _ => ?_
    refine definite_bind (definite_mapM (fun _ => definite_filterFragment _ _ _) _) fun _ => ?_
    refine definite_bind ?_ fun _ => ?_
    · exact definite_bind (definite_mapM (fun _ => definite_groupFragment _ _ _ _) _) fun _ =>
        definite_pure _
    · exact definite_bind (definite_mapM (fun _ => definite_orderFragment _ _ _) _) fun _ =>
        definite_pure _
  exact definite_bind hclauses fun _ => definite_pure _

end Draft

/-! ### Requests -/

theorem Query.definite_of_parse_error {r : Registry} {j : Json} {e : QueryError}
    (h : Query.parse r j = .error e) : e.Definite := by
  rcases parse_eq_error.1 h with hcheck | ⟨q, -, -, rfl⟩
  · exact ((isValidation_check j).of_toExcept hcheck).definite
  · exact definite_unknownTable _

/-- Whatever step a request stops at, the reason is a definite one. -/
theorem Request.definite_of_compile_error {q : Request} {r : Registry} {reason : QueryError}
    (h : q.compile r = .error (.refused reason)) : reason.Definite := by
  generalize he : BuildError.refused reason = e at h
  cases compile_eq_error.1 h with
  | validation hparse =>
    cases he
    exact Query.definite_of_parse_error hparse
  | scoping _ hscope =>
    cases he
    exact Draft.definite_of_scope hscope
  | planning _ hplan =>
    cases he
    exact Draft.definite_of_plan hplan
  | compilation _ hcompile =>
    subst he
    exact Draft.definite_compile _ _ _ reason hcompile
  | safety =>
    cases he
    exact ⟨nofun, nofun⟩
  | reading => cases he

end Dashboard
