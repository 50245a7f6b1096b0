import Dashboard.Proofs.Outcome
import Dashboard.Proofs.Rendering
import Dashboard.Query.Compile

/-!
# What compiling produces

One lemma for each step of the compiler says exactly when the step succeeds and with what.

* `Draft.condition` is the fragment of a filter whose column and operator are known;
  `filterFragment_eq_ok` says when a filter has one.
* `Draft.selectFragment_eq_ok`, `Draft.orderFragment_eq_ok` and `Draft.groupFragment_eq_ok` do the
  same for the other entries of a draft.
* `Query.scoped` is the query of one tenant, and `Query.scope_toDraft_eq_ok` says that drafts are
  scoped to it.
* `Draft.buildClauses` are the clauses of a statement that is built, before they are rendered.
  `Draft.clauses_eq_ok` and `Draft.buildClauses_eq_ok` take a compiled draft apart into its steps,
  and `Draft.FromSteps` says that its terms come from them.
-/

namespace Dashboard

theorem lookedUp_eq_ok {α : Type} {x : Except QueryError α} {a : α} :
    lookedUp x = .ok a ↔ x = .ok a := by
  cases x <;> simp [lookedUp, Except.mapError]

theorem Table.resolveColumn_eq_ok {t : Table} {name : String} {field : Option String}
    {c : Column} : t.resolveColumn name field = .ok c ↔ t.column? name = some c := by
  unfold Table.resolveColumn
  cases t.column? name with
  | none => simp
  | some d => rw [Option.some.injEq, eq_comm (a := d)]; exact pure_eq_ok

theorem Registry.resolveTable_eq_ok {r : Registry} {name : String} {t : Table} :
    r.resolveTable name = .ok t ↔ r.table? name = some t := by
  unfold Registry.resolveTable
  cases r.table? name with
  | none => simp
  | some u => rw [Option.some.injEq, eq_comm (a := u)]; exact pure_eq_ok

theorem Table.resolveColumn_eq_error {t : Table} {name : String} {field : Option String}
    {e : QueryError} : t.resolveColumn name field = .error e ↔
      t.column? name = none ∧ e = .unknownColumn t.name name field := by
  unfold Table.resolveColumn
  cases t.column? name <;> simp [throw, throwThe, MonadExceptOf.throw, pure, Except.pure, eq_comm]

theorem Registry.resolveTable_eq_error {r : Registry} {name : String} {e : QueryError} :
    r.resolveTable name = .error e ↔
      r.table? name = none ∧ e = .unknownTable name (some "from") := by
  unfold Registry.resolveTable
  cases r.table? name <;> simp [throw, throwThe, MonadExceptOf.throw, pure, Except.pure, eq_comm]

theorem Table.mem_of_column? {t : Table} {name : String} {c : Column}
    (h : t.column? name = some c) : c ∈ t.columns := List.mem_of_find?_eq_some h

theorem Registry.mem_of_table? {r : Registry} {name : String} {t : Table}
    (h : r.table? name = some t) : t ∈ r.tables := List.mem_of_find?_eq_some h

theorem Keyword.word_of_ofWord? {α : Type} [Keyword α] {w : String} {a : α}
    (h : Keyword.ofWord? w = some a) : Keyword.word a = w := by
  simpa using List.find?_some h

/-- The SQL of the operator of a filter. -/
def Filter.operatorSql : Filter → String
  | .string _ op _ => op.sql
  | .number _ op _ => op.sql
  | .datetime _ op _ => op.sql
  | .options _ op _ => op.sql

/-- Every filter of a query has an operator of its kind. -/
theorem Draft.operatorSql_word (f : Dashboard.Filter) (field : Option String) :
    Draft.operatorSql (Keyword.word f.kind) f.operatorWord field = .ok f.operatorSql := by
  cases f with
  | string _ op _ => cases op <;> rfl
  | number _ op _ => cases op <;> rfl
  | datetime _ op _ => cases op <;> rfl
  | options _ op _ => cases op <;> rfl

/-! ### Entries of a draft -/

namespace Draft

theorem aggregated_eq_ok {internal : String} {agg : Option String} {g : Fragment} :
    aggregated internal agg = .ok g ↔ (agg = none ∧ g = .raw internal) ∨
      ∃ a : Aggregation, agg = some (Keyword.word a) ∧
        g = .concat [.raw a.around.1, .raw internal, .raw a.around.2] := by
  cases agg with
  | none =>
    simp [aggregated, pure_eq_ok]
  | some w =>
    simp only [aggregated, reduceCtorEq, false_and, false_or, Option.some.injEq]
    constructor
    · intro h
      split at h
      · rename_i a ha
        exact ⟨a, (Keyword.word_of_ofWord? ha).symm, pure_eq_ok.1 h⟩
      · cases h
    · rintro ⟨a, rfl, rfl⟩
      cases a <;> rfl

/-- The aggregated expression of a column holds no value. -/
theorem values_of_aggregated {internal : String} {agg : Option String} {g : Fragment}
    (h : aggregated internal agg = .ok g) : g.values = [] := by
  rcases aggregated_eq_ok.1 h with ⟨-, rfl⟩ | ⟨a, -, rfl⟩ <;> rfl

theorem selectFragment_eq_ok {t : Table} {item : Select} {i : ℕ} {g : Fragment} :
    selectFragment t item i = .ok g ↔ ∃ c e, t.column? item.column = some c ∧
      aggregated c.internal item.agg = .ok e ∧
      g = .concat [e, .raw " AS ", .quoted (columnAlias c.name item.agg)] := by
  simp only [selectFragment, bind_eq_ok, lookedUp_eq_ok, Table.resolveColumn_eq_ok, pure_eq_ok]
  constructor
  · rintro ⟨c, hc, e, he, rfl⟩
    exact ⟨c, e, hc, he, rfl⟩
  · rintro ⟨c, e, hc, he, rfl⟩
    exact ⟨c, hc, e, he, rfl⟩

theorem orderFragment_eq_ok {t : Table} {item : Order} {i : ℕ} {g : Fragment} :
    orderFragment t item i = .ok g ↔ ∃ c e, ∃ d : Direction, t.column? item.column = some c ∧
      aggregated c.internal item.agg = .ok e ∧ item.direction = Keyword.word d ∧
      g = .concat [e, .raw (" " ++ Keyword.word d)] := by
  simp only [orderFragment, bind_eq_ok, lookedUp_eq_ok, Table.resolveColumn_eq_ok]
  constructor
  · rintro ⟨c, hc, e, he, h⟩
    split at h
    · rename_i d hd
      exact ⟨c, e, d, hc, he, (Keyword.word_of_ofWord? hd).symm, pure_eq_ok.1 h⟩
    · cases h
  · rintro ⟨c, e, d, hc, he, hd, rfl⟩
    refine ⟨c, hc, e, he, ?_⟩
    rw [hd]
    cases d <;> rfl

theorem groupFragment_eq_ok {t : Table} {planned : Bool} {item : Group} {i : ℕ}
    {g : Option Fragment} :
    groupFragment t planned item i = .ok g ↔ ∃ c, t.column? item.column = some c ∧
      g = (match item, planned with
        | .datetime .., true => none
        | _, _ => some (.raw c.internal)) := by
  simp only [groupFragment, bind_eq_ok, lookedUp_eq_ok, Table.resolveColumn_eq_ok]
  refine exists_congr fun c => and_congr_right fun _ => ?_
  cases item <;> cases planned <;> exact pure_eq_ok

/-- The condition of a filter on a known column: options are compared as a list. -/
def condition (c : Column) (operator : String) (form : FilterKind) (value : Value) : Fragment :=
  if form = .options then
    .concat [.raw c.internal, .raw (" " ++ operator ++ "("), .bind value,
      castFragment c.cast form, .raw ")"]
  else
    .concat [.raw c.internal, .raw (" " ++ operator ++ " "), .bind value,
      castFragment c.cast form]

/-- The value that a filter binds: options are bound as a list. -/
def Filter.bound? (f : Filter) : Option Value :=
  if f.form = .options then f.value.items?.map .list else some f.value

/-- A filter is looked up, and then becomes the condition on what it binds. -/
theorem filterFragment_eq (t : Table) (f : Filter) (i : ℕ) :
    filterFragment t f i = (do
      let c ← lookedUp (t.resolveColumn f.column (place "filter" i "column"))
      let op ← lookedUp (operatorSql f.kind f.operator (place "filter" i "operator"))
      match f.bound? with
      | some v => return condition c op f.form v
      | none => throw .notAList) := by
  unfold filterFragment Filter.bound? condition
  by_cases hform : f.form = .options
  · simp only [if_pos hform]
    cases f.value.items? <;> rfl
  · simp only [if_neg hform]

theorem filterFragment_eq_ok {t : Table} {f : Filter} {i : ℕ} {g : Fragment} :
    filterFragment t f i = .ok g ↔ ∃ c op v, t.column? f.column = some c ∧
      operatorSql f.kind f.operator (place "filter" i "operator") = .ok op ∧
      f.bound? = some v ∧ g = condition c op f.form v := by
  simp only [filterFragment_eq, bind_eq_ok, lookedUp_eq_ok, Table.resolveColumn_eq_ok]
  cases f.bound? with
  | none => simp
  | some v =>
    simp only [pure_eq_ok, Option.some.injEq]
    constructor
    · rintro ⟨c, hc, op, hop, rfl⟩
      exact ⟨c, op, v, hc, hop, rfl, rfl⟩
    · rintro ⟨c, op, _, hc, hop, rfl, rfl⟩
      exact ⟨c, hc, op, hop, rfl⟩

theorem values_castFragment (cast : Option String) (form : FilterKind) :
    (castFragment cast form).values = [] := by
  cases cast <;> cases form <;> rfl

/-- A condition binds exactly one value. -/
@[simp] theorem values_condition (c : Column) (op : String) (form : FilterKind) (v : Value) :
    (condition c op form v).values = [v] := by
  unfold condition
  split <;> simp [values_castFragment]

/-! ### Clauses -/

theorem groupFragments_eq_ok {d : Draft} {t : Table} {planned : Bool} {gs : List Fragment} :
    d.groupFragments t planned = .ok gs ↔ ∃ terms,
      (d.groups.zipIdx.mapM fun g => groupFragment t planned g.1 g.2) = .ok terms ∧
      gs = terms.filterMap id := by
  simp only [groupFragments, bind_eq_ok, pure_eq_ok]

theorem clauses_eq_ok {d : Draft} {r : Registry} {plan : Option BucketPlan} {c : Clauses} :
    d.clauses r plan = .ok c ↔ r.table? d.table = some c.table ∧ c.plan = plan ∧
      d.itemFragments c.table = .ok c.items ∧ d.conditionFragments c.table = .ok c.conditions ∧
      d.groupFragments c.table plan.isSome = .ok c.groups ∧
      d.orderFragments c.table = .ok c.orders ∧ c.limit = d.limit := by
  simp only [clauses, bind_eq_ok, lookedUp_eq_ok, Registry.resolveTable_eq_ok, pure_eq_ok]
  constructor
  · rintro ⟨t, ht, items, hi, conditions, hc, groups, hg, orders, ho, rfl⟩
    exact ⟨ht, rfl, hi, hc, hg, ho, rfl⟩
  · rintro ⟨ht, hp, hi, hc, hg, ho, hl⟩
    refine ⟨c.table, ht, c.items, hi, c.conditions, hc, c.groups, hg, c.orders, ho, ?_⟩
    rw [← hp, ← hl]

/-- What holds of a term that a plan brings and of all other terms holds of all of them. -/
theorem forall_mem_toList_append {Q : Fragment → Prop} {plan : Option BucketPlan}
    {term : BucketPlan → Fragment} {fs : List Fragment} (hterm : ∀ p, plan = some p → Q (term p))
    (hfs : ∀ f ∈ fs, Q f) : ∀ f ∈ (plan.map term).toList ++ fs, Q f := by
  intro f hf
  rcases List.mem_append.1 hf with hf | hf
  · obtain ⟨p, hp, rfl⟩ := Option.map_eq_some_iff.1 (Option.mem_toList.1 hf)
    exact hterm p hp
  · exact hfs f hf

/-- Every term of some clauses comes from a step of the compiler. -/
structure FromSteps (c : Clauses) (planned : Bool) : Prop where
  items : ∀ f ∈ c.items, ∃ item i, selectFragment c.table item i = .ok f
  conditions : ∀ f ∈ c.conditions, ∃ item i, filterFragment c.table item i = .ok f
  groups : ∀ f ∈ c.groups, ∃ item i, groupFragment c.table planned item i = .ok (some f)
  orders : ∀ f ∈ c.orders, ∃ item i, orderFragment c.table item i = .ok f

theorem fromSteps_of_clauses {d : Draft} {r : Registry} {plan : Option BucketPlan} {c : Clauses}
    (h : d.clauses r plan = .ok c) : FromSteps c plan.isSome := by
  obtain ⟨-, -, hitems, hconditions, hgroups, horders, -⟩ := clauses_eq_ok.1 h
  obtain ⟨terms, hterms, hgs⟩ := groupFragments_eq_ok.1 hgroups
  refine ⟨fun f hf => ?_, fun f hf => ?_, fun f hf => ?_, fun f hf => ?_⟩
  · obtain ⟨item, -, hi⟩ := exists_of_mem_mapM hitems hf
    exact ⟨item.1, item.2, hi⟩
  · obtain ⟨item, -, hi⟩ := exists_of_mem_mapM hconditions hf
    exact ⟨item.1, item.2, hi⟩
  · obtain ⟨g, hg, rfl⟩ := List.mem_filterMap.1 (hgs ▸ hf)
    obtain ⟨item, -, hi⟩ := exists_of_mem_mapM hterms hg
    exact ⟨item.1, item.2, hi⟩
  · obtain ⟨item, -, hi⟩ := exists_of_mem_mapM horders hf
    exact ⟨item.1, item.2, hi⟩

theorem compile_eq_ok {d : Draft} {r : Registry} {plan : Option BucketPlan} {s : Statement} :
    d.compile r plan = .ok s ↔ ∃ c, d.clauses r plan = .ok c ∧ s = c.fragment.render := by
  simp only [compile, bind_eq_ok, pure_eq_ok]

/-- A plan stands for the one datetime grouping, between its first bounds. -/
theorem plan_eq_some {d : Draft} {t : Table} {p : BucketPlan} :
    d.plan t = .ok (some p) ↔ ∃ name unit, d.datetimeGroups = [(name, unit)] ∧
      d.bounds? = some (p.lower, p.upper) ∧ p.lower.column = name ∧ p.upper.column = name ∧
      t.column? name = some p.column ∧ temporalUnit unit = .ok p.unit := by
  unfold plan
  split
  · rename_i h
    simp [h, pure_eq_ok]
  · rename_i h
    simp [h]
  · rename_i name unit h
    simp only [h, List.cons.injEq, Prod.mk.injEq, and_true]
    split
    · rename_i hb
      simp [hb, pure_eq_ok]
    · rename_i lower upper hb
      split
      · rename_i hne
        -- a bound on another column is refused
        simp only [bind_eq_ok, throw_ne_ok, false_and, exists_false, hb, Option.some.injEq,
          Prod.mk.injEq, false_iff]
        rintro ⟨_, _, ⟨rfl, rfl⟩, ⟨rfl, rfl⟩, hl, hu, -⟩
        exact hne.elim (· hl) (· hu)
      · rename_i heq
        obtain ⟨hl, hu⟩ := not_or.1 heq
        simp only [bind_eq_ok, Table.resolveColumn_eq_ok, pure_eq_ok, hb, Option.some.injEq,
          Prod.mk.injEq]
        constructor
        · rintro ⟨c, hc, u, hunit, rfl⟩
          exact ⟨name, unit, ⟨rfl, rfl⟩, ⟨rfl, rfl⟩, not_not.1 hl, not_not.1 hu, hc, hunit⟩
        · rintro ⟨_, _, ⟨rfl, rfl⟩, ⟨rfl, rfl⟩, -, -, hc, hunit⟩
          exact ⟨p.column, hc, p.unit, hunit, rfl⟩

end Draft

/-! ### Queries of one tenant -/

theorem Table.tenantFilters_eq_ok {t : Table} {tenant : Value} {fs : List Filter} :
    t.tenantFilters tenant = .ok fs ↔ ∃ p, p ≠ "" ∧ tenant = .text p ∧
      fs = t.tenantColumns.map fun c => .string c .eq p := by
  cases tenant with
  | text p =>
    by_cases hp : p = ""
    · simp [Table.tenantFilters, hp]
    · simp only [Table.tenantFilters, if_neg hp, pure_eq_ok, Value.text.injEq]
      constructor
      · rintro rfl
        exact ⟨p, hp, rfl, rfl⟩
      · rintro ⟨_, -, rfl, rfl⟩
        rfl
  | _ => simp [Table.tenantFilters]

/-- A query with the tenant filters of its table after its own. -/
def Query.scoped (q : Query) (t : Table) (tenant : String) : Query :=
  { q with filters := q.filters ++ t.tenantColumns.map fun c => .string c .eq tenant }

theorem Query.scope_toDraft_eq_ok {q : Query} {t : Table} {tenant : Value} {own : Draft} :
    q.toDraft.scope t tenant = .ok own ↔ ∃ p, p ≠ "" ∧ tenant = .text p ∧
      own = (q.scoped t p).toDraft := by
  simp only [Draft.scope, bind_eq_ok, Table.tenantFilters_eq_ok, pure_eq_ok]
  constructor
  · rintro ⟨_, ⟨p, hp, rfl, rfl⟩, rfl⟩
    exact ⟨p, hp, rfl, by simp [Query.scoped, Query.toDraft]⟩
  · rintro ⟨p, hp, rfl, rfl⟩
    exact ⟨_, ⟨p, hp, rfl, rfl⟩, by simp [Query.scoped, Query.toDraft]⟩

/-- A filter of a query binds its own value. -/
theorem Draft.bound?_toDraft (f : Dashboard.Filter) : f.toDraft.bound? = some f.value := by
  cases f <;> rfl

theorem Draft.filterFragment_toDraft {t : Table} {f : Dashboard.Filter} {i : ℕ} {g : Fragment} :
    filterFragment t f.toDraft i = .ok g ↔ ∃ c, t.column? f.column = some c ∧
      g = condition c f.operatorSql f.kind f.value := by
  rw [filterFragment_eq_ok]
  constructor
  · rintro ⟨c, op, v, hc, hop, hv, rfl⟩
    cases (operatorSql_word f _).symm.trans hop
    cases (bound?_toDraft f).symm.trans hv
    exact ⟨c, hc, rfl⟩
  · rintro ⟨c, hc, rfl⟩
    exact ⟨c, _, _, hc, operatorSql_word f _, bound?_toDraft f, rfl⟩

/-- A query is scoped to any tenant that has a name. -/
theorem Query.scope_toDraft (q : Query) (t : Table) {p : String} (hp : p ≠ "") :
    q.toDraft.scope t (.text p) = .ok (q.scoped t p).toDraft :=
  scope_toDraft_eq_ok.2 ⟨p, hp, rfl, rfl⟩

/-! ### Clauses of one tenant -/

/-- The clauses of the statement of a draft for one tenant. -/
def Draft.buildClauses (d : Draft) (tenant : Value) (r : Registry) :
    Except BuildError Clauses := do
  let t ← lookedUp (r.resolveTable d.table)
  let own ← lookedUp (d.scope t tenant)
  let plan ← lookedUp (own.plan t)
  own.clauses r plan

/-- A statement is built by rendering its clauses. -/
theorem Draft.build_eq (d : Draft) (tenant : Value) (r : Registry) :
    d.build tenant r = (fun c => c.fragment.render) <$> d.buildClauses tenant r := by
  simp only [build, buildClauses, compile, map_bind, bind_pure_comp]

theorem Draft.build_eq_ok {d : Draft} {tenant : Value} {r : Registry} {s : Statement} :
    d.build tenant r = .ok s ↔
      ∃ c, d.buildClauses tenant r = .ok c ∧ s = c.fragment.render := by
  rw [build_eq, ← bind_pure_comp, bind_eq_ok]
  simp only [pure_eq_ok]

theorem Draft.buildClauses_eq_ok {d : Draft} {tenant : Value} {r : Registry} {c : Clauses} :
    d.buildClauses tenant r = .ok c ↔ ∃ own, r.table? d.table = some c.table ∧
      d.scope c.table tenant = .ok own ∧ own.plan c.table = .ok c.plan ∧
      own.clauses r c.plan = .ok c := by
  simp only [buildClauses, bind_eq_ok, lookedUp_eq_ok, Registry.resolveTable_eq_ok]
  constructor
  · rintro ⟨t, ht, own, hown, plan, hplan, hc⟩
    obtain ⟨mandatory, -, hscope⟩ := bind_eq_ok.1 hown
    cases pure_eq_ok.1 hscope
    -- scoping leaves the table of the draft as it is
    obtain ⟨ht', rfl, -⟩ := clauses_eq_ok.1 hc
    obtain rfl : t = c.table := Option.some.inj (ht.symm.trans ht')
    exact ⟨_, ht, hown, hplan, hc⟩
  · rintro ⟨own, ht, hown, hplan, hc⟩
    exact ⟨c.table, ht, own, hown, c.plan, hplan, hc⟩

theorem Query.buildClauses_eq_ok {q : Query} {tenant : Value} {r : Registry} {c : Clauses} :
    q.toDraft.buildClauses tenant r = .ok c ↔ ∃ p, p ≠ "" ∧ tenant = .text p ∧
      r.table? q.table = some c.table ∧
      (q.scoped c.table p).toDraft.plan c.table = .ok c.plan ∧
      (q.scoped c.table p).toDraft.clauses r c.plan = .ok c := by
  rw [Draft.buildClauses_eq_ok]
  constructor
  · rintro ⟨own, ht, hown, hplan, hc⟩
    obtain ⟨p, hp, rfl, rfl⟩ := scope_toDraft_eq_ok.1 hown
    exact ⟨p, hp, rfl, ht, hplan, hc⟩
  · rintro ⟨p, hp, rfl, ht, hplan, hc⟩
    exact ⟨_, ht, q.scope_toDraft c.table hp, hplan, hc⟩

end Dashboard
