import Dashboard.Proofs.KnownWords
import Dashboard.Proofs.TenantConditions

/-!
# What building a statement comes to

* `Query.timeGroups`, `Filter.isLower`, `Filter.isUpper` and `Query.columns` say what a query groups
  by, how it bounds its range and which columns it names, without its words.
* `Query.Outcome` is a list of decisions: for each way in which building can end, the conditions
  under which it does, those of the ways before it excluded.
* `Query.plan_toDraft_cases` and `Query.unknown_of_clauses_error` say how planning and compiling a
  query can end.
* `build_outcome`: a query that was read from a description comes to exactly what these decisions
  say. No word of a query is refused, and no tenant column is missing.
-/

namespace Dashboard

/-! ### What a query asks for -/

/-- A tenant is named by a text that is not empty. -/
def Value.IsTenant (v : Value) : Prop := ∃ p, p ≠ "" ∧ v = .text p

/-- The column that a grouping looks at. -/
def GroupBy.column : GroupBy → String
  | categorical _ c => c
  | datetime c _ => c

namespace Filter

/-- A filter that bounds a datetime column from below. -/
def isLower : Filter → Bool
  | datetime _ .gt _ => true
  | datetime _ .ge _ => true
  | _ => false

/-- A filter that bounds a datetime column from above. -/
def isUpper : Filter → Bool
  | datetime _ .lt _ => true
  | datetime _ .le _ => true
  | _ => false

end Filter

namespace Query

/-- The columns and units of the datetime groupings, in order. -/
def timeGroups (q : Query) : List (String × TemporalUnit) :=
  q.groups.filterMap fun
    | .datetime column unit => some (column, unit)
    | .categorical .. => none

/-- All columns that a query names. -/
def columns (q : Query) : List String :=
  q.select.map SelectItem.column ++ q.filters.map Filter.column ++ q.groups.map GroupBy.column ++
    q.orders.map OrderItem.column

/-- A query groups by one datetime column and has a lower and an upper bound, but the first lower
or the first upper bound is on another column. -/
def StrayRange (q : Query) (group lower upper : String) : Prop :=
  (∃ unit, q.timeGroups = [(group, unit)]) ∧
    (∃ l, q.filters.find? Filter.isLower = some l ∧ l.column = lower) ∧
    (∃ u, q.filters.find? Filter.isUpper = some u ∧ u.column = upper) ∧
    (lower ≠ group ∨ upper ≠ group)

/-- How building the statement of a query for a tenant can end. -/
inductive Outcome (q : Query) (t : Table) (tenant : Value) : Except BuildError Statement → Prop
  | noTenant (htenant : ¬tenant.IsTenant) :
      Outcome q t tenant (.error (.refused (.invalid .noTenant (some "tenant_id"))))
  | severalTimeGroups (htenant : tenant.IsTenant) (hgroups : 2 ≤ q.timeGroups.length) :
      Outcome q t tenant (.error (.refused .multipleTimeGroups))
  | strayRange (htenant : tenant.IsTenant) {group lower upper : String}
      (hrange : q.StrayRange group lower upper) :
      Outcome q t tenant (.error (.refused (.mismatchedRange group lower upper)))
  | unknownColumn (htenant : tenant.IsTenant) (hgroups : q.timeGroups.length < 2)
      (hrange : ∀ group lower upper, ¬q.StrayRange group lower upper) {name : String}
      (hname : name ∈ q.columns) (hunknown : name ∉ t.columnNames) (field : Option String) :
      Outcome q t tenant (.error (.refused (.unknownColumn t.name name field)))
  | built (htenant : tenant.IsTenant) (hgroups : q.timeGroups.length < 2)
      (hrange : ∀ group lower upper, ¬q.StrayRange group lower upper)
      (hknown : ∀ name ∈ q.columns, name ∈ t.columnNames) (s : Statement) :
      Outcome q t tenant (.ok s)

variable {q : Query}

theorem column_mem_of_select {s : SelectItem} (h : s ∈ q.select) : s.column ∈ q.columns :=
  List.mem_append_left _ (List.mem_append_left _ (List.mem_append_left _ (List.mem_map_of_mem h)))

theorem column_mem_of_filters {f : Filter} (h : f ∈ q.filters) : f.column ∈ q.columns :=
  List.mem_append_left _ (List.mem_append_left _ (List.mem_append_right _ (List.mem_map_of_mem h)))

theorem column_mem_of_groups {g : GroupBy} (h : g ∈ q.groups) : g.column ∈ q.columns :=
  List.mem_append_left _ (List.mem_append_right _ (List.mem_map_of_mem h))

theorem column_mem_of_orders {o : OrderItem} (h : o ∈ q.orders) : o.column ∈ q.columns :=
  List.mem_append_right _ (List.mem_map_of_mem h)

theorem column_toDraft (g : GroupBy) : g.toDraft.column = g.column := by
  cases g <;> rfl

end Query

/-! ### Look-ups that fail -/

theorem Table.column?_eq_none {t : Table} {name : String} :
    t.column? name = none ↔ name ∉ t.columnNames := by
  rw [← Table.exists_column?]
  cases t.column? name <;> simp

theorem lookedUp_eq_error {α : Type} {x : Except QueryError α} {e : BuildError} :
    lookedUp x = .error e ↔ ∃ reason, x = .error reason ∧ e = .refused reason := by
  cases x with
  | error d => simp [lookedUp, Except.mapError, eq_comm]
  | ok a => simp [lookedUp, Except.mapError]

theorem Table.resolveColumn_of_none {t : Table} {name : String} (h : t.column? name = none)
    (field : Option String) :
    t.resolveColumn name field = .error (.unknownColumn t.name name field) := by
  exact Table.resolveColumn_eq_error.2 ⟨h, rfl⟩

/-! ### Planning a query -/

namespace Query

theorem datetimeGroups_toDraft (q : Query) :
    q.toDraft.datetimeGroups = q.timeGroups.map fun g => (g.1, Keyword.word g.2) := by
  unfold Draft.datetimeGroups timeGroups
  rw [show q.toDraft.groups = q.groups.map GroupBy.toDraft from rfl, List.filterMap_map,
    List.map_filterMap]
  congr 1
  funext g
  cases g <;> rfl

/-- The first datetime filter of a draft with one of some operators comes from the first filter of
its query that has one. -/
theorem find?_datetimeFilters_toDraft (q : Query) {operators : List String}
    {p : Dashboard.Filter → Bool}
    (hp : ∀ f : Dashboard.Filter,
      (f.toDraft.isDatetime && operators.contains f.toDraft.operator) = p f) :
    q.toDraft.datetimeFilters.find? (fun f => operators.contains f.operator) =
      (q.filters.find? p).map Filter.toDraft := by
  rw [Draft.datetimeFilters, show q.toDraft.filters = q.filters.map Filter.toDraft from rfl,
    List.find?_filter, List.find?_map]
  congr 2
  funext f
  rw [← hp f]
  simp

theorem find?_lower_toDraft (q : Query) :
    q.toDraft.datetimeFilters.find? (fun f => Draft.lowerOperators.contains f.operator) =
      (q.filters.find? Filter.isLower).map Filter.toDraft := by
  refine find?_datetimeFilters_toDraft q fun f => ?_
  cases f with
  | datetime c op v => cases op <;> rfl
  | _ => rfl

theorem find?_upper_toDraft (q : Query) :
    q.toDraft.datetimeFilters.find? (fun f => Draft.upperOperators.contains f.operator) =
      (q.filters.find? Filter.isUpper).map Filter.toDraft := by
  refine find?_datetimeFilters_toDraft q fun f => ?_
  cases f with
  | datetime c op v => cases op <;> rfl
  | _ => rfl

/-- The bounds of a draft are the first filters of its query that bound a range. -/
theorem bounds?_toDraft (q : Query) :
    q.toDraft.bounds? = (do
      let l ← q.filters.find? Filter.isLower
      let u ← q.filters.find? Filter.isUpper
      some (l.toDraft, u.toDraft)) := by
  rw [Draft.bounds?, find?_lower_toDraft, find?_upper_toDraft]
  cases q.filters.find? Filter.isLower with
  | none => rfl
  | some l =>
    cases q.filters.find? Filter.isUpper with
    | none => rfl
    | some u => rfl

/-- Every unit of a query is known to the planner. -/
theorem temporalUnit_word (unit : TemporalUnit) :
    temporalUnit (Keyword.word unit) = .ok unit := by
  cases unit <;> rfl

/-- A query without a lower and an upper bound for its datetime grouping has no plan. -/
theorem plan_toDraft_of_unbounded {q : Query} {g : String × TemporalUnit} {t : Table}
    (hg : q.timeGroups = [g])
    (h : q.filters.find? Filter.isLower = none ∨ q.filters.find? Filter.isUpper = none) :
    q.toDraft.plan t = .ok none := by
  have hbounds : q.toDraft.bounds? = none := by
    rw [bounds?_toDraft]
    rcases h with h | h
    · rw [h]
      rfl
    · rw [h]
      cases q.filters.find? Filter.isLower <;> rfl
  rw [Draft.plan, datetimeGroups_toDraft, hg, hbounds]
  rfl

/-- The first bounds of a query must be on the column that it groups by, and then this column is
looked up. -/
theorem plan_toDraft_of_bounded {q : Query} {name : String} {unit : TemporalUnit} {l u : Filter}
    {t : Table} (hg : q.timeGroups = [(name, unit)])
    (hl : q.filters.find? Filter.isLower = some l) (hu : q.filters.find? Filter.isUpper = some u) :
    q.toDraft.plan t =
      if l.column ≠ name ∨ u.column ≠ name then .error (.mismatchedRange name l.column u.column)
      else do
        let c ← t.resolveColumn name (some "groupBy")
        return some ⟨c, unit, l.toDraft, u.toDraft⟩ := by
  have hbounds : q.toDraft.bounds? = some (l.toDraft, u.toDraft) := by
    rw [bounds?_toDraft, hl, hu]
    rfl
  rw [Draft.plan, datetimeGroups_toDraft, hg, hbounds]
  simp only [List.map_cons, List.map_nil, temporalUnit_word]
  rfl

theorem column_mem_of_timeGroups {q : Query} {g : String × TemporalUnit}
    (h : g ∈ q.timeGroups) : g.1 ∈ q.columns := by
  obtain ⟨item, hitem, hg⟩ := List.mem_filterMap.1 h
  have hcolumn : item.column = g.1 := by
    cases item with
    | categorical w c => cases hg
    | datetime c unit =>
      cases hg
      rfl
  exact hcolumn ▸ column_mem_of_groups hitem

/-- The ways in which planning a query can end. -/
theorem plan_toDraft_cases (q : Query) (t : Table) :
    (2 ≤ q.timeGroups.length ∧ q.toDraft.plan t = .error .multipleTimeGroups) ∨
    (∃ group lower upper, q.StrayRange group lower upper ∧
      q.toDraft.plan t = .error (.mismatchedRange group lower upper)) ∨
    (q.timeGroups.length < 2 ∧ (∀ group lower upper, ¬q.StrayRange group lower upper) ∧
      ((∃ plan, q.toDraft.plan t = .ok plan) ∨
        ∃ name ∈ q.columns, name ∉ t.columnNames ∧ ∃ field,
          q.toDraft.plan t = .error (.unknownColumn t.name name field))) := by
  match hgroups : q.timeGroups with
  | [] =>
    refine .inr (.inr ⟨by simp, fun group lower upper h => ?_, .inl ⟨none, ?_⟩⟩)
    · simp [StrayRange, hgroups] at h
    · rw [Draft.plan, datetimeGroups_toDraft, hgroups]
      rfl
  | _ :: _ :: _ =>
    refine .inl ⟨by simp, ?_⟩
    rw [Draft.plan, datetimeGroups_toDraft, hgroups]
    rfl
  | [(name, unit)] =>
    cases hl : q.filters.find? Filter.isLower with
    | none =>
      refine .inr (.inr ⟨by simp, fun group lower upper h => ?_,
        .inl ⟨none, plan_toDraft_of_unbounded hgroups (.inl hl)⟩⟩)
      simp [StrayRange, hl] at h
    | some l =>
      cases hu : q.filters.find? Filter.isUpper with
      | none =>
        refine .inr (.inr ⟨by simp, fun group lower upper h => ?_,
          .inl ⟨none, plan_toDraft_of_unbounded hgroups (.inr hu)⟩⟩)
        simp [StrayRange, hu] at h
      | some u =>
        have hplan := plan_toDraft_of_bounded (t := t) hgroups hl hu
        by_cases hne : l.column ≠ name ∨ u.column ≠ name
        · exact .inr (.inl ⟨name, l.column, u.column,
            ⟨⟨unit, hgroups⟩, ⟨l, hl, rfl⟩, ⟨u, hu, rfl⟩, hne⟩, hplan.trans (if_pos hne)⟩)
        · rw [if_neg hne] at hplan
          refine .inr (.inr ⟨by simp, fun group lower upper h => ?_, ?_⟩)
          · obtain ⟨⟨unit', hunit⟩, ⟨l', hl', rfl⟩, ⟨u', hu', rfl⟩, hstray⟩ := h
            cases hgroups.symm.trans hunit
            cases hl.symm.trans hl'
            cases hu.symm.trans hu'
            exact hne hstray
          · cases hc : t.column? name with
            | some c =>
              rw [Table.resolveColumn_eq_ok.2 hc] at hplan
              exact .inl ⟨_, hplan⟩
            | none =>
              have hmem : name ∈ q.columns :=
                column_mem_of_timeGroups (g := (name, unit)) (by simp [hgroups])
              rw [Table.resolveColumn_of_none hc] at hplan
              exact .inr ⟨name, hmem, Table.column?_eq_none.1 hc, _, hplan⟩

end Query

/-! ### Compiling a query -/

namespace Draft

theorem knownAggregation_word (agg : Option Aggregation) :
    KnownAggregation (agg.map Keyword.word) := by
  intro w hw
  obtain ⟨a, -, rfl⟩ := Option.map_eq_some_iff.1 hw
  exact Keyword.word_mem_words a

theorem known_filter_toDraft {t : Table} {f : Dashboard.Filter} :
    f.toDraft.Known t ↔ f.column ∈ t.columnNames := by
  rw [← exists_filterFragment (i := 0), ← Table.exists_column?]
  constructor
  · rintro ⟨g, hg⟩
    obtain ⟨c, hc, -⟩ := filterFragment_toDraft.1 hg
    exact ⟨c, hc⟩
  · rintro ⟨c, hc⟩
    exact ⟨_, filterFragment_toDraft.2 ⟨c, hc, rfl⟩⟩

section

variable {t : Table} {i : ℕ}

/-- A step that can fail for want of its column alone has failed for that reason. -/
theorem unknown_of_error {α : Type} {x : Except BuildError α} {name : String}
    {field : Option String} {e : BuildError} (hfound : name ∈ t.columnNames → ∃ a, x = .ok a)
    (hmissing : t.resolveColumn name field = .error (.unknownColumn t.name name field) →
      x = .error (.refused (.unknownColumn t.name name field)))
    (h : x = .error e) :
    name ∉ t.columnNames ∧ e = .refused (.unknownColumn t.name name field) := by
  by_cases hname : name ∈ t.columnNames
  · obtain ⟨a, ha⟩ := hfound hname
    rw [ha] at h
    cases h
  · have hx := hmissing (Table.resolveColumn_of_none (Table.column?_eq_none.2 hname) field)
    rw [hx] at h
    cases h
    exact ⟨hname, rfl⟩

theorem unknown_of_selectFragment {item : Select} (hagg : KnownAggregation item.agg)
    {e : BuildError} (h : selectFragment t item i = .error e) :
    item.column ∉ t.columnNames ∧
      e = .refused (.unknownColumn t.name item.column (place "select" i "column")) := by
  refine unknown_of_error (fun hname => exists_selectFragment.2 ⟨hname, hagg⟩) (fun hx => ?_) h
  rw [selectFragment, hx]
  rfl

theorem unknown_of_orderFragment {item : Order} (hagg : KnownAggregation item.agg)
    (hdirection : item.direction ∈ Keyword.words Direction) {e : BuildError}
    (h : orderFragment t item i = .error e) :
    item.column ∉ t.columnNames ∧
      e = .refused (.unknownColumn t.name item.column (place "orderBy" i "column")) := by
  refine unknown_of_error (fun hname => exists_orderFragment.2 ⟨hname, hagg, hdirection⟩)
    (fun hx => ?_) h
  rw [orderFragment, hx]
  rfl

theorem unknown_of_groupFragment {item : Group} {planned : Bool} {e : BuildError}
    (h : groupFragment t planned item i = .error e) :
    item.column ∉ t.columnNames ∧
      e = .refused (.unknownColumn t.name item.column (place "groupBy" i "column")) := by
  refine unknown_of_error (fun hname => exists_groupFragment.2 hname) (fun hx => ?_) h
  rw [groupFragment, hx]
  rfl

theorem unknown_of_filterFragment {f : Dashboard.Filter} {e : BuildError}
    (h : filterFragment t f.toDraft i = .error e) :
    f.column ∉ t.columnNames ∧
      e = .refused (.unknownColumn t.name f.column (place "filter" i "column")) := by
  refine unknown_of_error
    (fun hname => exists_filterFragment.2 (known_filter_toDraft.2 hname)) (fun hx => ?_) h
  rw [filterFragment, show f.toDraft.column = f.column from rfl, hx]
  rfl

end
end Draft

namespace Query

variable {q : Query}

/-- All words of a query are known, so that it is known to the tables that have its columns. -/
theorem known_toDraft {t : Table} :
    q.toDraft.Known t ↔ ∀ name ∈ q.columns, name ∈ t.columnNames := by
  constructor
  · intro h name hname
    simp only [columns, List.mem_append, List.mem_map] at hname
    rcases hname with ((⟨s, hs, rfl⟩ | ⟨f, hf, rfl⟩) | ⟨g, hg, rfl⟩) | ⟨o, ho, rfl⟩
    · exact (h.select _ (List.mem_map_of_mem hs)).1
    · exact (h.filters _ (List.mem_map_of_mem hf)).column
    · rw [← column_toDraft]
      exact h.groups _ (List.mem_map_of_mem hg)
    · exact (h.orders _ (List.mem_map_of_mem ho)).1
  · intro h
    refine ⟨fun s hs => ?_, fun f hf => ?_, fun g hg => ?_, fun o ho => ?_⟩
    · obtain ⟨s, hmem, rfl⟩ := List.mem_map.1 hs
      exact ⟨h _ (column_mem_of_select hmem), Draft.knownAggregation_word s.agg⟩
    · obtain ⟨f, hmem, rfl⟩ := List.mem_map.1 hf
      exact Draft.known_filter_toDraft.2 (h _ (column_mem_of_filters hmem))
    · obtain ⟨g, hmem, rfl⟩ := List.mem_map.1 hg
      rw [column_toDraft]
      exact h _ (column_mem_of_groups hmem)
    · obtain ⟨o, hmem, rfl⟩ := List.mem_map.1 ho
      exact ⟨h _ (column_mem_of_orders hmem), Draft.knownAggregation_word o.agg,
        Keyword.word_mem_words o.direction⟩

/-- A query that is not compiled names a column that its table lacks, and is refused for it. -/
theorem unknown_of_clauses_error {r : Registry} {t : Table} {plan : Option BucketPlan}
    (ht : r.table? q.table = some t) {e : BuildError} (h : q.toDraft.clauses r plan = .error e) :
    ∃ name ∈ q.columns, name ∉ t.columnNames ∧ ∃ field,
      e = .refused (.unknownColumn t.name name field) := by
  have ht' : lookedUp (r.resolveTable q.toDraft.table) = .ok t :=
    lookedUp_eq_ok.2 (Registry.resolveTable_eq_ok.2 ht)
  unfold Draft.clauses at h
  rcases bind_eq_error.1 h with h | ⟨u, hu, h⟩
  · rw [ht'] at h
    cases h
  cases ht'.symm.trans hu
  -- one case for each clause that looks up columns, in their order
  rcases bind_eq_error.1 h with h | ⟨items, -, h⟩
  · obtain ⟨s, hs, i, hi⟩ := exists_of_mapM_zipIdx_eq_error h
    obtain ⟨s, hmem, rfl⟩ := List.mem_map.1 hs
    obtain ⟨hname, he⟩ := Draft.unknown_of_selectFragment (Draft.knownAggregation_word s.agg) hi
    exact ⟨s.column, column_mem_of_select hmem, hname, _, he⟩
  rcases bind_eq_error.1 h with h | ⟨conditions, -, h⟩
  · obtain ⟨f, hf, i, hi⟩ := exists_of_mapM_zipIdx_eq_error h
    obtain ⟨f, hmem, rfl⟩ := List.mem_map.1 hf
    obtain ⟨hname, he⟩ := Draft.unknown_of_filterFragment hi
    exact ⟨f.column, column_mem_of_filters hmem, hname, _, he⟩
  rcases bind_eq_error.1 h with h | ⟨groups, -, h⟩
  · unfold Draft.groupFragments at h
    rcases bind_eq_error.1 h with h | ⟨terms, -, h⟩
    · obtain ⟨g, hg, i, hi⟩ := exists_of_mapM_zipIdx_eq_error h
      obtain ⟨g, hmem, rfl⟩ := List.mem_map.1 hg
      obtain ⟨hname, he⟩ := Draft.unknown_of_groupFragment hi
      rw [column_toDraft] at hname he
      exact ⟨g.column, column_mem_of_groups hmem, hname, _, he⟩
    · cases h
  rcases bind_eq_error.1 h with h | ⟨orders, -, h⟩
  · obtain ⟨o, ho, i, hi⟩ := exists_of_mapM_zipIdx_eq_error h
    obtain ⟨o, hmem, rfl⟩ := List.mem_map.1 ho
    obtain ⟨hname, he⟩ := Draft.unknown_of_orderFragment (Draft.knownAggregation_word o.agg)
      (Keyword.word_mem_words o.direction) hi
    exact ⟨o.column, column_mem_of_orders hmem, hname, _, he⟩
  cases h

/-! ### Scoping a query -/

theorem scope_toDraft_of_not_isTenant (q : Query) (t : Table) {tenant : Value}
    (h : ¬tenant.IsTenant) :
    q.toDraft.scope t tenant = .error (.invalid .noTenant (some "tenant_id")) := by
  have hfilters : t.tenantFilters tenant = .error (.invalid .noTenant (some "tenant_id")) := by
    cases tenant with
    | text p =>
      have hp : p = "" := by
        by_contra hp
        exact h ⟨p, hp, rfl⟩
      rw [hp]
      rfl
    | _ => rfl
  rw [Draft.scope, hfilters]
  rfl

section

variable {t : Table} {p : String}

@[simp] theorem timeGroups_scoped : (q.scoped t p).timeGroups = q.timeGroups := rfl

/-- The filters of a tenant bound no range, so that they are passed over in the search for a
bound. -/
theorem find?_scoped {bounds : Filter → Bool} (h : ∀ c, bounds (.string c .eq p) = false) :
    (q.scoped t p).filters.find? bounds = q.filters.find? bounds := by
  have htenant : (t.tenantColumns.map fun c => Filter.string c .eq p).find? bounds = none := by
    rw [List.find?_eq_none]
    intro f hf
    obtain ⟨c, -, rfl⟩ := List.mem_map.1 hf
    simp [h c]
  rw [Query.scoped, List.find?_append, htenant, Option.or_none]

theorem strayRange_scoped {group lower upper : String} :
    (q.scoped t p).StrayRange group lower upper ↔ q.StrayRange group lower upper := by
  unfold StrayRange
  rw [timeGroups_scoped, find?_scoped fun _ => rfl, find?_scoped fun _ => rfl]

/-- Scoping adds the tenant columns to those that a query names. -/
theorem mem_columns_scoped {name : String} :
    name ∈ (q.scoped t p).columns ↔ name ∈ q.columns ∨ name ∈ t.tenantColumns := by
  have hfilters : (q.scoped t p).filters.map Filter.column =
      q.filters.map Filter.column ++ t.tenantColumns := by
    simp [Query.scoped, Function.comp_def, Filter.column]
  rw [columns, hfilters]
  simp only [columns, Query.scoped, List.mem_append]
  tauto

end

/-! ### Building a statement -/

variable {r : Registry} {t : Table} {tenant : Value}

theorem build_of_table (ht : r.table? q.table = some t) :
    q.toDraft.build tenant r = (do
      let own ← lookedUp (q.toDraft.scope t tenant)
      let plan ← lookedUp (own.plan t)
      own.compile r plan) := by
  have ht' : lookedUp (r.resolveTable q.toDraft.table) = .ok t :=
    lookedUp_eq_ok.2 (Registry.resolveTable_eq_ok.2 ht)
  rw [Draft.build, ht']
  rfl

/-- The statement for a tenant is planned and compiled from the query of that tenant. -/
theorem build_of_tenant (ht : r.table? q.table = some t) {p : String} (hp : p ≠ "") :
    q.toDraft.build (.text p) r = (do
      let plan ← lookedUp ((q.scoped t p).toDraft.plan t)
      (q.scoped t p).toDraft.compile r plan) := by
  rw [build_of_table ht, scope_toDraft q t hp]
  rfl

/-- Compiling the query of a tenant fails exactly if the query names a column that the table
lacks, since the table has the tenant columns. -/
theorem compile_scoped_cases (ht : r.table? q.table = some t) (hchecked : t.Checked) (p : String)
    (plan : Option BucketPlan) :
    ((∀ name ∈ q.columns, name ∈ t.columnNames) ∧
      ∃ s, (q.scoped t p).toDraft.compile r plan = .ok s) ∨
    ∃ name ∈ q.columns, name ∉ t.columnNames ∧ ∃ field, (q.scoped t p).toDraft.compile r plan =
      .error (.refused (.unknownColumn t.name name field)) := by
  cases hc : (q.scoped t p).toDraft.compile r plan with
  | ok s =>
    obtain ⟨u, hu, hknown⟩ := (Draft.exists_compile plan).1 ⟨s, hc⟩
    cases ht.symm.trans hu
    exact .inl ⟨fun name hname => known_toDraft.1 hknown name (mem_columns_scoped.2 (.inl hname)),
      s, rfl⟩
  | error e =>
    have hclauses : (q.scoped t p).toDraft.clauses r plan = .error e := by
      rcases bind_eq_error.1 hc with h | ⟨c, -, h⟩
      · exact h
      · cases h
    obtain ⟨name, hname, hunknown, field, rfl⟩ :=
      unknown_of_clauses_error (q := q.scoped t p) ht hclauses
    rcases mem_columns_scoped.1 hname with hname | hname
    · exact .inr ⟨name, hname, hunknown, field, rfl⟩
    · exact absurd (hchecked.tenantColumns_subset name hname) hunknown

/-- Building comes to what the decisions say, if the table has the tenant columns. -/
theorem outcome_of_table (ht : r.table? q.table = some t) (hchecked : t.Checked) :
    q.Outcome t tenant (q.toDraft.build tenant r) := by
  by_cases htenant : tenant.IsTenant
  · obtain ⟨p, hp, rfl⟩ := htenant
    have htenant : (Value.text p).IsTenant := ⟨p, hp, rfl⟩
    rw [build_of_tenant ht hp]
    rcases plan_toDraft_cases (q.scoped t p) t with ⟨hgroups, hplan⟩ |
      ⟨group, lower, upper, hrange, hplan⟩ | ⟨hgroups, hrange, hplan⟩
    · rw [hplan]
      exact .severalTimeGroups htenant hgroups
    · rw [hplan]
      exact .strayRange htenant (strayRange_scoped.1 hrange)
    · have hrange : ∀ group lower upper, ¬q.StrayRange group lower upper :=
        fun group lower upper h => hrange group lower upper (strayRange_scoped.2 h)
      rw [timeGroups_scoped] at hgroups
      rcases hplan with ⟨plan, hplan⟩ | ⟨name, hname, hunknown, field, hplan⟩
      · rw [hplan]
        show q.Outcome t _ ((q.scoped t p).toDraft.compile r plan)
        rcases compile_scoped_cases ht hchecked p plan with ⟨hknown, s, hs⟩ |
          ⟨name, hname, hunknown, field, hs⟩
        · rw [hs]
          exact .built htenant hgroups hrange hknown s
        · rw [hs]
          exact .unknownColumn htenant hgroups hrange hname hunknown field
      · rw [hplan]
        rcases mem_columns_scoped.1 hname with hname | hname
        · exact .unknownColumn htenant hgroups hrange hname hunknown field
        · exact absurd (hchecked.tenantColumns_subset name hname) hunknown
  · rw [build_of_table ht, scope_toDraft_of_not_isTenant q t htenant]
    exact .noTenant htenant

/-- A query that was read from a description has a table. -/
theorem parse_eq_ok {j : Json} :
    Query.parse r j = .ok q ↔ Query.check j = .ok q ∧ ∃ t, r.table? q.table = some t := by
  have hcheck : (Query.check j).toExcept = .ok q ↔ Query.check j = .ok q := by
    cases Query.check j <;> simp [Checked.toExcept]
  simp only [Query.parse, bind_eq_ok, pure_eq_ok, Registry.resolveTable_eq_ok]
  constructor
  · rintro ⟨q', hq', t, ht, rfl⟩
    exact ⟨hcheck.1 hq', t, ht⟩
  · rintro ⟨hq, t, ht⟩
    exact ⟨q, hcheck.2 hq, t, ht, rfl⟩

/-- A description is refused for its first fault, or because it names no table. -/
theorem parse_eq_error {j : Json} {e : QueryError} :
    Query.parse r j = .error e ↔ (Query.check j).toExcept = .error e ∨
      ∃ q, (Query.check j).toExcept = .ok q ∧ r.table? q.table = none ∧
        e = .unknownTable q.table (some "from") := by
  have htable (q : Query) : (r.resolveTable q.table >>= fun _ => pure q) = .error e ↔
      r.table? q.table = none ∧ e = .unknownTable q.table (some "from") := by
    rw [← Registry.resolveTable_eq_error, bind_eq_error]
    simp [pure, Except.pure]
  rw [Query.parse, bind_eq_error]
  exact or_congr_right (exists_congr fun q => and_congr_right fun _ => htable q)

end Query

/-- Whatever the tenant is, building the statement of a query that was read ends as the decisions
say, and in no other way. -/
theorem build_outcome {doc : Document} {r : Registry} (hr : Registry.ofDocument doc = .ok r)
    {j : Json} {q : Query} (hq : Query.parse r j = .ok q) (tenant : Value) :
    ∃ t, r.table? q.table = some t ∧ q.Outcome t tenant (q.toDraft.build tenant r) := by
  obtain ⟨-, t, ht⟩ := Query.parse_eq_ok.1 hq
  have hchecked : t.Checked :=
    (Registry.checked_of_ofDocument hr).tables t (Registry.mem_of_table? ht)
  exact ⟨t, ht, Query.outcome_of_table ht hchecked⟩

namespace Events

/-- A datetime filter of a description. -/
def boundJson (column operator : String) (seconds : Int) : Json :=
  .object [("type", .text "datetime"), ("column", .text column), ("operator", .text operator),
    ("value", .int seconds)]

/-- A description that groups by days of `at`, but has its lower bound on another column. -/
def strayJson : Json :=
  .object [("from", .text "events"), ("select", .list [.object [("column", .text "place")]]),
    ("filter", .list [boundJson "owner" ">=" 0, boundJson "at" "<" 86400]),
    ("groupBy", .list [.object [("type", .text "datetime"), ("column", .text "at"),
      ("temporalUnit", .text "day")]])]

end Events

open Events in
/-- The stray bound is reported, although the query also selects a column that there is not. -/
theorem build_outcome_stray : ∃ q, Registry.ofDocument document = .ok registry ∧
    Query.parse registry strayJson = .ok q ∧
    q.toDraft.build (.text "a") registry =
      .error (.refused (.mismatchedRange "at" "owner" "at")) ∧
    ∃ t, registry.table? q.table = some t ∧
      q.Outcome t (.text "a") (q.toDraft.build (.text "a") registry) := by
  have hq : ∃ q, Query.parse registry strayJson = .ok q ∧
      q.toDraft.build (.text "a") registry =
        .error (.refused (.mismatchedRange "at" "owner" "at")) := ⟨_, rfl, rfl⟩
  obtain ⟨q, hq, hbuild⟩ := hq
  exact ⟨q, registry_read, hq, hbuild, build_outcome registry_read hq (.text "a")⟩

end Dashboard
