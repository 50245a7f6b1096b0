import Dashboard.Proofs.BuildOutcome

/-!
# Where a query names a column that there is not

* A `Place` is an entry of one of the four lists of a query that name columns, `Place.field` the
  path to its column. `Query.places` are all columns that a query names, each with its place, in the
  order in which they are looked up.
* `RefusesFirst` says that a run over some places refuses the first unknown column among them and
  fails for no other reason. `RefusesFirst.bind` and `RefusesFirst.mapM` compose such runs, and
  `Query.refusesFirst_clauses` composes the compiler from them.
* `Query.PlansOver`: a query calls for a bucket plan over a column. Then the planner looks this
  column up, before the compiler does.
* `unknown_column_at_place`: an unknown column is reported at the first place of the query that
  names one, never at a filter of the tenant. Only the planner reports it at the list of groupings
  as a whole.
-/

namespace Dashboard

/-! ### Places -/

/-- The lists of a query that name columns. -/
inductive QueryPart where
  | select
  | filter
  | groupBy
  | orderBy
  deriving DecidableEq

namespace QueryPart

/-- The field of a description that a part is in. -/
def word : QueryPart → String
  | select => "select"
  | filter => "filter"
  | groupBy => "groupBy"
  | orderBy => "orderBy"

/-- The parts in the order in which their columns are looked up. -/
def all : List QueryPart := [select, filter, groupBy, orderBy]

end QueryPart

/-- An entry of a query. -/
structure Place where
  part : QueryPart
  index : ℕ
  deriving DecidableEq

/-- The path to the column of an entry. -/
def Place.field (p : Place) : String := p.part.word ++ "." ++ toString p.index ++ "." ++ "column"

theorem Place.field_ne_word (p : Place) (part : QueryPart) : p.field ≠ part.word := by
  have hdot : '.' ∈ p.field.toList := by simp [field]
  intro h
  rw [h] at hdot
  cases part <;> exact absurd hdot (by decide)

namespace Query

/-- The columns that the entries of a part name, in order. -/
def columnsIn (q : Query) : QueryPart → List String
  | .select => q.select.map SelectItem.column
  | .filter => q.filters.map Filter.column
  | .groupBy => q.groups.map GroupBy.column
  | .orderBy => q.orders.map OrderItem.column

/-- The column that the entry at a place names, if there is such an entry. -/
def columnAt (q : Query) (p : Place) : Option String := (q.columnsIn p.part)[p.index]?

/-- Names with the places of the entries of a part, the first of which has the index `k`. -/
def placesFrom (part : QueryPart) (k : ℕ) (names : List String) : List (Place × String) :=
  (names.zipIdx k).map fun n => (⟨part, n.2⟩, n.1)

/-- The columns that a query names, with their places. -/
def places (q : Query) : List (Place × String) :=
  QueryPart.all.flatMap fun part => placesFrom part 0 (q.columnsIn part)

theorem placesFrom_append (part : QueryPart) (k : ℕ) (xs ys : List String) :
    placesFrom part k (xs ++ ys) = placesFrom part k xs ++ placesFrom part (k + xs.length) ys := by
  simp [placesFrom, List.zipIdx_append]

theorem mem_placesFrom {part : QueryPart} {names : List String} {p : Place} {name : String} :
    (p, name) ∈ placesFrom part 0 names ↔ p.part = part ∧ names[p.index]? = some name := by
  obtain ⟨part', i⟩ := p
  simp only [placesFrom, List.mem_map, Prod.mk.injEq, Place.mk.injEq, Prod.exists]
  constructor
  · rintro ⟨_, _, hmem, ⟨rfl, rfl⟩, rfl⟩
    exact ⟨rfl, List.mem_zipIdx_iff_getElem?.1 hmem⟩
  · rintro ⟨rfl, hname⟩
    exact ⟨name, i, List.mem_zipIdx_iff_getElem?.2 hname, ⟨rfl, rfl⟩, rfl⟩

/-- A query names a column at a place exactly if the entry there does. -/
theorem mem_places {q : Query} {p : Place} {name : String} :
    (p, name) ∈ q.places ↔ q.columnAt p = some name := by
  simp only [places, List.mem_flatMap, mem_placesFrom]
  constructor
  · rintro ⟨_, -, rfl, hname⟩
    exact hname
  · intro hname
    exact ⟨p.part, by cases p.part <;> decide, rfl, hname⟩

end Query

/-! ### Runs that refuse the first unknown column -/

/-- The first of some places whose column a table lacks. -/
def Table.unknown? (t : Table) (places : List (Place × String)) : Option (Place × String) :=
  places.find? fun n => decide (n.2 ∉ t.columnNames)

theorem Table.unknown?_append (t : Table) (ps qs : List (Place × String)) :
    t.unknown? (ps ++ qs) = (t.unknown? ps).or (t.unknown? qs) := List.find?_append

/-- A run over some places succeeds only if a table has their columns, and fails only for the first
one that it lacks. -/
structure RefusesFirst {α : Type} (t : Table) (places : List (Place × String))
    (run : Except BuildError α) : Prop where
  ok : ∀ a, run = .ok a → t.unknown? places = none
  error : ∀ e, run = .error e → ∃ p name, t.unknown? places = some (p, name) ∧
    e = .refused (.unknownColumn t.name name (some p.field))

namespace RefusesFirst

variable {α β : Type} {t : Table} {ps qs : List (Place × String)}

theorem pure (a : α) : RefusesFirst t [] (Pure.pure a) := ⟨fun _ _ => rfl, nofun⟩

theorem single {run : Except BuildError α} {p : Place} {name : String}
    (hok : (∃ a, run = .ok a) → name ∈ t.columnNames)
    (herror : ∀ e, run = .error e → name ∉ t.columnNames ∧
      e = .refused (.unknownColumn t.name name (some p.field))) :
    RefusesFirst t [(p, name)] run := by
  refine ⟨fun a ha => ?_, fun e he => ?_⟩
  · simp [Table.unknown?, hok ⟨a, ha⟩]
  · obtain ⟨hname, rfl⟩ := herror e he
    exact ⟨p, name, by simp [Table.unknown?, hname], rfl⟩

theorem bind {x : Except BuildError α} {f : α → Except BuildError β} (hx : RefusesFirst t ps x)
    (hf : ∀ a, RefusesFirst t qs (f a)) : RefusesFirst t (ps ++ qs) (x >>= f) := by
  refine ⟨fun b hb => ?_, fun e he => ?_⟩
  · obtain ⟨a, ha, hb⟩ := bind_eq_ok.1 hb
    rw [Table.unknown?_append, hx.ok a ha, (hf a).ok b hb]
    rfl
  · rw [Table.unknown?_append]
    rcases bind_eq_error.1 he with he | ⟨a, ha, he⟩
    · obtain ⟨p, name, hfirst, rfl⟩ := hx.error e he
      exact ⟨p, name, by rw [hfirst]; rfl, rfl⟩
    · obtain ⟨p, name, hfirst, rfl⟩ := (hf a).error e he
      exact ⟨p, name, by rw [hx.ok a ha, hfirst]; rfl, rfl⟩

theorem mapM {xs : List β} {places : β → List (Place × String)} {f : β → Except BuildError α}
    (h : ∀ x ∈ xs, RefusesFirst t (places x) (f x)) :
    RefusesFirst t (xs.flatMap places) (xs.mapM f) := by
  induction xs with
  | nil => exact pure []
  | cons x xs ih =>
    obtain ⟨hx, hxs⟩ := List.forall_mem_cons.1 h
    rw [List.mapM_cons, List.flatMap_cons]
    refine hx.bind fun y => ?_
    rw [← List.append_nil (xs.flatMap places)]
    exact (ih hxs).bind fun ys => pure (y :: ys)

/-- A traversal with positions, one step for each entry of a part. -/
theorem entries {part : QueryPart} {xs : List β} {column : β → String}
    {f : β × ℕ → Except BuildError α}
    (h : ∀ x ∈ xs, ∀ i, RefusesFirst t [(⟨part, i⟩, column x)] (f (x, i))) :
    RefusesFirst t (Query.placesFrom part 0 (xs.map column)) (xs.zipIdx.mapM f) := by
  have hplaces : Query.placesFrom part 0 (xs.map column) =
      xs.zipIdx.flatMap fun n => [(⟨part, n.2⟩, column n.1)] := by
    rw [Query.placesFrom, List.zipIdx_map, List.map_map, List.map_eq_flatMap]
    rfl
  rw [hplaces]
  refine mapM fun n hn => h n.1 ?_ n.2
  exact List.mem_of_getElem? (List.mem_zipIdx_iff_getElem?.1 hn)

end RefusesFirst

namespace Query

section

variable {q : Query} {t : Table}

theorem refusesFirst_items :
    RefusesFirst t (placesFrom .select 0 (q.columnsIn .select)) (q.toDraft.itemFragments t) := by
  have hcolumns : q.columnsIn .select = q.toDraft.select.map Draft.Select.column := by
    simp [columnsIn, toDraft]
  rw [hcolumns]
  refine RefusesFirst.entries fun s hs i => ?_
  obtain ⟨item, -, rfl⟩ := List.mem_map.1 hs
  exact RefusesFirst.single (fun h => (Draft.exists_selectFragment.1 h).1)
    fun e he => Draft.unknown_of_selectFragment (Draft.knownAggregation_word item.agg) he

theorem refusesFirst_conditions :
    RefusesFirst t (placesFrom .filter 0 (q.columnsIn .filter))
      (q.toDraft.conditionFragments t) := by
  have hcolumns : q.columnsIn .filter = q.toDraft.filters.map Draft.Filter.column := by
    simp [columnsIn, toDraft, Filter.toDraft]
  rw [hcolumns]
  refine RefusesFirst.entries fun f hf i => ?_
  obtain ⟨item, -, rfl⟩ := List.mem_map.1 hf
  exact RefusesFirst.single (fun h => (Draft.exists_filterFragment.1 h).column)
    fun e he => Draft.unknown_of_filterFragment he

theorem refusesFirst_groups (planned : Bool) :
    RefusesFirst t (placesFrom .groupBy 0 (q.columnsIn .groupBy))
      (q.toDraft.groupFragments t planned) := by
  have hcolumns : q.columnsIn .groupBy = q.toDraft.groups.map Draft.Group.column := by
    simp [columnsIn, toDraft, column_toDraft]
  rw [hcolumns, ← List.append_nil (placesFrom _ _ _)]
  refine RefusesFirst.bind (RefusesFirst.entries fun g _ i => ?_) fun terms => .pure _
  exact RefusesFirst.single Draft.exists_groupFragment.1
    fun e he => Draft.unknown_of_groupFragment he

theorem refusesFirst_orders :
    RefusesFirst t (placesFrom .orderBy 0 (q.columnsIn .orderBy)) (q.toDraft.orderFragments t) := by
  have hcolumns : q.columnsIn .orderBy = q.toDraft.orders.map Draft.Order.column := by
    simp [columnsIn, toDraft]
  rw [hcolumns]
  refine RefusesFirst.entries fun o ho i => ?_
  obtain ⟨item, -, rfl⟩ := List.mem_map.1 ho
  exact RefusesFirst.single (fun h => (Draft.exists_orderFragment.1 h).1)
    fun e he => Draft.unknown_of_orderFragment (Draft.knownAggregation_word item.agg)
      (Keyword.word_mem_words item.direction) he

/-- The compiler looks the columns of a query up in the order of their places. -/
theorem refusesFirst_clauses {r : Registry} (ht : r.table? q.table = some t)
    (plan : Option BucketPlan) : RefusesFirst t q.places (q.toDraft.clauses r plan) := by
  have ht' : lookedUp (r.resolveTable q.toDraft.table) = .ok t :=
    lookedUp_eq_ok.2 (Registry.resolveTable_eq_ok.2 ht)
  rw [Draft.clauses, ht']
  exact refusesFirst_items.bind fun _ => refusesFirst_conditions.bind fun _ =>
    (refusesFirst_groups _).bind fun _ => refusesFirst_orders.bind fun _ => .pure _

theorem refusesFirst_compile {r : Registry} (ht : r.table? q.table = some t)
    (plan : Option BucketPlan) : RefusesFirst t q.places (q.toDraft.compile r plan) := by
  rw [← List.append_nil q.places]
  exact (refusesFirst_clauses ht plan).bind fun c => .pure _

end

/-! ### The planner -/

/-- A query groups by one datetime column, and its first lower and its first upper bound are on this
column. -/
structure PlansOver (q : Query) (name : String) : Prop where
  group : ∃ unit, q.timeGroups = [(name, unit)]
  lower : ∃ l, q.filters.find? Filter.isLower = some l ∧ l.column = name
  upper : ∃ u, q.filters.find? Filter.isUpper = some u ∧ u.column = name

variable {q : Query} {t : Table}

/-- The column of a datetime grouping stands in the list of groupings. -/
theorem PlansOver.exists_columnAt {name : String} (h : q.PlansOver name) :
    ∃ i, q.columnAt ⟨.groupBy, i⟩ = some name := by
  obtain ⟨unit, hgroup⟩ := h.group
  obtain ⟨g, hg, hname⟩ := List.mem_filterMap.1 (hgroup ▸ List.mem_singleton_self (name, unit))
  obtain ⟨i, hi⟩ := List.mem_iff_getElem?.1 hg
  refine ⟨i, ?_⟩
  cases g with
  | categorical word column => cases hname
  | datetime column unit =>
    cases hname
    simp [columnAt, columnsIn, hi, GroupBy.column]

/-- If a query calls for a plan over a column that there is not, the planner says so. -/
theorem plan_of_plansOver {name : String} (h : q.PlansOver name) (hname : name ∉ t.columnNames) :
    q.toDraft.plan t = .error (.unknownColumn t.name name (some "groupBy")) := by
  obtain ⟨⟨unit, hgroup⟩, ⟨l, hl, hlname⟩, u, hu, huname⟩ := h
  rw [plan_toDraft_of_bounded hgroup hl hu, if_neg (by simp [hlname, huname]),
    Table.resolveColumn_of_none (Table.column?_eq_none.2 hname)]
  rfl

/-- The planner finds no other column unknown. -/
theorem plansOver_of_plan_error {table name : String} {field : Option String}
    (h : q.toDraft.plan t = .error (.unknownColumn table name field)) :
    q.PlansOver name ∧ name ∉ t.columnNames ∧ table = t.name ∧ field = some "groupBy" := by
  match hgroups : q.timeGroups with
  | [] =>
    rw [Draft.plan, datetimeGroups_toDraft, hgroups] at h
    cases h
  | _ :: _ :: _ =>
    rw [Draft.plan, datetimeGroups_toDraft, hgroups] at h
    cases h
  | [(group, unit)] =>
    cases hl : q.filters.find? Filter.isLower with
    | none =>
      rw [plan_toDraft_of_unbounded hgroups (.inl hl)] at h
      cases h
    | some l =>
      cases hu : q.filters.find? Filter.isUpper with
      | none =>
        rw [plan_toDraft_of_unbounded hgroups (.inr hu)] at h
        cases h
      | some u =>
        rw [plan_toDraft_of_bounded hgroups hl hu] at h
        split at h
        · cases h
        · rename_i hsame
          obtain ⟨hlname, huname⟩ := not_or.1 hsame
          rcases bind_eq_error.1 h with h | ⟨c, -, h⟩
          · obtain ⟨hnone, herror⟩ := Table.resolveColumn_eq_error.1 h
            cases herror
            exact ⟨⟨⟨unit, hgroups⟩, ⟨l, hl, not_not.1 hlname⟩, u, hu, not_not.1 huname⟩,
              Table.column?_eq_none.1 hnone, rfl, rfl⟩
          · cases h

/-! ### The query of a tenant -/

theorem plansOver_scoped {p name : String} : (q.scoped t p).PlansOver name ↔ q.PlansOver name := by
  have hlower : (q.scoped t p).filters.find? Filter.isLower = q.filters.find? Filter.isLower :=
    find?_scoped fun _ => rfl
  have hupper : (q.scoped t p).filters.find? Filter.isUpper = q.filters.find? Filter.isUpper :=
    find?_scoped fun _ => rfl
  constructor
  · rintro ⟨hgroup, hl, hu⟩
    exact ⟨hgroup, hlower ▸ hl, hupper ▸ hu⟩
  · rintro ⟨hgroup, hl, hu⟩
    exact ⟨hgroup, hlower.symm ▸ hl, hupper.symm ▸ hu⟩

/-- A table lacks none of its tenant columns, so the filters of a tenant are never the first place
with an unknown column. -/
theorem unknown?_places_scoped (ht : t.Checked) (p : String) :
    t.unknown? (q.scoped t p).places = t.unknown? q.places := by
  have htenant (k : ℕ) : t.unknown? (placesFrom .filter k t.tenantColumns) = none := by
    refine List.find?_eq_none.2 fun n hn => ?_
    obtain ⟨m, hm, rfl⟩ := List.mem_map.1 hn
    have hname : m.1 ∈ t.tenantColumns := by
      have hmem := List.mem_map_of_mem (f := Prod.fst) hm
      rwa [List.zipIdx_map_fst] at hmem
    simp [ht.tenantColumns_subset _ hname]
  have hfilters : (q.scoped t p).columnsIn .filter = q.columnsIn .filter ++ t.tenantColumns := by
    simp [columnsIn, Query.scoped, Function.comp_def, Filter.column]
  simp only [places, QueryPart.all, List.flatMap_cons, Table.unknown?_append, hfilters,
    placesFrom_append, htenant, Option.or_none]
  rfl

end Query

/-- Let a statement be refused for an unknown column of a query that was read. If the query calls
for a plan over this column, it is the planner that refuses it, at the list of groupings as a whole,
one of which names the column. Otherwise the column is the first unknown one that the query names,
and the reason leads to the place where it does. -/
theorem unknown_column_at_place {doc : Document} {r : Registry}
    (hr : Registry.ofDocument doc = .ok r) {j : Json} {q : Query} (hq : Query.parse r j = .ok q)
    {tenant : Value} {table name : String} {field : Option String}
    (h : q.toDraft.build tenant r = .error (.refused (.unknownColumn table name field))) :
    ∃ t, r.table? q.table = some t ∧ table = t.name ∧ name ∉ t.columnNames ∧
      ((¬q.PlansOver name ∧ ∃ p : Place, field = some p.field ∧ q.columnAt p = some name ∧
          t.unknown? q.places = some (p, name)) ∨
        (q.PlansOver name ∧ field = some "groupBy" ∧ (∀ p : Place, field ≠ some p.field) ∧
          ∃ i, q.columnAt ⟨.groupBy, i⟩ = some name)) := by
  obtain ⟨-, t, ht⟩ := Query.parse_eq_ok.1 hq
  have hchecked := (Registry.checked_of_ofDocument hr).tables t (Registry.mem_of_table? ht)
  refine ⟨t, ht, ?_⟩
  by_cases htenant : tenant.IsTenant
  · obtain ⟨p, hp, rfl⟩ := htenant
    rw [Query.build_of_tenant ht hp] at h
    rcases bind_eq_error.1 h with h | ⟨plan, hplan, h⟩
    · obtain ⟨reason, hplan, hreason⟩ := lookedUp_eq_error.1 h
      cases hreason
      obtain ⟨hover, hname, rfl, rfl⟩ := Query.plansOver_of_plan_error hplan
      have hover := Query.plansOver_scoped.1 hover
      exact ⟨rfl, hname, .inr ⟨hover, rfl,
        fun p hp => p.field_ne_word .groupBy (Option.some.inj hp).symm, hover.exists_columnAt⟩⟩
    · obtain ⟨place, _, hfirst, he⟩ :=
        (Query.refusesFirst_compile (q := q.scoped t p) ht plan).error _ h
      cases he
      rw [Query.unknown?_places_scoped hchecked] at hfirst
      have hname : name ∉ t.columnNames := by simpa using List.find?_some hfirst
      have hplace : q.columnAt place = some name :=
        Query.mem_places.1 (List.mem_of_find?_eq_some hfirst)
      refine ⟨rfl, hname, .inl ⟨fun hover => ?_, place, rfl, hplace, hfirst⟩⟩
      -- the planner would have refused the column before
      rw [Query.plan_of_plansOver (Query.plansOver_scoped.2 hover) hname] at hplan
      cases hplan
  · rw [Query.build_of_table ht, Query.scope_toDraft_of_not_isTenant q t htenant] at h
    cases h

namespace Events

/-- A description with two bounds on the column `when`, which there is not. -/
def whenJson (groups : List Json) : Json :=
  .object [("from", .text "events"), ("select", .list [.object [("column", .text "owner")]]),
    ("filter", .list [boundJson "when" ">=" 0, boundJson "when" "<" 86400]),
    ("groupBy", .list groups)]

/-- A grouping by the days of `when`. -/
def whenDays : Json :=
  .object [("type", .text "datetime"), ("column", .text "when"), ("temporalUnit", .text "day")]

end Events

open Events in
/-- The same column is reported at the first filter on it, or at the groupings if there is one by
its days. -/
theorem unknown_column_at_place_when : ∃ q q', Registry.ofDocument document = .ok registry ∧
    Query.parse registry (whenJson []) = .ok q ∧
    q.toDraft.build (.text "a") registry =
      .error (.refused (.unknownColumn "events" "when" (some "filter.0.column"))) ∧
    Query.parse registry (whenJson [whenDays]) = .ok q' ∧
    q'.toDraft.build (.text "a") registry =
      .error (.refused (.unknownColumn "events" "when" (some "groupBy"))) ∧
    ¬q.PlansOver "when" ∧ q'.PlansOver "when" := by
  have hq : ∃ q, Query.parse registry (whenJson []) = .ok q ∧
      q.toDraft.build (.text "a") registry =
        .error (.refused (.unknownColumn "events" "when" (some "filter.0.column"))) :=
    ⟨_, rfl, rfl⟩
  have hq' : ∃ q, Query.parse registry (whenJson [whenDays]) = .ok q ∧
      q.toDraft.build (.text "a") registry =
        .error (.refused (.unknownColumn "events" "when" (some "groupBy"))) := ⟨_, rfl, rfl⟩
  obtain ⟨q, hq, hbuild⟩ := hq
  obtain ⟨q', hq', hbuild'⟩ := hq'
  obtain ⟨t, -, -, -, ⟨hplans, -⟩ | ⟨-, hfield, -⟩⟩ :=
    unknown_column_at_place registry_read hq hbuild
  · obtain ⟨t', -, -, -, ⟨-, p, hfield', -⟩ | ⟨hplans', -⟩⟩ :=
      unknown_column_at_place registry_read hq' hbuild'
    · exact absurd (Option.some.inj hfield').symm (p.field_ne_word .groupBy)
    · exact ⟨q, q', registry_read, hq, hbuild, hq', hbuild', hplans, hplans'⟩
  · exact absurd (Option.some.inj hfield) (by decide)

end Dashboard
