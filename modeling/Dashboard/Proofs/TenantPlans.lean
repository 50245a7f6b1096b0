import Dashboard.Proofs.BuildOutcome

/-!
# Plans of tenant queries

Buckets are planned from the query of a tenant, which has more filters than the query that was asked
for. This makes no difference to the plan.

* `Draft.plan_of_scope`: the filters of a tenant are passed over by the planner, so that a plan, no
  plan or a refusal comes out as for the query alone. No column of a tenant need be unlike the one
  that is grouped by.
* `Draft.two_le_length_of_bounds?`: a range needs two datetime filters.
* `Query.FirstBound` is the place of the first filter that bounds a range in one direction,
  `Query.PlannedBy` says what of a query stands in its plan.
* `plan_of_tenant`: the plan for a tenant is that of the query, between two filters of its own.
-/

namespace Dashboard

/-! ### The planner reads the query alone -/

namespace Draft

/-- A plan is made of the datetime groupings and of the first bounds, whatever else a draft has. -/
theorem plan_congr {d e : Draft} (hgroups : d.datetimeGroups = e.datetimeGroups)
    (hbounds : d.bounds? = e.bounds?) (t : Table) : d.plan t = e.plan t := by
  unfold plan
  rw [hgroups, hbounds]

/-- Scoping adds no datetime filter. -/
theorem datetimeFilters_of_scope {d own : Draft} {t : Table} {tenant : Value}
    (h : d.scope t tenant = .ok own) : own.datetimeFilters = d.datetimeFilters := by
  obtain ⟨mandatory, hmandatory, hown⟩ := bind_eq_ok.1 h
  obtain ⟨p, -, -, rfl⟩ := Table.tenantFilters_eq_ok.1 hmandatory
  obtain rfl := pure_eq_ok.1 hown
  have hnone : ((t.tenantColumns.map fun c => Dashboard.Filter.string c .eq p).map
      Filter.toDraft).filter Filter.isDatetime = [] := by
    rw [List.filter_eq_nil_iff]
    intro f hf
    simp only [List.mem_map] at hf
    obtain ⟨-, ⟨c, -, rfl⟩, rfl⟩ := hf
    exact Bool.false_ne_true
  rw [datetimeFilters, List.filter_append, hnone, List.append_nil, datetimeFilters]

theorem plan_of_scope {d own : Draft} {t : Table} {tenant : Value}
    (h : d.scope t tenant = .ok own) : own.plan t = d.plan t := by
  have hgroups : own.groups = d.groups := by
    obtain ⟨mandatory, -, hown⟩ := bind_eq_ok.1 h
    obtain rfl := pure_eq_ok.1 hown
    rfl
  refine plan_congr ?_ ?_ t
  · rw [datetimeGroups, hgroups, datetimeGroups]
  · rw [bounds?, datetimeFilters_of_scope h, bounds?]

/-- No operator bounds a range both from below and from above, so that a single datetime filter is
no range: a test on the number of datetime filters in front of the search would change nothing. -/
theorem two_le_length_of_bounds? {d : Draft} {l u : Filter} (h : d.bounds? = some (l, u)) :
    2 ≤ d.datetimeFilters.length := by
  obtain ⟨l', hl, h⟩ := Option.bind_eq_some_iff.1 h
  obtain ⟨u', hu, h⟩ := Option.bind_eq_some_iff.1 h
  obtain ⟨rfl, rfl⟩ := Prod.mk.inj (Option.some.inj h)
  have hlower : l'.operator = ">" ∨ l'.operator = ">=" := by
    simpa [lowerOperators] using List.find?_some hl
  have hupper : u'.operator = "<" ∨ u'.operator = "<=" := by
    simpa [upperOperators] using List.find?_some hu
  have hlmem := List.mem_of_find?_eq_some hl
  have humem := List.mem_of_find?_eq_some hu
  match hfilters : d.datetimeFilters with
  | [] => simp [hfilters] at hlmem
  | [f] =>
    obtain rfl : l' = f := by simpa [hfilters] using hlmem
    obtain rfl : u' = l' := by simpa [hfilters] using humem
    rcases hlower with hlower | hlower <;> simp [hlower] at hupper
  | _ :: _ :: _ => simp

end Draft

/-! ### What stands in a plan -/

namespace Filter

/-- Only datetime filters bound a range from below. -/
theorem exists_datetime_of_isLower {f : Filter} (h : f.isLower = true) :
    ∃ operator value, f = .datetime f.column operator value := by
  cases f with
  | datetime c op v => exact ⟨op, v, rfl⟩
  | _ => cases h

/-- Only datetime filters bound a range from above. -/
theorem exists_datetime_of_isUpper {f : Filter} (h : f.isUpper = true) :
    ∃ operator value, f = .datetime f.column operator value := by
  cases f with
  | datetime c op v => exact ⟨op, v, rfl⟩
  | _ => cases h

theorem isUpper_of_isLower {f : Filter} (h : f.isLower = true) : f.isUpper = false := by
  cases f with
  | datetime c op v => cases op <;> first | rfl | cases h
  | _ => rfl

end Filter

namespace Query

/-- The `i`th filter of a query is `f`, and it is the first that bounds a range in the direction
that `bound` tells. -/
def FirstBound (q : Query) (bound : Filter → Bool) (i : ℕ) (f : Filter) : Prop :=
  q.filters[i]? = some f ∧ bound f = true ∧
    ∀ j < i, ∀ g, q.filters[j]? = some g → bound g = false

/-- A plan stands for the one datetime grouping of a query, between the first datetime filters that
bound its column from below and from above. -/
structure PlannedBy (q : Query) (t : Table) (plan : BucketPlan) : Prop where
  group : q.timeGroups = [(plan.column.name, plan.unit)]
  column : t.column? plan.column.name = some plan.column
  bounds : ∃ i k lowerOperator lowerValue upperOperator upperValue, i ≠ k ∧
    q.FirstBound Filter.isLower i (.datetime plan.column.name lowerOperator lowerValue) ∧
    q.FirstBound Filter.isUpper k (.datetime plan.column.name upperOperator upperValue) ∧
    plan.lower = (Filter.datetime plan.column.name lowerOperator lowerValue).toDraft ∧
    plan.upper = (Filter.datetime plan.column.name upperOperator upperValue).toDraft

variable {q : Query} {t : Table}

/-- The first filter with a property stands at the first place with one. -/
theorem firstBound_of_find? {bound : Filter → Bool} {f : Filter}
    (h : q.filters.find? bound = some f) : ∃ i, q.FirstBound bound i f := by
  obtain ⟨hbound, i, hi, hf, hbefore⟩ := List.find?_eq_some_iff_getElem.1 h
  refine ⟨i, by rw [List.getElem?_eq_getElem hi, hf], hbound, fun j hj g hg => ?_⟩
  obtain ⟨hlength, rfl⟩ := List.getElem?_eq_some_iff.1 hg
  simpa using hbefore j hj

/-- A bound in one direction is none in the other, so that two first bounds stand apart. -/
theorem FirstBound.ne {i k : ℕ} {l u : Filter} (hl : q.FirstBound Filter.isLower i l)
    (hu : q.FirstBound Filter.isUpper k u) : i ≠ k := by
  rintro rfl
  cases hl.1.symm.trans hu.1
  exact Bool.false_ne_true ((Filter.isUpper_of_isLower hl.2.1).symm.trans hu.2.1)

theorem plannedBy_of_plan {plan : BucketPlan} (h : q.toDraft.plan t = .ok (some plan)) :
    q.PlannedBy t plan := by
  obtain ⟨name, word, hgroups, hbounds, hlower, hupper, hcolumn, hunit⟩ := Draft.plan_eq_some.1 h
  have hname : plan.column.name = name := by simpa using List.find?_some hcolumn
  subst hname
  rw [bounds?_toDraft] at hbounds
  obtain ⟨l, hl, hbounds⟩ := Option.bind_eq_some_iff.1 hbounds
  obtain ⟨u, hu, hbounds⟩ := Option.bind_eq_some_iff.1 hbounds
  obtain ⟨hpl, hpu⟩ := Prod.mk.inj (Option.some.inj hbounds)
  obtain ⟨lop, lv, hldate⟩ := Filter.exists_datetime_of_isLower (List.find?_some hl)
  obtain ⟨uop, uv, hudate⟩ := Filter.exists_datetime_of_isUpper (List.find?_some hu)
  -- a filter keeps its column in a draft
  have hlcolumn : l.column = plan.column.name := by rw [← hlower, ← hpl]; rfl
  have hucolumn : u.column = plan.column.name := by rw [← hupper, ← hpu]; rfl
  rw [hlcolumn] at hldate
  rw [hucolumn] at hudate
  subst hldate hudate
  obtain ⟨i, hi⟩ := firstBound_of_find? hl
  obtain ⟨k, hk⟩ := firstBound_of_find? hu
  refine ⟨?_, hcolumn, i, k, lop, lv, uop, uv, hi.ne hk, hi, hk, hpl.symm, hpu.symm⟩
  rw [datetimeGroups_toDraft] at hgroups
  obtain ⟨⟨name, unit⟩, hg, hword⟩ := List.map_eq_singleton_iff.1 hgroups
  obtain ⟨rfl, rfl⟩ := Prod.mk.inj hword
  rw [temporalUnit_word] at hunit
  cases hunit
  exact hg

end Query

/-- Whatever query is asked for, whatever its table and tenant: it is planned for the tenant as it
is planned by itself, to the same plan, to none or to the same refusal. The bounds of a plan are two
different filters of the query, on the column that it groups by. -/
theorem plan_of_tenant (q : Query) (t : Table) {p : String} (hp : p ≠ "") :
    ∃ own, q.toDraft.scope t (.text p) = .ok own ∧ own.plan t = q.toDraft.plan t ∧
      ∀ plan, own.plan t = .ok (some plan) → q.PlannedBy t plan := by
  have hscope := q.scope_toDraft t hp
  have hplan := Draft.plan_of_scope hscope
  refine ⟨_, hscope, hplan, fun plan h => ?_⟩
  rw [hplan] at h
  exact Query.plannedBy_of_plan h

namespace Events

/-- A query by days of the column that holds the tenant, which is bounded as a datetime as well. -/
def ownerDays : Query where
  table := "events"
  select := [⟨"owner", some .count⟩]
  filters := [.string "owner" .eq "b", .datetime "owner" .ge (dayStart 1),
    .datetime "owner" .lt (dayStart 2)]
  groups := [.datetime "owner" .day]
  orders := []
  limit := none

end Events

open Events in
/-- The comparison of the grouped column with the tenant is no bound of its range. -/
theorem plan_of_tenant_ownerDays : "a" ≠ "" ∧ ∃ t own plan,
    registry.table? ownerDays.table = some t ∧
    ownerDays.groups.map GroupBy.column = t.tenantColumns ∧
    ownerDays.toDraft.scope t (.text "a") = .ok own ∧
    own.plan t = ownerDays.toDraft.plan t ∧ own.plan t = .ok (some plan) ∧
    ownerDays.PlannedBy t plan := by
  have htenant : "a" ≠ "" := by decide
  have ht : ∃ t plan, registry.table? ownerDays.table = some t ∧
      ownerDays.groups.map GroupBy.column = t.tenantColumns ∧
      ownerDays.toDraft.plan t = .ok (some plan) := ⟨_, _, rfl, rfl, rfl⟩
  obtain ⟨t, plan, ht, hcolumns, hplan⟩ := ht
  obtain ⟨own, hscope, hsame, hplanned⟩ := plan_of_tenant ownerDays t htenant
  have hown := hsame.trans hplan
  exact ⟨htenant, t, own, plan, ht, hcolumns, hscope, hsame, hown, hplanned plan hown⟩

end Dashboard
