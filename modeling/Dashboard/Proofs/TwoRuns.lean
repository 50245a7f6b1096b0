import Dashboard.Proofs.Layout
import Dashboard.Registry.Bundled
import Dashboard.Sql.Gate

/-!
# Two runs on queries of one shape

Values enter a statement through placeholders alone, so two queries that differ in values only are
compiled alike.

* `SameSlots v w xs ys`: two lists of values are filled from the same slots, whose values in the two
  runs are `v` and `w`.
* `Fragment.Twin`, `Draft.Filter.Twin`, `BucketPlan.Twin`, `Draft.Twin` and `Clauses.Twin`: two
  things are equal up to such values. Each step of the compiler takes twins to twins, or to the
  same error: `Draft.conditionFragments_twin`, `Draft.plan_twin`, `Draft.clauses_twin`.
* `build_same_text`: for queries of one shape and any two tenants the statements have one text, and
  the same values in the same slots.
-/

namespace Dashboard

variable {σ : Type} {v w : σ → Option Value}

/-! ### Values in slots -/

/-- Two values that one slot holds in the two runs. -/
def SameSlot (v w : σ → Option Value) (x y : Value) : Prop := ∃ s, v s = some x ∧ w s = some y

/-- Two lists of values that the same slots hold in the two runs. -/
def SameSlots (v w : σ → Option Value) (xs ys : List Value) : Prop :=
  ∃ slots : List σ, xs.map some = slots.map v ∧ ys.map some = slots.map w

theorem SameSlots.nil : SameSlots v w [] [] := ⟨[], rfl, rfl⟩

theorem SameSlot.singleton {x y : Value} (h : SameSlot v w x y) : SameSlots v w [x] [y] := by
  obtain ⟨s, hv, hw⟩ := h
  exact ⟨[s], by simp [hv], by simp [hw]⟩

theorem SameSlots.append {xs ys xs' ys' : List Value} (h : SameSlots v w xs ys)
    (h' : SameSlots v w xs' ys') : SameSlots v w (xs ++ xs') (ys ++ ys') := by
  obtain ⟨slots, hv, hw⟩ := h
  obtain ⟨slots', hv', hw'⟩ := h'
  exact ⟨slots ++ slots', by simp [hv, hv'], by simp [hw, hw']⟩

theorem SameSlots.length_eq {xs ys : List Value} (h : SameSlots v w xs ys) :
    xs.length = ys.length := by
  obtain ⟨slots, hv, hw⟩ := h
  have hx := congrArg List.length hv
  have hy := congrArg List.length hw
  simp only [List.length_map] at hx hy
  rw [hx, hy]

/-! ### Fragments -/

/-- Two fragments with the same text around values in the same slots. -/
structure Fragment.Twin (v w : σ → Option Value) (f g : Fragment) : Prop where
  strings : f.strings = g.strings
  values : SameSlots v w f.values g.values

namespace Fragment

theorem Twin.raw (s : String) : Twin v w (raw s) (raw s) := ⟨rfl, .nil⟩

theorem Twin.bind {x y : Value} (h : SameSlot v w x y) : Twin v w (bind x) (bind y) :=
  ⟨rfl, h.singleton⟩

theorem Twin.append {f g f' g' : Fragment} (h : Twin v w f g) (h' : Twin v w f' g') :
    Twin v w (f ++ f') (g ++ g') := by
  refine ⟨?_, h.values.append h'.values⟩
  rw [strings_append, strings_append, h.strings, h'.strings]

theorem Twin.concat {fs gs : List Fragment} (h : List.Forall₂ (Twin v w) fs gs) :
    Twin v w (concat fs) (concat gs) := by
  induction h with
  | nil => exact ⟨rfl, .nil⟩
  | cons hfg _ ih => exact hfg.append ih

theorem Twin.refl {f : Fragment} (h : f.values = []) : Twin v w f f :=
  ⟨rfl, by rw [h]; exact .nil⟩

theorem Twin.textFrom {f g : Fragment} (h : Twin v w f g) (n : ℕ) :
    f.textFrom n = g.textFrom n := by
  rw [Fragment.textFrom, Fragment.textFrom, h.strings]

theorem Twin.textsFrom {fs gs : List Fragment} (h : List.Forall₂ (Twin v w) fs gs) (n : ℕ) :
    textsFrom n fs = textsFrom n gs := by
  induction h generalizing n with
  | nil => rfl
  | cons hfg _ ih =>
    rw [Fragment.textsFrom, Fragment.textsFrom, hfg.textFrom, hfg.values.length_eq, ih]

theorem Twin.flatMap_values {fs gs : List Fragment} (h : List.Forall₂ (Twin v w) fs gs) :
    SameSlots v w (fs.flatMap Fragment.values) (gs.flatMap Fragment.values) := by
  induction h with
  | nil => exact .nil
  | cons hfg _ ih => exact hfg.values.append ih

end Fragment

/-! ### Filters and plans -/

/-- Two filters that differ at most in a value, which is a list if it has to be one. -/
structure Draft.Filter.Twin (v w : σ → Option Value) (f g : Draft.Filter) : Prop where
  kind : f.kind = g.kind
  form : f.form = g.form
  column : f.column = g.column
  operator : f.operator = g.operator
  value : SameSlot v w f.value g.value
  lists : f.form = .options → (∃ xs, f.value = .list xs) ∧ ∃ ys, g.value = .list ys

/-- Two plans that differ at most in the values of their bounds. -/
structure BucketPlan.Twin (v w : σ → Option Value) (p p' : BucketPlan) : Prop where
  column : p.column = p'.column
  unit : p.unit = p'.unit
  lower : Draft.Filter.Twin v w p.lower p'.lower
  upper : Draft.Filter.Twin v w p.upper p'.upper

theorem BucketPlan.Twin.series {p p' : BucketPlan} (h : p.Twin v w p') :
    Fragment.Twin v w p.series p'.series := by
  unfold BucketPlan.series
  rw [h.unit]
  exact .concat (.cons (.raw _) (.cons (.bind h.lower.value) (.cons (.raw _)
    (.cons (.bind h.upper.value) (.cons (.raw _) .nil)))))

namespace Draft

theorem condition_twin (c : Column) (operator : String) (form : FilterKind) {x y : Value}
    (h : SameSlot v w x y) :
    Fragment.Twin v w (condition c operator form x) (condition c operator form y) := by
  have hcast : Fragment.Twin v w (castFragment c.cast form) (castFragment c.cast form) :=
    .refl (values_castFragment _ _)
  unfold condition
  split
  · exact .concat (.cons (.raw _) (.cons (.raw _) (.cons (.bind h) (.cons hcast
      (.cons (.raw _) .nil)))))
  · exact .concat (.cons (.raw _) (.cons (.raw _) (.cons (.bind h) (.cons hcast .nil))))

theorem Filter.Twin.bound? {f g : Filter} (h : Filter.Twin v w f g) :
    ∃ x y, f.bound? = some x ∧ g.bound? = some y ∧ SameSlot v w x y := by
  refine ⟨f.value, g.value, ?_, ?_, h.value⟩
  · unfold Filter.bound?
    split
    · rename_i hform
      obtain ⟨xs, hxs⟩ := (h.lists hform).1
      rw [hxs]
      rfl
    · rfl
  · unfold Filter.bound?
    split
    · rename_i hform
      obtain ⟨ys, hys⟩ := (h.lists (h.form.trans hform)).2
      rw [hys]
      rfl
    · rfl

theorem filterFragment_twin (t : Table) {f g : Filter} (h : Filter.Twin v w f g) (i : ℕ) :
    Alike (Fragment.Twin v w) (filterFragment t f i) (filterFragment t g i) := by
  obtain ⟨x, y, hx, hy, hxy⟩ := h.bound?
  rw [filterFragment_eq, filterFragment_eq, h.column, h.kind, h.operator, h.form, hx, hy]
  refine (Alike.refl (fun _ => rfl) _).bind fun c _ hc => ?_
  refine (Alike.refl (fun _ => rfl) _).bind fun op _ hop => ?_
  subst hc hop
  exact .pure (condition_twin c op g.form hxy)

/-! ### Drafts -/

end Draft

/-- Two drafts that differ at most in the values of their filters and limits. -/
structure Draft.Twin (v w : σ → Option Value) (d d' : Draft) : Prop where
  table : d.table = d'.table
  select : d.select = d'.select
  filters : List.Forall₂ (Draft.Filter.Twin v w) d.filters d'.filters
  groups : d.groups = d'.groups
  orders : d.orders = d'.orders
  limit : SameSlots v w (Clauses.limitValues d.limit) (Clauses.limitValues d'.limit)

/-- Two lists of clauses that differ at most in their values. -/
structure Clauses.Twin (v w : σ → Option Value) (c c' : Clauses) : Prop where
  table : c.table = c'.table
  plan : Option.Rel (BucketPlan.Twin v w) c.plan c'.plan
  items : c.items = c'.items
  conditions : List.Forall₂ (Fragment.Twin v w) c.conditions c'.conditions
  groups : c.groups = c'.groups
  orders : c.orders = c'.orders
  limit : SameSlots v w (Clauses.limitValues c.limit) (Clauses.limitValues c'.limit)

theorem Alike.lookedUp {α β : Type} {R : α → β → Prop} {x : Except QueryError α}
    {y : Except QueryError β} (h : Alike R x y) :
    Alike R (Dashboard.lookedUp x) (Dashboard.lookedUp y) := by
  cases h with
  | error e => exact .error _
  | ok h => exact .ok h

namespace Draft

theorem forall₂_zipIdx {α β : Type} {R : α → β → Prop} {xs : List α} {ys : List β}
    (h : List.Forall₂ R xs ys) (n : ℕ) :
    List.Forall₂ (fun a b => R a.1 b.1 ∧ a.2 = b.2) (xs.zipIdx n) (ys.zipIdx n) := by
  induction h generalizing n with
  | nil => exact .nil
  | cons hxy _ ih => exact .cons ⟨hxy, rfl⟩ (ih (n + 1))

theorem conditionFragments_twin (t : Table) {d d' : Draft} (h : d.Twin v w d') :
    Alike (List.Forall₂ (Fragment.Twin v w)) (d.conditionFragments t)
      (d'.conditionFragments t) := by
  refine Alike.mapM (forall₂_zipIdx h.filters 0) fun a b hab => ?_
  rw [← hab.2]
  exact filterFragment_twin t hab.1 a.2

theorem find?_rel {α β : Type} {R : α → β → Prop} {p : α → Bool} {q : β → Bool} {xs : List α}
    {ys : List β} (h : List.Forall₂ R xs ys) (hpq : ∀ a b, R a b → p a = q b) :
    Option.Rel R (xs.find? p) (ys.find? q) := by
  induction h with
  | nil => exact .none
  | cons hab _ ih =>
    rw [List.find?_cons, List.find?_cons, hpq _ _ hab]
    split
    · exact .some hab
    · exact ih

theorem rel_bind {α β γ δ : Type} {R : α → β → Prop} {S : γ → δ → Prop} {x : Option α}
    {y : Option β} {f : α → Option γ} {g : β → Option δ} (h : Option.Rel R x y)
    (hf : ∀ a b, R a b → Option.Rel S (f a) (g b)) : Option.Rel S (x.bind f) (y.bind g) := by
  cases h with
  | none => exact .none
  | some hab => exact hf _ _ hab

theorem datetimeFilters_twin {d d' : Draft} (h : d.Twin v w d') :
    List.Forall₂ (Filter.Twin v w) d.datetimeFilters d'.datetimeFilters := by
  refine List.rel_filter (fun f g hfg => ?_) h.filters
  simp only [Filter.isDatetime, hfg.form]

/-- Which filters are the bounds does not depend on values. -/
theorem bounds?_twin {d d' : Draft} (h : d.Twin v w d') :
    Option.Rel (fun b b' => Filter.Twin v w b.1 b'.1 ∧ Filter.Twin v w b.2 b'.2) d.bounds?
      d'.bounds? := by
  have hl := find?_rel (p := fun f => lowerOperators.contains f.operator)
    (q := fun f => lowerOperators.contains f.operator) (datetimeFilters_twin h)
    fun f g hfg => by rw [hfg.operator]
  have hu := find?_rel (p := fun f => upperOperators.contains f.operator)
    (q := fun f => upperOperators.contains f.operator) (datetimeFilters_twin h)
    fun f g hfg => by rw [hfg.operator]
  exact rel_bind hl fun l l' hl => rel_bind hu fun u u' hu => .some ⟨hl, hu⟩

/-- Plans are found alike, and refused for the same reason. -/
theorem plan_twin (t : Table) {d d' : Draft} (h : d.Twin v w d') :
    Alike (Option.Rel (BucketPlan.Twin v w)) (d.plan t) (d'.plan t) := by
  have hgroups : d.datetimeGroups = d'.datetimeGroups := by
    unfold datetimeGroups
    rw [h.groups]
  -- the bounds are found by their operators, and refused by their columns
  unfold plan
  rw [hgroups]
  split
  · exact .ok .none
  · exact .error _
  · have hb := bounds?_twin h
    generalize d.bounds? = b at hb
    generalize d'.bounds? = b' at hb
    cases hb with
    | none => exact .ok .none
    | some hb =>
      obtain ⟨hl, hu⟩ := hb
      simp only [hl.column, hu.column]
      split
      · exact .error _
      · refine (Alike.refl (fun _ => rfl) _).bind fun c _ hc => ?_
        refine (Alike.refl (fun _ => rfl) _).bind fun u _ hunit => ?_
        subst hc hunit
        exact .ok (.some ⟨rfl, rfl, hl, hu⟩)

theorem clauses_twin (r : Registry) {d d' : Draft} (h : d.Twin v w d')
    {plan plan' : Option BucketPlan} (hp : Option.Rel (BucketPlan.Twin v w) plan plan') :
    Alike (Clauses.Twin v w) (d.clauses r plan) (d'.clauses r plan') := by
  have hplanned : plan.isSome = plan'.isSome := by cases hp <;> rfl
  unfold clauses itemFragments groupFragments orderFragments
  rw [h.table, h.select, h.groups, h.orders, hplanned]
  refine (Alike.refl (fun _ => rfl) _).bind fun t _ ht => ?_
  subst ht
  refine (Alike.refl (fun _ => rfl) _).bind fun items _ hi => ?_
  refine (conditionFragments_twin t h).bind fun conditions conditions' hc => ?_
  refine (Alike.refl (fun _ => rfl) _).bind fun groups _ hg => ?_
  refine (Alike.refl (fun _ => rfl) _).bind fun orders _ ho => ?_
  subst hi hg ho
  exact .ok ⟨rfl, hp, rfl, hc, rfl, rfl, h.limit⟩

end Draft

/-! ### Statements -/

namespace Clauses

variable {c c' : Clauses}

theorem Twin.seriesFragment (h : c.Twin v w c') :
    Fragment.Twin v w c.seriesFragment c'.seriesFragment := by
  have hp := h.plan
  unfold Clauses.seriesFragment
  generalize c.plan = p at hp
  generalize c'.plan = p' at hp
  cases hp with
  | none => exact .refl rfl
  | some hp => exact hp.series

/-- The parts of a statement around its conditions show no value of a plan. -/
theorem Twin.around (h : c.Twin v w c') :
    c.allItems = c'.allItems ∧ c.sourceFragment = c'.sourceFragment ∧
      c.conditionOpening = c'.conditionOpening ∧ c.allGroups = c'.allGroups ∧
      c.allOrders = c'.allOrders := by
  have hp := h.plan
  unfold allItems sourceFragment conditionOpening allGroups allOrders
  rw [h.items, h.groups, h.orders, h.table]
  generalize c.plan = p at hp
  generalize c'.plan = p' at hp
  cases hp with
  | none => exact ⟨rfl, rfl, rfl, rfl, rfl⟩
  | some hp =>
    simp only [BucketPlan.selectItem, BucketPlan.source, hp.column, hp.unit, Option.map_some,
      Option.isSome_some, and_self]

/-- Twins have one layout. -/
theorem Twin.layout (h : c.Twin v w c') : c.layout = c'.layout := by
  obtain ⟨hitems, hsource, hopening, hgroups, horders⟩ := h.around
  have hbounds : c.bounds.length = c'.bounds.length := h.seriesFragment.values.length_eq
  have hvalues : c.conditionValues.length = c'.conditionValues.length :=
    (Fragment.Twin.flatMap_values h.conditions).length_eq
  -- of a limit, the layout shows only that it is there
  have hlimit (n : ℕ) : (limitValues c.limit).head?.map (fun _ => n) =
      (limitValues c'.limit).head?.map fun _ => n := by
    have hl := h.limit.length_eq
    cases hv : limitValues c.limit with
    | nil =>
      rw [hv] at hl
      rw [List.length_eq_zero_iff.1 hl.symm]
    | cons x xs =>
      rw [hv] at hl
      obtain ⟨y, ys, hys⟩ := List.exists_cons_of_length_eq_add_one hl.symm
      rw [hys]
      rfl
  unfold Clauses.layout
  rw [h.seriesFragment.textFrom, hitems, hsource, hopening, hbounds, hvalues,
    Fragment.Twin.textsFrom h.conditions, hgroups, horders, hlimit]

/-- Twins are rendered to one text, with values in the same slots. -/
theorem Twin.render (h : c.Twin v w c') (hc : c.BindsInConditions) (hc' : c'.BindsInConditions) :
    c.fragment.render.text = c'.fragment.render.text ∧
      SameSlots v w c.fragment.render.parameters c'.fragment.render.parameters := by
  rw [render_text_eq hc, render_text_eq hc', h.layout, render_parameters_eq hc,
    render_parameters_eq hc']
  exact ⟨rfl, (h.seriesFragment.values.append (Fragment.Twin.flatMap_values h.conditions)).append
    h.limit⟩

end Clauses

/-! ### Queries of one shape -/

/-- Two filters that differ at most in their values. -/
structure Filter.SameShape (f g : Filter) : Prop where
  kind : f.kind = g.kind
  column : f.column = g.column
  operator : f.operatorWord = g.operatorWord

/-- Two queries that differ at most in the values of their filters and in their limits. -/
structure Query.SameShape (q q' : Query) : Prop where
  table : q.table = q'.table
  select : q.select = q'.select
  filters : List.Forall₂ Filter.SameShape q.filters q'.filters
  groups : q.groups = q'.groups
  orders : q.orders = q'.orders
  limit : q.limit.isSome = q'.limit.isSome

/-- The places that the values of a statement come from. -/
inductive Slot where
  | filter (i : ℕ)
  | tenant
  | limit

/-- The value in a slot, when `tenant` makes the query. -/
def Query.slotValue (q : Query) (tenant : String) : Slot → Option Value
  | .filter i => q.filters[i]?.map Filter.value
  | .tenant => some (.text tenant)
  | .limit => q.limit.map fun n => .int n

theorem Filter.toDraft_twin {f g : Filter} (h : f.SameShape g) (hv : SameSlot v w f.value g.value) :
    Draft.Filter.Twin v w f.toDraft g.toDraft := by
  refine ⟨?_, h.kind, h.column, h.operator, hv, fun hform => ?_⟩
  · exact congrArg Keyword.word h.kind
  · have hlist (e : Filter) (he : e.kind = .options) : ∃ xs, e.value = .list xs := by
      cases e with
      | options _ _ vs => exact ⟨_, rfl⟩
      | _ => cases he
    exact ⟨hlist f hform, hlist g (h.kind ▸ hform)⟩

namespace Query

variable {q q' : Query}

/-- Filters of queries of one shape are twins, each with its own slot. -/
theorem SameShape.filters_twin (h : q.SameShape q') (p p' : String) :
    List.Forall₂ (Draft.Filter.Twin (q.slotValue p) (q'.slotValue p'))
      (q.filters.map Filter.toDraft) (q'.filters.map Filter.toDraft) := by
  obtain ⟨hlen, hget⟩ := List.forall₂_iff_get.1 h.filters
  refine List.forall₂_iff_get.2 ⟨by simpa using hlen, fun i hi hi' => ?_⟩
  rw [List.length_map] at hi hi'
  simp only [List.get_eq_getElem, List.getElem_map]
  refine Filter.toDraft_twin (hget i hi hi') ⟨.filter i, ?_, ?_⟩
  · simp [slotValue, List.getElem?_eq_getElem hi]
  · simp [slotValue, List.getElem?_eq_getElem hi']

theorem SameShape.limit_twin (h : q.SameShape q') (p p' : String) :
    SameSlots (q.slotValue p) (q'.slotValue p') (Clauses.limitValues q.toDraft.limit)
      (Clauses.limitValues q'.toDraft.limit) := by
  have hl := h.limit
  cases hq : q.limit with
  | none =>
    rw [hq, Option.isSome_none, eq_comm, Option.isSome_eq_false_iff,
      Option.isNone_iff_eq_none] at hl
    simp only [toDraft, hq, hl]
    exact .nil
  | some n =>
    rw [hq, Option.isSome_some, eq_comm, Option.isSome_iff_exists] at hl
    obtain ⟨m, hm⟩ := hl
    simp only [toDraft, hq, hm]
    exact SameSlot.singleton ⟨.limit, by simp [slotValue, hq], by simp [slotValue, hm]⟩

/-- Queries of one shape are twins as drafts, once each is scoped to its tenant. -/
theorem SameShape.scoped_twin (h : q.SameShape q') (t : Table) (p p' : String) :
    (q.scoped t p).toDraft.Twin (q.slotValue p) (q'.slotValue p') (q'.scoped t p').toDraft where
  table := h.table
  select := by simp only [Query.scoped, toDraft, h.select]
  filters := by
    simp only [Query.scoped, toDraft, List.map_append]
    -- the filters of the table all hold the tenant
    refine List.rel_append (h.filters_twin p p') ?_
    rw [List.map_map, List.map_map, List.forall₂_map_left_iff, List.forall₂_map_right_iff,
      List.forall₂_same]
    exact fun name _ => Filter.toDraft_twin ⟨rfl, rfl, rfl⟩ ⟨.tenant, rfl, rfl⟩
  groups := by simp only [Query.scoped, toDraft, h.groups]
  orders := by simp only [Query.scoped, toDraft, h.orders]
  limit := h.limit_twin p p'

end Query

/-- The gate looks at the text and at how many values there are. -/
theorem Statement.violations_congr {s s' : Statement} (ht : s.text = s'.text)
    (hl : s.parameters.length = s'.parameters.length) : s.violations = s'.violations := by
  unfold Statement.violations Statement.findings
  rw [ht, hl]

/-- Queries of one shape have twin clauses, or are refused for the same reason. -/
theorem Query.SameShape.buildClauses_twin {q q' : Query} (h : q.SameShape q') (r : Registry)
    {p p' : String} (hp : p ≠ "") (hp' : p' ≠ "") :
    Alike (Clauses.Twin (q.slotValue p) (q'.slotValue p')) (q.toDraft.buildClauses (.text p) r)
      (q'.toDraft.buildClauses (.text p') r) := by
  unfold Draft.buildClauses
  rw [show q.toDraft.table = q'.toDraft.table from h.table]
  refine (Alike.refl (fun _ => rfl) _).bind fun t _ ht => ?_
  subst ht
  rw [q.scope_toDraft t hp, q'.scope_toDraft t hp']
  have htwin := h.scoped_twin t p p'
  refine (Draft.plan_twin t htwin).lookedUp.bind fun plan plan' hplan => ?_
  exact Draft.clauses_twin r htwin hplan

/-- The values of filters, the limit and the tenant decide only what is bound. Queries of one shape
are refused for the same reason, or come out with one text and one verdict of the gate, and each
parameter holds in both statements the value of the same slot. -/
theorem build_same_text (r : Registry) {q q' : Query} (h : q.SameShape q') {p p' : String}
    (hp : p ≠ "") (hp' : p' ≠ "") :
    (∃ e, q.toDraft.build (.text p) r = .error e ∧ q'.toDraft.build (.text p') r = .error e) ∨
    ∃ s s', q.toDraft.build (.text p) r = .ok s ∧ q'.toDraft.build (.text p') r = .ok s' ∧
      s.text = s'.text ∧ s.parameters.length = s'.parameters.length ∧
      SameSlots (q.slotValue p) (q'.slotValue p') s.parameters s'.parameters ∧
      s.violations = s'.violations := by
  have htwin := h.buildClauses_twin r hp hp'
  rw [Draft.build_eq, Draft.build_eq]
  generalize hc : q.toDraft.buildClauses (.text p) r = x at htwin
  generalize hc' : q'.toDraft.buildClauses (.text p') r = y at htwin
  cases htwin with
  | error e => exact .inl ⟨e, rfl, rfl⟩
  | ok htwin =>
    obtain ⟨own, -, -, -, hown⟩ := Draft.buildClauses_eq_ok.1 hc
    obtain ⟨own', -, -, -, hown'⟩ := Draft.buildClauses_eq_ok.1 hc'
    obtain ⟨htext, hslots⟩ := htwin.render (Draft.bindsInConditions_of_clauses hown)
      (Draft.bindsInConditions_of_clauses hown')
    exact .inr ⟨_, _, rfl, rfl, htext, hslots.length_eq, hslots,
      Statement.violations_congr htext hslots.length_eq⟩

/-- How many traces of a name there are on each day, for a number of days. -/
def Bundled.dailyTraces (name : String) (days : ℕ) : Query where
  table := "traces"
  select := [⟨"id", some .count⟩]
  filters := [.string "name" .eq name, .datetime "timestamp" .ge ⟨⟨2024, 1, 1⟩, 0, 0, 0, 0, none⟩,
    .datetime "timestamp" .lt ⟨⟨2024, 1, 1 + days⟩, 0, 0, 0, 0, none⟩]
  groups := [.datetime "timestamp" .day]
  orders := []
  limit := some days

open Bundled in
/-- A name that tries to end the statement changes nothing but the third parameter; the upper bound
and the limit change with the number of days. -/
theorem build_same_text_dailyTraces :
    (dailyTraces "chat" 2).SameShape (dailyTraces "'; DROP TABLE traces; --" 7) ∧
    ∃ s s', (dailyTraces "chat" 2).toDraft.build (.text "a") Registry.bundled = .ok s ∧
      (dailyTraces "'; DROP TABLE traces; --" 7).toDraft.build (.text "z") Registry.bundled =
        .ok s' ∧
      s.text = s'.text ∧ s.parameters.length = s'.parameters.length ∧
      SameSlots ((dailyTraces "chat" 2).slotValue "a")
        ((dailyTraces "'; DROP TABLE traces; --" 7).slotValue "z") s.parameters s'.parameters ∧
      s.violations = s'.violations := by
  have hshape : (dailyTraces "chat" 2).SameShape (dailyTraces "'; DROP TABLE traces; --" 7) :=
    ⟨rfl, rfl, .cons ⟨rfl, rfl, rfl⟩ (.cons ⟨rfl, rfl, rfl⟩ (.cons ⟨rfl, rfl, rfl⟩ .nil)), rfl, rfl,
      rfl⟩
  have hs : ∃ s, (dailyTraces "chat" 2).toDraft.build (.text "a") Registry.bundled = .ok s :=
    ⟨_, rfl⟩
  obtain ⟨s, hs⟩ := hs
  refine ⟨hshape, ?_⟩
  rcases build_same_text Registry.bundled hshape (show "a" ≠ "" by decide)
    (show "z" ≠ "" by decide) with ⟨e, he, -⟩ | h
  · exact absurd (hs.symm.trans he) nofun
  · exact h

end Dashboard
