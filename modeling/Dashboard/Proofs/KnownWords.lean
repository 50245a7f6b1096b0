import Dashboard.Proofs.Compilation

/-!
# Which drafts are compiled

The words of a draft are arbitrary, and nothing but the look-ups of the compiler refuses them.

* `Keyword.exists_ofWord?`: a word is found exactly if it is among the words of its set.
* `Draft.Known` says that a draft names columns of a table and known words only, and that options
  are compared with a list.
* `Draft.exists_clauses`: a draft is compiled exactly if it names a table and is known there.
-/

namespace Dashboard

/-! ### Look-ups -/

/-- A word is found exactly if it is among the words of its set. -/
theorem Keyword.exists_ofWord? {α : Type} [Keyword α] {w : String} :
    (∃ a : α, Keyword.ofWord? w = some a) ↔ w ∈ Keyword.words α := by
  rw [← Option.isSome_iff_exists, ofWord?, List.find?_isSome, words, List.mem_map]
  simp only [beq_iff_eq]

/-- Every keyword is found by its word. -/
class Keyword.Lawful (α : Type) [Keyword α] : Prop where
  ofWord?_word : ∀ a : α, Keyword.ofWord? (Keyword.word a) = some a

instance : Keyword.Lawful Aggregation := ⟨fun a => by cases a <;> rfl⟩
instance : Keyword.Lawful TemporalUnit := ⟨fun a => by cases a <;> rfl⟩
instance : Keyword.Lawful Direction := ⟨fun a => by cases a <;> rfl⟩
instance : Keyword.Lawful FilterKind := ⟨fun a => by cases a <;> rfl⟩
instance : Keyword.Lawful CategoricalWord := ⟨fun a => by cases a <;> rfl⟩
instance : Keyword.Lawful StringOperator := ⟨fun a => by cases a <;> rfl⟩
instance : Keyword.Lawful NumberOperator := ⟨fun a => by cases a <;> rfl⟩
instance : Keyword.Lawful DatetimeOperator := ⟨fun a => by cases a <;> rfl⟩
instance : Keyword.Lawful OptionsOperator := ⟨fun a => by cases a <;> rfl⟩

section

variable {α : Type} [Keyword α] [Keyword.Lawful α]

theorem Keyword.ofWord?_eq_some {w : String} {a : α} :
    Keyword.ofWord? w = some a ↔ Keyword.word a = w := by
  refine ⟨Keyword.word_of_ofWord?, ?_⟩
  rintro rfl
  exact Keyword.Lawful.ofWord?_word a

theorem Keyword.word_mem_words (a : α) : Keyword.word a ∈ Keyword.words α :=
  Keyword.exists_ofWord?.1 ⟨a, Keyword.Lawful.ofWord?_word a⟩

end

/-- The words for the operators of a kind. -/
def FilterKind.operatorWords : FilterKind → List String
  | string => Keyword.words StringOperator
  | number => Keyword.words NumberOperator
  | datetime => Keyword.words DatetimeOperator
  | options => Keyword.words OptionsOperator

theorem FilterKind.exists_operatorSql? {k : FilterKind} {operator : String} :
    (∃ sql, k.operatorSql? operator = some sql) ↔ operator ∈ k.operatorWords := by
  cases k <;>
  · simp only [operatorSql?, operatorWords, Option.map_eq_some_iff, ← Keyword.exists_ofWord?]
    constructor
    · rintro ⟨sql, op, hop, -⟩
      exact ⟨op, hop⟩
    · rintro ⟨op, hop⟩
      exact ⟨_, op, hop, rfl⟩

theorem Table.exists_column? {t : Table} {name : String} :
    (∃ c, t.column? name = some c) ↔ name ∈ t.columnNames := by
  rw [← Option.isSome_iff_exists, column?, List.find?_isSome, columnNames, List.mem_map]
  simp only [beq_iff_eq]

theorem Registry.exists_table? {r : Registry} {name : String} :
    (∃ t, r.table? name = some t) ↔ name ∈ r.tableNames := by
  rw [← Option.isSome_iff_exists, table?, List.find?_isSome, tableNames, List.mem_map]
  simp only [beq_iff_eq]

/-! ### Entries of a draft -/

namespace Draft

/-- An aggregation is known if it is there at all. -/
def KnownAggregation (agg : Option String) : Prop :=
  ∀ w, agg = some w → w ∈ Keyword.words Aggregation

theorem exists_aggregated {internal : String} {agg : Option String} :
    (∃ g, aggregated internal agg = .ok g) ↔ KnownAggregation agg := by
  cases agg with
  | none => exact ⟨fun _ => nofun, fun _ => ⟨_, rfl⟩⟩
  | some w =>
    simp only [aggregated, KnownAggregation, Option.some.injEq, forall_eq',
      ← Keyword.exists_ofWord?]
    cases (Keyword.ofWord? w : Option Aggregation) with
    | none => simp
    | some a => exact ⟨fun _ => ⟨a, rfl⟩, fun _ => ⟨_, rfl⟩⟩

theorem exists_selectFragment {t : Table} {item : Select} {i : ℕ} :
    (∃ g, selectFragment t item i = .ok g) ↔
      item.column ∈ t.columnNames ∧ KnownAggregation item.agg := by
  simp only [selectFragment_eq_ok]
  rw [← Table.exists_column?]
  constructor
  · rintro ⟨-, c, e, hc, he, -⟩
    exact ⟨⟨c, hc⟩, exists_aggregated.1 ⟨e, he⟩⟩
  · rintro ⟨⟨c, hc⟩, hagg⟩
    obtain ⟨e, he⟩ := exists_aggregated.2 hagg
    exact ⟨_, c, e, hc, he, rfl⟩

theorem exists_orderFragment {t : Table} {item : Order} {i : ℕ} :
    (∃ g, orderFragment t item i = .ok g) ↔ item.column ∈ t.columnNames ∧
      KnownAggregation item.agg ∧ item.direction ∈ Keyword.words Direction := by
  simp only [orderFragment_eq_ok]
  rw [← Table.exists_column?]
  constructor
  · rintro ⟨-, c, e, d, hc, he, hd, -⟩
    refine ⟨⟨c, hc⟩, exists_aggregated.1 ⟨e, he⟩, ?_⟩
    rw [hd]
    cases d <;> decide
  · rintro ⟨⟨c, hc⟩, hagg, hd⟩
    obtain ⟨e, he⟩ := exists_aggregated.2 hagg
    obtain ⟨d, hd⟩ := Keyword.exists_ofWord?.2 hd
    exact ⟨_, c, e, d, hc, he, (Keyword.word_of_ofWord? hd).symm, rfl⟩

theorem exists_groupFragment {t : Table} {planned : Bool} {item : Group} {i : ℕ} :
    (∃ g, groupFragment t planned item i = .ok g) ↔ item.column ∈ t.columnNames := by
  simp only [groupFragment_eq_ok]
  rw [← Table.exists_column?]
  constructor
  · rintro ⟨-, c, hc, -⟩
    exact ⟨c, hc⟩
  · rintro ⟨c, hc⟩
    exact ⟨_, c, hc, rfl⟩

/-- A filter names a column and an operator of its kind, and options are compared with a list. -/
structure Filter.Known (f : Filter) (t : Table) : Prop where
  column : f.column ∈ t.columnNames
  operator : ∃ k : FilterKind, Keyword.word k = f.kind ∧ f.operator ∈ k.operatorWords
  items : f.form = .options → ∃ vs, f.value.items? = some vs

theorem exists_operatorSql {kind operator : String} {field : Option String} :
    (∃ sql, operatorSql kind operator field = .ok sql) ↔
      ∃ k : FilterKind, Keyword.word k = kind ∧ operator ∈ k.operatorWords := by
  have hfound : (∃ sql, operatorSql kind operator field = .ok sql) ↔
      ∃ sql, ((Keyword.ofWord? kind).bind fun k => FilterKind.operatorSql? k operator) =
        some sql := by
    unfold operatorSql
    split
    · rename_i sql h
      exact ⟨fun _ => ⟨sql, h⟩, fun _ => ⟨sql, rfl⟩⟩
    · rename_i h
      simp [h]
  rw [hfound]
  simp only [Option.bind_eq_some_iff, Keyword.ofWord?_eq_some]
  constructor
  · rintro ⟨sql, k, hk, hsql⟩
    exact ⟨k, hk, FilterKind.exists_operatorSql?.1 ⟨sql, hsql⟩⟩
  · rintro ⟨k, hk, hop⟩
    obtain ⟨sql, hsql⟩ := FilterKind.exists_operatorSql?.2 hop
    exact ⟨sql, k, hk, hsql⟩

theorem Filter.exists_bound? {f : Filter} :
    (∃ v, f.bound? = some v) ↔ (f.form = .options → ∃ vs, f.value.items? = some vs) := by
  unfold bound?
  by_cases hform : f.form = .options
  · simp [hform]
  · simp [hform]

theorem exists_filterFragment {t : Table} {f : Filter} {i : ℕ} :
    (∃ g, filterFragment t f i = .ok g) ↔ f.Known t := by
  simp only [filterFragment_eq_ok]
  constructor
  · rintro ⟨-, c, op, v, hc, hop, hv, -⟩
    exact ⟨Table.exists_column?.1 ⟨c, hc⟩, exists_operatorSql.1 ⟨op, hop⟩,
      Filter.exists_bound?.1 ⟨v, hv⟩⟩
  · rintro ⟨hcolumn, hoperator, hitems⟩
    obtain ⟨c, hc⟩ := Table.exists_column?.2 hcolumn
    obtain ⟨op, hop⟩ := exists_operatorSql.2 hoperator
    obtain ⟨v, hv⟩ := Filter.exists_bound?.2 hitems
    exact ⟨_, c, op, v, hc, hop, hv, rfl⟩

end Draft

/-! ### Drafts -/

/-- A draft names columns of a table and known words only. -/
structure Draft.Known (d : Draft) (t : Table) : Prop where
  select : ∀ s ∈ d.select, s.column ∈ t.columnNames ∧ KnownAggregation s.agg
  filters : ∀ f ∈ d.filters, f.Known t
  groups : ∀ g ∈ d.groups, g.column ∈ t.columnNames
  orders : ∀ o ∈ d.orders, o.column ∈ t.columnNames ∧ KnownAggregation o.agg ∧
    o.direction ∈ Keyword.words Direction

namespace Draft

variable {d : Draft} {r : Registry} {plan : Option BucketPlan}

theorem exists_itemFragments {t : Table} : (∃ gs, d.itemFragments t = .ok gs) ↔
    ∀ s ∈ d.select, s.column ∈ t.columnNames ∧ KnownAggregation s.agg := by
  unfold itemFragments
  exact exists_mapM_zipIdx_eq_ok fun _ _ => exists_selectFragment

theorem exists_conditionFragments {t : Table} : (∃ gs, d.conditionFragments t = .ok gs) ↔
    ∀ f ∈ d.filters, f.Known t := by
  unfold conditionFragments
  exact exists_mapM_zipIdx_eq_ok fun _ _ => exists_filterFragment

theorem exists_groupFragments {t : Table} (planned : Bool) :
    (∃ gs, d.groupFragments t planned = .ok gs) ↔ ∀ g ∈ d.groups, g.column ∈ t.columnNames := by
  have hterms : (∃ terms, (d.groups.zipIdx.mapM fun g => groupFragment t planned g.1 g.2) =
      .ok terms) ↔ ∀ g ∈ d.groups, g.column ∈ t.columnNames :=
    exists_mapM_zipIdx_eq_ok fun _ _ => exists_groupFragment
  rw [← hterms]
  simp only [groupFragments_eq_ok]
  constructor
  · rintro ⟨-, terms, hterms, -⟩
    exact ⟨terms, hterms⟩
  · rintro ⟨terms, hterms⟩
    exact ⟨_, terms, hterms, rfl⟩

theorem exists_orderFragments {t : Table} : (∃ gs, d.orderFragments t = .ok gs) ↔
    ∀ o ∈ d.orders, o.column ∈ t.columnNames ∧ KnownAggregation o.agg ∧
      o.direction ∈ Keyword.words Direction := by
  unfold orderFragments
  exact exists_mapM_zipIdx_eq_ok fun _ _ => exists_orderFragment

/-- What is compiled is known. -/
theorem known_of_clauses {c : Clauses} (h : d.clauses r plan = .ok c) : d.Known c.table := by
  obtain ⟨-, -, hitems, hconditions, hgroups, horders, -⟩ := clauses_eq_ok.1 h
  exact ⟨exists_itemFragments.1 ⟨_, hitems⟩, exists_conditionFragments.1 ⟨_, hconditions⟩,
    (exists_groupFragments _).1 ⟨_, hgroups⟩, exists_orderFragments.1 ⟨_, horders⟩⟩

/-- A draft is compiled exactly if it names a table and is known there. -/
theorem exists_clauses (plan : Option BucketPlan) :
    (∃ c, d.clauses r plan = .ok c) ↔ ∃ t, r.table? d.table = some t ∧ d.Known t := by
  constructor
  · rintro ⟨c, hc⟩
    exact ⟨c.table, (clauses_eq_ok.1 hc).1, known_of_clauses hc⟩
  · rintro ⟨t, ht, hknown⟩
    obtain ⟨items, hitems⟩ := exists_itemFragments.2 hknown.select
    obtain ⟨conditions, hconditions⟩ := exists_conditionFragments.2 hknown.filters
    obtain ⟨groups, hgroups⟩ := (exists_groupFragments plan.isSome).2 hknown.groups
    obtain ⟨orders, horders⟩ := exists_orderFragments.2 hknown.orders
    exact ⟨⟨t, plan, items, conditions, groups, orders, d.limit⟩,
      clauses_eq_ok.2 ⟨ht, rfl, hitems, hconditions, hgroups, horders, rfl⟩⟩

theorem exists_compile (plan : Option BucketPlan) :
    (∃ s, d.compile r plan = .ok s) ↔ ∃ t, r.table? d.table = some t ∧ d.Known t := by
  rw [← exists_clauses plan]
  simp only [compile_eq_ok]
  constructor
  · rintro ⟨-, c, hc, -⟩
    exact ⟨c, hc⟩
  · rintro ⟨c, hc⟩
    exact ⟨_, c, hc, rfl⟩

/-- A draft that is known with the filters of its tenant is known without them. -/
theorem Known.of_scope {t u : Table} {tenant : Value} {own : Draft}
    (hown : d.scope t tenant = .ok own) (h : own.Known u) : d.Known u := by
  obtain ⟨mandatory, -, hown⟩ := bind_eq_ok.1 hown
  cases pure_eq_ok.1 hown
  exact ⟨h.select, fun f hf => h.filters f (List.mem_append_left _ hf), h.groups, h.orders⟩

end Draft
end Dashboard
