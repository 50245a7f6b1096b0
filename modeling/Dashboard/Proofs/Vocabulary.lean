import Dashboard.Proofs.KnownWords

/-!
# Where the text of a statement comes from

The words of a draft are arbitrary texts, but none of them reaches the text of a statement: every
keyword is looked up, and what is written is the entry that was found.

* `Piece` is a part of a text: a word, or a placeholder. `Fragment.WrittenIn V f` says that the text
  of `f` consists of words from `V` and of its placeholders in order; fragments that are put
  together keep this property.
* `Table.vocabulary` lists the words for queries from one table: those of the compiler and of the
  keyword tables, and what the table says of its source and its columns.
* `Draft.writtenIn_of_clauses` takes the compiler step by step, and `written_in_vocabulary` says it
  of every statement that is built or compiled, and which drafts are compiled.
-/

namespace Dashboard

/-! ### Pieces of a text -/

/-- A part of the text of a statement. -/
inductive Piece where
  | word (text : String)
  | placeholder (number : ℕ)
  deriving Repr, DecidableEq

namespace Piece

/-- The text of a piece. -/
def text : Piece → String
  | word w => w
  | placeholder k => Fragment.placeholder k

/-- The number of a placeholder. -/
def number? : Piece → Option ℕ
  | word _ => none
  | placeholder k => some k

end Piece

/-- A text consists of words from a list, and of the placeholders `n + 1`, …, `n + count` in
order. -/
def WrittenIn (V : List String) (n count : ℕ) (text : String) : Prop :=
  ∃ pieces : List Piece, text = String.join (pieces.map Piece.text) ∧
    (∀ w, .word w ∈ pieces → w ∈ V) ∧
    pieces.filterMap Piece.number? = List.range' (n + 1) count

namespace WrittenIn

variable {V : List String}

theorem append {n k m : ℕ} {s t : String} (hs : WrittenIn V n k s)
    (ht : WrittenIn V (n + k) m t) : WrittenIn V n (k + m) (s ++ t) := by
  obtain ⟨ps, rfl, hps, hns⟩ := hs
  obtain ⟨qs, rfl, hqs, hnt⟩ := ht
  refine ⟨ps ++ qs, by simp, fun w hw => ?_, ?_⟩
  · rcases List.mem_append.1 hw with hw | hw
    · exact hps w hw
    · exact hqs w hw
  · rw [List.filterMap_append, hns, hnt, Nat.add_right_comm, List.range'_append_1]

theorem empty (n : ℕ) : WrittenIn V n 0 "" := ⟨[], rfl, nofun, rfl⟩

theorem word {w : String} (h : w ∈ V) (n : ℕ) : WrittenIn V n 0 w := by
  refine ⟨[.word w], by simp [Piece.text], fun u hu => ?_, rfl⟩
  cases List.mem_singleton.1 hu
  exact h

theorem placeholder (n : ℕ) : WrittenIn V n 1 (Fragment.placeholder (n + 1)) := by
  refine ⟨[.placeholder (n + 1)], by simp [Piece.text], fun w hw => ?_, rfl⟩
  cases List.mem_singleton.1 hw

end WrittenIn

namespace Fragment

/-- The text of a fragment consists of words from a list and of its placeholders, wherever the
fragment stands. -/
def WrittenIn (V : List String) (f : Fragment) : Prop :=
  ∀ n, Dashboard.WrittenIn V n f.values.length (f.textFrom n)

namespace WrittenIn

variable {V : List String}

theorem empty : WrittenIn V empty := fun n => .empty n

theorem bind (v : Value) : WrittenIn V (bind v) := by
  intro n
  rw [textFrom_bind]
  exact .placeholder n

theorem append {f g : Fragment} (hf : f.WrittenIn V) (hg : g.WrittenIn V) :
    (f ++ g).WrittenIn V := by
  intro n
  rw [textFrom_append, values_append, List.length_append]
  exact (hf n).append (hg _)

theorem raw {w : String} (h : w ∈ V) : WrittenIn V (raw w) := fun n => .word h n

/-- Trusted text may be made of several words. -/
theorem raw_append {s t : String} (hs : WrittenIn V (Fragment.raw s))
    (ht : WrittenIn V (Fragment.raw t)) : WrittenIn V (Fragment.raw (s ++ t)) :=
  fun n => (hs n).append (ht n)

theorem concat {fs : List Fragment} (h : ∀ f ∈ fs, f.WrittenIn V) :
    (concat fs).WrittenIn V := by
  induction fs with
  | nil => exact empty
  | cons f fs ih =>
    exact (h f List.mem_cons_self).append (ih fun g hg => h g (List.mem_cons_of_mem _ hg))

theorem join {sep : String} (hsep : sep ∈ V) {fs : List Fragment} (h : ∀ f ∈ fs, f.WrittenIn V) :
    (join sep fs).WrittenIn V := by
  induction fs with
  | nil => exact empty
  | cons f fs ih =>
    have ih := ih fun g hg => h g (List.mem_cons_of_mem _ hg)
    have hf := h f List.mem_cons_self
    cases fs with
    | nil => exact hf.append empty
    | cons g fs => exact hf.append ((raw hsep).append ih)

end WrittenIn
end Fragment

/-! ### Vocabularies -/

/-- The words that the compiler writes on its own. -/
def grammar : List String :=
  ["WITH date_series AS (SELECT generate_series(", ", ", ", '1 ", "'::interval) AS \"date\") ",
    "SELECT ", " AS ", "\"", " FROM ", " FROM date_series LEFT JOIN ", " ON ", "DATE_TRUNC('",
    "', ", "date_series.\"date\"", " = ", " WHERE ", " AND ", " ", "(", ")", " ::\"", "\"[]",
    " GROUP BY ", " ORDER BY ", " ASC", " LIMIT ", ";"]

/-- The SQL of the operators of a kind. -/
def FilterKind.operatorTexts : FilterKind → List String
  | string => (Keyword.all : List StringOperator).map StringOperator.sql
  | number => (Keyword.all : List NumberOperator).map NumberOperator.sql
  | datetime => (Keyword.all : List DatetimeOperator).map DatetimeOperator.sql
  | options => (Keyword.all : List OptionsOperator).map OptionsOperator.sql

/-- The words of the keyword tables that come into statements. -/
def keywordTexts : List String :=
  (Keyword.all : List Aggregation).flatMap (fun a => [a.around.1, a.around.2]) ++
    Keyword.words TemporalUnit ++ Keyword.words Direction ++
    (Keyword.all : List FilterKind).flatMap FilterKind.operatorTexts

/-- What a column brings into statements: its expression, its cast, and the names under which it
comes out. -/
def Column.texts (c : Column) : List String :=
  c.internal :: c.cast.toList ++ c.name ::
    (Keyword.words Aggregation).map fun word => columnAlias c.name (some word)

/-- The words of the statements from a table. No part of a query is among them. -/
def Table.vocabulary (t : Table) : List String :=
  grammar ++ keywordTexts ++ t.source :: t.columns.flatMap Column.texts

namespace Table

theorem mem_vocabulary_of_grammar (t : Table) {w : String} (h : w ∈ grammar) :
    w ∈ t.vocabulary :=
  List.mem_append_left _ (List.mem_append_left _ h)

theorem mem_vocabulary_of_keyword (t : Table) {w : String} (h : w ∈ keywordTexts) :
    w ∈ t.vocabulary :=
  List.mem_append_left _ (List.mem_append_right _ h)

theorem source_mem_vocabulary (t : Table) : t.source ∈ t.vocabulary :=
  List.mem_append_right _ List.mem_cons_self

theorem mem_vocabulary_of_column {t : Table} {c : Column} (hc : c ∈ t.columns) {w : String}
    (h : w ∈ c.texts) : w ∈ t.vocabulary :=
  List.mem_append_right _ (List.mem_cons_of_mem _ (List.mem_flatMap.2 ⟨c, hc, h⟩))

end Table

theorem Aggregation.around_mem (a : Aggregation) :
    a.around.1 ∈ keywordTexts ∧ a.around.2 ∈ keywordTexts := by
  have ha : a ∈ Keyword.all := by cases a <;> decide
  have h {w : String} (hw : w ∈ [a.around.1, a.around.2]) : w ∈ keywordTexts :=
    List.mem_append_left _ (List.mem_append_left _ (List.mem_append_left _
      (List.mem_flatMap.2 ⟨a, ha, hw⟩)))
  exact ⟨h List.mem_cons_self, h (List.mem_cons_of_mem _ List.mem_cons_self)⟩

theorem TemporalUnit.word_mem (u : TemporalUnit) : Keyword.word u ∈ keywordTexts := by
  have hu : u ∈ Keyword.all := by cases u <;> decide
  exact List.mem_append_left _ (List.mem_append_left _ (List.mem_append_right _
    (List.mem_map_of_mem hu)))

theorem Direction.word_mem (d : Direction) : Keyword.word d ∈ keywordTexts := by
  have hd : d ∈ Keyword.all := by cases d <;> decide
  exact List.mem_append_left _ (List.mem_append_right _ (List.mem_map_of_mem hd))

theorem Keyword.mem_all_of_ofWord? {α : Type} [Keyword α] {w : String} {a : α}
    (h : Keyword.ofWord? w = some a) : a ∈ Keyword.all := List.mem_of_find?_eq_some h

theorem FilterKind.operatorSql?_mem {k : FilterKind} {operator sql : String}
    (h : k.operatorSql? operator = some sql) : sql ∈ k.operatorTexts := by
  cases k <;>
  · obtain ⟨op, hop, rfl⟩ := Option.map_eq_some_iff.1 h
    exact List.mem_map_of_mem (Keyword.mem_all_of_ofWord? hop)

/-- An operator that was not refused is in the table of its kind. -/
theorem Draft.operatorSql_mem {kind operator : String} {field : Option String} {sql : String}
    (h : Draft.operatorSql kind operator field = .ok sql) : sql ∈ keywordTexts := by
  unfold Draft.operatorSql at h
  split at h
  · rename_i found hfound
    obtain ⟨k, hk, hsql⟩ := Option.bind_eq_some_iff.1 hfound
    cases pure_eq_ok.1 h
    exact List.mem_append_right _ (List.mem_flatMap.2
      ⟨k, Keyword.mem_all_of_ofWord? hk, FilterKind.operatorSql?_mem hsql⟩)
  · cases h

/-! ### Steps of the compiler -/

section

variable {t : Table} {c : Column}

theorem Table.mem_vocabulary_of_alias (hc : c ∈ t.columns) {agg : Option String} {g : Fragment}
    (h : aggregated c.internal agg = .ok g) : columnAlias c.name agg ∈ t.vocabulary := by
  refine mem_vocabulary_of_column hc (List.mem_append_right _ ?_)
  -- the alias is made from the word of the draft; that the expression exists makes it a keyword
  rcases Draft.aggregated_eq_ok.1 h with ⟨rfl, -⟩ | ⟨a, rfl, -⟩
  · exact List.mem_cons_self
  · have ha : a ∈ Keyword.all := by cases a <;> decide
    exact List.mem_cons_of_mem _ (List.mem_map_of_mem (List.mem_map_of_mem ha))

theorem Column.writtenIn_internal (hc : c ∈ t.columns) :
    (Fragment.raw c.internal).WrittenIn t.vocabulary :=
  .raw (Table.mem_vocabulary_of_column hc List.mem_cons_self)

theorem Table.writtenIn_grammar (t : Table) {w : String} (h : w ∈ grammar) :
    (Fragment.raw w).WrittenIn t.vocabulary := .raw (t.mem_vocabulary_of_grammar h)

theorem Table.writtenIn_quoted (t : Table) {w : String} (h : w ∈ t.vocabulary) :
    (Fragment.quoted w).WrittenIn t.vocabulary := by
  have hquote := t.writtenIn_grammar (w := "\"") (by simp [grammar])
  exact .raw_append (.raw_append hquote (.raw h)) hquote

namespace Draft

theorem writtenIn_of_aggregated (hc : c ∈ t.columns) {agg : Option String} {g : Fragment}
    (h : aggregated c.internal agg = .ok g) : g.WrittenIn t.vocabulary := by
  rcases aggregated_eq_ok.1 h with ⟨-, rfl⟩ | ⟨a, -, rfl⟩
  · exact Column.writtenIn_internal hc
  · obtain ⟨hl, hr⟩ := a.around_mem
    exact (Fragment.WrittenIn.raw (t.mem_vocabulary_of_keyword hl)).append
      ((Column.writtenIn_internal hc).append
        ((Fragment.WrittenIn.raw (t.mem_vocabulary_of_keyword hr)).append .empty))

theorem writtenIn_of_selectFragment {item : Select} {i : ℕ} {g : Fragment}
    (h : selectFragment t item i = .ok g) : g.WrittenIn t.vocabulary := by
  obtain ⟨c, e, hc, he, rfl⟩ := selectFragment_eq_ok.1 h
  have hc := Table.mem_of_column? hc
  exact (writtenIn_of_aggregated hc he).append ((t.writtenIn_grammar (by simp [grammar])).append
    ((t.writtenIn_quoted (Table.mem_vocabulary_of_alias hc he)).append .empty))

theorem writtenIn_of_orderFragment {item : Order} {i : ℕ} {g : Fragment}
    (h : orderFragment t item i = .ok g) : g.WrittenIn t.vocabulary := by
  obtain ⟨c, e, d, hc, he, -, rfl⟩ := orderFragment_eq_ok.1 h
  have hspace := t.writtenIn_grammar (w := " ") (by simp [grammar])
  have hword := Fragment.WrittenIn.raw (t.mem_vocabulary_of_keyword d.word_mem)
  exact (writtenIn_of_aggregated (Table.mem_of_column? hc) he).append
    ((hspace.raw_append hword).append .empty)

theorem writtenIn_of_groupFragment {planned : Bool} {item : Group} {i : ℕ} {g : Fragment}
    (h : groupFragment t planned item i = .ok (some g)) : g.WrittenIn t.vocabulary := by
  obtain ⟨c, hc, hg⟩ := groupFragment_eq_ok.1 h
  split at hg
  · cases hg
  · cases hg
    exact Column.writtenIn_internal (Table.mem_of_column? hc)

theorem writtenIn_castFragment (hc : c ∈ t.columns) (form : FilterKind) :
    (castFragment c.cast form).WrittenIn t.vocabulary := by
  cases hcast : c.cast with
  | none => exact .empty
  | some type =>
    have htype : (Fragment.raw type).WrittenIn t.vocabulary := by
      refine .raw (Table.mem_vocabulary_of_column hc ?_)
      simp [Column.texts, hcast]
    have hopen := t.writtenIn_grammar (w := " ::\"") (by simp [grammar])
    cases form with
    | datetime => exact .empty
    | options => exact (hopen.raw_append htype).raw_append (t.writtenIn_grammar (by simp [grammar]))
    | string => exact (hopen.raw_append htype).raw_append (t.writtenIn_grammar (by simp [grammar]))
    | number => exact (hopen.raw_append htype).raw_append (t.writtenIn_grammar (by simp [grammar]))

theorem writtenIn_of_filterFragment {item : Filter} {i : ℕ} {g : Fragment}
    (h : filterFragment t item i = .ok g) : g.WrittenIn t.vocabulary := by
  obtain ⟨c, op, v, hc, hop, -, rfl⟩ := filterFragment_eq_ok.1 h
  have hc := Table.mem_of_column? hc
  have hop := Fragment.WrittenIn.raw (t.mem_vocabulary_of_keyword (operatorSql_mem hop))
  have hspace := t.writtenIn_grammar (w := " ") (by simp [grammar])
  have hcast := writtenIn_castFragment hc item.form
  unfold condition
  split
  · exact (Column.writtenIn_internal hc).append
      (((hspace.raw_append hop).raw_append (t.writtenIn_grammar (by simp [grammar]))).append
        ((Fragment.WrittenIn.bind v).append (hcast.append
          ((t.writtenIn_grammar (by simp [grammar])).append .empty))))
  · exact (Column.writtenIn_internal hc).append (((hspace.raw_append hop).raw_append hspace).append
      ((Fragment.WrittenIn.bind v).append (hcast.append .empty)))

end Draft
end

/-! ### Statements -/

section

variable {t : Table}

theorem writtenIn_seriesColumn (t : Table) : seriesColumn.WrittenIn t.vocabulary :=
  t.writtenIn_grammar (by simp [grammar])

theorem writtenIn_dateTrunc (unit : TemporalUnit) {f : Fragment} (hf : f.WrittenIn t.vocabulary) :
    (dateTrunc unit f).WrittenIn t.vocabulary := by
  have hunit := Fragment.WrittenIn.raw (t.mem_vocabulary_of_keyword unit.word_mem)
  have hopen := (t.writtenIn_grammar (w := "DATE_TRUNC('") (by simp [grammar])).raw_append hunit
  exact (hopen.raw_append (t.writtenIn_grammar (by simp [grammar]))).append
    (hf.append ((t.writtenIn_grammar (by simp [grammar])).append .empty))

namespace BucketPlan

theorem writtenIn_series (t : Table) (p : BucketPlan) : p.series.WrittenIn t.vocabulary := by
  have hunit := Fragment.WrittenIn.raw (t.mem_vocabulary_of_keyword p.unit.word_mem)
  have hstep := (t.writtenIn_grammar (w := ", '1 ") (by simp [grammar])).raw_append hunit
  have hend := hstep.raw_append (t.writtenIn_grammar
    (w := "'::interval) AS \"date\") ") (by simp [grammar]))
  exact (t.writtenIn_grammar (by simp [grammar])).append ((Fragment.WrittenIn.bind _).append
    ((t.writtenIn_grammar (by simp [grammar])).append ((Fragment.WrittenIn.bind _).append
      (hend.append .empty))))

theorem writtenIn_source {p : BucketPlan} (hc : p.column ∈ t.columns) :
    (p.source t).WrittenIn t.vocabulary := by
  have hsource := Fragment.WrittenIn.raw t.source_mem_vocabulary
  have hjoin := ((t.writtenIn_grammar (w := " FROM date_series LEFT JOIN ")
    (by simp [grammar])).raw_append hsource).raw_append
      (t.writtenIn_grammar (w := " ON ") (by simp [grammar]))
  exact hjoin.append ((writtenIn_dateTrunc p.unit (Column.writtenIn_internal hc)).append
    ((t.writtenIn_grammar (by simp [grammar])).append
      ((writtenIn_dateTrunc p.unit (writtenIn_seriesColumn t)).append .empty)))

theorem writtenIn_selectItem {p : BucketPlan} (hc : p.column ∈ t.columns) :
    p.selectItem.WrittenIn t.vocabulary := by
  have hname : p.column.name ∈ t.vocabulary := by
    refine Table.mem_vocabulary_of_column hc ?_
    simp [Column.texts]
  exact (writtenIn_seriesColumn t).append ((t.writtenIn_grammar (by simp [grammar])).append
    ((t.writtenIn_quoted hname).append .empty))

end BucketPlan

/-- All terms of some clauses are written in the words of their table. -/
structure Clauses.WrittenIn (c : Clauses) : Prop where
  plan : ∀ p, c.plan = some p → p.column ∈ c.table.columns
  items : ∀ f ∈ c.items, f.WrittenIn c.table.vocabulary
  conditions : ∀ f ∈ c.conditions, f.WrittenIn c.table.vocabulary
  groups : ∀ f ∈ c.groups, f.WrittenIn c.table.vocabulary
  orders : ∀ f ∈ c.orders, f.WrittenIn c.table.vocabulary

/-- A draft is compiled to clauses in the words of its table, provided that a plan groups by a
column of that table. -/
theorem Draft.writtenIn_of_clauses {d : Draft} {r : Registry} {plan : Option BucketPlan}
    {c : Clauses} (h : d.clauses r plan = .ok c)
    (hplan : ∀ p, plan = some p → p.column ∈ c.table.columns) : c.WrittenIn := by
  have hsteps := fromSteps_of_clauses h
  obtain ⟨-, rfl, -⟩ := clauses_eq_ok.1 h
  refine ⟨hplan, fun f hf => ?_, fun f hf => ?_, fun f hf => ?_, fun f hf => ?_⟩
  · obtain ⟨item, i, hi⟩ := hsteps.items f hf
    exact writtenIn_of_selectFragment hi
  · obtain ⟨item, i, hi⟩ := hsteps.conditions f hf
    exact writtenIn_of_filterFragment hi
  · obtain ⟨item, i, hi⟩ := hsteps.groups f hf
    exact writtenIn_of_groupFragment hi
  · obtain ⟨item, i, hi⟩ := hsteps.orders f hf
    exact writtenIn_of_orderFragment hi

namespace Clauses

theorem writtenIn_clause {V : List String} {opening separator : String} (ho : opening ∈ V)
    (hs : separator ∈ V) {terms : List Fragment} (h : ∀ f ∈ terms, f.WrittenIn V) :
    (clause opening separator terms).WrittenIn V := by
  unfold clause
  split
  · exact .empty
  · exact (Fragment.WrittenIn.raw ho).append (.join hs h)

theorem writtenIn_limitFragment (t : Table) (v : Value) :
    (limitFragment v).WrittenIn t.vocabulary := by
  unfold limitFragment
  split
  · exact .empty
  · exact (t.writtenIn_grammar (by simp [grammar])).append (.bind v)

theorem WrittenIn.fragment {c : Clauses} (h : c.WrittenIn) :
    c.fragment.WrittenIn c.table.vocabulary := by
  -- one fact for each part of the statement, in their order
  have word {w : String} (hw : w ∈ grammar) := c.table.mem_vocabulary_of_grammar hw
  have hcolumn := writtenIn_seriesColumn c.table
  have hseries : c.seriesFragment.WrittenIn c.table.vocabulary := by
    unfold seriesFragment
    cases c.plan with
    | none => exact .empty
    | some p => exact p.writtenIn_series c.table
  have hitems : ∀ f ∈ c.allItems, f.WrittenIn c.table.vocabulary :=
    Draft.forall_mem_toList_append (fun p hp => BucketPlan.writtenIn_selectItem (h.plan p hp))
      h.items
  have hsource : c.sourceFragment.WrittenIn c.table.vocabulary := by
    unfold sourceFragment
    split
    · rename_i p hp
      exact BucketPlan.writtenIn_source (h.plan p hp)
    · exact (c.table.writtenIn_grammar (by simp [grammar])).raw_append
        (.raw c.table.source_mem_vocabulary)
  have hopening : c.conditionOpening ∈ c.table.vocabulary := by
    unfold conditionOpening
    split
    · exact word (by simp [grammar])
    · exact word (by simp [grammar])
  have hgroups : ∀ f ∈ c.allGroups, f.WrittenIn c.table.vocabulary :=
    Draft.forall_mem_toList_append (fun _ _ => hcolumn) h.groups
  have horders : ∀ f ∈ c.allOrders, f.WrittenIn c.table.vocabulary :=
    Draft.forall_mem_toList_append (fun _ _ => hcolumn.append
      (c.table.writtenIn_grammar (by simp [grammar]))) h.orders
  have hcomma : ", " ∈ c.table.vocabulary := word (by simp [grammar])
  refine .concat ?_
  simp only [List.forall_mem_cons, List.not_mem_nil, false_implies, implies_true, and_true]
  exact ⟨hseries, .raw (word (by simp [grammar])), .join hcomma hitems, hsource,
    writtenIn_clause hopening (word (by simp [grammar])) h.conditions,
    writtenIn_clause (word (by simp [grammar])) hcomma hgroups,
    writtenIn_clause (word (by simp [grammar])) hcomma horders,
    writtenIn_limitFragment c.table c.limit, .raw (word (by simp [grammar]))⟩

end Clauses
end

/-- Either nothing is compiled, or the draft is known in its table, and the text of the statement
consists of words that this table allows and of the placeholders of its parameters. -/
def Draft.Sourced (d : Draft) (r : Registry) (result : Except BuildError Statement) : Prop :=
  (∃ e, result = .error e) ∨ ∃ s t, result = .ok s ∧ r.table? d.table = some t ∧ d.Known t ∧
    WrittenIn t.vocabulary 0 s.parameters.length s.text

/-- A draft may hold any words and values. If it is compiled, for a tenant or without a plan, no
text of the statement comes from them; and without a plan it is compiled exactly if its words are
known. -/
theorem written_in_vocabulary (d : Draft) (r : Registry) (tenant : Value) :
    d.Sourced r (d.build tenant r) ∧ d.Sourced r (d.compile r none) ∧
      ((∃ s, d.compile r none = .ok s) ↔ ∃ t, r.table? d.table = some t ∧ d.Known t) := by
  refine ⟨?_, ?_, Draft.exists_compile none⟩
  · cases hs : d.build tenant r with
    | error e => exact .inl ⟨e, rfl⟩
    | ok s =>
      obtain ⟨c, hc, rfl⟩ := Draft.build_eq_ok.1 hs
      obtain ⟨own, ht, hown, hplan, hc⟩ := Draft.buildClauses_eq_ok.1 hc
      refine .inr ⟨_, c.table, rfl, ht, .of_scope hown (Draft.known_of_clauses hc), ?_⟩
      refine (Draft.writtenIn_of_clauses hc fun p hp => ?_).fragment 0
      rw [hp] at hplan
      obtain ⟨name, unit, -, -, -, -, hcol, -⟩ := Draft.plan_eq_some.1 hplan
      exact Table.mem_of_column? hcol
  · cases hs : d.compile r none with
    | error e => exact .inl ⟨e, rfl⟩
    | ok s =>
      obtain ⟨c, hc, rfl⟩ := Draft.compile_eq_ok.1 hs
      refine .inr ⟨_, c.table, rfl, (Draft.clauses_eq_ok.1 hc).1, Draft.known_of_clauses hc, ?_⟩
      refine (Draft.writtenIn_of_clauses hc fun p hp => ?_).fragment 0
      cases hp

end Dashboard
