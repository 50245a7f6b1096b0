import Dashboard.Proofs.GateAcceptance
import Dashboard.Proofs.OnePass
import Dashboard.Proofs.RecordMembers
import Dashboard.Proofs.RegistryLookups
import Dashboard.Proofs.SessionTrace

/-!
# Names of outputs

A row of a result holds one cell for each name, so two outputs that come out under one name cost the
row a cell.

* `Output` is a column, aggregated or not, and `Output.Collides` lists the ways in which two outputs
  come out under one name. `Output.name_eq_iff` proves that there is no other way: no aggregation in
  lower case is the start of another one, so a name tells which aggregation it begins with.
* `Fields.field?_ofList` and `Fields.ofList_of_nodup` say what setting fields one after the other
  comes to.
* `Query.Selects` says which outputs a statement has. `Row.Keeps` says that a row has the names of
  some outputs and loses a cell only to an output that collides.
* `rows_keep_outputs`: this is so of all rows that the execution of a built statement gives.
-/

namespace Dashboard

/-! ### Names that collide -/

/-- An output of a statement: a column, aggregated or not. -/
structure Output where
  agg : Option Aggregation
  column : Column

/-- The name that an output comes out under. -/
def Output.name (o : Output) : String := columnAlias o.column.name (o.agg.map Keyword.word)

namespace Aggregation

/-- The aggregations that pick the value of a rank. -/
def percentiles : List Aggregation := [p50, p75, p90, p95, p99]

/-- What a name begins with if its column is aggregated. -/
def lead (a : Aggregation) : List Char := Text.lower (Keyword.word a).toList

theorem eq_of_lead_isPrefix {a b : Aggregation} (h : a.lead <+: b.lead) : a = b := by
  revert h
  cases a <;> cases b <;> decide

/-- No name of a column begins like that of a percentile. -/
theorem head?_lead {a : Aggregation} (h : a ∈ percentiles) :
    ∃ c, a.lead.head? = some c ∧ isIdentifierStart c = false := by
  simp only [percentiles, List.mem_cons, List.not_mem_nil, or_false] at h
  rcases h with rfl | rfl | rfl | rfl | rfl
  · exact ⟨'5', by decide, by decide⟩
  · exact ⟨'7', by decide, by decide⟩
  all_goals exact ⟨'9', by decide, by decide⟩

end Aggregation

/-- Two names that differ, but only in the case of their first letters. -/
def CaseTwins (s t : String) : Prop :=
  ∃ c d r, s.toList = c :: r ∧ t.toList = d :: r ∧ c ≠ d ∧ c.toUpper = d.toUpper

namespace Output

/-- The ways in which two outputs come out under one name. -/
inductive Collides : Output → Output → Prop
  | same (o : Output) : Collides o o
  | letter {a : Aggregation} {c d : Column} (h : CaseTwins c.name d.name) :
      Collides ⟨some a, c⟩ ⟨some a, d⟩
  | plainFirst {a : Aggregation} {c d : Column} (ha : a ∉ Aggregation.percentiles)
      (h : c.name = name ⟨some a, d⟩) : Collides ⟨none, c⟩ ⟨some a, d⟩
  | plainSecond {a : Aggregation} {c d : Column} (ha : a ∉ Aggregation.percentiles)
      (h : c.name = name ⟨some a, d⟩) : Collides ⟨some a, d⟩ ⟨none, c⟩

theorem upper_of_isIdentifierStart {c : Char} (h : isIdentifierStart c = true) :
    Text.upper [c] = [c.toUpper] :=
  forall_isIdentifierStart (P := fun c => Text.upper [c] = [c.toUpper]) (by decide) h

/-- A name begins with the aggregation, and goes on with the name of the column in which the first
letter is a capital. -/
theorem exists_toList_name {c : Column} (h : c.Named) : ∃ x r, c.name.toList = x :: r ∧
    isIdentifierStart x = true ∧
    ∀ a : Aggregation, (name ⟨some a, c⟩).toList = a.lead ++ x.toUpper :: r := by
  have hname := h.name
  match hc : c.name.toList with
  | [] =>
    rw [hc] at hname
    cases hname
  | x :: r =>
    rw [hc, isIdentifier, Bool.and_eq_true] at hname
    refine ⟨x, r, rfl, hname.1, fun a => ?_⟩
    have hupper : Text.upper (c.name.toList.take 1) = [x.toUpper] := by
      rw [hc]
      exact upper_of_isIdentifierStart hname.1
    rw [name, Option.map_some, columnAlias, String.toList_ofList, hupper, hc, List.append_assoc]
    rfl

/-- Two aggregated columns come out under one name only if the aggregation is the same and the
columns have one name but for the case of the first letter. -/
theorem name_aggregated_eq_iff {c d : Column} (hc : c.Named) (hd : d.Named) {a b : Aggregation} :
    name ⟨some a, c⟩ = name ⟨some b, d⟩ ↔ a = b ∧ (c.name = d.name ∨ CaseTwins c.name d.name) := by
  obtain ⟨x, r, hcx, -, hcname⟩ := exists_toList_name hc
  obtain ⟨y, s, hdy, -, hdname⟩ := exists_toList_name hd
  rw [← String.toList_inj, hcname, hdname]
  constructor
  · intro h
    have hab : a = b := by
      rcases List.prefix_or_prefix_of_prefix (h ▸ List.prefix_append a.lead _)
        (List.prefix_append b.lead _) with hlead | hlead
      · exact Aggregation.eq_of_lead_isPrefix hlead
      · exact (Aggregation.eq_of_lead_isPrefix hlead).symm
    subst hab
    obtain ⟨hxy, rfl⟩ := List.cons.inj (List.append_cancel_left h)
    refine ⟨rfl, ?_⟩
    by_cases hx : x = y
    · exact .inl (String.toList_inj.1 (by rw [hcx, hdy, hx]))
    · exact .inr ⟨x, y, r, hcx, hdy, hx, hxy⟩
  · rintro ⟨rfl, hname | ⟨x', y', r', hcx', hdy', -, hxy⟩⟩
    · rw [hname, hdy] at hcx
      obtain ⟨rfl, rfl⟩ := List.cons.inj hcx
      rfl
    · rw [hcx'] at hcx
      rw [hdy'] at hdy
      obtain ⟨rfl, rfl⟩ := List.cons.inj hcx
      obtain ⟨rfl, rfl⟩ := List.cons.inj hdy
      rw [hxy]

/-- The name of a column is never that of a percentile, which begins with a digit. -/
theorem name_ne_percentile {c d : Column} (hc : c.Named) (hd : d.Named) {a : Aggregation}
    (ha : a ∈ Aggregation.percentiles) : c.name ≠ name ⟨some a, d⟩ := by
  intro h
  obtain ⟨x, r, hcx, hx, -⟩ := exists_toList_name hc
  obtain ⟨y, s, -, -, hdname⟩ := exists_toList_name hd
  obtain ⟨z, hlead, hz⟩ := Aggregation.head?_lead ha
  have hhead : (name ⟨some a, d⟩).toList.head? = some x := by rw [← h, hcx, List.head?_cons]
  rw [hdname, List.head?_append, hlead, Option.some_or] at hhead
  obtain rfl : z = x := Option.some.inj hhead
  exact absurd hx (by simp [hz])

/-- Outputs of a table come out under one name exactly in the ways that are listed. -/
theorem name_eq_iff {t : Table} (hnodup : t.columnNames.Nodup) (hnamed : ∀ c ∈ t.columns, c.Named)
    {o o' : Output} (ho : o.column ∈ t.columns) (ho' : o'.column ∈ t.columns) :
    o.name = o'.name ↔ o.Collides o' := by
  obtain ⟨agg, c⟩ := o
  obtain ⟨agg', d⟩ := o'
  have hc := hnamed c ho
  have hd := hnamed d ho'
  have hcd : c.name = d.name ↔ c = d :=
    ⟨List.inj_on_of_nodup_map hnodup ho ho', congrArg Column.name⟩
  cases agg with
  | none =>
    cases agg' with
    | none =>
      refine hcd.trans ⟨?_, ?_⟩
      · rintro rfl
        exact .same _
      · rintro ⟨⟩
        rfl
    | some a =>
      constructor
      · intro h
        exact .plainFirst (fun ha => name_ne_percentile hc hd ha h) h
      · rintro (_ | _ | ⟨-, h⟩)
        exact h
  | some a =>
    cases agg' with
    | none =>
      constructor
      · intro h
        exact .plainSecond (fun ha => name_ne_percentile hd hc ha h.symm) h.symm
      · rintro (_ | _ | _ | ⟨-, h⟩)
        exact h.symm
    | some b =>
      rw [name_aggregated_eq_iff hc hd, hcd]
      constructor
      · rintro ⟨rfl, rfl | htwins⟩
        · exact .same _
        · exact .letter htwins
      · rintro (_ | htwins)
        · exact ⟨rfl, .inl rfl⟩
        · exact ⟨rfl, .inr htwins⟩

end Output

/-! ### Fields set one after the other -/

namespace Fields

variable {α : Type}

theorem field?_cons (n : String) (f : String × α) (fields : Fields α) :
    field? n (f :: fields) = if n = f.1 then some f.2 else field? n fields := by
  obtain ⟨k, v⟩ := f
  by_cases h : n = k
  · subst h
    simp [field?]
  · have hne : (n == k) = false := by simpa using h
    simp [field?, List.lookup_cons, hne, h]

theorem field?_put (n m : String) (v : α) (fields : Fields α) :
    field? n (put m v fields) = if n = m then some v else field? n fields := by
  induction fields with
  | nil => exact field?_cons n (m, v) []
  | cons f fields ih =>
    unfold put
    by_cases hf : f.1 = m
    · by_cases hn : n = m <;> simp [field?_cons, hf, hn]
    · by_cases hn : n = f.1
      · simp [field?_cons, hf, hn]
      · simp [field?_cons, hf, hn, ih]

theorem put_of_notMem {n : String} {v : α} {fields : Fields α} (h : n ∉ fields.map Prod.fst) :
    put n v fields = fields ++ [(n, v)] := by
  induction fields with
  | nil => rfl
  | cons f fields ih =>
    rw [List.map_cons, List.mem_cons, not_or] at h
    rw [put, if_neg (by simpa using Ne.symm h.1), ih h.2, List.cons_append]

theorem ofList_concat (entries : List (String × α)) (e : String × α) :
    ofList (entries ++ [e]) = put e.1 e.2 (ofList entries) := by
  rw [ofList, List.foldl_concat]
  rfl

/-- A field has the value that was set last. -/
theorem field?_ofList (entries : List (String × α)) (n : String) :
    field? n (ofList entries) = field? n entries.reverse := by
  induction entries using List.reverseRecOn with
  | nil => rfl
  | append_singleton entries e ih =>
    rw [ofList_concat, field?_put, ih, List.reverse_concat, field?_cons]

/-- Fields under different names stay as they were set. -/
theorem ofList_of_nodup {entries : List (String × α)} (h : (entries.map Prod.fst).Nodup) :
    ofList entries = entries := by
  induction entries using List.reverseRecOn with
  | nil => rfl
  | append_singleton entries e ih =>
    rw [List.map_append, List.nodup_append] at h
    have hlast : e.1 ∉ entries.map Prod.fst := fun he => h.2.2 _ he _ (by simp) rfl
    rw [ofList_concat, ih h.1, put_of_notMem hlast]

/-- An entry whose name no later one bears is there. -/
theorem field?_ofList_of_last {entries : List (String × α)} {i : ℕ} {e : String × α}
    (he : entries[i]? = some e)
    (hlast : ∀ j > i, ∀ e', entries[j]? = some e' → e'.1 ≠ e.1) :
    field? e.1 (ofList entries) = some e.2 := by
  induction entries using List.reverseRecOn with
  | nil => cases he
  | append_singleton entries last ih =>
    rw [ofList_concat, field?_put]
    by_cases hi : i < entries.length
    · have hne : last.1 ≠ e.1 := hlast entries.length hi last List.getElem?_concat_length
      rw [if_neg hne.symm]
      refine ih (by rwa [List.getElem?_append_left hi] at he) fun j hj e' he' => hlast j hj e' ?_
      rwa [List.getElem?_append_left (List.getElem?_eq_some_iff.1 he').1]
    · rw [List.getElem?_append_right (not_lt.1 hi)] at he
      obtain rfl : e = last := by simpa using (List.getElem?_eq_some_iff.1 he).2.symm
      rw [if_pos rfl]

end Fields

/-! ### Outputs of a statement -/

/-- The output of a selected column. -/
def Table.output? (t : Table) (item : SelectItem) : Option Output :=
  (t.column? item.column).map (Output.mk item.agg)

/-- The outputs of a query: the date of the bucket if there is a plan, and then what it selects. -/
def Query.outputs (q : Query) (t : Table) (plan : Option BucketPlan) : List Output :=
  (plan.map fun p => ⟨none, p.column⟩).toList ++ q.select.filterMap t.output?

/-- An output is written under its name. -/
def Output.WrittenAs (o : Output) (text : String) : Prop :=
  ∃ expression, text = expression ++ " AS " ++ "\"" ++ o.name ++ "\""

/-- A statement selects the outputs of a query, one for the plan and one for each selected column,
each of them a column of the table. -/
structure Query.Selects (q : Query) (c : Clauses) : Prop where
  length : (q.outputs c.table c.plan).length = c.plan.toList.length + q.select.length
  written : List.Forall₂ Output.WrittenAs (q.outputs c.table c.plan) c.layout.items
  columns : ∀ o ∈ q.outputs c.table c.plan, o.column ∈ c.table.columns

namespace Query

/-- A text of a selected column is that of its output. -/
theorem exists_output_of_selectText {t : Table} {item : SelectItem} {text : String}
    (h : Draft.SelectText t ⟨item.column, item.agg.map Keyword.word⟩ text) :
    ∃ o, t.output? item = some o ∧ o.WrittenAs text := by
  obtain ⟨c, a, hc, ha, rfl⟩ := h
  exact ⟨⟨item.agg, c⟩, by rw [Table.output?, hc]; rfl, _, rfl⟩

theorem outputs_of_selectTexts {t : Table} {items : List SelectItem} {texts : List String}
    (h : List.Forall₂ (Draft.SelectText t)
      (items.map fun item => ⟨item.column, item.agg.map Keyword.word⟩) texts) :
    (items.filterMap t.output?).length = items.length ∧
      List.Forall₂ Output.WrittenAs (items.filterMap t.output?) texts := by
  induction items generalizing texts with
  | nil =>
    cases h
    exact ⟨rfl, .nil⟩
  | cons item items ih =>
    cases h with
    | cons htext h =>
      obtain ⟨o, ho, hwritten⟩ := exists_output_of_selectText htext
      obtain ⟨hlength, hforall⟩ := ih h
      rw [List.filterMap_cons_some ho]
      exact ⟨congrArg (· + 1) hlength, .cons hwritten hforall⟩

theorem column_of_mem_outputs {q : Query} {t : Table} {plan : Option BucketPlan}
    (hplan : ∀ p, plan = some p → p.column ∈ t.columns) {o : Output}
    (ho : o ∈ q.outputs t plan) : o.column ∈ t.columns := by
  rcases List.mem_append.1 ho with ho | ho
  · obtain ⟨p, hp, rfl⟩ := Option.map_eq_some_iff.1 (Option.mem_toList.1 ho)
    exact hplan p hp
  · obtain ⟨item, -, ho⟩ := List.mem_filterMap.1 ho
    obtain ⟨c, hc, rfl⟩ := Option.map_eq_some_iff.1 ho
    exact Table.mem_of_column? hc

/-- Every statement that is built selects the outputs of its query. -/
theorem selects_of_buildClauses {q : Query} {tenant : Value} {r : Registry} {c : Clauses}
    (h : q.toDraft.buildClauses tenant r = .ok c) : q.Selects c := by
  obtain ⟨p, -, -, -, hplan, hc⟩ := Query.buildClauses_eq_ok.1 h
  obtain ⟨texts, htexts, hitems⟩ := (Draft.written_of_clauses hc).items
  obtain ⟨hlength, hwritten⟩ := outputs_of_selectTexts htexts
  refine ⟨?_, ?_, fun o ho => column_of_mem_outputs (fun p hp => ?_) ho⟩
  · rw [outputs, List.length_append]
    refine congrArg₂ _ ?_ hlength
    cases c.plan <;> rfl
  · rw [outputs, hitems]
    cases c.plan with
    | none => exact hwritten
    | some p => exact .cons ⟨_, rfl⟩ hwritten
  · rw [hp] at hplan
    obtain ⟨name, _, -, -, -, -, hcolumn, -⟩ := Draft.plan_eq_some.1 hplan
    exact Table.mem_of_column? hcolumn

end Query

/-! ### Rows of a result -/

/-- A database names the columns of a result by the outputs of a statement, and every row has a cell
for each of them. -/
structure Backend.Answers (b : Backend) (os : List Output) : Prop where
  columns : b.columns = os.map Output.name
  rows : ∀ cells ∈ b.rows, cells.length = os.length

/-- A row has the names of some outputs and no others. Outputs that do not collide have different
names, and an output has its own cell unless it collides with a later one. -/
structure Row.Keeps (row : Row) (os : List Output) (cells : List Value) : Prop where
  names : ∀ name, (row.field? name).isSome = true ↔ ∃ o ∈ os, o.name = name
  apart : ∀ o ∈ os, ∀ o' ∈ os, ¬o.Collides o' → o.name ≠ o'.name
  cell : ∀ (i : ℕ) (o : Output), os[i]? = some o →
    (∀ j > i, ∀ o', os[j]? = some o' → ¬o.Collides o') → row.field? o.name = cells[i]?
  whole : os.Pairwise (fun o o' : Output => ¬o.Collides o') → row = (os.map Output.name).zip cells

/-- If names collide in the listed ways only, a row that is made of names and cells keeps them. -/
theorem Row.keeps_of_name_eq_iff {os : List Output}
    (h : ∀ o ∈ os, ∀ o' ∈ os, (o.name = o'.name ↔ o.Collides o')) {cells : List Value}
    (hcells : cells.length = os.length) :
    Row.Keeps (Fields.ofList ((os.map Output.name).zip cells)) os cells := by
  have hnames : (((os.map Output.name).zip cells).map Prod.fst) = os.map Output.name :=
    List.map_fst_zip (by rw [List.length_map, hcells])
  refine ⟨fun name => ?_, fun o ho o' ho' hcollides => mt (h o ho o' ho').1 hcollides,
    fun i o ho hlast => ?_, fun hpairwise => Fields.ofList_of_nodup ?_⟩
  · have hmem : name ∈ ((os.map Output.name).zip cells).map Prod.fst ↔
        name ∈ os.map Output.name := by rw [hnames]
    rw [List.mem_map, List.mem_map] at hmem
    rw [Fields.field?_ofList, Fields.field?_isSome]
    simpa only [List.mem_reverse] using hmem
  · have hi : i < cells.length := hcells ▸ (List.getElem?_eq_some_iff.1 ho).1
    have hentry : ((os.map Output.name).zip cells)[i]? = some (o.name, cells[i]) := by
      simp [List.getElem?_zip_eq_some, ho, hi]
    rw [List.getElem?_eq_getElem hi]
    refine Fields.field?_ofList_of_last hentry fun j hj e he hname => ?_
    obtain ⟨hej, -⟩ := List.getElem?_zip_eq_some.1 he
    rw [List.getElem?_map] at hej
    obtain ⟨o', ho', hname'⟩ := Option.map_eq_some_iff.1 hej
    refine hlast j hj o' ho' ((h o (List.mem_of_getElem? ho) o' (List.mem_of_getElem? ho')).1 ?_)
    exact (hname'.trans hname).symm
  · rw [hnames]
    refine List.pairwise_map.2 (hpairwise.imp_of_mem fun ho ho' hcollides => ?_)
    exact mt (h _ ho _ ho').1 hcollides

/-- Two outputs of a table come out under one name only if they are the same, if one aggregation is
over columns whose names differ in the case of the first letter, or if a column bears the name of an
aggregated one, which is no percentile. All other outputs of a statement keep their cells in the
rows of its result. -/
theorem rows_keep_outputs {doc : Document} {r : Registry} (hr : Registry.ofDocument doc = .ok r) :
    (∀ t ∈ r.tables, ∀ o o' : Output, o.column ∈ t.columns → o'.column ∈ t.columns →
      (o.name = o'.name ↔ o.Collides o')) ∧
    ∀ (q : Query) (tenant : Value) (s : Statement), q.toDraft.build tenant r = .ok s →
      ∃ c, q.toDraft.buildClauses tenant r = .ok c ∧ s.text = c.layout.text ∧ q.Selects c ∧
        ∀ (session : Session) (settings : Settings) (b : Backend) (timeout : Value)
          (rows : List Row), b.Answers (q.outputs c.table c.plan) →
          (session.execute settings b s timeout).1.result = .ok rows →
          List.Forall₂ (fun cells row => Row.Keeps row (q.outputs c.table c.plan) cells)
            b.rows rows := by
  have hnames : ∀ t ∈ r.tables, ∀ o o' : Output, o.column ∈ t.columns → o'.column ∈ t.columns →
      (o.name = o'.name ↔ o.Collides o') := fun t ht o o' ho ho' =>
    Output.name_eq_iff ((Registry.sound_of_ofDocument hr).tables t ht).columns_nodup
      (Registry.named_of_ofDocument hr t ht) ho ho'
  refine ⟨hnames, fun q tenant s hs => ?_⟩
  obtain ⟨c, hc, rfl⟩ := Draft.build_eq_ok.1 hs
  obtain ⟨p, -, -, ht, -, hclauses⟩ := Query.buildClauses_eq_ok.1 hc
  have hselects := Query.selects_of_buildClauses hc
  refine ⟨c, hc, Clauses.render_text_eq (Draft.bindsInConditions_of_clauses hclauses), hselects,
    fun session settings b timeout rows hanswers hrows => ?_⟩
  obtain ⟨-, -, -, rfl⟩ := Session.execute_eq_ok.1 hrows
  rw [List.forall₂_map_right_iff, hanswers.columns]
  refine List.forall₂_same.2 fun cells hcells => Row.keeps_of_name_eq_iff (fun o ho o' ho' => ?_)
    (hanswers.rows cells hcells)
  exact hnames c.table (Registry.mem_of_table? ht) o o' (hselects.columns o ho)
    (hselects.columns o' ho')

namespace Events

/-- A registry file with two columns whose names differ in the case of the first letter. -/
def twinDocument : Document := .map [(.text "tables", .list [.map [
  (.text "name", .text "events"), (.text "source", .text "events e"),
  (.text "tenant_columns", .list [.text "owner"]),
  (.text "columns", .list [
    .map [(.text "name", .text "owner"), (.text "internal", .text "e.owner")],
    .map [(.text "name", .text "id"), (.text "internal", .text "e.id")],
    .map [(.text "name", .text "Id"), (.text "internal", .text "e.other_id")]])]])]

/-- The first of the two columns. -/
def smallColumn : Column := ⟨"id", "e.id", .string, none⟩

/-- The second of the two columns. -/
def capitalColumn : Column := ⟨"Id", "e.other_id", .string, none⟩

/-- The table of the file. -/
def twinTable : Table where
  name := "events"
  source := "events e"
  columns := [⟨"owner", "e.owner", .string, none⟩, smallColumn, capitalColumn]
  tenantColumns := ["owner"]

/-- A query that selects the two columns as they are, and counts them both. -/
def twinQuery : Query where
  table := "events"
  select := [⟨"id", none⟩, ⟨"Id", none⟩, ⟨"id", some .count⟩, ⟨"Id", some .count⟩]
  filters := []
  groups := []
  orders := []
  limit := none

/-- A database that answers with one row. -/
def twinBackend : Backend where
  columns := ["id", "Id", "countId", "countId"]
  rows := [[.int 1, .int 2, .int 3, .int 4]]
  failure := fun _ => none

end Events

open Events in
/-- The counts of the two columns collide and leave one cell; the columns themselves do not. -/
theorem rows_keep_outputs_twins : Registry.ofDocument twinDocument = .ok ⟨.int 1, [twinTable]⟩ ∧
    Output.name ⟨some .count, smallColumn⟩ = Output.name ⟨some .count, capitalColumn⟩ ∧
    ∃ s rows, twinQuery.toDraft.build (.text "a") ⟨.int 1, [twinTable]⟩ = .ok s ∧
      (Session.execute ⟨false⟩ .standard twinBackend s .null).1.result = .ok rows ∧
      rows = [[("id", .int 1), ("Id", .int 2), ("countId", .int 4)]] ∧
      List.Forall₂ (fun cells row => Row.Keeps row (twinQuery.outputs twinTable none) cells)
        twinBackend.rows rows := by
  have hread : Registry.ofDocument twinDocument = .ok ⟨.int 1, [twinTable]⟩ := rfl
  have hbuild : ∃ s, twinQuery.toDraft.build (.text "a") ⟨.int 1, [twinTable]⟩ = .ok s := ⟨_, rfl⟩
  have hclauses : ∃ c, twinQuery.toDraft.buildClauses (.text "a") ⟨.int 1, [twinTable]⟩ = .ok c ∧
      c.table = twinTable ∧ c.plan = none := ⟨_, rfl, rfl, rfl⟩
  have hlimit : (timeoutOf (.int 10000)).bind Session.writable = .ok 10000 := by
    have hwritable : isWritable 10000 = true := by decide +kernel
    simp [timeoutOf, Session.writable, hwritable, pure, Except.pure, Except.bind]
  have hurl := Settings.exists_databaseUrl (s := .standard) (by decide +kernel)
  obtain ⟨s, hs⟩ := hbuild
  obtain ⟨c, hc, htable, hplan⟩ := hclauses
  have hexecute : (Session.execute ⟨false⟩ .standard twinBackend s .null).1.result =
      .ok [[("id", .int 1), ("Id", .int 2), ("countId", .int 4)]] :=
    Session.execute_eq_ok.2 ⟨.inr hurl, ⟨_, hlimit⟩, ⟨rfl, rfl, rfl⟩, rfl⟩
  obtain ⟨hnames, hrows⟩ := rows_keep_outputs hread
  obtain ⟨c', hc', -, -, hrows⟩ := hrows twinQuery (.text "a") s hs
  cases hc.symm.trans hc'
  rw [htable, hplan] at hrows
  refine ⟨hread, ?_, s, _, hs, hexecute, rfl, hrows _ _ _ _ _ ⟨rfl, ?_⟩ hexecute⟩
  · refine (hnames twinTable (by simp) _ _ (by simp [twinTable]) (by simp [twinTable])).2 ?_
    exact .letter ⟨'i', 'I', ['d'], rfl, rfl, by decide, by decide⟩
  · simp [twinBackend]
    rfl

end Dashboard
