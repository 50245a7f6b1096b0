import Dashboard.Proofs.Layout
import Dashboard.Proofs.RegistryChecks
import Dashboard.Request

/-!
# The conditions of a tenant

* `Filter.predicate` is the text of a filter, `Column.tenantPredicate` that of the comparison of a
  column with the tenant id, each with the number of its placeholder.
* `Clauses.condition_of_filter`: the `i`th filter of a compiled query becomes the `i`th condition,
  and its placeholder is bound to its value.
* `build_isolates`: the one filter clause of every statement that is built holds the filters of the
  query in their order and then one comparison with the tenant id for each tenant column of the
  table. Nothing in a query can drop, reorder or rebind these.
-/

namespace Dashboard

open Fragment (placeholder)
open Statement (parameterName)

/-! ### Texts of conditions -/

/-- The cast behind a compared value, to the type of the column or to lists of it. -/
def Column.castSuffix (c : Column) (brackets : String) : String :=
  match c.cast with
  | none => ""
  | some type => " ::\"" ++ type ++ "\"" ++ brackets

/-- The text of a comparison of the column `c` with the value of the placeholder number `k`. -/
def Column.conditionText (c : Column) (form : FilterKind) (operator : String) (k : ℕ) : String :=
  match form with
  | .options => c.internal ++ " " ++ operator ++ "(" ++ placeholder k ++ c.castSuffix "[]" ++ ")"
  | .datetime => c.internal ++ " " ++ operator ++ " " ++ placeholder k
  | _ => c.internal ++ " " ++ operator ++ " " ++ placeholder k ++ c.castSuffix ""

/-- The text of a filter on the column `c` whose placeholder has the number `k`. -/
def Filter.predicate (f : Filter) (c : Column) (k : ℕ) : String :=
  c.conditionText f.kind f.operatorSql k

/-- The text that compares the column `c` with the value of the placeholder number `k`. -/
def Column.tenantPredicate (c : Column) (k : ℕ) : String :=
  c.internal ++ " = " ++ placeholder k ++ c.castSuffix ""

theorem Filter.predicate_tenant (name tenant : String) (c : Column) (k : ℕ) :
    (Filter.string name .eq tenant).predicate c k = c.tenantPredicate k := by
  simp [Filter.predicate, Column.conditionText, Filter.kind, Filter.operatorSql,
    StringOperator.sql, Column.tenantPredicate, String.append_assoc]

namespace Draft

theorem textFrom_castFragment (c : Column) (form : FilterKind) (n : ℕ) :
    (castFragment c.cast form).textFrom n = (match form with
      | .datetime => ""
      | .options => c.castSuffix "[]"
      | _ => c.castSuffix "") := by
  unfold castFragment Column.castSuffix
  cases c.cast with
  | none => cases form <;> rfl
  | some type => cases form <;> simp [String.append_assoc]

theorem textFrom_condition (c : Column) (operator : String) (form : FilterKind) (v : Value)
    (n : ℕ) : (condition c operator form v).textFrom n = c.conditionText form operator (n + 1) := by
  unfold condition Column.conditionText
  cases form <;>
    simp [Fragment.textFrom_append, textFrom_castFragment, String.append_assoc]

end Draft

/-! ### Conditions of compiled queries -/

/-- Every condition of a compiled draft binds one value. -/
theorem Draft.length_values_conditions {d : Draft} {t : Table} {gs : List Fragment}
    (h : d.conditionFragments t = .ok gs) : ∀ g ∈ gs, g.values.length = 1 := by
  intro g hg
  obtain ⟨item, -, hitem⟩ := exists_of_mem_mapM h hg
  obtain ⟨c, op, v, -, -, -, rfl⟩ := Draft.filterFragment_eq_ok.1 hitem
  simp

/-- The `i`th filter of a query becomes the `i`th condition. Its placeholder follows those of the
bounds and of the filters before it. -/
theorem Clauses.condition_of_filter {q : Query} {r : Registry} {plan : Option BucketPlan}
    {c : Clauses} (h : q.toDraft.clauses r plan = .ok c) {i : ℕ} {f : Filter}
    (hf : q.filters[i]? = some f) :
    ∃ col, c.table.column? f.column = some col ∧
      c.layout.conditions[i]? = some (f.predicate col (c.bounds.length + i + 1)) ∧
      c.fragment.render.bindings.lookup (parameterName (c.bounds.length + i + 1)) =
        some f.value := by
  obtain ⟨-, -, -, hconds, -⟩ := Draft.clauses_eq_ok.1 h
  have hone := Draft.length_values_conditions hconds
  obtain ⟨hlen, hget⟩ := getElem?_of_mapM_zipIdx hconds
  obtain ⟨g, hg, hgf⟩ := hget i f.toDraft (by simp [Query.toDraft, hf])
  obtain ⟨col, hcol, rfl⟩ := Draft.filterFragment_toDraft.1 hgf
  refine ⟨col, hcol, ?_, ?_⟩
  · have hlayout : c.layout.conditions = Fragment.textsFrom c.bounds.length c.conditions := rfl
    rw [hlayout, Fragment.getElem?_textsFrom hone, hg, Option.map_some, Draft.textFrom_condition]
    rfl
  · have hvalue : c.conditionValues[i]? = some f.value := by
      rw [Clauses.conditionValues, Fragment.getElem?_flatMap_values hone, hg]
      simp
    have hi := (List.getElem?_eq_some_iff.1 hvalue).1
    rw [Statement.lookup_bindings,
      Clauses.render_parameters_eq (Draft.bindsInConditions_of_clauses h), List.append_assoc,
      List.getElem?_append_right (by omega), Nat.add_sub_cancel_left,
      List.getElem?_append_left hi, hvalue]

/-- There are as many conditions as filters. -/
theorem Clauses.length_conditions {q : Query} {r : Registry} {plan : Option BucketPlan}
    {c : Clauses} (h : q.toDraft.clauses r plan = .ok c) :
    c.layout.conditions.length = q.filters.length := by
  obtain ⟨-, -, -, hconds, -⟩ := Draft.clauses_eq_ok.1 h
  have hlen := (getElem?_of_mapM_zipIdx hconds).1
  simpa [Clauses.layout, Query.toDraft] using hlen

/-! ### Statements of one tenant -/

/-- The text of an expression in a condition on buckets. -/
def bucketText (unit : TemporalUnit) (expression : String) : String :=
  "DATE_TRUNC('" ++ Keyword.word unit ++ "', " ++ expression ++ ")"

theorem textFrom_dateTrunc (unit : TemporalUnit) (f : Fragment) (n : ℕ) :
    (dateTrunc unit f).textFrom n = bucketText unit (f.textFrom n) := by
  unfold bucketText
  simp [dateTrunc, Fragment.textFrom_append, String.append_assoc]

/-- A statement has one filter clause, which holds the filters of a query and then one comparison
with the tenant for each tenant column of the table: after `WHERE`, or after the condition of the
join with the series if there is one. -/
structure Clauses.Isolates (c : Clauses) (q : Query) (tenant : Value) (s : Statement) : Prop where
  text : s.text = c.layout.text
  place : match c.plan with
    | none => c.layout.source = " FROM " ++ c.table.source ∧ c.layout.opening = " WHERE "
    | some p => c.layout.source = " FROM date_series LEFT JOIN " ++ c.table.source ++ " ON " ++
        bucketText p.unit p.column.internal ++ " = " ++
        bucketText p.unit "date_series.\"date\"" ∧ c.layout.opening = " AND "
  count : c.layout.conditions.length = q.filters.length + c.table.tenantColumns.length
  filters : ∀ (i : ℕ) (f : Filter), q.filters[i]? = some f →
    ∃ col, c.table.column? f.column = some col ∧
      c.layout.conditions[i]? = some (f.predicate col (c.bounds.length + i + 1)) ∧
      s.bindings.lookup (parameterName (c.bounds.length + i + 1)) = some f.value
  tenant : ∀ (i : ℕ) (name : String), c.table.tenantColumns[i]? = some name →
    ∃ col, c.table.column? name = some col ∧
      c.layout.conditions[q.filters.length + i]? =
        some (col.tenantPredicate (c.bounds.length + (q.filters.length + i) + 1)) ∧
      s.bindings.lookup (parameterName (c.bounds.length + (q.filters.length + i) + 1)) =
        some tenant

theorem Clauses.isolates {q : Query} {r : Registry} {plan : Option BucketPlan} {c : Clauses}
    {p : String} (h : (q.scoped c.table p).toDraft.clauses r plan = .ok c) :
    c.Isolates q (.text p) c.fragment.render := by
  refine ⟨Clauses.render_text_eq (Draft.bindsInConditions_of_clauses h), ?_, ?_,
    fun i f hf => ?_, fun i name hname => ?_⟩
  · unfold Clauses.layout Clauses.sourceFragment Clauses.conditionOpening
    cases c.plan with
    | none => simp
    | some p =>
      simp [BucketPlan.source, seriesColumn, Fragment.textFrom_append, textFrom_dateTrunc,
        String.append_assoc]
  · rw [Clauses.length_conditions h]
    simp [Query.scoped]
  · refine Clauses.condition_of_filter h ?_
    have hi := (List.getElem?_eq_some_iff.1 hf).1
    simpa [Query.scoped, List.getElem?_append_left hi] using hf
  · have hf : (q.scoped c.table p).filters[q.filters.length + i]? = some (.string name .eq p) := by
      rw [Query.scoped, List.getElem?_append_right (by omega), Nat.add_sub_cancel_left]
      simp [hname]
    obtain ⟨col, hcol, hcond, hvalue⟩ := Clauses.condition_of_filter h hf
    rw [Filter.predicate_tenant] at hcond
    exact ⟨col, hcol, hcond, hvalue⟩

/-- Whatever a query asks for, the filter clause of its statement ends in the comparisons with the
tenant, of which there is at least one. -/
theorem build_isolates {doc : Document} {r : Registry} (hr : Registry.ofDocument doc = .ok r)
    {q : Query} {tenant : Value} {s : Statement} (hs : q.toDraft.build tenant r = .ok s) :
    ∃ c : Clauses, ∃ p, tenant = .text p ∧ r.table? q.table = some c.table ∧
      (q.scoped c.table p).toDraft.plan c.table = .ok c.plan ∧
      (q.scoped c.table p).toDraft.clauses r c.plan = .ok c ∧
      c.table.tenantColumns ≠ [] ∧ c.Isolates q tenant s := by
  obtain ⟨c, hc, rfl⟩ := Draft.build_eq_ok.1 hs
  obtain ⟨p, -, rfl, ht, hplan, hc⟩ := Query.buildClauses_eq_ok.1 hc
  have htable := (Registry.checked_of_ofDocument hr).tables _ (Registry.mem_of_table? ht)
  exact ⟨c, p, rfl, ht, hplan, hc, htable.tenantColumns_ne_nil, Clauses.isolates hc⟩

namespace Events

/-- A registry file with one table, whose tenant column is compared as an enumerated type. -/
def document : Document := .map [(.text "tables", .list [.map [
  (.text "name", .text "events"), (.text "source", .text "events e"),
  (.text "tenant_columns", .list [.text "owner"]),
  (.text "columns", .list [
    .map [(.text "name", .text "owner"), (.text "internal", .text "e.owner"),
      (.text "cast", .text "Owner")],
    .map [(.text "name", .text "at"), (.text "internal", .text "e.at"),
      (.text "type", .text "datetime")]])]])]

/-- The registry of the file. -/
def registry : Registry where
  version := .int 1
  tables := [{
    name := "events"
    source := "events e"
    columns := [⟨"owner", "e.owner", .string, some "Owner"⟩, ⟨"at", "e.at", .datetime, none⟩]
    tenantColumns := ["owner"] }]

theorem registry_read : Registry.ofDocument document = .ok registry := rfl

/-- The start of a day. -/
def dayStart (d : ℕ) : Timestamp := ⟨⟨2024, 1, d⟩, 0, 0, 0, 0, none⟩

/-- A query by days that asks for the rows of another tenant. -/
def foreignQuery (owner : String) : Query where
  table := "events"
  select := [⟨"owner", none⟩]
  filters := [.string "owner" .eq owner, .datetime "at" .ge (dayStart 1),
    .datetime "at" .lt (dayStart 2)]
  groups := [.datetime "at" .day]
  orders := []
  limit := none

end Events

open Events in
/-- A query with a plan that asks for the rows of `b` still compares with `a`, in the placeholder
after its two bounds and three filters. -/
theorem build_isolates_foreign : ∃ s, Registry.ofDocument document = .ok registry ∧
    (foreignQuery "b").toDraft.build (.text "a") registry = .ok s ∧
    s.bindings.lookup "p6" = some (.text "a") ∧
    ∃ c : Clauses, ∃ p, Value.text "a" = .text p ∧
      registry.table? (foreignQuery "b").table = some c.table ∧
      ((foreignQuery "b").scoped c.table p).toDraft.plan c.table = .ok c.plan ∧
      ((foreignQuery "b").scoped c.table p).toDraft.clauses registry c.plan = .ok c ∧
      c.table.tenantColumns ≠ [] ∧ c.Isolates (foreignQuery "b") (.text "a") s := by
  have hs : ∃ s, (foreignQuery "b").toDraft.build (.text "a") registry = .ok s ∧
      s.bindings.lookup "p6" = some (.text "a") := ⟨_, rfl, rfl⟩
  obtain ⟨s, hs, hp⟩ := hs
  exact ⟨s, registry_read, hs, hp, build_isolates registry_read hs⟩

end Dashboard
