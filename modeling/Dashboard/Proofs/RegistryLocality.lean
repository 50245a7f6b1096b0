import Dashboard.Proofs.RegistryLookups

/-!
# What building reads of a registry

A statement is built from one table, and from those of its columns that the query or the tenant
filters name. Nothing else in a registry has any effect.

* `Table.AgreesOn` says that two tables have the same source and tenant columns, and that look-ups
  of some names come to the same in both. Each step of the compiler then does the same with either:
  `Draft.itemFragments_congr` and its siblings for the other clauses, `Draft.plan_of_agreesOn`.
* `Draft.build_congr` composes them.
* `Query.SeesAlike` says the same of what stands in the tables rather than of look-ups. In a table
  that was read a name has at most one column, so look-ups then agree (`Query.SeesAlike.agreesOn`).
* `build_local`: whatever else two registries hold, and in whatever order, a query comes to the same
  statement with either, or to the same error.
-/

namespace Dashboard

/-- A traversal depends on what is done at its entries alone. -/
theorem mapM_congr {ε α β : Type} {f g : α → Except ε β} {xs : List α} (h : ∀ x ∈ xs, f x = g x) :
    xs.mapM f = xs.mapM g := by
  induction xs with
  | nil => rfl
  | cons x xs ih =>
    obtain ⟨hx, hxs⟩ := List.forall_mem_cons.1 h
    rw [List.mapM_cons, List.mapM_cons, hx, ih hxs]

theorem mapM_zipIdx_congr {ε α β : Type} {f g : α × ℕ → Except ε β} {xs : List α}
    (h : ∀ x ∈ xs, ∀ i, f (x, i) = g (x, i)) : xs.zipIdx.mapM f = xs.zipIdx.mapM g :=
  mapM_congr fun p hp =>
    h p.1 (List.mem_of_getElem? (List.mem_zipIdx_iff_getElem?.1 hp)) p.2

/-! ### Tables that agree -/

/-- Two tables with one name, source and tenant columns, in which look-ups of some names come to the
same. -/
structure Table.AgreesOn (t u : Table) (names : List String) : Prop where
  name : t.name = u.name
  source : t.source = u.source
  tenantColumns : t.tenantColumns = u.tenantColumns
  column? : ∀ n ∈ names, t.column? n = u.column? n

namespace Table.AgreesOn

variable {t u : Table} {names : List String}

theorem mono (h : t.AgreesOn u names) {fewer : List String} (hsub : ∀ n ∈ fewer, n ∈ names) :
    t.AgreesOn u fewer :=
  ⟨h.name, h.source, h.tenantColumns, fun n hn => h.column? n (hsub n hn)⟩

theorem resolveColumn (h : t.AgreesOn u names) {n : String} (hn : n ∈ names)
    (field : Option String) : t.resolveColumn n field = u.resolveColumn n field := by
  unfold Table.resolveColumn
  rw [h.column? n hn, h.name]

end Table.AgreesOn

namespace Draft

/-- All columns that a draft names. -/
def columns (d : Draft) : List String :=
  d.select.map Select.column ++ d.filters.map Filter.column ++ d.groups.map Group.column ++
    d.orders.map Order.column

variable {d : Draft} {t u : Table}

theorem mem_columns {n : String} : n ∈ d.columns ↔
    (∃ s ∈ d.select, s.column = n) ∨ (∃ f ∈ d.filters, f.column = n) ∨
      (∃ g ∈ d.groups, g.column = n) ∨ ∃ o ∈ d.orders, o.column = n := by
  simp only [columns, List.mem_append, List.mem_map, or_assoc]

/-! ### Clauses -/

section

variable (h : t.AgreesOn u d.columns)
include h

theorem itemFragments_congr : d.itemFragments t = d.itemFragments u := by
  refine mapM_zipIdx_congr fun s hs i => ?_
  have hcolumn : s.column ∈ d.columns := mem_columns.2 (.inl ⟨s, hs, rfl⟩)
  simp only [selectFragment, h.resolveColumn hcolumn]

theorem conditionFragments_congr : d.conditionFragments t = d.conditionFragments u := by
  refine mapM_zipIdx_congr fun f hf i => ?_
  have hcolumn : f.column ∈ d.columns := mem_columns.2 (.inr (.inl ⟨f, hf, rfl⟩))
  simp only [filterFragment, h.resolveColumn hcolumn]

theorem groupFragments_congr (planned : Bool) :
    d.groupFragments t planned = d.groupFragments u planned := by
  unfold groupFragments
  congr 1
  refine mapM_zipIdx_congr fun g hg i => ?_
  have hcolumn : g.column ∈ d.columns := mem_columns.2 (.inr (.inr (.inl ⟨g, hg, rfl⟩)))
  simp only [groupFragment, h.resolveColumn hcolumn]

theorem orderFragments_congr : d.orderFragments t = d.orderFragments u := by
  refine mapM_zipIdx_congr fun o ho i => ?_
  have hcolumn : o.column ∈ d.columns := mem_columns.2 (.inr (.inr (.inr ⟨o, ho, rfl⟩)))
  simp only [orderFragment, h.resolveColumn hcolumn]

/-- The planner looks up the column of the datetime grouping and no other. -/
theorem plan_of_agreesOn : d.plan t = d.plan u := by
  unfold plan
  split
  · rfl
  · rfl
  · rename_i name unit hgroups
    have hmem : (name, unit) ∈ d.datetimeGroups := hgroups ▸ List.mem_singleton_self _
    have hcolumn : name ∈ d.columns := by
      obtain ⟨g, hg, heq⟩ := List.mem_filterMap.1 hmem
      cases g with
      | categorical column => cases heq
      | datetime column unit' =>
        cases heq
        exact mem_columns.2 (.inr (.inr (.inl ⟨_, hg, rfl⟩)))
    rw [h.resolveColumn hcolumn]

end

end Draft

/-! ### Statements -/

/-- Of the table, the clauses put only the source into a statement. -/
theorem Clauses.fragment_withTable (c : Clauses) {u : Table} (h : c.table.source = u.source) :
    ({ c with table := u } : Clauses).fragment = c.fragment := by
  have hsource : ({ c with table := u } : Clauses).sourceFragment = c.sourceFragment := by
    unfold sourceFragment BucketPlan.source
    rw [h]
  unfold fragment
  rw [hsource]
  rfl

namespace Draft

variable {d : Draft} {r r' : Registry} {t u : Table}

theorem clauses_of_table (ht : r.table? d.table = some t) (plan : Option BucketPlan) :
    d.clauses r plan = (do
      let items ← d.itemFragments t
      let conditions ← d.conditionFragments t
      let groups ← d.groupFragments t plan.isSome
      let orders ← d.orderFragments t
      return { table := t, plan, items, conditions, groups, orders, limit := d.limit }) := by
  have ht : lookedUp (r.resolveTable d.table) = .ok t :=
    lookedUp_eq_ok.2 (Registry.resolveTable_eq_ok.2 ht)
  rw [clauses, ht]
  rfl

theorem compile_congr (ht : r.table? d.table = some t) (hu : r'.table? d.table = some u)
    (h : t.AgreesOn u d.columns) (plan : Option BucketPlan) :
    d.compile r plan = d.compile r' plan := by
  rw [compile, compile, clauses_of_table ht, clauses_of_table hu, itemFragments_congr h,
    conditionFragments_congr h, groupFragments_congr h, orderFragments_congr h]
  simp only [bind_assoc, pure_bind]
  refine bind_congr fun items => bind_congr fun conditions => bind_congr fun groups =>
    bind_congr fun orders => ?_
  exact congrArg (fun f => pure (Fragment.render f)) (Clauses.fragment_withTable
    ⟨t, plan, items, conditions, groups, orders, d.limit⟩ h.source).symm

/-- Scoping adds the tenant columns to those that a draft names. -/
theorem columns_of_scope {tenant : Value} {own : Draft} (h : d.scope t tenant = .ok own)
    {n : String} (hn : n ∈ own.columns) : n ∈ d.columns ++ t.tenantColumns := by
  obtain ⟨mandatory, hmandatory, hown⟩ := bind_eq_ok.1 h
  obtain ⟨p, -, -, rfl⟩ := Table.tenantFilters_eq_ok.1 hmandatory
  obtain rfl := pure_eq_ok.1 hown
  rw [List.mem_append, mem_columns]
  rcases mem_columns.1 hn with hs | ⟨f, hf, rfl⟩ | hg
  · exact .inl (.inl hs)
  · rcases List.mem_append.1 hf with hf | hf
    · exact .inl (.inr (.inl ⟨f, hf, rfl⟩))
    · obtain ⟨m, hm, rfl⟩ := List.mem_map.1 hf
      obtain ⟨c, hc, rfl⟩ := List.mem_map.1 hm
      exact .inr hc
  · exact .inl (.inr (.inr hg))

/-- A statement is built from the table of the draft alone, and from those of its columns that the
draft or the filters of the tenant name. -/
theorem build_congr (ht : r.table? d.table = some t) (hu : r'.table? d.table = some u)
    (h : t.AgreesOn u (d.columns ++ t.tenantColumns)) (tenant : Value) :
    d.build tenant r = d.build tenant r' := by
  have ht' : lookedUp (r.resolveTable d.table) = .ok t :=
    lookedUp_eq_ok.2 (Registry.resolveTable_eq_ok.2 ht)
  have hu' : lookedUp (r'.resolveTable d.table) = .ok u :=
    lookedUp_eq_ok.2 (Registry.resolveTable_eq_ok.2 hu)
  have hscope : d.scope t tenant = d.scope u tenant := by
    unfold scope Table.tenantFilters
    rw [h.tenantColumns]
  rw [build, build, ht', hu']
  show (lookedUp (d.scope t tenant) >>= _) = (lookedUp (d.scope u tenant) >>= _)
  rw [← hscope]
  cases hown : d.scope t tenant with
  | error e => rfl
  | ok own =>
    have hown' : t.AgreesOn u own.columns := h.mono fun n hn => columns_of_scope hown hn
    have htable : own.table = d.table := by
      obtain ⟨mandatory, -, hscope⟩ := bind_eq_ok.1 hown
      rw [pure_eq_ok.1 hscope]
    show (lookedUp (own.plan t) >>= _) = (lookedUp (own.plan u) >>= _)
    rw [plan_of_agreesOn hown']
    refine bind_congr fun plan => compile_congr ?_ ?_ hown' plan
    · rw [htable, ht]
    · rw [htable, hu]

end Draft

/-! ### Registries that were read -/

theorem Query.columns_toDraft (q : Query) : q.toDraft.columns = q.columns := by
  simp only [Draft.columns, columns, toDraft, List.map_map, Function.comp_def, Filter.toDraft,
    column_toDraft]

/-- Two tables show a query the same: they have one name, source and list of tenant columns, and the
columns that the query names and the tenant columns are there with the same definitions, or are
missing in both. -/
structure Query.SeesAlike (q : Query) (t u : Table) : Prop where
  name : t.name = u.name
  source : t.source = u.source
  tenantColumns : t.tenantColumns = u.tenantColumns
  columns : ∀ c : Column, c.name ∈ q.columns ∨ c.name ∈ t.tenantColumns →
    (c ∈ t.columns ↔ c ∈ u.columns)

/-- Where names are distinct, the same things of a name are found in two lists if the same things of
that name are in them, wherever they stand. -/
theorem find?_name_congr {α : Type} {name : α → String} {xs ys : List α}
    (hxs : (xs.map name).Nodup) (hys : (ys.map name).Nodup) {n : String}
    (h : ∀ x, name x = n → (x ∈ xs ↔ x ∈ ys)) :
    xs.find? (fun x => name x == n) = ys.find? fun x => name x == n := by
  have hsame (y : α) : (y ∈ xs ∧ name y = n) ↔ y ∈ ys ∧ name y = n :=
    and_congr_left fun hy => h y hy
  refine Option.ext fun x => ?_
  rw [find?_name_eq_some hxs, find?_name_eq_some hys]
  simp only [hsame]

theorem Query.SeesAlike.agreesOn {q : Query} {t u : Table} (h : q.SeesAlike t u)
    (ht : t.columnNames.Nodup) (hu : u.columnNames.Nodup) :
    t.AgreesOn u (q.columns ++ t.tenantColumns) where
  name := h.name
  source := h.source
  tenantColumns := h.tenantColumns
  column? _ hn := find?_name_congr ht hu fun c hc =>
    h.columns c (hc ▸ List.mem_append.1 hn)

/-- Let two registries that were read hold tables that show a query the same. Whatever other tables
and columns they hold, and whatever order these are in, the query comes to the same statement with
either registry, or is refused for the same reason. -/
theorem build_local {doc doc' : Document} {r r' : Registry} (hr : Registry.ofDocument doc = .ok r)
    (hr' : Registry.ofDocument doc' = .ok r') {q : Query} {t u : Table} (ht : t ∈ r.tables)
    (hu : u ∈ r'.tables) (hname : t.name = q.table) (h : q.SeesAlike t u) (tenant : Value) :
    q.toDraft.build tenant r = q.toDraft.build tenant r' := by
  have hsound := Registry.sound_of_ofDocument hr
  have hsound' := Registry.sound_of_ofDocument hr'
  have htable : r.table? q.table = some t := hname ▸ hsound.table?_of_mem ht
  have htable' : r'.table? q.table = some u :=
    h.name.symm.trans hname ▸ hsound'.table?_of_mem hu
  refine Draft.build_congr (d := q.toDraft) htable htable' ?_ tenant
  rw [q.columns_toDraft]
  exact h.agreesOn (hsound.tables t ht).columns_nodup (hsound'.tables u hu).columns_nodup

namespace Events

/-- A registry file with the table of `document` behind another one, and its columns in another
order with one between them. -/
def widerDocument : Document := .map [(.text "version", .int 2), (.text "tables", .list [
  .map [(.text "name", .text "owners"), (.text "source", .text "owners o"),
    (.text "tenant_columns", .list [.text "owner"]),
    (.text "columns", .list [
      .map [(.text "name", .text "owner"), (.text "internal", .text "o.id")]])],
  .map [(.text "name", .text "events"), (.text "source", .text "events e"),
    (.text "tenant_columns", .list [.text "owner"]),
    (.text "columns", .list [
      .map [(.text "name", .text "at"), (.text "internal", .text "e.at"),
        (.text "type", .text "datetime")],
      .map [(.text "name", .text "place"), (.text "internal", .text "e.place")],
      .map [(.text "name", .text "owner"), (.text "internal", .text "e.owner"),
        (.text "cast", .text "Owner")]])]])]

/-- The table `events` of that file. -/
def widerTable : Table where
  name := "events"
  source := "events e"
  columns := [⟨"at", "e.at", .datetime, none⟩, ⟨"place", "e.place", .string, none⟩,
    ⟨"owner", "e.owner", .string, some "Owner"⟩]
  tenantColumns := ["owner"]

/-- The registry of that file. -/
def widerRegistry : Registry where
  version := .int 2
  tables := [⟨"owners", "owners o", [⟨"owner", "o.id", .string, none⟩], ["owner"]⟩, widerTable]

/-- A query of the owners of each time `when`, which there is not. -/
def whenQuery : Query := { foreignQuery "b" with groups := [.categorical .string "when"] }

theorem seesAlike_widerTable {q : Query} (h : "place" ∉ q.columns) :
    ∃ t ∈ registry.tables, t.name = "events" ∧ q.SeesAlike t widerTable := by
  refine ⟨_, List.mem_singleton_self _, rfl, rfl, rfl, rfl, fun c hc => ?_⟩
  -- the one column that only the wider table has is not named
  have hplace : c ≠ ⟨"place", "e.place", .string, none⟩ := by
    rintro rfl
    exact hc.elim h (by decide)
  simp [widerTable, hplace, or_comm]

end Events

open Events in
/-- The other table, the other column, the version and the order have no effect on a query with a
plan, nor on one that groups by a column that neither registry has. -/
theorem build_local_wider :
    Registry.ofDocument document = .ok registry ∧
    Registry.ofDocument widerDocument = .ok widerRegistry ∧
    (∃ t ∈ registry.tables, (foreignQuery "b").SeesAlike t widerTable) ∧
    (∃ s, (foreignQuery "b").toDraft.build (.text "a") registry = .ok s ∧
      (foreignQuery "b").toDraft.build (.text "a") widerRegistry = .ok s) ∧
    whenQuery.toDraft.build (.text "a") widerRegistry =
      .error (.refused (.unknownColumn "events" "when" (some "groupBy.0.column"))) := by
  have hread : Registry.ofDocument widerDocument = .ok widerRegistry := rfl
  have hmem : widerTable ∈ widerRegistry.tables := by simp [widerRegistry]
  obtain ⟨t, ht, hname, hq⟩ := seesAlike_widerTable (q := foreignQuery "b") (by decide)
  obtain ⟨t', ht', hname', hq'⟩ := seesAlike_widerTable (q := whenQuery) (by decide)
  have hs : ∃ s, (foreignQuery "b").toDraft.build (.text "a") registry = .ok s := ⟨_, rfl⟩
  obtain ⟨s, hs⟩ := hs
  have hunknown : whenQuery.toDraft.build (.text "a") registry =
      .error (.refused (.unknownColumn "events" "when" (some "groupBy.0.column"))) := rfl
  refine ⟨registry_read, hread, ⟨t, ht, hq⟩, ⟨s, hs, ?_⟩, ?_⟩
  · exact (build_local registry_read hread ht hmem hname hq (.text "a")).symm.trans hs
  · exact (build_local registry_read hread ht' hmem hname' hq' (.text "a")).symm.trans hunknown

end Dashboard
