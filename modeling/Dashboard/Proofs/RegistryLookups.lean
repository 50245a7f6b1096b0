import Dashboard.Proofs.BuildOutcome
import Dashboard.Proofs.FoldedText
import Mathlib.Data.List.Nodup

/-!
# What look-ups find

A registry that was read is sound: nothing in it bears the name of another thing of its kind, and
every expression that goes into a statement is trimmed. So the first thing of a name, which a
look-up takes, is the only one.

* `Table.Sound` and `Registry.Sound` collect what the reader ensures, `Registry.sound_of_ofDocument`
  proves it field by field.
* `find?_name_eq_some` is the step from distinct names to look-ups. `Registry.FindsTables` and
  `Table.FindsColumns` say what look-ups come to.
* `lookups_of_ofDocument`: a look-up in a registry that was read finds exactly the one thing of the
  name and refuses every other name, and the filters of a tenant name columns that are found.
-/

namespace Dashboard

/-! ### Sound registries -/

/-- What the reader ensures of a table: it has distinct names, tenant columns among its columns, a
source on one line, and trimmed expressions. -/
structure Table.Sound (t : Table) : Prop where
  columns_nodup : t.columnNames.Nodup
  types : ∀ c ∈ t.columns, c.type.word ∈ ["string", "number", "datetime"]
  tenantColumns_ne_nil : t.tenantColumns ≠ []
  tenantColumns_subset : ∀ name ∈ t.tenantColumns, name ∈ t.columnNames
  internals : ∀ c ∈ t.columns, Text.Trimmed c.internal.toList
  source : Text.Trimmed t.source.toList
  source_line : ∀ c ∈ t.source.toList, c ∉ Text.lineBreaks
  source_spaces : Text.SingleSpaced t.source.toList

theorem Table.Sound.checked {t : Table} (h : t.Sound) : t.Checked :=
  ⟨h.columns_nodup, h.tenantColumns_ne_nil, h.tenantColumns_subset⟩

/-- What the reader ensures of a registry. -/
structure Registry.Sound (r : Registry) : Prop where
  tables_nodup : r.tableNames.Nodup
  tables : ∀ t ∈ r.tables, t.Sound

namespace Registry

/-- A text that is not blank leaves something when it is stripped. -/
theorem strip_ne_nil_of_solidText? {d : Document} {s : String} (h : solidText? d = some s) :
    Text.strip s.toList ≠ [] := by
  unfold solidText? at h
  split at h
  · split at h
    · cases h
    · rename_i hsolid
      cases h
      simpa using hsolid
  · cases h

theorem trimmed_of_columnOf {d : Document} {c : Column} (h : columnOf d = .ok c) :
    Text.Trimmed c.internal.toList := by
  obtain ⟨_, internal, -, -, -, hinternal, hc, -⟩ := columnOf_eq_ok.1 h
  rw [hc, String.toList_ofList]
  exact Text.trimmed_strip (strip_ne_nil_of_solidText? hinternal)

/-- The source of a table is folded to words with single spaces. -/
theorem source_of_tableOf {d : Document} {t : Table} (h : tableOf d = .ok t) :
    Text.Trimmed t.source.toList ∧ Text.SingleSpaced t.source.toList := by
  obtain ⟨_, source, _, _, -, -, hsource, ht, -⟩ := tableOf_eq_ok.1 h
  have hsolid := strip_ne_nil_of_solidText? hsource
  rw [ht, String.toList_ofList]
  exact ⟨Text.trimmed_fold hsolid, Text.singleSpaced_fold hsolid⟩

theorem sound_of_tableOf {d : Document} {t : Table} (h : tableOf d = .ok t) : t.Sound := by
  have hchecked := checked_of_tableOf h
  obtain ⟨htrimmed, hspaced⟩ := source_of_tableOf h
  refine ⟨hchecked.columns_nodup, fun c _ => ?_, hchecked.tenantColumns_ne_nil,
    hchecked.tenantColumns_subset, fun c hc => ?_, htrimmed, hspaced.notMem_lineBreaks, hspaced⟩
  · cases c.type <;> decide
  · obtain ⟨item, hitem⟩ := columnOf_of_mem_columns h hc
    exact trimmed_of_columnOf hitem

/-- Every registry that was read is sound. -/
theorem sound_of_ofDocument {d : Document} {r : Registry} (h : ofDocument d = .ok r) : r.Sound := by
  refine ⟨(checked_of_ofDocument h).tables_nodup, fun t ht => ?_⟩
  obtain ⟨item, hitem⟩ := tableOf_of_mem_tables h ht
  exact sound_of_tableOf hitem

end Registry

/-! ### Look-ups -/

/-- Where names are distinct, the first thing of a name is the only one. -/
theorem find?_name_eq_some {α : Type} {name : α → String} {xs : List α}
    (hnodup : (xs.map name).Nodup) {n : String} {x : α} :
    xs.find? (fun y => name y == n) = some x ↔ ∀ y, (y ∈ xs ∧ name y = n) ↔ y = x := by
  constructor
  · intro h y
    have hx : x ∈ xs := List.mem_of_find?_eq_some h
    have hname : name x = n := by simpa using List.find?_some h
    constructor
    · rintro ⟨hy, hyn⟩
      exact List.inj_on_of_nodup_map hnodup hy hx (hyn.trans hname.symm)
    · rintro rfl
      exact ⟨hx, hname⟩
  · intro h
    obtain ⟨hx, hname⟩ := (h x).2 rfl
    have hsome : (xs.find? fun y => name y == n).isSome = true :=
      List.find?_isSome.2 ⟨x, hx, by simpa using hname⟩
    obtain ⟨y, hy⟩ := Option.isSome_iff_exists.1 hsome
    have hyx : y = x := (h y).1 ⟨List.mem_of_find?_eq_some hy, by simpa using List.find?_some hy⟩
    rw [hy, hyx]

namespace Registry

/-- A table is the only one of a name. -/
def OnlyTable (r : Registry) (name : String) (t : Table) : Prop :=
  ∀ u, (u ∈ r.tables ∧ u.name = name) ↔ u = t

/-- A look-up finds exactly the only table of a name, and refuses a name that no table has. -/
structure FindsTables (r : Registry) : Prop where
  found : ∀ name t, r.resolveTable name = .ok t ↔ r.OnlyTable name t
  refused : ∀ name e, r.resolveTable name = .error e ↔
    (∀ t ∈ r.tables, t.name ≠ name) ∧ e = .unknownTable name (some "from")

theorem Sound.findsTables {r : Registry} (h : r.Sound) : r.FindsTables := by
  refine ⟨fun name t => ?_, fun name e => ?_⟩
  · exact resolveTable_eq_ok.trans (find?_name_eq_some h.tables_nodup)
  · rw [resolveTable_eq_error, table?, List.find?_eq_none]
    simp only [beq_iff_eq]

/-- The only table of a name is found. -/
theorem Sound.table?_of_mem {r : Registry} (h : r.Sound) {t : Table} (ht : t ∈ r.tables) :
    r.table? t.name = some t := by
  refine (find?_name_eq_some h.tables_nodup).2 fun u => ⟨fun ⟨hu, hname⟩ => ?_, ?_⟩
  · exact List.inj_on_of_nodup_map h.tables_nodup hu ht hname
  · rintro rfl
    exact ⟨ht, rfl⟩

end Registry

namespace Table

/-- A column is the only one of a name. -/
def OnlyColumn (t : Table) (name : String) (c : Column) : Prop :=
  ∀ d, (d ∈ t.columns ∧ d.name = name) ↔ d = c

/-- A look-up finds exactly the only column of a name, refuses a name that no column has, and finds
the columns that the filters of a tenant are on. -/
structure FindsColumns (t : Table) : Prop where
  found : ∀ name field c, t.resolveColumn name field = .ok c ↔ t.OnlyColumn name c
  refused : ∀ name field e, t.resolveColumn name field = .error e ↔
    (∀ c ∈ t.columns, c.name ≠ name) ∧ e = .unknownColumn t.name name field
  tenant : ∀ tenant filters, t.tenantFilters tenant = .ok filters →
    ∀ f ∈ filters, ∀ field, ∃ c, t.resolveColumn f.column field = .ok c

theorem Sound.findsColumns {t : Table} (h : t.Sound) : t.FindsColumns := by
  refine ⟨fun name field c => ?_, fun name field e => ?_, fun tenant filters hfilters f hf _ => ?_⟩
  · exact resolveColumn_eq_ok.trans (find?_name_eq_some h.columns_nodup)
  · rw [resolveColumn_eq_error, column?, List.find?_eq_none]
    simp only [beq_iff_eq]
  · obtain ⟨p, -, -, rfl⟩ := tenantFilters_eq_ok.1 hfilters
    obtain ⟨name, hname, rfl⟩ := List.mem_map.1 hf
    obtain ⟨c, hc⟩ := exists_column?.2 (h.tenantColumns_subset name hname)
    exact ⟨c, resolveColumn_eq_ok.2 hc⟩

end Table

/-- A registry that was read is sound, so that every look-up finds the one thing of a name, or
refuses a name that nothing bears. -/
theorem lookups_of_ofDocument {doc : Document} {r : Registry}
    (h : Registry.ofDocument doc = .ok r) :
    r.Sound ∧ r.FindsTables ∧ ∀ t ∈ r.tables, t.FindsColumns := by
  have hsound := Registry.sound_of_ofDocument h
  exact ⟨hsound, hsound.findsTables, fun t ht => (hsound.tables t ht).findsColumns⟩

namespace Events

/-- A registry file with white space in and around its texts. -/
def spacedDocument : Document := .map [(.text "tables", .list [.map [
  (.text "name", .text "events"), (.text "source", .text "\n events  e\n  JOIN owners o\r\n"),
  (.text "tenant_columns", .text "p"),
  (.text "columns", .list [
    .map [(.text "name", .text "p"), (.text "internal", .text "\te.owner ")]])]])]

/-- The table of that file. -/
def spacedTable : Table where
  name := "events"
  source := "events e JOIN owners o"
  columns := [⟨"p", "e.owner", .string, none⟩]
  tenantColumns := ["p"]

end Events

open Events in
/-- The white space is gone once the file was read, and the table is found. -/
theorem lookups_of_ofDocument_spaced :
    Registry.ofDocument spacedDocument = .ok ⟨.int 1, [spacedTable]⟩ ∧
      Registry.Sound ⟨.int 1, [spacedTable]⟩ ∧
      Registry.resolveTable ⟨.int 1, [spacedTable]⟩ "events" = .ok spacedTable ∧
      spacedTable.FindsColumns := by
  have hread : Registry.ofDocument spacedDocument = .ok ⟨.int 1, [spacedTable]⟩ := rfl
  obtain ⟨hsound, htables, hcolumns⟩ := lookups_of_ofDocument hread
  refine ⟨hread, hsound, (htables.found "events" spacedTable).2 fun u => ?_,
    hcolumns spacedTable (by simp)⟩
  constructor
  · rintro ⟨hu, -⟩
    exact List.mem_singleton.1 hu
  · rintro rfl
    exact ⟨by simp, rfl⟩

end Dashboard
