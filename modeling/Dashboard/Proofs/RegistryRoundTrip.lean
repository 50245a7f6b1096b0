import Dashboard.Proofs.GateRules
import Dashboard.Proofs.RegistryLookups

/-!
# Writing a registry back

`Registry.toDocument` is the file that says what a registry holds: its version, and of each table
the name, the source, the tenant columns and the columns.

* What the reader makes of a text it makes of the result again: names are taken as they are, types
  are read from their words (`Registry.eq_of_typeOf`), expressions are stripped already and sources
  folded already.
* `Registry.columnOf_toDocument` and `Registry.tableOf_toDocument`: so a column or a table that was
  read is what its own document is read as.
* `Document.Lists` says that a file lists the tables of a registry in order, and each of its entries
  the columns of a table (`Document.ListsTable`).
* `read_toDocument`: a registry that was read is what the file that it is written to is read as, and
  everything in it stands in the order of the file that it was read from.
-/

namespace Dashboard

/-! ### The file of a registry -/

/-- The entry of a column; it has a cast only if the column has one. -/
def Column.toDocument (c : Column) : Document :=
  .map ([(.text "name", .text c.name), (.text "internal", .text c.internal),
    (.text "type", .text c.type.word)] ++
    (c.cast.map fun type => (.text "cast", .text type)).toList)

/-- The entry of a table. -/
def Table.toDocument (t : Table) : Document :=
  .map [(.text "name", .text t.name), (.text "source", .text t.source),
    (.text "tenant_columns", .list (t.tenantColumns.map .text)),
    (.text "columns", .list (t.columns.map Column.toDocument))]

/-- The file of a registry. -/
def Registry.toDocument (r : Registry) : Document :=
  .map [(.text "version", r.version), (.text "tables", .list (r.tables.map Table.toDocument))]

/-! ### What a file lists -/

namespace Document

/-- What stands under a key of a map. -/
def valueAt (key : String) (d : Document) : Option Document := d.entries?.bind (lookup key)

/-- The documents that are listed under a key of a map; there are none if the key is absent. -/
def itemsAt (key : String) (d : Document) : List Document :=
  ((d.valueAt key).bind items?).getD []

/-- A document is a map with the given name. -/
def Bears (d : Document) (name : String) : Prop := d.valueAt "name" = some (text name)

/-- An entry lists the columns of a table and its tenant columns, all of them by name and in
order. -/
structure ListsTable (item : Document) (t : Table) : Prop where
  name : item.Bears t.name
  columns : List.Forall₂ (fun entry c => Bears entry c.name) (item.itemsAt "columns") t.columns
  tenantColumns : item.itemsAt "tenant_columns" = t.tenantColumns.map text

/-- A file lists the tables of a registry, in order. -/
def Lists (d : Document) (r : Registry) : Prop :=
  List.Forall₂ ListsTable (d.itemsAt "tables") r.tables

/-- What counts as absent lists nothing. -/
theorem items?_of_isFalsy {d : Document} (h : d.isFalsy = true) : d.items?.getD [] = [] := by
  fun_induction isFalsy d with
  | case13 label d ih =>
    have hd := ih h
    cases hitems : d.items? with
    | none => simp [items?, hitems]
    | some items => simp_all [items?, fillItems]
  | _ => simp_all [items?]

end Document

namespace Registry

/-! ### Texts that were read -/

section

variable {d : Document}

/-- A type is read from its word. -/
theorem eq_of_typeOf {column : String} {type : SemanticType} (h : typeOf column d = .ok type) :
    d = .text type.word := by
  unfold typeOf at h
  split at h
  · split at h
    · rename_i s _ t ht
      have hword : t.word = s := by simpa using List.find?_some ht
      rw [pure_eq_ok.1 h, hword]
    · cases h
  · cases h

/-- A cast is read from itself, and no cast from nothing. -/
theorem eq_of_castOf {cast : Option String} (h : castOf d = .ok cast) :
    d = (cast.map .text).getD .null := by
  rcases castOf_eq_ok.1 h with ⟨rfl, rfl⟩ | ⟨type, htype, rfl⟩
  · rfl
  · exact (identifierOf_eq_ok.1 htype).1

end

/-- A trimmed text is not blank. -/
theorem solidText?_of_trimmed {s : String} (h : Text.Trimmed s.toList) :
    solidText? (.text s) = some s := by
  have hs : Text.strip s.toList ≠ [] := by
    rw [Text.strip_eq_self h.first h.last]
    exact h.ne_nil
  simp [solidText?, hs]

theorem itemsOf_list (items : List Document) : itemsOf (.list items) = .ok items := by
  cases items <;> rfl

/-! ### Entries that are written back -/

/-- A column that was read is what its entry is read as. -/
theorem columnOf_toDocument {d : Document} {c : Column} (h : columnOf d = .ok c) :
    columnOf c.toDocument = .ok c := by
  have htrimmed := trimmed_of_columnOf h
  obtain ⟨entries, _, -, hname, htype, -, -, hcast⟩ := columnOf_eq_ok.1 h
  rw [(identifierOf_eq_ok.1 hname).1] at hname
  rw [eq_of_typeOf htype] at htype
  rw [eq_of_castOf hcast] at hcast
  refine columnOf_eq_ok.2 ⟨_, c.internal, rfl, hname, htype, ?_, ?_, ?_⟩
  · exact solidText?_of_trimmed htrimmed
  · rw [Text.strip_eq_self htrimmed.first htrimmed.last, String.ofList_toList]
  · cases hc : c.cast with
    | none =>
      rw [hc] at hcast
      exact hcast
    | some type =>
      rw [hc] at hcast
      exact hcast

/-- A table that was read is what its entry is read as. -/
theorem tableOf_toDocument {d : Document} {t : Table} (h : tableOf d = .ok t) :
    tableOf t.toDocument = .ok t := by
  have hsource := (source_of_tableOf h).1
  obtain ⟨_, source, items, tenants, -, hname, -, hfold, -, hcolumns, hnodup, -, hne, htenants⟩ :=
    tableOf_eq_ok.1 h
  rw [(identifierOf_eq_ok.1 hname).1] at hname
  rw [(tenantColumnsOf_eq_ok.1 htenants).1] at hne htenants
  refine tableOf_eq_ok.2 ⟨_, t.source, t.columns.map Column.toDocument, t.tenantColumns.map .text,
    rfl, hname, solidText?_of_trimmed hsource, ?_, ?_, ?_, hnodup, ?_, hne, htenants⟩
  · rw [hfold, String.toList_ofList, Text.fold_fold]
  · exact itemsOf_list _
  · rw [mapM_eq_ok, List.forall₂_map_left_iff, List.forall₂_same]
    intro c hc
    obtain ⟨item, hitem⟩ := columnOf_of_mem_columns h hc
    exact columnOf_toDocument hitem
  · exact itemsOf_list _

/-- A registry that was read is what its file is read as. -/
theorem ofDocument_toDocument {d : Document} {r : Registry} (h : ofDocument d = .ok r) :
    ofDocument r.toDocument = .ok r := by
  obtain ⟨-, -, -, -, -, hnodup, -⟩ := ofDocument_eq_ok.1 h
  refine ofDocument_eq_ok.2 ⟨_, r.tables.map Table.toDocument, rfl, rfl, ?_, hnodup, rfl⟩
  rw [mapM_eq_ok, List.forall₂_map_left_iff, List.forall₂_same]
  intro t ht
  obtain ⟨item, hitem⟩ := tableOf_of_mem_tables h ht
  exact tableOf_toDocument hitem

/-! ### Order -/

theorem entries?_of_entriesOf {d : Document} {entries : List (Document × Document)}
    (h : entriesOf d = .ok entries) : d.entries? = some entries := by
  unfold entriesOf at h
  split at h
  · rename_i es hes
    rw [hes, pure_eq_ok.1 h]
  · cases h

theorem items?_of_itemsOf {d : Document} {items : List Document} (h : itemsOf d = .ok items) :
    d.items?.getD [] = items := by
  unfold itemsOf at h
  split at h
  · rename_i hfalsy
    rw [Document.items?_of_isFalsy hfalsy, pure_eq_ok.1 h]
  · split at h
    · rename_i items' hitems
      rw [hitems, pure_eq_ok.1 h]
      rfl
    · cases h

section

variable {d : Document} {entries : List (Document × Document)} (h : entriesOf d = .ok entries)
include h

theorem valueAt_of_entriesOf {key s : String}
    (htext : (Document.lookup key entries).getD .null = .text s) :
    d.valueAt key = some (.text s) := by
  unfold Document.valueAt
  rw [entries?_of_entriesOf h, Option.bind_some]
  cases hlookup : Document.lookup key entries with
  | none =>
    rw [hlookup] at htext
    cases htext
  | some value =>
    rw [hlookup] at htext
    exact congrArg some htext

theorem bears_of_entriesOf {role : NameRole} {name : String}
    (hname : identifierOf role ((Document.lookup "name" entries).getD .null) = .ok name) :
    d.Bears name :=
  valueAt_of_entriesOf h (identifierOf_eq_ok.1 hname).1

theorem itemsAt_of_entriesOf {key : String} {items : List Document}
    (hitems : ((Document.lookup key entries).getD .null).items?.getD [] = items) :
    d.itemsAt key = items := by
  unfold Document.itemsAt Document.valueAt
  rw [entries?_of_entriesOf h, Option.bind_some, ← hitems]
  cases Document.lookup key entries <;> rfl

end

theorem bears_of_columnOf {d : Document} {c : Column} (h : columnOf d = .ok c) :
    d.Bears c.name := by
  obtain ⟨_, _, hentries, hname, -⟩ := columnOf_eq_ok.1 h
  exact bears_of_entriesOf hentries hname

theorem listsTable_of_tableOf {d : Document} {t : Table} (h : tableOf d = .ok t) :
    d.ListsTable t := by
  obtain ⟨_, _, items, _, hentries, hname, -, -, hitems, hcolumns, -, htenants, -, hread⟩ :=
    tableOf_eq_ok.1 h
  refine ⟨bears_of_entriesOf hentries hname, ?_, ?_⟩
  · rw [itemsAt_of_entriesOf hentries (items?_of_itemsOf hitems)]
    exact (mapM_eq_ok.1 hcolumns).imp fun _ _ hc => bears_of_columnOf hc
  · rw [itemsAt_of_entriesOf hentries (items?_of_itemsOf htenants)]
    exact (tenantColumnsOf_eq_ok.1 hread).1

/-- The tables of a registry are read from the entries of the file, one from each. -/
theorem tables_of_ofDocument {d : Document} {r : Registry} (h : ofDocument d = .ok r) :
    List.Forall₂ (fun item t => tableOf item = .ok t) (d.itemsAt "tables") r.tables := by
  obtain ⟨entries, items, hentries, hitems, htables, -⟩ := ofDocument_eq_ok.1 h
  have hlisted : d.itemsAt "tables" = items := by
    refine itemsAt_of_entriesOf hentries ?_
    cases hlookup : Document.lookup "tables" entries with
    | none =>
      -- a file that has no tables lists none
      rw [hlookup] at hitems
      cases hitems
      rfl
    | some value =>
      rw [hlookup] at hitems
      rw [Option.getD_some] at hitems ⊢
      rw [hitems]
      rfl
  rw [hlisted]
  exact mapM_eq_ok.1 htables

/-- A file lists what was read from it, in order. -/
theorem lists_of_ofDocument {d : Document} {r : Registry} (h : ofDocument d = .ok r) :
    d.Lists r :=
  (tables_of_ofDocument h).imp fun _ _ ht => listsTable_of_tableOf ht

end Registry

/-- A registry that was read from a file is what the file that it is written to is read as: names,
sources, expressions, types, casts and tenant columns come back as they are, and in the order of the
first file. -/
theorem read_toDocument {doc : Document} {r : Registry} (h : Registry.ofDocument doc = .ok r) :
    Registry.ofDocument r.toDocument = .ok r ∧ doc.Lists r :=
  ⟨Registry.ofDocument_toDocument h, Registry.lists_of_ofDocument h⟩

open Events in
/-- The file of `spacedTable` has no more white space, names the type and the version, and lists the
tenant columns; it is read as the same registry. -/
theorem read_toDocument_spaced :
    Registry.ofDocument spacedDocument = .ok ⟨.int 1, [spacedTable]⟩ ∧
      Registry.toDocument ⟨.int 1, [spacedTable]⟩ =
        .map [(.text "version", .int 1), (.text "tables", .list [.map [
          (.text "name", .text "events"), (.text "source", .text "events e JOIN owners o"),
          (.text "tenant_columns", .list [.text "p"]),
          (.text "columns", .list [.map [(.text "name", .text "p"),
            (.text "internal", .text "e.owner"), (.text "type", .text "string")]])]])] ∧
      Registry.ofDocument (Registry.toDocument ⟨.int 1, [spacedTable]⟩) =
        .ok ⟨.int 1, [spacedTable]⟩ ∧
      spacedDocument.Lists ⟨.int 1, [spacedTable]⟩ := by
  have hread : Registry.ofDocument spacedDocument = .ok ⟨.int 1, [spacedTable]⟩ := rfl
  obtain ⟨hback, hlists⟩ := read_toDocument hread
  exact ⟨hread, rfl, hback, hlists⟩

end Dashboard
