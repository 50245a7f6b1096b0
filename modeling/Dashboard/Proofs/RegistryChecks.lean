import Dashboard.Proofs.Outcome
import Dashboard.Registry.Reader

/-!
# What reading a registry ensures

`Registry.columnOf_eq_ok`, `Registry.tableOf_eq_ok` and `Registry.ofDocument_eq_ok` say exactly when
the reader accepts a document, and as what.

`Registry.Checked` collects what holds of every registry that was read from a document:
`Registry.checked_of_ofDocument`. The names of the tables are distinct; so are the names of the
columns of one table; and a table has tenant columns, all of which are among its columns.

`Registry.named_of_ofDocument`: the names of columns and the types that they are cast to are plain
identifiers.
-/

namespace Dashboard

/-- What the reader has checked of a table. -/
structure Table.Checked (t : Table) : Prop where
  columns_nodup : t.columnNames.Nodup
  tenantColumns_ne_nil : t.tenantColumns ≠ []
  tenantColumns_subset : ∀ name ∈ t.tenantColumns, name ∈ t.columnNames

/-- What the reader has checked of a registry. -/
structure Registry.Checked (r : Registry) : Prop where
  tables_nodup : r.tableNames.Nodup
  tables : ∀ t ∈ r.tables, t.Checked

namespace Registry

/-! ### Documents that are accepted -/

/-- The cast that a document names, if there is one. -/
def castOf (d : Document) : Except RegistryError (Option String) :=
  match d with
  | .null => return none
  | d => some <$> identifierOf .cast d

theorem castOf_eq_ok {d : Document} {cast : Option String} : castOf d = .ok cast ↔
    (d = .null ∧ cast = none) ∨ ∃ type, identifierOf .cast d = .ok type ∧ cast = some type := by
  unfold castOf
  split
  · rw [pure_eq_ok]
    simp [identifierOf]
  · rename_i hd
    rw [← bind_pure_comp, bind_eq_ok]
    simp only [pure_eq_ok]
    exact ⟨.inr, fun h => h.resolve_left fun hnull => hd hnull.1⟩

/-- Whatever follows a cast, it is read first. -/
theorem castOf_bind {α : Type} (d : Document) (f : Option String → Except RegistryError α) :
    (match d with
      | .null => pure none >>= f
      | d => some <$> identifierOf .cast d >>= f) = castOf d >>= f := by
  unfold castOf
  split <;> rfl

/-- A document is a column exactly if its name is an identifier, its type a known word, its
expression not blank, and its cast an identifier if there is one. -/
theorem columnOf_eq_ok {d : Document} {c : Column} :
    columnOf d = .ok c ↔ ∃ entries internal, entriesOf d = .ok entries ∧
      identifierOf .column ((Document.lookup "name" entries).getD .null) = .ok c.name ∧
      typeOf c.name ((Document.lookup "type" entries).getD (.text "string")) = .ok c.type ∧
      solidText? ((Document.lookup "internal" entries).getD .null) = some internal ∧
      c.internal = String.ofList (Text.strip internal.toList) ∧
      castOf ((Document.lookup "cast" entries).getD .null) = .ok c.cast := by
  constructor
  · intro h
    obtain ⟨entries, hentries, h⟩ := bind_eq_ok.1 h
    obtain ⟨name, hname, h⟩ := bind_eq_ok.1 h
    obtain ⟨type, htype, h⟩ := bind_eq_ok.1 h
    split at h
    · cases h
    · rename_i internal hinternal
      obtain ⟨cast, hcast, h⟩ := bind_eq_ok.1 ((castOf_bind _ _).symm.trans h)
      cases pure_eq_ok.1 h
      exact ⟨entries, internal, hentries, hname, htype, hinternal, rfl, hcast⟩
  · rintro ⟨entries, internal, hentries, hname, htype, hinternal, hc, hcast⟩
    refine bind_eq_ok.2 ⟨entries, hentries, bind_eq_ok.2 ⟨c.name, hname, bind_eq_ok.2
      ⟨c.type, htype, ?_⟩⟩⟩
    rw [hinternal]
    refine (castOf_bind _ _).trans (bind_eq_ok.2 ⟨c.cast, hcast, ?_⟩)
    rw [← hc]
    rfl

/-- A document is a table exactly if its name is an identifier, its source not blank, its columns
have distinct names, and it has tenant columns, all among its columns. -/
theorem tableOf_eq_ok {d : Document} {t : Table} :
    tableOf d = .ok t ↔ ∃ entries source items tenants, entriesOf d = .ok entries ∧
      identifierOf .table ((Document.lookup "name" entries).getD .null) = .ok t.name ∧
      solidText? ((Document.lookup "source" entries).getD .null) = some source ∧
      t.source = String.ofList (Text.fold source.toList) ∧
      itemsOf ((Document.lookup "columns" entries).getD .null) = .ok items ∧
      items.mapM columnOf = .ok t.columns ∧ t.columnNames.Nodup ∧
      itemsOf ((Document.lookup "tenant_columns" entries).getD .null) = .ok tenants ∧
      tenants ≠ [] ∧ tenantColumnsOf t.name t.columnNames tenants = .ok t.tenantColumns := by
  constructor
  · intro h
    obtain ⟨entries, hentries, h⟩ := bind_eq_ok.1 h
    obtain ⟨name, hname, h⟩ := bind_eq_ok.1 h
    split at h
    · cases h
    · rename_i source hsource
      obtain ⟨items, hitems, h⟩ := bind_eq_ok.1 h
      obtain ⟨columns, hcolumns, h⟩ := bind_eq_ok.1 h
      obtain ⟨hnodup, h⟩ := unless_throw_eq_ok.1 h
      obtain ⟨tenants, htenants, h⟩ := bind_eq_ok.1 h
      obtain ⟨hne, h⟩ := unless_throw_eq_ok.1 h
      obtain ⟨tenantColumns, htenantColumns, h⟩ := bind_eq_ok.1 h
      cases pure_eq_ok.1 h
      exact ⟨entries, source, items, tenants, hentries, hname, hsource, rfl, hitems, hcolumns,
        not_not.1 hnodup, htenants, by simpa using hne, htenantColumns⟩
  · rintro ⟨entries, source, items, tenants, hentries, hname, hsource, ht, hitems, hcolumns,
      hnodup, htenants, hne, htenantColumns⟩
    refine bind_eq_ok.2 ⟨entries, hentries, bind_eq_ok.2 ⟨t.name, hname, ?_⟩⟩
    rw [hsource]
    refine bind_eq_ok.2 ⟨items, hitems, bind_eq_ok.2 ⟨t.columns, hcolumns,
      unless_throw_eq_ok.2 ⟨not_not.2 hnodup, bind_eq_ok.2 ⟨tenants, htenants,
        unless_throw_eq_ok.2 ⟨by simpa using hne,
          bind_eq_ok.2 ⟨t.tenantColumns, htenantColumns, ?_⟩⟩⟩⟩⟩⟩
    rw [← ht]
    rfl

/-- A document is a registry exactly if its tables are tables with distinct names. -/
theorem ofDocument_eq_ok {d : Document} {r : Registry} :
    ofDocument d = .ok r ↔ ∃ entries items, entriesOf d = .ok entries ∧
      ((Document.lookup "tables" entries).getD (.list [])).items? = some items ∧
      items.mapM tableOf = .ok r.tables ∧ r.tableNames.Nodup ∧
      r.version = (Document.lookup "version" entries).getD (.int 1) := by
  constructor
  · intro h
    obtain ⟨entries, hentries, h⟩ := bind_eq_ok.1 h
    split at h
    · rename_i items hitems
      obtain ⟨_, hpure, hread⟩ := bind_eq_ok.1 h
      cases pure_eq_ok.1 hpure
      obtain ⟨tables, htables, hread⟩ := bind_eq_ok.1 hread
      obtain ⟨hnodup, hread⟩ := unless_throw_eq_ok.1 hread
      cases pure_eq_ok.1 hread
      exact ⟨entries, items, hentries, hitems, htables, not_not.1 hnodup, rfl⟩
    · cases h
  · rintro ⟨entries, items, hentries, hitems, htables, hnodup, hversion⟩
    refine bind_eq_ok.2 ⟨entries, hentries, ?_⟩
    rw [hitems]
    refine bind_eq_ok.2 ⟨items, rfl, ?_⟩
    refine bind_eq_ok.2 ⟨r.tables, htables, unless_throw_eq_ok.2 ⟨not_not.2 hnodup, ?_⟩⟩
    rw [← hversion]
    rfl

/-- The columns of a table that was read were read. -/
theorem columnOf_of_mem_columns {d : Document} {t : Table} (h : tableOf d = .ok t) {c : Column}
    (hc : c ∈ t.columns) : ∃ item, columnOf item = .ok c := by
  obtain ⟨-, -, items, -, -, -, -, -, -, hcolumns, -⟩ := tableOf_eq_ok.1 h
  obtain ⟨item, -, hitem⟩ := exists_of_mem_mapM hcolumns hc
  exact ⟨item, hitem⟩

/-- The tables of a registry that was read were read. -/
theorem tableOf_of_mem_tables {d : Document} {r : Registry} (h : ofDocument d = .ok r) {t : Table}
    (ht : t ∈ r.tables) : ∃ item, tableOf item = .ok t := by
  obtain ⟨-, items, -, -, htables, -⟩ := ofDocument_eq_ok.1 h
  obtain ⟨item, -, hitem⟩ := exists_of_mem_mapM htables ht
  exact ⟨item, hitem⟩

/-! ### Names that are distinct, and tenant columns -/

/-- Tenant columns are read from texts, all of them names of columns. -/
theorem tenantColumnsOf_eq_ok {table : String} {names : List String} {ds : List Document}
    {ts : List String} : tenantColumnsOf table names ds = .ok ts ↔
      ds = ts.map .text ∧ ∀ name ∈ ts, name ∈ names := by
  induction ds generalizing ts with
  | nil =>
    rw [tenantColumnsOf, pure_eq_ok]
    simp +contextual [eq_comm]
  | cons d ds ih =>
    cases d with
    | text s =>
      simp only [tenantColumnsOf]
      split
      · rename_i hs
        rw [bind_eq_ok]
        constructor
        · rintro ⟨rest, hrest, h⟩
          cases pure_eq_ok.1 h
          obtain ⟨rfl, hmem⟩ := ih.1 hrest
          exact ⟨rfl, List.forall_mem_cons.2 ⟨by simpa using hs, hmem⟩⟩
        · rintro ⟨htexts, hmem⟩
          cases ts with
          | nil => cases htexts
          | cons t ts =>
            cases htexts
            exact ⟨ts, ih.2 ⟨rfl, (List.forall_mem_cons.1 hmem).2⟩, pure_eq_ok.2 rfl⟩
      · rename_i hs
        refine iff_of_false throw_ne_ok ?_
        rintro ⟨htexts, hmem⟩
        cases ts with
        | nil => cases htexts
        | cons t ts =>
          cases htexts
          exact hs (by simpa using (List.forall_mem_cons.1 hmem).1)
    | _ => cases ts <;> simp [tenantColumnsOf]

theorem checked_of_tableOf {d : Document} {t : Table} (h : tableOf d = .ok t) : t.Checked := by
  obtain ⟨-, -, -, tenants, -, -, -, -, -, -, hnodup, -, hne, htenants⟩ := tableOf_eq_ok.1 h
  obtain ⟨rfl, hsub⟩ := tenantColumnsOf_eq_ok.1 htenants
  refine ⟨hnodup, fun hnil => hne ?_, hsub⟩
  rw [hnil, List.map_nil]

/-- Every registry that was read has passed the checks. -/
theorem checked_of_ofDocument {d : Document} {r : Registry} (h : ofDocument d = .ok r) :
    r.Checked := by
  obtain ⟨-, -, -, -, -, hnodup, -⟩ := ofDocument_eq_ok.1 h
  refine ⟨hnodup, fun t ht => ?_⟩
  obtain ⟨item, hitem⟩ := tableOf_of_mem_tables h ht
  exact checked_of_tableOf hitem

end Registry

/-! ### Names -/

/-- The name of a column and its cast, if there is one, are plain identifiers. -/
structure Column.Named (c : Column) : Prop where
  name : isIdentifier c.name.toList = true
  cast : ∀ type ∈ c.cast, isIdentifier type.toList = true

namespace Registry

/-- A name is read from a text that is an identifier. -/
theorem identifierOf_eq_ok {role : NameRole} {d : Document} {s : String} :
    identifierOf role d = .ok s ↔ d = .text s ∧ isIdentifier s.toList = true := by
  unfold identifierOf
  split
  · rename_i t
    by_cases ht : isIdentifier t.toList = true
    · rw [if_pos ht, pure_eq_ok, Document.text.injEq]
      exact ⟨fun h => ⟨h.symm, h ▸ ht⟩, fun h => h.1.symm⟩
    · rw [if_neg ht]
      refine iff_of_false throw_ne_ok ?_
      rintro ⟨htext, hs⟩
      cases htext
      exact ht hs
  · rename_i hd
    exact iff_of_false throw_ne_ok fun h => hd s h.1

theorem named_of_columnOf {d : Document} {c : Column} (h : columnOf d = .ok c) : c.Named := by
  obtain ⟨_, _, -, hname, -, -, -, hcast⟩ := columnOf_eq_ok.1 h
  refine ⟨(identifierOf_eq_ok.1 hname).2, fun type htype => ?_⟩
  rcases castOf_eq_ok.1 hcast with ⟨-, hnone⟩ | ⟨cast, hcast, hsome⟩
  · rw [hnone] at htype
    cases htype
  · rw [hsome] at htype
    cases htype
    exact (identifierOf_eq_ok.1 hcast).2

/-- Every column of a registry that was read bears a plain name. -/
theorem named_of_ofDocument {d : Document} {r : Registry} (h : ofDocument d = .ok r) :
    ∀ t ∈ r.tables, ∀ c ∈ t.columns, c.Named := by
  intro t ht c hc
  obtain ⟨table, htable⟩ := tableOf_of_mem_tables h ht
  obtain ⟨column, hcolumn⟩ := columnOf_of_mem_columns htable hc
  exact named_of_columnOf hcolumn

end Registry
end Dashboard
