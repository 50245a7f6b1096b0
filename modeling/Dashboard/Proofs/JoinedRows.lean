import Dashboard.Proofs.Compilation
import Mathlib.Data.Multiset.Bind
import Mathlib.Data.Multiset.Filter

/-!
# Joined rows

The meaning of the `FROM` part and of the conditions of a statement, over databases whose rows all
belong to a project.

* `Source` is what the source text of a table says: an entity with rows of its own, to which
  further entities are joined. `Source.rows` are the joined rows.
* An `Engine` compares values, and decides all conditions but comparisons of a project, whose
  meaning is fixed. `Clauses.survivors` are the joined rows that a statement works on; with a plan
  they come with the dates of the series.
* `Source.rows_of_root`: if every joined entity shares the project of one before it, the rows
  whose first entity belongs to a project are the rows of the database of that project.
-/

namespace Dashboard

/-! ### Databases -/

/-- A row of a physical table, and the project that it belongs to. -/
structure Entity where
  project : String
  cells : String → Value

/-- The value in a column. -/
def Entity.cell (e : Entity) (column : String) : Value :=
  if column = "project_id" then .text e.project else e.cells column

/-- The rows of the physical tables. -/
abbrev Database := String → Multiset Entity

/-- The rows of one project. -/
def Database.only (db : Database) (project : String) : Database :=
  fun table => (db table).filter fun e => e.project = project

theorem Database.project_of_mem_only {db : Database} {project table : String} {e : Entity}
    (h : e ∈ db.only project table) : e.project = project :=
  (Multiset.mem_filter.1 h).2

/-- A joined row: what each name of an entity stands for. A left join leaves an entity out that has
no partner. -/
abbrev JoinedRow := String → Option Entity

namespace JoinedRow

/-- The value in a column of an entity. -/
def cell (row : JoinedRow) (entity column : String) : Value :=
  match row entity with
  | none => .null
  | some e => e.cell column

/-- The project of an entity. -/
def project? (row : JoinedRow) (entity : String) : Option String :=
  (row entity).map Entity.project

/-- The row of one entity. -/
def single (entity : String) (e : Entity) : JoinedRow :=
  Function.update (fun _ => none) entity (some e)

end JoinedRow

/-! ### Sources -/

/-- A column of a named entity. -/
structure ColumnRef where
  entity : String
  column : String
  deriving Repr, DecidableEq

/-- A column as SQL. -/
def ColumnRef.sql (c : ColumnRef) : String := c.entity ++ ".\"" ++ c.column ++ "\""

/-- The project of an entity as a column. -/
def ColumnRef.project (entity : String) : ColumnRef := ⟨entity, "project_id"⟩

/-- The kinds of joins. -/
inductive JoinKind where
  | inner
  | left
  deriving Repr, DecidableEq

/-- The word for a kind of join. -/
def JoinKind.sql : JoinKind → String
  | inner => " JOIN "
  | left => " LEFT JOIN "

/-- A table under the name of its entity, or one more table joined on equal columns. -/
inductive Source where
  | table (name entity : String)
  | join (kind : JoinKind) (left : Source) (name entity : String)
    (on : List (ColumnRef × ColumnRef))
  deriving Repr, DecidableEq

namespace Source

/-- A source as SQL. -/
def sql : Source → String
  | table name entity => name ++ " " ++ entity
  | join kind left name entity on => left.sql ++ kind.sql ++ name ++ " " ++ entity ++ " ON " ++
      " AND ".intercalate (on.map fun c => c.1.sql ++ " = " ++ c.2.sql)

/-- The names of the entities. -/
def entities : Source → List String
  | table _ entity => [entity]
  | join _ left _ entity _ => left.entities ++ [entity]

/-- The name of the entity that the others are joined to. -/
def root : Source → String
  | table _ entity => entity
  | join _ left _ _ _ => left.root

/-- Every joined entity has a name of its own and shares the project of one before it. -/
def Linked : Source → Prop
  | table _ _ => True
  | join _ left _ entity on => left.Linked ∧ entity ∉ left.entities ∧
      ∃ other ∈ left.entities, (ColumnRef.project other, ColumnRef.project entity) ∈ on

end Source

/-! ### Engines -/

/-- What a database makes of the things that a statement leaves to it. Texts are equal if they are
the same, and nothing is equal to null. -/
structure Engine where
  equal : Value → Value → Bool
  equal_text : ∀ s t, equal (.text s) (.text t) = decide (s = t)
  equal_null_left : ∀ v, equal .null v = false
  equal_null_right : ∀ v, equal v .null = false
  /-- A condition holds of a joined row. -/
  holds : Fragment → JoinedRow → Bool
  /-- The dates of a series. -/
  dates : BucketPlan → Multiset Value
  /-- A joined row belongs to the bucket of a date. -/
  inBucket : BucketPlan → Value → JoinedRow → Bool

/-- The partners of a row in a left join, or `missing` if there are none. -/
def orMissing {α : Type} (missing : α) (partners : Multiset α) : Multiset α :=
  if partners.card = 0 then {missing} else partners

namespace Engine

variable (E : Engine)

/-- The columns of each pair are equal. -/
def joins (on : List (ColumnRef × ColumnRef)) (row : JoinedRow) : Bool :=
  on.all fun c => E.equal (row.cell c.1.entity c.1.column) (row.cell c.2.entity c.2.column)

/-- The rows of a table that a joined row is joined to. -/
def partners (table : Multiset Entity) (entity : String) (on : List (ColumnRef × ColumnRef))
    (row : JoinedRow) : Multiset Entity :=
  table.filter fun e => E.joins on (Function.update row entity (some e)) = true

/-- A joined row with each of its partners. -/
def extensions (kind : JoinKind) (table : Multiset Entity) (entity : String)
    (on : List (ColumnRef × ColumnRef)) (row : JoinedRow) : Multiset JoinedRow :=
  let extended := (E.partners table entity on row).map fun e => Function.update row entity (some e)
  match kind with
  | .inner => extended
  | .left => orMissing (Function.update row entity none) extended

/-- A condition holds of a joined row. That the project of an entity is a value has a fixed
meaning; everything else the engine knows. -/
def meets (src : Source) (row : JoinedRow) (f : Fragment) : Bool :=
  match src.entities.find? fun a => f.strings == [(ColumnRef.project a).sql ++ " = ", ""],
      f.values with
  | some a, [v] => E.equal (row.cell a "project_id") v
  | _, _ => E.holds f row

end Engine

/-- The joined rows of a source. -/
def Source.rows (E : Engine) (db : Database) : Source → Multiset JoinedRow
  | table name entity => (db name).map (JoinedRow.single entity)
  | join kind left name entity on =>
    (left.rows E db).bind (E.extensions kind (db name) entity on)

namespace Clauses

/-- The joined rows for which all conditions hold. -/
def passed (E : Engine) (src : Source) (db : Database) (c : Clauses) : Multiset JoinedRow :=
  (src.rows E db).filter fun row => c.conditions.all (E.meets src row) = true

/-- The joined rows that a statement works on. With a plan, they are joined to the dates of its
series on their bucket and on the conditions, and a date without rows stays. -/
def survivors (E : Engine) (src : Source) (db : Database) (c : Clauses) :
    Multiset (Option Value × Option JoinedRow) :=
  match c.plan with
  | none => (c.passed E src db).map fun row => (none, some row)
  | some p => (E.dates p).bind fun date => orMissing (some date, none)
      (((c.passed E src db).filter fun row => E.inBucket p date row = true).map fun row =>
        (some date, some row))

end Clauses

/-! ### Rows of a project -/

section

variable {E : Engine} {db : Database}

theorem orMissing_zero {α : Type} (missing : α) : orMissing missing 0 = {missing} := rfl

theorem orMissing_of_ne_zero {α : Type} {missing : α} {s : Multiset α} (h : s ≠ 0) :
    orMissing missing s = s := by
  rw [orMissing, if_neg fun hs => h (Multiset.card_eq_zero.1 hs)]

theorem mem_orMissing {α : Type} {missing a : α} {partners : Multiset α}
    (h : a ∈ orMissing missing partners) : a = missing ∨ a ∈ partners := by
  unfold orMissing at h
  split at h
  · exact .inl (Multiset.mem_singleton.1 h)
  · exact .inr h

theorem Engine.mem_partners {table : Multiset Entity} {entity : String}
    {on : List (ColumnRef × ColumnRef)} {row : JoinedRow} {e : Entity} :
    e ∈ E.partners table entity on row ↔
      e ∈ table ∧ E.joins on (Function.update row entity (some e)) = true :=
  Multiset.mem_filter

/-- A row is extended by a partner, or left without one. -/
theorem Engine.mem_extensions {kind : JoinKind} {table : Multiset Entity} {entity : String}
    {on : List (ColumnRef × ColumnRef)} {row row' : JoinedRow}
    (h : row' ∈ E.extensions kind table entity on row) :
    ∃ e : Option Entity, row' = Function.update row entity e ∧
      ∀ x, e = some x → x ∈ E.partners table entity on row := by
  have hpartner {row' : JoinedRow} (h : row' ∈ (E.partners table entity on row).map fun e =>
      Function.update row entity (some e)) :
      ∃ e ∈ E.partners table entity on row, row' = Function.update row entity (some e) := by
    obtain ⟨e, he, rfl⟩ := Multiset.mem_map.1 h
    exact ⟨e, he, rfl⟩
  cases kind with
  | inner =>
    obtain ⟨e, he, rfl⟩ := hpartner h
    exact ⟨some e, rfl, fun x hx => Option.some.inj hx ▸ he⟩
  | left =>
    rcases mem_orMissing h with rfl | h
    · exact ⟨none, rfl, nofun⟩
    · obtain ⟨e, he, rfl⟩ := hpartner h
      exact ⟨some e, rfl, fun x hx => Option.some.inj hx ▸ he⟩

/-- Every partner extends a row. -/
theorem Engine.update_mem_extensions {kind : JoinKind} {table : Multiset Entity} {entity : String}
    {on : List (ColumnRef × ColumnRef)} {row : JoinedRow} {e : Entity}
    (he : e ∈ E.partners table entity on row) :
    Function.update row entity (some e) ∈ E.extensions kind table entity on row := by
  have hmem := Multiset.mem_map_of_mem (fun x => Function.update row entity (some x)) he
  cases kind with
  | inner => exact hmem
  | left =>
    show _ ∈ orMissing _ _
    rwa [orMissing_of_ne_zero fun h0 => Multiset.notMem_zero _ (h0 ▸ hmem)]

/-- What holds of all rows of the tables holds of all entities of the joined rows. -/
theorem Source.forall_of_mem_rows {Q : Entity → Prop} (hQ : ∀ table, ∀ e ∈ db table, Q e)
    {src : Source} {row : JoinedRow} (h : row ∈ src.rows E db) {a : String} {e : Entity}
    (ha : row a = some e) : Q e := by
  induction src generalizing row with
  | table name entity =>
    obtain ⟨x, hx, rfl⟩ := Multiset.mem_map.1 h
    by_cases hae : a = entity
    · subst hae
      rw [JoinedRow.single, Function.update_self] at ha
      cases ha
      exact hQ name _ hx
    · rw [JoinedRow.single, Function.update_of_ne hae] at ha
      cases ha
  | join kind left name entity on ih =>
    obtain ⟨row, hrow, h⟩ := Multiset.mem_bind.1 h
    obtain ⟨x, rfl, hx⟩ := Engine.mem_extensions h
    by_cases hae : a = entity
    · subst hae
      rw [Function.update_self] at ha
      exact hQ name _ (Engine.mem_partners.1 (hx _ ha)).1
    · rw [Function.update_of_ne hae] at ha
      exact ih hrow ha

/-- Partners share the project of the entity that they are linked to, if it has a row at all. -/
theorem Engine.project_of_joins {on : List (ColumnRef × ColumnRef)} {row : JoinedRow}
    {other entity project : String} {e : Entity}
    (hon : (ColumnRef.project other, ColumnRef.project entity) ∈ on) (hne : other ≠ entity)
    (hrow : ∀ x, row other = some x → x.project = project)
    (h : E.joins on (Function.update row entity (some e)) = true) : e.project = project := by
  have heq := List.all_eq_true.1 h _ hon
  simp only [ColumnRef.project, JoinedRow.cell, Function.update_self,
    Function.update_of_ne hne] at heq
  cases hother : row other with
  | none => simp [hother, E.equal_null_left] at heq
  | some x =>
    simp only [hother, Entity.cell, if_pos, E.equal_text, decide_eq_true_eq] at heq
    rw [← heq, hrow x hother]

/-- Linked partners of the rows of a project are rows of that project. -/
theorem Engine.partners_only {name entity other project : String}
    {on : List (ColumnRef × ColumnRef)} {row : JoinedRow}
    (hon : (ColumnRef.project other, ColumnRef.project entity) ∈ on) (hne : other ≠ entity)
    (hrow : ∀ x, row other = some x → x.project = project) :
    E.partners (db name) entity on row = E.partners (db.only project name) entity on row := by
  unfold partners Database.only
  rw [Multiset.filter_filter]
  refine Multiset.filter_congr fun e _ => ?_
  exact ⟨fun h => ⟨h, project_of_joins hon hne hrow h⟩, And.left⟩

/-- A condition on the extended rows that can be told from the rows alone. -/
theorem filter_bind_of_iff {α β : Type} {s : Multiset α} {f : α → Multiset β} {p : β → Prop}
    {q : α → Prop} [DecidablePred p] [DecidablePred q] (h : ∀ a ∈ s, ∀ b ∈ f a, p b ↔ q a) :
    (s.bind f).filter p = (s.filter q).bind f := by
  rw [Multiset.filter_bind, Multiset.bind_filter]
  refine Multiset.bind_congr fun a ha => ?_
  split
  · rename_i hq
    exact Multiset.filter_eq_self.2 fun b hb => (h a ha b hb).2 hq
  · rename_i hq
    exact Multiset.filter_eq_nil.2 fun b hb hp => hq ((h a ha b hb).1 hp)

theorem Source.root_mem_entities (src : Source) : src.root ∈ src.entities := by
  induction src with
  | table name entity => exact List.mem_singleton_self entity
  | join kind left name entity on ih => exact List.mem_append_left _ ih

/-- An extension leaves the entities of a row as they are. -/
theorem Engine.project?_of_mem_extensions {kind : JoinKind} {table : Multiset Entity}
    {entity a : String} {on : List (ColumnRef × ColumnRef)} {row row' : JoinedRow}
    (h : row' ∈ E.extensions kind table entity on row) (ha : a ≠ entity) :
    row'.project? a = row.project? a := by
  obtain ⟨x, rfl, -⟩ := mem_extensions h
  rw [JoinedRow.project?, JoinedRow.project?, Function.update_of_ne ha]

theorem Source.rows_of_root {src : Source} (h : src.Linked) (project : String) :
    (src.rows E db).filter (fun row => row.project? src.root = some project) =
      src.rows E (db.only project) := by
  induction src with
  | table name entity =>
    rw [rows, rows, Multiset.filter_map, Database.only]
    refine congrArg _ (Multiset.filter_congr fun e _ => ?_)
    simp [root, JoinedRow.project?, JoinedRow.single]
  | join kind left name entity on ih =>
    -- the rows can be chosen before the join, and then their partners are rows of the project
    obtain ⟨hleft, hentity, other, hother, hon⟩ := h
    have hroot : left.root ≠ entity := fun he => hentity (he ▸ left.root_mem_entities)
    have hne : other ≠ entity := fun he => hentity (he ▸ hother)
    calc ((left.rows E db).bind (E.extensions kind (db name) entity on)).filter
          (fun row => row.project? left.root = some project)
        = ((left.rows E db).filter fun row => row.project? left.root = some project).bind
            (E.extensions kind (db name) entity on) := by
          refine filter_bind_of_iff fun row _ row' hrow' => ?_
          rw [Engine.project?_of_mem_extensions hrow' hroot]
      _ = (left.rows E (db.only project)).bind (E.extensions kind (db name) entity on) := by
          rw [ih hleft]
      _ = (left.rows E (db.only project)).bind
            (E.extensions kind (db.only project name) entity on) := by
          refine Multiset.bind_congr fun row hrow => ?_
          have hown : ∀ table, ∀ e ∈ db.only project table, e.project = project :=
            fun table e he => Database.project_of_mem_only he
          unfold Engine.extensions
          rw [Engine.partners_only hon hne fun x hx => forall_of_mem_rows hown hrow hx]

end

end Dashboard
