import Dashboard.Proofs.JoinedRows
import Dashboard.Registry.Bundled

/-!
# Isolation of projects

What a statement of one tenant can see of the rows of other projects.

* `Table.Guards`: a table compares the project of an entity with the tenant.
  `Clauses.passed_only`: if all joined entities share the project of the first one, and the table
  guards that one, a statement sees the rows of its tenant alone.
* `Bundled.sources` reads the source of each bundled table. All of them are linked but one:
  the scores of observations are joined without their project, and no tenant column guards them.
* `bundled_survivors_eq_iff` says what this means. Two databases with the same rows of the tenant
  give the same joined rows, except that the scores which other projects attach to observations of
  the tenant come through.
-/

namespace Dashboard

/-! ### Guarded entities -/

/-- A table compares the project of an entity with the tenant. -/
def Table.Guards (t : Table) (entity : String) : Prop :=
  ∃ name ∈ t.tenantColumns, ∃ c, t.column? name = some c ∧
    c.internal = (ColumnRef.project entity).sql ∧ c.cast = none

/-- Every tenant column is compared with the tenant in a condition of its own. -/
theorem Clauses.tenant_condition_mem {q : Query} {r : Registry} {c : Clauses} {p name : String}
    (h : q.toDraft.buildClauses (.text p) r = .ok c) (hname : name ∈ c.table.tenantColumns) :
    ∃ col, c.table.column? name = some col ∧
      Draft.condition col "=" .string (.text p) ∈ c.conditions := by
  obtain ⟨p, -, hp, -, -, hc⟩ := Query.buildClauses_eq_ok.1 h
  cases hp
  obtain ⟨-, -, -, hconds, -⟩ := Draft.clauses_eq_ok.1 hc
  have hf : Filter.string name .eq p ∈ (q.scoped c.table p).filters :=
    List.mem_append_right _ (List.mem_map.2 ⟨name, hname, rfl⟩)
  obtain ⟨i, hi⟩ := List.mem_iff_getElem?.1 hf
  obtain ⟨g, hg, hgf⟩ := (getElem?_of_mapM_zipIdx hconds).2 i (Filter.string name .eq p).toDraft
    (by simp [Query.toDraft, hi])
  obtain ⟨col, hcol, rfl⟩ := Draft.filterFragment_toDraft.1 hgf
  exact ⟨col, hcol, List.mem_of_getElem? hg⟩

theorem ColumnRef.project_sql_injective {a b : String}
    (h : (project a).sql ++ " = " = (project b).sql ++ " = ") : a = b := by
  simp only [project, sql, String.append_left_inj] at h
  exact h

/-- The comparison of a project with a tenant means what it says. -/
theorem Engine.meets_project (E : Engine) {src : Source} {row : JoinedRow} {c : Column}
    {a p : String} (ha : a ∈ src.entities) (hc : c.internal = (ColumnRef.project a).sql)
    (hcast : c.cast = none) :
    E.meets src row (Draft.condition c "=" .string (.text p)) = true ↔
      row.project? a = some p := by
  have hstrings : (Draft.condition c "=" .string (.text p)).strings =
      [(ColumnRef.project a).sql ++ " = ", ""] := by
    rw [← hc]
    unfold Draft.condition Draft.castFragment
    rw [hcast]
    rfl
  have hfind : (src.entities.find? fun b => (Draft.condition c "=" .string (.text p)).strings ==
      [(ColumnRef.project b).sql ++ " = ", ""]) = some a := by
    rw [hstrings]
    cases hb : src.entities.find? fun b => [(ColumnRef.project a).sql ++ " = ", ""] ==
        [(ColumnRef.project b).sql ++ " = ", ""] with
    | none => exact absurd (List.find?_eq_none.1 hb a ha) (by simp)
    | some b =>
      have heq := List.find?_some hb
      rw [beq_iff_eq, List.cons.injEq] at heq
      rw [ColumnRef.project_sql_injective heq.1]
  unfold Engine.meets
  rw [hfind, Draft.values_condition]
  cases hrow : row a with
  | none => simp [JoinedRow.cell, JoinedRow.project?, hrow, E.equal_null_left]
  | some e => simp [JoinedRow.cell, JoinedRow.project?, hrow, Entity.cell, E.equal_text]

/-- The rows of a statement belong to its tenant, as far as its table guards them. -/
theorem Clauses.project_of_passes {q : Query} {r : Registry} {c : Clauses} {p a : String}
    (h : q.toDraft.buildClauses (.text p) r = .ok c) {E : Engine} {src : Source}
    (ha : a ∈ src.entities) (hg : c.table.Guards a) {row : JoinedRow}
    (hrow : c.conditions.all (E.meets src row) = true) : row.project? a = some p := by
  obtain ⟨name, hname, col, hcol, hinternal, hcast⟩ := hg
  obtain ⟨col', hcol', hmem⟩ := Clauses.tenant_condition_mem h hname
  cases hcol.symm.trans hcol'
  exact (E.meets_project ha hinternal hcast).1 (List.all_eq_true.1 hrow _ hmem)

/-- The rows of other projects do not come into a statement whose source is linked. -/
theorem Clauses.passed_only {q : Query} {r : Registry} {c : Clauses} {p : String}
    (h : q.toDraft.buildClauses (.text p) r = .ok c) {E : Engine} {src : Source}
    (hsrc : src.Linked) (hg : c.table.Guards src.root) (db : Database) :
    c.passed E src db = c.passed E src (db.only p) := by
  unfold Clauses.passed
  rw [← Source.rows_of_root hsrc, Multiset.filter_filter]
  refine Multiset.filter_congr fun row _ => ?_
  exact ⟨fun hrow => ⟨hrow, project_of_passes h src.root_mem_entities hg hrow⟩, And.left⟩

theorem Clauses.survivors_congr {E : Engine} {src : Source} {db₁ db₂ : Database} {c : Clauses}
    (h : c.passed E src db₁ = c.passed E src db₂) :
    c.survivors E src db₁ = c.survivors E src db₂ := by
  unfold Clauses.survivors
  rw [h]

/-! ### Extensions by a left join -/

theorem orMissing_inj {α : Type} {missing : α} {s t : Multiset α} (hs : missing ∉ s)
    (ht : missing ∉ t) : orMissing missing s = orMissing missing t ↔ s = t := by
  refine ⟨fun h => ?_, fun h => h ▸ rfl⟩
  by_cases hs0 : s = 0
  · by_cases ht0 : t = 0
    · rw [hs0, ht0]
    · rw [hs0, orMissing_zero, orMissing_of_ne_zero ht0] at h
      exact absurd (h ▸ Multiset.mem_singleton_self missing) ht
  · by_cases ht0 : t = 0
    · rw [ht0, orMissing_zero, orMissing_of_ne_zero hs0] at h
      exact absurd (h ▸ Multiset.mem_singleton_self missing) hs
    · rwa [orMissing_of_ne_zero hs0, orMissing_of_ne_zero ht0] at h

/-- The extensions of a row tell which partners it has. -/
theorem Engine.extensions_left_inj {E : Engine} {table table' : Multiset Entity} {entity : String}
    {on : List (ColumnRef × ColumnRef)} {row : JoinedRow} :
    E.extensions .left table entity on row = E.extensions .left table' entity on row ↔
      E.partners table entity on row = E.partners table' entity on row := by
  have hinj : Function.Injective fun e => Function.update row entity (some e) := by
    intro e e' h
    simpa using congrFun h entity
  have hmissing (s : Multiset Entity) : Function.update row entity none ∉
      s.map fun e => Function.update row entity (some e) := by
    intro h
    obtain ⟨e, -, he⟩ := Multiset.mem_map.1 h
    simpa using congrFun he entity
  exact (orMissing_inj (hmissing _) (hmissing _)).trans (Multiset.map_injective hinj).eq_iff

/-- Where the results tell what they were made from, equal unions have equal parts. -/
theorem eq_of_bind_eq {α β : Type} [DecidableEq α] [DecidableEq β] {s : Multiset α}
    {f g : α → Multiset β} (source : β → α) (hf : ∀ a ∈ s, ∀ b ∈ f a, source b = a)
    (hg : ∀ a ∈ s, ∀ b ∈ g a, source b = a) (h : s.bind f = s.bind g) : ∀ a ∈ s, f a = g a := by
  intro a ha
  -- what was made from `a` is found as often as `a` itself
  have hpart {k : α → Multiset β} (hk : ∀ a ∈ s, ∀ b ∈ k a, source b = a) :
      (s.bind k).filter (fun b => source b = a) = s.count a • k a := by
    rw [filter_bind_of_iff (q := fun x => x = a) fun x hx b hb => by rw [hk x hx b hb],
      Multiset.filter_eq', Multiset.bind, Multiset.map_replicate]
    exact Multiset.sum_replicate _ _
  have hcount : s.count a • f a = s.count a • g a := by rw [← hpart hf, ← hpart hg, h]
  refine Multiset.ext.2 fun b => ?_
  have hb := congrArg (Multiset.count b) hcount
  rw [Multiset.count_nsmul, Multiset.count_nsmul] at hb
  exact Nat.eq_of_mul_eq_mul_left (Multiset.count_pos.2 ha) hb

/-! ### The bundled tables -/

namespace Bundled

/-- Traces with their observations. -/
def observed : Source :=
  .join .left (.table "traces" "t") "observations" "o"
    [(⟨"t", "id"⟩, ⟨"o", "trace_id"⟩), (.project "t", .project "o")]

/-- Traces with their scores. -/
def scored : Source :=
  .join .inner (.table "traces" "t") "scores" "s"
    [(⟨"t", "id"⟩, ⟨"s", "trace_id"⟩), (.project "t", .project "s")]

/-- What joins a score to an observation. The projects are not compared. -/
def scoreLinks : List (ColumnRef × ColumnRef) :=
  [(⟨"t", "id"⟩, ⟨"s", "trace_id"⟩), (⟨"s", "observation_id"⟩, ⟨"o", "id"⟩)]

/-- Traces with their observations and the scores of these. -/
def observedAndScored : Source := .join .left observed "scores" "s" scoreLinks

/-- What the source text of each table says. -/
def sources : List (Table × Source) :=
  [(traces, .table "traces" "t"), (observations, .table "observations" "o"),
    (tracesObservations, observed), (tracesScores, scored),
    (tracesParentObservationScores, observedAndScored)]

theorem sources_tables : sources.map Prod.fst = Registry.bundled.tables := rfl

theorem sql_of_mem_sources {t : Table} {src : Source} (h : (t, src) ∈ sources) :
    src.sql = t.source := by
  simp only [sources, List.mem_cons, Prod.mk.injEq, List.not_mem_nil, or_false] at h
  rcases h with ⟨rfl, rfl⟩ | ⟨rfl, rfl⟩ | ⟨rfl, rfl⟩ | ⟨rfl, rfl⟩ | ⟨rfl, rfl⟩ <;> rfl

theorem observed_linked : observed.Linked :=
  ⟨trivial, by decide, "t", by decide, by decide⟩

theorem scored_linked : scored.Linked :=
  ⟨trivial, by decide, "t", by decide, by decide⟩

/-- The source of each table but one is linked, and the table guards its first entity. -/
theorem linked_or_eq_of_mem_sources {t : Table} {src : Source} (h : (t, src) ∈ sources) :
    (t ≠ tracesParentObservationScores ∧ src.Linked ∧ t.Guards src.root) ∨
      (t = tracesParentObservationScores ∧ src = observedAndScored) := by
  have hne {u : Table} (hu : u.name ≠ "traces_parent_observation_scores") :
      u ≠ tracesParentObservationScores := fun heq => hu (congrArg Table.name heq)
  simp only [sources, List.mem_cons, Prod.mk.injEq, List.not_mem_nil, or_false] at h
  rcases h with ⟨rfl, rfl⟩ | ⟨rfl, rfl⟩ | ⟨rfl, rfl⟩ | ⟨rfl, rfl⟩ | h
  · exact .inl ⟨hne (by decide), trivial, "tracesProjectId", by decide, _, rfl, rfl, rfl⟩
  · exact .inl ⟨hne (by decide), trivial, "observationsProjectId", by decide, _, rfl, rfl, rfl⟩
  · exact .inl ⟨hne (by decide), observed_linked, "tracesProjectId", by decide, _, rfl, rfl, rfl⟩
  · exact .inl ⟨hne (by decide), scored_linked, "tracesProjectId", by decide, _, rfl, rfl, rfl⟩
  · exact .inr h

/-! ### Scores of observations -/

/-- A trace joined with an observation. -/
def pair (t o : Entity) : JoinedRow := Function.update (JoinedRow.single "t" t) "o" (some o)

/-- The observed traces of a project, without the traces that have no observation. -/
def ownPairs (E : Engine) (p : String) (db : Database) : Multiset JoinedRow :=
  (observed.rows E (db.only p)).filter fun row => row.project? "o" = some p

/-- The scores that other projects attach to an observation of a trace. -/
def foreignScores (E : Engine) (p : String) (db : Database) (t o : Entity) : Multiset Entity :=
  (db "scores").filter fun s => s.project ≠ p ∧
    E.equal (t.cell "id") (s.cell "trace_id") = true ∧
    E.equal (s.cell "observation_id") (o.cell "id") = true

/-- Other projects attach the same scores to the observations that a project has of its traces. -/
def SameForeignScores (E : Engine) (p : String) (db₁ db₂ : Database) : Prop :=
  ∀ t ∈ db₁.only p "traces", ∀ o ∈ db₁.only p "observations",
    E.equal (t.cell "id") (o.cell "trace_id") = true →
      foreignScores E p db₁ t o = foreignScores E p db₂ t o

variable {E : Engine} {p : String} {db db₁ db₂ : Database}

theorem joins_observed (t o : Entity) :
    E.joins [(⟨"t", "id"⟩, ⟨"o", "trace_id"⟩), (.project "t", .project "o")] (pair t o) = true ↔
      E.equal (t.cell "id") (o.cell "trace_id") = true ∧ t.project = o.project := by
  have hproject (e : Entity) : e.cell "project_id" = .text e.project := if_pos rfl
  simp [Engine.joins, pair, JoinedRow.single, JoinedRow.cell, ColumnRef.project, hproject,
    E.equal_text]

theorem mem_ownPairs {row : JoinedRow} : row ∈ ownPairs E p db ↔
    ∃ t ∈ db.only p "traces", ∃ o ∈ db.only p "observations",
      E.equal (t.cell "id") (o.cell "trace_id") = true ∧ row = pair t o := by
  rw [ownPairs, Multiset.mem_filter]
  constructor
  · rintro ⟨hrow, ho⟩
    obtain ⟨row, hrow, hext⟩ := Multiset.mem_bind.1 hrow
    obtain ⟨t, ht, rfl⟩ := Multiset.mem_map.1 hrow
    obtain ⟨o, rfl, hjoin⟩ := Engine.mem_extensions hext
    cases o with
    | none => simp [JoinedRow.project?] at ho
    | some o =>
      obtain ⟨hmem, hon⟩ := Engine.mem_partners.1 (hjoin o rfl)
      exact ⟨t, ht, o, hmem, ((joins_observed t o).1 hon).1, rfl⟩
  · rintro ⟨t, ht, o, ho, heq, rfl⟩
    have hprojects : t.project = o.project :=
      (Database.project_of_mem_only ht).trans (Database.project_of_mem_only ho).symm
    refine ⟨Multiset.mem_bind.2 ⟨_, Multiset.mem_map_of_mem _ ht, ?_⟩, ?_⟩
    · exact Engine.update_mem_extensions
        (Engine.mem_partners.2 ⟨ho, (joins_observed t o).2 ⟨heq, hprojects⟩⟩)
    · simp [pair, JoinedRow.project?, Database.project_of_mem_only ho]

theorem joins_pair (t o s : Entity) :
    E.joins scoreLinks (Function.update (pair t o) "s" (some s)) = true ↔
      E.equal (t.cell "id") (s.cell "trace_id") = true ∧
        E.equal (s.cell "observation_id") (o.cell "id") = true := by
  simp [Engine.joins, scoreLinks, pair, JoinedRow.single, JoinedRow.cell]

/-- The partners of a row of the project are its own scores, which two such databases share, and
the foreign ones. -/
theorem extensions_pair_iff (h : db₁.only p = db₂.only p) (t o : Entity) :
    E.extensions .left (db₁ "scores") "s" scoreLinks (pair t o) =
        E.extensions .left (db₂ "scores") "s" scoreLinks (pair t o) ↔
      foreignScores E p db₁ t o = foreignScores E p db₂ t o := by
  have hsplit (d : Database) : E.partners (d "scores") "s" scoreLinks (pair t o) =
      E.partners (d.only p "scores") "s" scoreLinks (pair t o) + foreignScores E p d t o := by
    rw [← Multiset.filter_add_not (fun e : Entity => e.project = p)
        (E.partners (d "scores") "s" scoreLinks (pair t o))]
    simp only [Engine.partners, Database.only, foreignScores, Multiset.filter_filter, joins_pair,
      and_comm]
  rw [Engine.extensions_left_inj, hsplit db₁, hsplit db₂, h, add_right_inj]

/-- What a statement on the scores of observations works on. -/
theorem passed_observedAndScored {q : Query} {c : Clauses}
    (h : q.toDraft.buildClauses (.text p) Registry.bundled = .ok c)
    (hc : c.table = tracesParentObservationScores) (db : Database) :
    c.passed E observedAndScored db =
      ((ownPairs E p db).bind (E.extensions .left (db "scores") "s" scoreLinks)).filter
        fun row => c.conditions.all (E.meets observedAndScored row) = true := by
  have hguards (a : String) (ha : a ∈ ["t", "o"]) : c.table.Guards a := by
    rw [hc]
    simp only [List.mem_cons, List.not_mem_nil, or_false] at ha
    rcases ha with rfl | rfl
    · exact ⟨"tracesProjectId", by decide, _, rfl, rfl, rfl⟩
    · exact ⟨"observationsProjectId", by decide, _, rfl, rfl, rfl⟩
  have hproject {row : JoinedRow} (hrow : c.conditions.all (E.meets observedAndScored row) = true)
      {a : String} (ha : a ∈ ["t", "o"]) : row.project? a = some p := by
    refine Clauses.project_of_passes h ?_ (hguards a ha) hrow
    exact List.mem_append_left _ ha
  -- joining scores changes neither the trace nor the observation
  have hscores : ∀ row ∈ observed.rows E db,
      ∀ row' ∈ E.extensions .left (db "scores") "s" scoreLinks row,
        (row'.project? "o" = some p ∧ row'.project? "t" = some p) ↔
          (row.project? "o" = some p ∧ row.project? "t" = some p) := by
    intro row _ row' hrow'
    rw [Engine.project?_of_mem_extensions hrow' (show "o" ≠ "s" by decide),
      Engine.project?_of_mem_extensions hrow' (show "t" ≠ "s" by decide)]
  have hpairs : ownPairs E p db = (observed.rows E db).filter fun row =>
      row.project? "o" = some p ∧ row.project? "t" = some p := by
    rw [ownPairs, ← Source.rows_of_root observed_linked, Multiset.filter_filter]
    rfl
  rw [hpairs, ← filter_bind_of_iff hscores, Multiset.filter_filter]
  refine Multiset.filter_congr fun row _ => ?_
  exact ⟨fun hrow => ⟨hrow, hproject hrow (by decide), hproject hrow (by decide)⟩, And.left⟩

/-- A query for all traces, with no conditions of its own. -/
def allTraces : Query where
  table := "traces_parent_observation_scores"
  select := [⟨"traceId", none⟩]
  filters := []
  groups := []
  orders := []
  limit := none

/-- The clauses of this query. -/
def allTracesClauses (p : String) : Clauses where
  table := tracesParentObservationScores
  plan := none
  items := [.concat [.raw "t.\"id\"", .raw " AS ", .quoted "traceId"]]
  conditions := [
    Draft.condition (plain "tracesProjectId" "t.\"project_id\"" .string) "=" .string (.text p),
    Draft.condition (plain "observationsProjectId" "o.\"project_id\"" .string) "=" .string
      (.text p)]
  groups := []
  orders := []
  limit := .null

theorem buildClauses_allTraces (hp : p ≠ "") :
    allTraces.toDraft.buildClauses (.text p) Registry.bundled = .ok (allTracesClauses p) :=
  Query.buildClauses_eq_ok.2 ⟨p, hp, rfl, rfl, rfl, rfl⟩

/-- The query works on all pairs of the project, each with all scores attached to it. -/
theorem passed_allTraces (hp : p ≠ "") (db : Database) :
    (allTracesClauses p).passed E observedAndScored db =
      (ownPairs E p db).bind (E.extensions .left (db "scores") "s" scoreLinks) := by
  rw [passed_observedAndScored (buildClauses_allTraces hp) rfl]
  refine Multiset.filter_eq_self.2 fun row hrow => ?_
  obtain ⟨row, hpair, hext⟩ := Multiset.mem_bind.1 hrow
  obtain ⟨t, ht, o, ho, -, rfl⟩ := mem_ownPairs.1 hpair
  have htrace : row.project? "t" = some p := by
    rw [Engine.project?_of_mem_extensions hext (by decide)]
    simp [pair, JoinedRow.project?, JoinedRow.single, Database.project_of_mem_only ht]
  have hobservation : row.project? "o" = some p := by
    rw [Engine.project?_of_mem_extensions hext (by decide)]
    simp [pair, JoinedRow.project?, Database.project_of_mem_only ho]
  rw [List.all_eq_true]
  intro f hf
  rcases List.mem_cons.1 hf with rfl | hf
  · exact (E.meets_project (by decide) rfl rfl).2 htrace
  · cases List.mem_singleton.1 hf
    exact (E.meets_project (by decide) rfl rfl).2 hobservation

/-- Such databases differ for a statement on the scores of observations in foreign scores alone. -/
theorem passed_of_sameForeignScores {q : Query} {c : Clauses}
    (hc : q.toDraft.buildClauses (.text p) Registry.bundled = .ok c)
    (ht : c.table = tracesParentObservationScores) (h : db₁.only p = db₂.only p)
    (hs : SameForeignScores E p db₁ db₂) :
    c.passed E observedAndScored db₁ = c.passed E observedAndScored db₂ := by
  have hpairs : ownPairs E p db₂ = ownPairs E p db₁ := by rw [ownPairs, ownPairs, h]
  rw [passed_observedAndScored hc ht, passed_observedAndScored hc ht, hpairs]
  refine congrArg _ (Multiset.bind_congr fun row hrow => ?_)
  obtain ⟨t, htrace, o, ho, heq, rfl⟩ := mem_ownPairs.1 hrow
  exact (extensions_pair_iff h t o).2 (hs t htrace o ho heq)

/-- The results of the query show which scores are attached to each observation. -/
theorem sameForeignScores_of_survivors (hp : p ≠ "") (h : db₁.only p = db₂.only p)
    (hs : (allTracesClauses p).survivors E observedAndScored db₁ =
      (allTracesClauses p).survivors E observedAndScored db₂) :
    SameForeignScores E p db₁ db₂ := by
  classical
  have hinj : Function.Injective fun row : JoinedRow => ((none : Option Value), some row) := by
    intro row row' hrow
    simpa using hrow
  -- there is no plan, so the survivors are the rows that passed
  have hbind := Multiset.map_injective hinj hs
  rw [passed_allTraces hp, passed_allTraces hp, show ownPairs E p db₂ = ownPairs E p db₁ by
    rw [ownPairs, ownPairs, h]] at hbind
  have hsource (d : Database) : ∀ row ∈ ownPairs E p db₁,
      ∀ row' ∈ E.extensions .left (d "scores") "s" scoreLinks row,
        Function.update row' "s" none = row := by
    intro row hrow row' hrow'
    obtain ⟨t, -, o, -, -, rfl⟩ := mem_ownPairs.1 hrow
    obtain ⟨e, rfl, -⟩ := Engine.mem_extensions hrow'
    rw [Function.update_idem, Function.update_eq_self_iff]
    simp [pair, JoinedRow.single]
  intro t ht o ho heq
  refine (extensions_pair_iff h t o).1 ?_
  exact eq_of_bind_eq (fun row => Function.update row "s" none) (hsource db₁) (hsource db₂) hbind _
    (mem_ownPairs.2 ⟨t, ht, o, ho, heq, rfl⟩)

theorem table?_of_mem {t : Table} (ht : t ∈ Registry.bundled.tables) :
    Registry.bundled.table? t.name = some t := by
  simp only [Registry.bundled, List.mem_cons, List.not_mem_nil, or_false] at ht
  rcases ht with rfl | rfl | rfl | rfl | rfl <;> rfl

end Bundled

open Bundled in
/-- Let two databases hold the same rows of a tenant. The statements on a bundled table work on the
same joined rows of both, except that on the scores of observations they do so exactly if other
projects attach the same scores to the observations of the tenant. -/
theorem bundled_survivors_eq_iff {t : Table} (ht : t ∈ Registry.bundled.tables) :
    ∃ src, (t, src) ∈ sources ∧ src.sql = t.source ∧
      ∀ (E : Engine) (p : String) (db₁ db₂ : Database), p ≠ "" → db₁.only p = db₂.only p →
        ((∀ (q : Query) (c : Clauses), q.table = t.name →
            q.toDraft.buildClauses (.text p) Registry.bundled = .ok c →
            c.survivors E src db₁ = c.survivors E src db₂) ↔
          (t = tracesParentObservationScores → SameForeignScores E p db₁ db₂)) := by
  obtain ⟨⟨t, src⟩, hmem, rfl⟩ := List.mem_map.1 (sources_tables ▸ ht)
  refine ⟨src, hmem, sql_of_mem_sources hmem, fun E p db₁ db₂ hp hdb => ?_⟩
  have htable {q : Query} {c : Clauses} (hq : q.table = t.name)
      (hc : q.toDraft.buildClauses (.text p) Registry.bundled = .ok c) : t = c.table := by
    obtain ⟨-, -, -, htable, -⟩ := Query.buildClauses_eq_ok.1 hc
    exact Option.some.inj ((table?_of_mem ht).symm.trans (hq ▸ htable))
  rcases linked_or_eq_of_mem_sources hmem with ⟨hne, hlinked, hguards⟩ | ⟨rfl, rfl⟩
  · refine ⟨fun _ heq => absurd heq hne, fun _ q c hq hc => Clauses.survivors_congr ?_⟩
    rw [htable hq hc] at hguards
    rw [Clauses.passed_only hc hlinked hguards db₁, hdb,
      ← Clauses.passed_only hc hlinked hguards db₂]
  · constructor
    · intro h _
      exact sameForeignScores_of_survivors hp hdb
        (h allTraces (allTracesClauses p) rfl (buildClauses_allTraces hp))
    · intro h q c hq hc
      exact Clauses.survivors_congr
        (passed_of_sameForeignScores hc (htable hq hc).symm hdb (h rfl))

namespace Bundled

/-- An engine that compares texts. -/
def textEngine : Engine where
  equal
    | .text s, .text t => decide (s = t)
    | _, _ => false
  equal_text _ _ := rfl
  equal_null_left _ := rfl
  equal_null_right v := by cases v <;> rfl
  holds _ _ := false
  dates _ := 0
  inBucket _ _ _ := false

/-- A row of a project in which every other column holds the same text. -/
def sampleRow (project : String) : Entity := ⟨project, fun _ => .text "1"⟩

/-- One trace of `a` with one observation, and scores. -/
def sampleDatabase (scores : Multiset Entity) : Database
  | "traces" => {sampleRow "a"}
  | "observations" => {sampleRow "a"}
  | "scores" => scores
  | _ => 0

theorem only_sampleDatabase :
    (sampleDatabase 0).only "a" = (sampleDatabase {sampleRow "b"}).only "a" := by
  funext table
  unfold Database.only sampleDatabase
  split <;> rfl

theorem not_sameForeignScores :
    ¬SameForeignScores textEngine "a" (sampleDatabase 0) (sampleDatabase {sampleRow "b"}) := by
  intro h
  have hown : sampleRow "a" ∈ ({sampleRow "a"} : Multiset Entity).filter fun e => e.project = "a" :=
    Multiset.mem_filter.2 ⟨Multiset.mem_singleton_self _, rfl⟩
  have hsame := h (sampleRow "a") hown (sampleRow "a") hown rfl
  exact absurd (congrArg Multiset.card hsame) (by decide)

end Bundled

open Bundled in
/-- A score that `b` attaches to an observation of `a` changes what a statement of `a` works on,
although the rows of `a` are the same. -/
theorem bundled_survivors_eq_iff_foreign :
    tracesParentObservationScores ∈ Registry.bundled.tables ∧
      (sampleDatabase 0).only "a" = (sampleDatabase {sampleRow "b"}).only "a" ∧
      ∃ src, (tracesParentObservationScores, src) ∈ sources ∧
        ¬∀ (q : Query) (c : Clauses), q.table = tracesParentObservationScores.name →
          q.toDraft.buildClauses (.text "a") Registry.bundled = .ok c →
          c.survivors textEngine src (sampleDatabase 0) =
            c.survivors textEngine src (sampleDatabase {sampleRow "b"}) := by
  have hmem : tracesParentObservationScores ∈ Registry.bundled.tables := by
    simp [Registry.bundled]
  obtain ⟨src, hsrc, -, h⟩ := bundled_survivors_eq_iff hmem
  have hiff := h textEngine "a" _ _ (by decide) only_sampleDatabase
  exact ⟨hmem, only_sampleDatabase, src, hsrc, fun hall => not_sameForeignScores (hiff.1 hall rfl)⟩

end Dashboard
