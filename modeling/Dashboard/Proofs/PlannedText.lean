import Dashboard.Proofs.TenantConditions
import Dashboard.Proofs.Vocabulary
import Dashboard.Registry.Bundled
import Mathlib.Data.List.InsertIdx

/-!
# What a bucket plan changes in a statement

The compiler looks at the plan in six places. All that comes of it is said on outlines.

* An `Outline` is the layout of a statement with its texts cut into pieces, so that placeholders can
  be renumbered: `Outline.raise` raises all numbers. `Clauses.layout_eq` says that the outline of
  some clauses, written out, is their layout.
* `Outline.bucketed` is the outline of a plain statement with the series of a plan brought in.
* `Draft.groupFragments_planned` and `Draft.clauses_planned`: compiling with a plan runs like
  compiling without one, and leaves out the term of the datetime grouping.
* `compile_planned`: a draft that has a plan is compiled with it exactly if it is compiled without
  it, and the two statements differ as their outlines say.
-/

namespace Dashboard

/-! ### Pieces of fragments -/

namespace Piece

/-- The text of pieces one after the other. -/
def textOf (ps : List Piece) : String := String.join (ps.map text)

/-- A piece with the number of its placeholder raised. -/
def raise (k : ℕ) : Piece → Piece
  | word w => .word w
  | placeholder j => .placeholder (j + k)

end Piece

namespace Fragment

/-- The pieces of strings between placeholders, the next of which has the number `n + 1`. -/
def piecesAfter (n : ℕ) : List String → List Piece
  | [] => []
  | [s] => [.word s]
  | s :: rest => .word s :: .placeholder (n + 1) :: piecesAfter (n + 1) rest

/-- The pieces of a fragment whose first placeholder has the number `n + 1`. -/
def pieces (n : ℕ) (f : Fragment) : List Piece := piecesAfter n f.strings

/-- The pieces of fragments that follow one another, numbered from `n + 1`. -/
def piecesFrom (n : ℕ) : List Fragment → List (List Piece)
  | [] => []
  | f :: fs => f.pieces n :: piecesFrom (n + f.values.length) fs

theorem textOf_piecesAfter (strings : List String) (n : ℕ) :
    Piece.textOf (piecesAfter n strings) = textAfter n strings := by
  fun_induction piecesAfter n strings with
  | case1 => rfl
  | case2 n s => simp [Piece.textOf, Piece.text, textAfter]
  | case3 n s rest hrest ih =>
    cases rest with
    | nil => exact absurd rfl hrest
    | cons t rest =>
      rw [textAfter, ← ih]
      · simp [Piece.textOf, Piece.text, String.append_assoc]
      · exact hrest

theorem piecesAfter_add (strings : List String) (n k : ℕ) :
    piecesAfter (n + k) strings = (piecesAfter n strings).map (Piece.raise k) := by
  fun_induction piecesAfter n strings with
  | case1 => rfl
  | case2 n s => rfl
  | case3 n s rest hrest ih =>
    rw [piecesAfter, Nat.add_right_comm, ih]
    · rfl
    · exact hrest

theorem textOf_pieces (f : Fragment) (n : ℕ) : Piece.textOf (f.pieces n) = f.textFrom n :=
  textOf_piecesAfter f.strings n

/-- A fragment that stands further behind has its placeholders raised. -/
theorem pieces_add (f : Fragment) (n k : ℕ) :
    f.pieces (n + k) = (f.pieces n).map (Piece.raise k) :=
  piecesAfter_add f.strings n k

theorem map_textOf_piecesFrom (fs : List Fragment) (n : ℕ) :
    (piecesFrom n fs).map Piece.textOf = textsFrom n fs := by
  induction fs generalizing n with
  | nil => rfl
  | cons f fs ih => rw [piecesFrom, List.map_cons, ih, textOf_pieces, textsFrom]

theorem piecesFrom_add (fs : List Fragment) (n k : ℕ) :
    piecesFrom (n + k) fs = (piecesFrom n fs).map (List.map (Piece.raise k)) := by
  induction fs generalizing n with
  | nil => rfl
  | cons f fs ih =>
    rw [piecesFrom, piecesFrom, List.map_cons, Nat.add_right_comm, ih, pieces_add]

/-- A fragment without values is one word. -/
theorem pieces_of_values {f : Fragment} (h : f.values = []) (n : ℕ) :
    f.pieces n = [.word (f.textFrom n)] := by
  have hlength := f.length_strings
  rw [h] at hlength
  obtain ⟨s, hs⟩ := List.length_eq_one_iff.1 hlength
  simp [pieces, textFrom, hs, piecesAfter, textAfter]

/-- Raising numbers changes nothing in fragments without values. -/
theorem map_raise_pieces {fs : List Fragment} (h : ∀ f ∈ fs, f.values = []) (n k : ℕ) :
    (fs.map (pieces n)).map (List.map (Piece.raise k)) = fs.map (pieces n) := by
  rw [List.map_map]
  refine List.map_congr_left fun f hf => ?_
  rw [Function.comp_apply, pieces_of_values (h f hf)]
  rfl

end Fragment

namespace BucketPlan

theorem pieces_series (p : BucketPlan) :
    p.series.pieces 0 = [.word "WITH date_series AS (SELECT generate_series(", .placeholder 1,
      .word ", ", .placeholder 2,
      .word (", '1 " ++ Keyword.word p.unit ++ "'::interval) AS \"date\") ")] := by
  simp [series, Fragment.pieces, Fragment.raw, Fragment.bind, Fragment.empty,
    Fragment.joinStrings, Fragment.piecesAfter]

theorem textFrom_selectItem (p : BucketPlan) (n : ℕ) : p.selectItem.textFrom n =
    "date_series.\"date\"" ++ " AS " ++ "\"" ++ p.column.name ++ "\"" := by
  simp only [selectItem, seriesColumn, Fragment.concat_cons, Fragment.concat_nil,
    Fragment.textFrom_append, Fragment.textFrom_raw, Fragment.textFrom_quoted,
    Fragment.textFrom_empty, String.append_assoc, String.append_empty]

theorem textFrom_source (p : BucketPlan) (t : Table) (n : ℕ) : (p.source t).textFrom n =
    " FROM date_series LEFT JOIN " ++ t.source ++ " ON " ++
      bucketText p.unit p.column.internal ++ " = " ++ bucketText p.unit "date_series.\"date\"" := by
  simp [source, seriesColumn, Fragment.textFrom_append, textFrom_dateTrunc, String.append_assoc]

theorem pieces_selectItem (p : BucketPlan) :
    p.selectItem.pieces 0 = [.word ("date_series.\"date\" AS \"" ++ p.column.name ++ "\"")] := by
  rw [Fragment.pieces_of_values rfl, textFrom_selectItem]
  rfl

theorem pieces_source (p : BucketPlan) (t : Table) :
    (p.source t).pieces 0 = [.word (" FROM date_series LEFT JOIN " ++ t.source ++ " ON " ++
      bucketText p.unit p.column.internal ++ " = " ++
      bucketText p.unit "date_series.\"date\"")] := by
  rw [Fragment.pieces_of_values rfl, textFrom_source]

end BucketPlan

/-! ### Outlines -/

/-- The parts of a statement as pieces; `limit` is the number of its placeholder. -/
@[ext] structure Outline where
  series : List Piece
  items : List (List Piece)
  source : List Piece
  opening : String
  conditions : List (List Piece)
  groups : List (List Piece)
  orders : List (List Piece)
  limit : Option ℕ

namespace Outline

/-- An outline written out. -/
def layout (o : Outline) : Layout where
  series := Piece.textOf o.series
  items := o.items.map Piece.textOf
  source := Piece.textOf o.source
  opening := o.opening
  conditions := o.conditions.map Piece.textOf
  groups := o.groups.map Piece.textOf
  orders := o.orders.map Piece.textOf
  limit := o.limit

/-- The text of a statement with an outline. -/
def text (o : Outline) : String := o.layout.text

/-- All placeholders raised by a number. -/
def raise (k : ℕ) (o : Outline) : Outline where
  series := o.series.map (Piece.raise k)
  items := o.items.map (List.map (Piece.raise k))
  source := o.source.map (Piece.raise k)
  opening := o.opening
  conditions := o.conditions.map (List.map (Piece.raise k))
  groups := o.groups.map (List.map (Piece.raise k))
  orders := o.orders.map (List.map (Piece.raise k))
  limit := o.limit.map (· + k)

/-- The outline of a statement from a table with the series of a plan: the series binds two values
in front of all others, its date comes first in the select list, in the groupings and in the order,
its join takes the place of the table, the conditions go on the condition of this join, and the
grouping in place `i` is left out. -/
def bucketed (o : Outline) (p : BucketPlan) (t : Table) (i : ℕ) : Outline :=
  { o.raise 2 with
    series := [.word "WITH date_series AS (SELECT generate_series(", .placeholder 1, .word ", ",
      .placeholder 2,
      .word (", '1 " ++ Keyword.word p.unit ++ "'::interval) AS \"date\") ")]
    items := [.word ("date_series.\"date\" AS \"" ++ p.column.name ++ "\"")] :: (o.raise 2).items
    source := [.word (" FROM date_series LEFT JOIN " ++ t.source ++ " ON " ++
      bucketText p.unit p.column.internal ++ " = " ++ bucketText p.unit "date_series.\"date\"")]
    opening := " AND "
    groups := [.word "date_series.\"date\""] :: (o.raise 2).groups.eraseIdx i
    orders := [.word "date_series.\"date\" ASC"] :: (o.raise 2).orders }

end Outline

namespace Clauses

/-- The outline of a statement, numbered from its start to its end. -/
def outline (c : Clauses) : Outline where
  series := c.seriesFragment.pieces 0
  items := c.allItems.map (Fragment.pieces 0)
  source := c.sourceFragment.pieces 0
  opening := c.conditionOpening
  conditions := Fragment.piecesFrom c.bounds.length c.conditions
  groups := c.allGroups.map (Fragment.pieces 0)
  orders := c.allOrders.map (Fragment.pieces 0)
  limit := (limitValues c.limit).head?.map fun _ =>
    c.bounds.length + c.conditionValues.length + 1

theorem layout_eq (c : Clauses) : c.layout = c.outline.layout := by
  have htexts (fs : List Fragment) :
      (fs.map (Fragment.pieces 0)).map Piece.textOf = fs.map (Fragment.textFrom 0) := by
    rw [List.map_map]
    exact List.map_congr_left fun f _ => f.textOf_pieces 0
  simp only [layout, Outline.layout, outline, htexts, Fragment.textOf_pieces,
    Fragment.map_textOf_piecesFrom]

theorem text_eq {c : Clauses} (h : c.BindsInConditions) :
    c.fragment.render.text = c.outline.text := by
  rw [render_text_eq h, layout_eq, Outline.text]

/-- Clauses with a plan brought in, which stands for the grouping in place `i`. -/
def bucketed (c : Clauses) (p : BucketPlan) (i : ℕ) : Clauses :=
  { c with plan := some p, groups := c.groups.eraseIdx i }

theorem BindsInConditions.bucketed {c : Clauses} (h : c.BindsInConditions) (p : BucketPlan)
    (i : ℕ) : (c.bucketed p i).BindsInConditions where
  items := h.items
  groups := fun f hf => h.groups f (List.mem_of_mem_eraseIdx hf)
  orders := h.orders

/-- A plan changes in the outline what `Outline.bucketed` says. -/
theorem outline_bucketed {c : Clauses} (hplan : c.plan = none) (h : c.BindsInConditions)
    (p : BucketPlan) (i : ℕ) : (c.bucketed p i).outline = c.outline.bucketed p c.table i := by
  have hbounds : c.bounds.length = 0 := by rw [bounds, seriesFragment, hplan]; rfl
  have hitems : c.allItems = c.items := by rw [allItems, hplan]; rfl
  have hgroups : c.allGroups = c.groups := by rw [allGroups, hplan]; rfl
  have horders : c.allOrders = c.orders := by rw [allOrders, hplan]; rfl
  have hbounds' : (c.bucketed p i).bounds.length = 0 + 2 := rfl
  have hvalues : (c.bucketed p i).conditionValues = c.conditionValues := rfl
  apply Outline.ext
  case series => exact p.pieces_series
  case items =>
    simp only [outline, Outline.bucketed, Outline.raise, hitems,
      Fragment.map_raise_pieces h.items, ← p.pieces_selectItem]
    rfl
  case source => exact p.pieces_source c.table
  case opening => rfl
  case conditions =>
    simp only [outline, Outline.bucketed, Outline.raise, hbounds, hbounds',
      ← Fragment.piecesFrom_add]
    rfl
  case groups =>
    simp only [outline, Outline.bucketed, Outline.raise, hgroups,
      Fragment.map_raise_pieces h.groups, List.eraseIdx_map]
    rfl
  case orders =>
    simp only [outline, Outline.bucketed, Outline.raise, horders,
      Fragment.map_raise_pieces h.orders]
    rfl
  case limit =>
    simp only [outline, Outline.bucketed, Outline.raise, hbounds, hbounds', hvalues,
      Option.map_map]
    refine Option.map_congr fun _ _ => ?_
    simp only [Function.comp_apply]
    omega

end Clauses

/-! ### Compiling with a plan -/

namespace Draft

/-- The terms of groupings that are counted from `n`. -/
def groupTermsFrom (t : Table) (planned : Bool) (n : ℕ) (gs : List Group) :
    Except BuildError (List Fragment) := do
  let terms ← (gs.zipIdx n).mapM fun g => groupFragment t planned g.1 g.2
  return terms.filterMap id

theorem groupTermsFrom_cons (t : Table) (planned : Bool) (n : ℕ) (g : Group) (gs : List Group) :
    groupTermsFrom t planned n (g :: gs) = (do
      let term ← groupFragment t planned g n
      let terms ← groupTermsFrom t planned (n + 1) gs
      return term.toList ++ terms) := by
  simp only [groupTermsFrom, List.zipIdx_cons, List.mapM_cons, bind_assoc, pure_bind]
  refine bind_congr fun term => bind_congr fun terms => ?_
  cases term <;> rfl

/-- With a plan, the datetime grouping is looked up like without one, and has no term. -/
theorem groupFragment_planned (t : Table) (g : Group) (n : ℕ) :
    ∃ term : Except BuildError Fragment, groupFragment t false g n = some <$> term ∧
      groupFragment t true g n = (fun f => match g with
        | .datetime .. => none
        | .categorical _ => some f) <$> term := by
  refine ⟨do
    let column ← lookedUp (t.resolveColumn g.column (place "groupBy" n "column"))
    return .raw column.internal, ?_, ?_⟩ <;>
  cases g <;> simp only [groupFragment, map_bind, map_pure]

theorem groupTermsFrom_categorical (t : Table) {gs : List Group}
    (h : ∀ g ∈ gs, ∃ column, g = .categorical column) (n : ℕ) :
    groupTermsFrom t true n gs = groupTermsFrom t false n gs := by
  induction gs generalizing n with
  | nil => rfl
  | cons g gs ih =>
    obtain ⟨column, rfl⟩ := h g List.mem_cons_self
    rw [groupTermsFrom_cons, groupTermsFrom_cons, ih fun g hg => h g (List.mem_cons_of_mem _ hg)]
    rfl

/-- With a plan the terms are those without it, less the one of the datetime grouping. -/
theorem groupTermsFrom_planned (t : Table) {front back : List Group} (column unit : String)
    (hfront : ∀ g ∈ front, ∃ column, g = .categorical column)
    (hback : ∀ g ∈ back, ∃ column, g = .categorical column) (n : ℕ) :
    groupTermsFrom t true n (front ++ .datetime column unit :: back) =
      (fun terms => terms.eraseIdx front.length) <$>
        groupTermsFrom t false n (front ++ .datetime column unit :: back) := by
  induction front generalizing n with
  | nil =>
    rw [List.nil_append, groupTermsFrom_cons, groupTermsFrom_cons,
      groupTermsFrom_categorical t hback]
    obtain ⟨term, hfalse, htrue⟩ := groupFragment_planned t (.datetime column unit) n
    rw [hfalse, htrue]
    simp only [map_bind, bind_map_left, map_pure]
    rfl
  | cons g front ih =>
    obtain ⟨name, rfl⟩ := hfront g List.mem_cons_self
    rw [List.cons_append, groupTermsFrom_cons, groupTermsFrom_cons,
      ih fun g hg => hfront g (List.mem_cons_of_mem _ hg)]
    obtain ⟨term, hfalse, htrue⟩ := groupFragment_planned t (.categorical name) n
    rw [hfalse, htrue]
    simp only [map_bind, bind_map_left, map_pure]
    rfl

theorem groups_of_datetimeGroups {d : Draft} {name unit : String}
    (h : d.datetimeGroups = [(name, unit)]) : ∃ front back,
      d.groups = front ++ .datetime name unit :: back ∧
      (∀ g ∈ front, ∃ column, g = .categorical column) ∧
      ∀ g ∈ back, ∃ column, g = .categorical column := by
  obtain ⟨front, g, back, hgroups, hfront, hg, hback⟩ := List.filterMap_eq_cons_iff.1 h
  rw [List.filterMap_eq_nil_iff] at hback
  cases g with
  | categorical column => cases hg
  | datetime column word =>
    cases hg
    refine ⟨front, back, hgroups, fun g hmem => ?_, fun g hmem => ?_⟩
    · cases g with
      | categorical column => exact ⟨column, rfl⟩
      | datetime column word => cases hfront _ hmem
    · cases g with
      | categorical column => exact ⟨column, rfl⟩
      | datetime column word => cases hback _ hmem

/-- With a plan a draft is compiled to the clauses that it has without, with the plan brought in;
or both runs end in the same error. -/
theorem clauses_planned {d : Draft} {name unit : String} (h : d.datetimeGroups = [(name, unit)])
    (r : Registry) (p : BucketPlan) : ∃ i, d.groups[i]? = some (.datetime name unit) ∧
      d.clauses r (some p) = (fun c => c.bucketed p i) <$> d.clauses r none := by
  obtain ⟨front, back, hgroups, hfront, hback⟩ := groups_of_datetimeGroups h
  refine ⟨front.length, by simp [hgroups], ?_⟩
  have hterms (t : Table) : d.groupFragments t true =
      (fun terms => terms.eraseIdx front.length) <$> d.groupFragments t false := by
    have hall := groupTermsFrom_planned t name unit hfront hback 0
    rwa [← hgroups] at hall
  simp only [clauses, Option.isSome_some, Option.isSome_none, hterms, map_bind, bind_map_left,
    map_pure]
  rfl

/-- Without a plan, every grouping has the expression of its column for a term. -/
theorem getElem?_groupTermsFrom {t : Table} {gs : List Group} {n : ℕ} {fs : List Fragment}
    (h : groupTermsFrom t false n gs = .ok fs) {i : ℕ} {g : Group} (hg : gs[i]? = some g) :
    ∃ c, t.column? g.column = some c ∧ fs[i]? = some (.raw c.internal) := by
  induction gs generalizing n i fs with
  | nil => cases hg
  | cons g' gs ih =>
    rw [groupTermsFrom_cons] at h
    obtain ⟨term, hterm, h⟩ := bind_eq_ok.1 h
    obtain ⟨terms, hterms, h⟩ := bind_eq_ok.1 h
    obtain rfl := pure_eq_ok.1 h
    obtain ⟨c, hc, rfl⟩ : ∃ c, t.column? g'.column = some c ∧ term = some (.raw c.internal) := by
      obtain ⟨c, hc, hterm⟩ := groupFragment_eq_ok.1 hterm
      exact ⟨c, hc, by cases g' <;> exact hterm⟩
    cases i with
    | zero =>
      obtain rfl : g' = g := by simpa using hg
      exact ⟨c, hc, rfl⟩
    | succ i => exact ih hterms hg

end Draft

/-! ### The two statements of a draft -/

/-- Of the statements of a draft without a plan and with one, the second is the first with the
series of the plan brought in, and its parameters come after the two bounds. The grouping in place
`i` is left out, which is that of the planned column. -/
structure Clauses.BucketedBy (c : Clauses) (p : BucketPlan) (i : ℕ) (plain bucketed : Statement) :
    Prop where
  source : c.outline.source = [.word (" FROM " ++ c.table.source)]
  opening : c.outline.opening = " WHERE "
  group : c.outline.groups[i]? = some [.word p.column.internal]
  plain_text : plain.text = c.outline.text
  bucketed_text : bucketed.text = (c.outline.bucketed p c.table i).text
  parameters : bucketed.parameters = [p.lower.value, p.upper.value] ++ plain.parameters

theorem Clauses.bucketedBy {c : Clauses} (hplan : c.plan = none) (h : c.BindsInConditions)
    {p : BucketPlan} {i : ℕ} (hgroup : c.groups[i]? = some (.raw p.column.internal)) :
    c.BucketedBy p i c.fragment.render (c.bucketed p i).fragment.render where
  source := by
    rw [outline, sourceFragment, hplan]
    rfl
  opening := by
    rw [outline, conditionOpening, hplan]
    rfl
  group := by
    simp only [outline, allGroups, hplan, Option.map_none, Option.toList_none, List.nil_append,
      List.getElem?_map, hgroup, Option.map_some]
    rfl
  plain_text := text_eq h
  bucketed_text := by rw [text_eq (h.bucketed p i), outline_bucketed hplan h]
  parameters := by
    have hbounds : c.bounds = [] := by rw [bounds, seriesFragment, hplan]; rfl
    rw [render_parameters_eq h, render_parameters_eq (h.bucketed p i), hbounds]
    rfl

/-- A draft of a tenant that has a plan is refused with it and without it for the same reason, or
compiled both ways. Then the two statements differ in nothing but the series of the plan, which
stands for the one datetime grouping. -/
theorem compile_planned {r : Registry} {d own : Draft} {t : Table} {tenant : Value}
    {p : BucketPlan} (ht : r.table? d.table = some t) (hown : d.scope t tenant = .ok own)
    (hplan : own.plan t = .ok (some p)) :
    (∃ e, own.compile r (some p) = .error e ∧ own.compile r none = .error e) ∨
    ∃ c plain bucketed i name unit, own.clauses r none = .ok c ∧ c.table = t ∧
      own.compile r none = .ok plain ∧ own.compile r (some p) = .ok bucketed ∧
      own.datetimeGroups = [(name, unit)] ∧ own.groups[i]? = some (.datetime name unit) ∧
      c.BucketedBy p i plain bucketed := by
  obtain ⟨name, unit, htime, -, -, -, hcolumn, -⟩ := Draft.plan_eq_some.1 hplan
  obtain ⟨i, hgroup, hclauses⟩ := Draft.clauses_planned htime r p
  have htable : own.table = d.table := by
    obtain ⟨fs, -, h⟩ := bind_eq_ok.1 hown
    rw [pure_eq_ok.1 h]
  unfold Draft.compile
  rw [hclauses]
  cases hc : own.clauses r none with
  | error e => exact .inl ⟨e, rfl, rfl⟩
  | ok c =>
    obtain ⟨ht', hnone, -, -, hterms, -, -⟩ := Draft.clauses_eq_ok.1 hc
    obtain rfl : t = c.table := Option.some.inj (ht.symm.trans (htable ▸ ht'))
    obtain ⟨col, hcol, hterm⟩ := Draft.getElem?_groupTermsFrom hterms hgroup
    cases hcolumn.symm.trans hcol
    exact .inr ⟨c, _, _, i, name, unit, rfl, rfl, rfl, rfl, htime, hgroup,
      Clauses.bucketedBy hnone (Draft.bindsInConditions_of_clauses hc) hterm⟩

/-- The traces of a day by their names, the ten most frequent names first. -/
def Bundled.namedTraces : Query where
  table := "traces"
  select := [⟨"name", none⟩, ⟨"id", some .count⟩]
  filters := [.datetime "timestamp" .ge (Events.dayStart 1),
    .datetime "timestamp" .lt (Events.dayStart 2)]
  groups := [.categorical .string "name", .datetime "timestamp" .hour]
  orders := [⟨"id", some .count, .desc⟩]
  limit := some 10

/-- The plan for the hours of the day. -/
def Bundled.hourPlan : BucketPlan where
  column := plain "timestamp" "t.\"timestamp\"" .datetime
  unit := .hour
  lower := (Filter.datetime "timestamp" .ge (Events.dayStart 1)).toDraft
  upper := (Filter.datetime "timestamp" .lt (Events.dayStart 2)).toDraft

open Bundled in
/-- With the plan the name stays among the groupings, and the limit is the sixth parameter and not
the fourth. -/
theorem compile_planned_namedTraces :
    ∃ own, Registry.bundled.table? namedTraces.toDraft.table = some traces ∧
      namedTraces.toDraft.scope traces (.text "a") = .ok own ∧
      own.plan traces = .ok (some hourPlan) ∧
      ∃ c : Clauses, ∃ plain bucketed, c.BucketedBy hourPlan 1 plain bucketed ∧
        own.compile Registry.bundled (some hourPlan) = .ok bucketed ∧
        c.outline.limit = some 4 ∧ (c.outline.bucketed hourPlan traces 1).limit = some 6 ∧
        (c.outline.bucketed hourPlan traces 1).groups =
          [[.word "date_series.\"date\""], [.word "t.\"name\""]] := by
  have htable : Registry.bundled.table? namedTraces.toDraft.table = some traces := rfl
  have hown := namedTraces.scope_toDraft traces (show "a" ≠ "" by decide)
  have hplan : (namedTraces.scoped traces "a").toDraft.plan traces = .ok (some hourPlan) := rfl
  have hclauses : ∃ c, (namedTraces.scoped traces "a").toDraft.clauses Registry.bundled none =
      .ok c ∧ c.outline.limit = some 4 ∧
      (c.outline.bucketed hourPlan traces 1).limit = some 6 ∧
      (c.outline.bucketed hourPlan traces 1).groups =
        [[.word "date_series.\"date\""], [.word "t.\"name\""]] := ⟨_, rfl, rfl, rfl, rfl⟩
  obtain ⟨c, hc, hfacts⟩ := hclauses
  refine ⟨_, htable, hown, hplan, ?_⟩
  rcases compile_planned htable hown hplan with ⟨e, -, he⟩ |
    ⟨c', plain, bucketed, i, name, unit, hc', -, -, hbucketed, -, hi, h⟩
  · cases he
  · cases hc.symm.trans hc'
    obtain rfl : i = 1 := by
      match i, hi with
      | 1, _ => rfl
    exact ⟨c, plain, bucketed, h, hbucketed, hfacts⟩

end Dashboard
