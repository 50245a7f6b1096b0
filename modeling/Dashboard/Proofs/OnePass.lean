import Dashboard.Proofs.Placeholders
import Dashboard.Proofs.PlannedText

/-!
# Writing a statement in one pass

The compiler puts fragments together and numbers their placeholders when all of them are there. A
statement can also be written from left to right, with its values counted on the way.

* `Emit` is such a step of writing: `Emit.write` appends a piece of text, `Emit.literal` a value and
  its placeholder. `Draft.emit` writes the statement of a draft, entry by entry.
* `Emit.Writes` says of a step that it appends what a fragment holds. `Writes.bind`, `Writes.append`
  and `Writes.concat` compose such steps, and there is one lemma for each kind of entry.
* `Emit.run_entries` and `Emit.run_listed` go through a list of entries; `Statement.add_clause` says
  that the terms written one after the other are the clause that the compiler makes of them.
* `Draft.onePass_eq_compile`: both ways come to the same statement, or to the same error.
* `Draft.Written` says where each entry of a draft stands in a statement, and `compile_one_pass`
  that all of them do, in their order. With a plan a datetime grouping has no term of its own.
-/

namespace Dashboard

open Fragment (placeholder)

/-! ### Steps of writing -/

/-- A step that writes at the end of a statement, or fails. -/
abbrev Emit := StateT Statement (Except BuildError)

namespace Emit

/-- Appends a piece of text. -/
def write (piece : String) : Emit Unit := modify fun s => ⟨s.text ++ piece, s.parameters⟩

/-- Appends a value to the parameters, and then the placeholder with their new number. -/
def literal (v : Value) : Emit Unit := modify fun s =>
  let parameters := s.parameters ++ [v]
  ⟨s.text ++ ":p" ++ toString parameters.length, parameters⟩

/-- A term of a list behind what leads it. The next term is led by the separator. -/
def term (separator lead : String) (m : Emit Unit) : Emit String := do
  write lead
  m
  return separator

/-- The term that a plan puts in front of a list. What leads the next one tells whether there was
any. -/
def planned (plan : Option BucketPlan) (separator opening : String) (m : BucketPlan → Emit Unit) :
    Emit String :=
  match plan with
  | none => return opening
  | some p => term separator opening (m p)

/-- The entries of a list, the first of which has the position `i`. Each is told what leads it, and
tells what leads the next one. -/
def entries {α : Type} (entry : String → α → ℕ → Emit String) : String → ℕ → List α → Emit Unit
  | _, _, [] => return
  | lead, i, x :: xs => do
    let next ← entry lead x i
    entries entry next (i + 1) xs

/-- The terms of a list, after that of the plan if there is one. -/
def listing {α : Type} (plan : Option BucketPlan) (separator opening : String)
    (m : BucketPlan → Emit Unit) (entry : String → α → ℕ → Emit String) (xs : List α) :
    Emit Unit := do
  let lead ← planned plan separator opening m
  entries entry lead 0 xs

end Emit

/-! ### The statement of a draft -/

namespace Draft

open Emit

/-- A column, aggregated by the word if there is one. -/
def emitExpression (internal : String) (agg : Option String) : Emit Unit :=
  match agg with
  | none => write internal
  | some word => match Keyword.ofWord? word with
    | some a => do
      write (Aggregation.around a).1
      write internal
      write (Aggregation.around a).2
    | none => throw (.unknownAggregation word)

/-- A selected column. -/
def emitSelect (t : Table) (item : Select) (i : ℕ) : Emit Unit := do
  let column ← lookedUp (t.resolveColumn item.column (place "select" i "column"))
  emitExpression column.internal item.agg
  write " AS "
  write ("\"" ++ columnAlias column.name item.agg ++ "\"")

/-- A column to order by. -/
def emitOrder (t : Table) (item : Order) (i : ℕ) : Emit Unit := do
  let column ← lookedUp (t.resolveColumn item.column (place "orderBy" i "column"))
  emitExpression column.internal item.agg
  match (Keyword.ofWord? item.direction : Option Direction) with
  | some d => write (" " ++ Keyword.word d)
  | none => throw (.unknownDirection item.direction)

/-- The cast of a compared value. -/
def emitCast (cast : Option String) (form : FilterKind) : Emit Unit :=
  match cast, form with
  | none, _ => return
  | some _, .datetime => return
  | some c, .options => write (" ::\"" ++ c ++ "\"[]")
  | some c, _ => write (" ::\"" ++ c ++ "\"")

/-- The condition of a filter, with its value as a literal. -/
def emitFilter (t : Table) (item : Filter) (i : ℕ) : Emit Unit := do
  let column ← lookedUp (t.resolveColumn item.column (place "filter" i "column"))
  let operator ← lookedUp (operatorSql item.kind item.operator (place "filter" i "operator"))
  write column.internal
  if item.form = .options then
    write (" " ++ operator ++ "(")
    match item.value.items? with
    | none => throw .notAList
    | some items => literal (.list items)
    emitCast column.cast item.form
    write ")"
  else
    write (" " ++ operator ++ " ")
    literal item.value
    emitCast column.cast item.form

/-- The term of a grouping, if it has one: with a plan a datetime column is looked up only. -/
def emitGroup (t : Table) (isPlanned : Bool) (lead : String) (item : Group) (i : ℕ) :
    Emit String := do
  let column ← lookedUp (t.resolveColumn item.column (place "groupBy" i "column"))
  match item, isPlanned with
  | .datetime .., true => return lead
  | _, _ => term ", " lead (write column.internal)

/-- The series in front of the statement, if there is a plan. -/
def emitSeries : Option BucketPlan → Emit Unit
  | none => return
  | some p => do
    write "WITH date_series AS (SELECT generate_series("
    literal p.lower.value
    write ", "
    literal p.upper.value
    write (", '1 " ++ Keyword.word p.unit ++ "'::interval) AS \"date\") ")

/-- The bucket that an expression falls into. -/
def emitBucket (unit : TemporalUnit) (expression : String) : Emit Unit := do
  write ("DATE_TRUNC('" ++ Keyword.word unit ++ "', ")
  write expression
  write ")"

/-- The source of the rows. -/
def emitSource (t : Table) : Option BucketPlan → Emit Unit
  | none => write (" FROM " ++ t.source)
  | some p => do
    write (" FROM date_series LEFT JOIN " ++ t.source ++ " ON ")
    emitBucket p.unit p.column.internal
    write " = "
    emitBucket p.unit "date_series.\"date\""

/-- The bound on the number of rows. -/
def emitLimit : Value → Emit Unit
  | .null => return
  | v => do
    write " LIMIT "
    literal v

/-- The date of a bucket as a selected column. -/
def emitDate (p : BucketPlan) : Emit Unit := do
  write "date_series.\"date\""
  write " AS "
  write ("\"" ++ p.column.name ++ "\"")

/-- The date of a bucket as the first column to order by. -/
def emitDateOrder : Emit Unit := do
  write "date_series.\"date\""
  write " ASC"

/-- The statement of a draft, from left to right. -/
def emit (d : Draft) (r : Registry) (plan : Option BucketPlan) : Emit Unit := do
  let t ← lookedUp (r.resolveTable d.table)
  emitSeries plan
  write "SELECT "
  listing plan ", " "" emitDate (fun lead item i => term ", " lead (emitSelect t item i)) d.select
  emitSource t plan
  entries (fun lead item i => term " AND " lead (emitFilter t item i))
    (if plan.isSome then " AND " else " WHERE ") 0 d.filters
  listing plan ", " " GROUP BY " (fun _ => write "date_series.\"date\"")
    (emitGroup t plan.isSome) d.groups
  listing plan ", " " ORDER BY " (fun _ => emitDateOrder)
    (fun lead item i => term ", " lead (emitOrder t item i)) d.orders
  emitLimit d.limit
  write ";"

/-- What is written when nothing has been. -/
def onePass (d : Draft) (r : Registry) (plan : Option BucketPlan) : Except BuildError Statement :=
  Prod.snd <$> (d.emit r plan).run ⟨"", []⟩

end Draft

/-! ### Writing a fragment -/

namespace Statement

/-- A statement with a fragment behind it, numbered on from its parameters. -/
def add (s : Statement) (f : Fragment) : Statement :=
  ⟨s.text ++ f.textFrom s.parameters.length, s.parameters ++ f.values⟩

@[simp] theorem add_empty (s : Statement) : s.add .empty = s := by
  simp [add]

@[simp] theorem add_append (s : Statement) (f g : Fragment) :
    s.add (f ++ g) = (s.add f).add g := by
  simp [add, Fragment.textFrom_append, String.append_assoc]

theorem add_raw (s : Statement) (piece : String) :
    s.add (.raw piece) = ⟨s.text ++ piece, s.parameters⟩ := by
  simp [add]

theorem add_bind (s : Statement) (v : Value) :
    s.add (.bind v) =
      ⟨s.text ++ ":p" ++ toString (s.parameters ++ [v]).length, s.parameters ++ [v]⟩ := by
  simp [add, placeholder, String.append_assoc]

/-- Rendering is writing behind nothing. -/
theorem add_nil (f : Fragment) : (⟨"", []⟩ : Statement).add f = f.render := by
  simp [add, Fragment.render, Fragment.textFrom]

/-- A statement with terms behind it, each of them behind what leads it. -/
def addTerms (separator : String) : String → List Fragment → Statement → Statement
  | _, [], s => s
  | lead, f :: fs, s => addTerms separator separator fs ((s.add (.raw lead)).add f)

/-- Terms behind a term are those of a join. -/
theorem add_join_cons (separator : String) (s : Statement) (f : Fragment) (fs : List Fragment) :
    s.add (.join separator (f :: fs)) = addTerms separator separator fs (s.add f) := by
  induction fs generalizing s f with
  | nil => simp [Fragment.join, addTerms]
  | cons g fs ih =>
    have hjoin : Fragment.join separator (f :: g :: fs) =
        f ++ (.raw separator ++ .join separator (g :: fs)) := rfl
    rw [hjoin, add_append, add_append, ih, addTerms]

/-- The clause of some terms is its opening, the first term and the others behind separators; it is
nothing without any terms. -/
theorem add_clause (opening separator : String) (s : Statement) (fs : List Fragment) :
    s.add (clause opening separator fs) = addTerms separator opening fs s := by
  cases fs with
  | nil => exact s.add_empty
  | cons f fs =>
    have hclause : clause opening separator (f :: fs) =
        .raw opening ++ .join separator (f :: fs) := rfl
    rw [hclause, add_append, add_join_cons, addTerms]

theorem add_join (separator : String) (s : Statement) (fs : List Fragment) :
    s.add (.join separator fs) = addTerms separator "" fs s := by
  cases fs with
  | nil => exact s.add_empty
  | cons f fs => simp [add_join_cons, addTerms, add_raw]

end Statement

namespace Emit

/-- A step appends what a fragment holds, wherever it starts. It fails if the fragment cannot be
made, for the same reason. -/
def Writes (m : Emit Unit) (x : Except BuildError Fragment) : Prop :=
  ∀ s, m.run s = (fun f => ((), s.add f)) <$> x

theorem writes_skip : Writes (pure ()) (pure .empty) := fun s => by
  simp

theorem writes_write (piece : String) : Writes (write piece) (pure (.raw piece)) := fun s => by
  simp [write, Statement.add_raw]

theorem writes_literal (v : Value) : Writes (literal v) (pure (.bind v)) := fun s => by
  simp [literal, Statement.add_bind]

theorem writes_throw (e : BuildError) : Writes (throw e) (throw e) := fun _ => rfl

/-- A step may depend on what a look-up finds. -/
theorem Writes.bind {α : Type} {y : Except BuildError α} {m : α → Emit Unit}
    {x : α → Except BuildError Fragment} (h : ∀ a, Writes (m a) (x a)) :
    Writes (do m (← y)) (y >>= x) := fun s => by
  cases y with
  | error e => rfl
  | ok a => exact h a s

/-- Two steps write one fragment and then the other, and fail for the reason of the first that
fails. -/
theorem Writes.seq {m n : Emit Unit} {x y : Except BuildError Fragment} (hm : Writes m x)
    (hn : Writes n y) : Writes (do m; n) (do return (← x) ++ (← y)) := fun s => by
  rw [StateT.run_bind, hm s]
  cases x with
  | error e => rfl
  | ok f =>
    show n.run (s.add f) = _
    rw [hn (s.add f)]
    cases y with
    | error e => rfl
    | ok g =>
      show Except.ok ((), (s.add f).add g) = Except.ok ((), s.add (f ++ g))
      rw [Statement.add_append]

theorem Writes.append {m n : Emit Unit} {x : Except BuildError Fragment} {g : Fragment}
    (hm : Writes m x) (hn : Writes n (pure g)) : Writes (do m; n) (do return (← x) ++ g) :=
  hm.seq hn

/-- A step behind one that has failed makes no difference. -/
theorem Writes.throw {m n : Emit Unit} {x : Except BuildError Fragment} {e : BuildError}
    (hm : Writes m x) (hn : Writes n (throw e)) :
    Writes (do m; n) (do let _ ← x; throw e) := fun s => by
  rw [StateT.run_bind, hm s]
  cases x with
  | error e => rfl
  | ok g => exact hn (s.add g)

/-- A step and what comes behind it write the parts of a fragment. -/
theorem Writes.concat {m n : Emit Unit} {f : Fragment} {fs : List Fragment}
    (hm : Writes m (pure f)) (hn : Writes n (pure (.concat fs))) :
    Writes (do m; n) (pure (.concat (f :: fs))) :=
  hm.append hn

/-- The last step writes the last part of a fragment. -/
theorem Writes.last {m : Emit Unit} {f : Fragment} (h : Writes m (pure f)) :
    Writes m (pure (.concat [f])) := fun s => by
  rw [h s]
  simp

end Emit

/-! ### Writing an entry -/

namespace Draft

open Emit

theorem writes_expression (internal : String) (agg : Option String) :
    Writes (emitExpression internal agg) (aggregated internal agg) := by
  unfold emitExpression aggregated
  cases agg with
  | none => exact writes_write internal
  | some word =>
    cases h : (Keyword.ofWord? word : Option Aggregation) with
    | none =>
      simp only [h]
      exact writes_throw _
    | some a =>
      simp only [h]
      exact (writes_write _).concat ((writes_write _).concat (writes_write _).last)

theorem writes_select (t : Table) (item : Select) (i : ℕ) :
    Writes (emitSelect t item i) (selectFragment t item i) :=
  .bind fun column => (writes_expression column.internal item.agg).append
    ((writes_write _).concat (writes_write _).last)

theorem writes_order (t : Table) (item : Order) (i : ℕ) :
    Writes (emitOrder t item i) (orderFragment t item i) := by
  refine .bind fun column => ?_
  have hexpression := writes_expression column.internal item.agg
  cases (Keyword.ofWord? item.direction : Option Direction) with
  | some d => exact hexpression.append (writes_write _).last
  | none => exact hexpression.throw (writes_throw _)

theorem writes_cast (cast : Option String) (form : FilterKind) :
    Writes (emitCast cast form) (pure (castFragment cast form)) := by
  cases cast with
  | none => exact writes_skip
  | some c =>
    cases form with
    | datetime => exact writes_skip
    | _ => exact writes_write _

theorem writes_filter (t : Table) (item : Filter) (i : ℕ) :
    Writes (emitFilter t item i) (filterFragment t item i) := by
  refine .bind fun column => .bind fun operator => ?_
  have hcast := writes_cast column.cast item.form
  by_cases hform : item.form = .options
  · simp only [if_pos hform]
    cases item.value.items? with
    | none =>
      -- what has been written is lost with the failure
      exact (writes_write _).throw ((writes_write _).throw (writes_throw _))
    | some items =>
      exact (writes_write _).concat ((writes_write _).concat ((writes_literal _).concat
        (hcast.concat (writes_write _).last)))
  · simp only [if_neg hform]
    exact (writes_write _).concat ((writes_write _).concat ((writes_literal _).concat hcast.last))

theorem writes_series (plan : Option BucketPlan) :
    Writes (emitSeries plan) (pure ((plan.map BucketPlan.series).getD .empty)) := by
  cases plan with
  | none => exact writes_skip
  | some p =>
    exact (writes_write _).concat ((writes_literal _).concat ((writes_write _).concat
      ((writes_literal _).concat (writes_write _).last)))

theorem writes_bucket (unit : TemporalUnit) {expression : String} :
    Writes (emitBucket unit expression) (pure (dateTrunc unit (.raw expression))) :=
  (writes_write _).concat ((writes_write _).concat (writes_write _).last)

theorem writes_source (t : Table) (plan : Option BucketPlan) : Writes (emitSource t plan)
    (pure (match plan with
      | none => .raw (" FROM " ++ t.source)
      | some p => p.source t)) := by
  cases plan with
  | none => exact writes_write _
  | some p =>
    exact (writes_write _).concat ((writes_bucket p.unit).concat ((writes_write _).concat
      (writes_bucket p.unit).last))

theorem writes_limit (v : Value) : Writes (emitLimit v) (pure (Clauses.limitFragment v)) := by
  cases v with
  | null => exact writes_skip
  | _ => exact (writes_write _).append (writes_literal _)

end Draft

/-! ### Writing a list -/

/-- A statement with a term behind it, if there is one, and what leads the next term. -/
def Statement.addTerm (separator lead : String) (o : Option Fragment) (s : Statement) :
    String × Statement :=
  match o with
  | none => (lead, s)
  | some f => (separator, (s.add (.raw lead)).add f)

theorem Statement.addTerms_toList_append (separator lead : String) (o : Option Fragment)
    (fs : List Fragment) (s : Statement) :
    addTerms separator lead (o.toList ++ fs) s =
      addTerms separator (addTerm separator lead o s).1 fs (addTerm separator lead o s).2 := by
  cases o <;> rfl

namespace Emit

theorem run_term {m : Emit Unit} {x : Except BuildError Fragment} (h : Writes m x)
    (separator lead : String) (s : Statement) :
    (term separator lead m).run s =
      (fun f => Statement.addTerm separator lead (some f) s) <$> x := by
  simp only [term, StateT.run_bind, writes_write lead s, h _]
  cases x <;> rfl

theorem run_planned {m : BucketPlan → Emit Unit} {own : BucketPlan → Fragment}
    (h : ∀ p, Writes (m p) (pure (own p))) (plan : Option BucketPlan) (separator opening : String)
    (s : Statement) : (planned plan separator opening m).run s =
      pure (Statement.addTerm separator opening (plan.map own) s) := by
  cases plan with
  | none => rfl
  | some p => exact run_term (h p) separator opening s

/-- The entries of a list write their terms, each behind what leads it. -/
theorem run_entries {α : Type} {separator : String} {entry : String → α → ℕ → Emit String}
    {term? : α → ℕ → Except BuildError (Option Fragment)}
    (h : ∀ lead x i s, (entry lead x i).run s =
      (fun o => Statement.addTerm separator lead o s) <$> term? x i)
    (lead : String) (i : ℕ) (xs : List α) (s : Statement) :
    (entries entry lead i xs).run s =
      (fun os => ((), Statement.addTerms separator lead (os.filterMap id) s)) <$>
        (xs.zipIdx i).mapM fun x => term? x.1 x.2 := by
  induction xs generalizing lead i s with
  | nil => rfl
  | cons x xs ih =>
    rw [entries, StateT.run_bind, h, List.zipIdx_cons, List.mapM_cons]
    cases term? x i with
    | error e => rfl
    | ok o =>
      show (entries entry (Statement.addTerm separator lead o s).1 (i + 1) xs).run
        (Statement.addTerm separator lead o s).2 = _
      rw [ih]
      cases (xs.zipIdx (i + 1)).mapM fun x => term? x.1 x.2 with
      | error e => rfl
      | ok os => cases o <;> rfl

theorem mapM_some {ε α β : Type} (f : α → Except ε β) (xs : List α) :
    (xs.mapM fun x => some <$> f x) = List.map some <$> xs.mapM f := by
  induction xs with
  | nil => rfl
  | cons x xs ih =>
    rw [List.mapM_cons, List.mapM_cons, ih]
    cases f x with
    | error e => rfl
    | ok y => cases xs.mapM f <;> rfl

/-- Where every entry has a term, all of them are written. -/
theorem run_entries_term {α : Type} {m : α → ℕ → Emit Unit}
    {fragment : α → ℕ → Except BuildError Fragment} (h : ∀ x i, Writes (m x i) (fragment x i))
    (separator lead : String) (xs : List α) (s : Statement) :
    (entries (fun lead x i => term separator lead (m x i)) lead 0 xs).run s =
      (fun fs => ((), Statement.addTerms separator lead fs s)) <$>
        xs.zipIdx.mapM fun x => fragment x.1 x.2 := by
  have hentry (lead : String) (x : α) (i : ℕ) (s : Statement) :
      (term separator lead (m x i)).run s =
        (fun o => Statement.addTerm separator lead o s) <$> (some <$> fragment x i) := by
    rw [run_term (h x i), Functor.map_map]
  rw [run_entries hentry, mapM_some, Functor.map_map]
  simp

/-- What is written of a list, after the term of the plan, is a clause. -/
theorem writes_listing {α : Type} {separator opening : String} {m : BucketPlan → Emit Unit}
    {own : BucketPlan → Fragment} (hown : ∀ p, Writes (m p) (pure (own p)))
    {entry : String → α → ℕ → Emit String} {xs : List α} {terms : Except BuildError (List Fragment)}
    (hentries : ∀ lead s, (entries entry lead 0 xs).run s =
      (fun fs => ((), Statement.addTerms separator lead fs s)) <$> terms)
    (plan : Option BucketPlan) : Writes (listing plan separator opening m entry xs)
      ((fun fs => clause opening separator ((plan.map own).toList ++ fs)) <$> terms) := fun s => by
  rw [listing, StateT.run_bind, run_planned hown, pure_bind, hentries, Functor.map_map]
  simp only [Statement.add_clause, Statement.addTerms_toList_append]

end Emit

namespace Draft

open Emit

theorem run_group (t : Table) (isPlanned : Bool) (lead : String) (item : Group) (i : ℕ)
    (s : Statement) : (emitGroup t isPlanned lead item i).run s =
      (fun o => Statement.addTerm ", " lead o s) <$> groupFragment t isPlanned item i := by
  unfold emitGroup groupFragment
  cases lookedUp (t.resolveColumn item.column (place "groupBy" i "column")) with
  | error e => rfl
  | ok column =>
    have hterm := run_term (writes_write column.internal) ", " lead s
    cases item with
    | categorical name => exact hterm
    | datetime name unit =>
      cases isPlanned with
      | false => exact hterm
      | true => rfl

variable (d : Draft) (t : Table) (plan : Option BucketPlan)

/-- The selected columns have no opening of their own. -/
theorem writes_items : Writes (listing plan ", " "" emitDate
      (fun lead item i => term ", " lead (emitSelect t item i)) d.select)
    ((fun items => .join ", " ((plan.map BucketPlan.selectItem).toList ++ items)) <$>
      d.itemFragments t) := fun s => by
  have hown (p : BucketPlan) : Writes (emitDate p) (pure p.selectItem) :=
    (writes_write _).concat ((writes_write _).concat (writes_write _).last)
  have hentries (lead : String) := run_entries_term (writes_select t) ", " lead d.select
  have h : Writes (listing plan ", " "" emitDate _ d.select) _ := writes_listing hown hentries plan
  rw [h s, itemFragments, Functor.map_map, Functor.map_map]
  simp only [Statement.add_clause, Statement.add_join]

theorem writes_conditions (opening : String) : Writes
    (entries (fun lead item i => term " AND " lead (emitFilter t item i)) opening 0 d.filters)
    (clause opening " AND " <$> d.conditionFragments t) := fun s => by
  rw [run_entries_term (writes_filter t), conditionFragments, Functor.map_map]
  simp only [Statement.add_clause]

theorem writes_groups : Writes (listing plan ", " " GROUP BY "
      (fun _ => write "date_series.\"date\"") (emitGroup t plan.isSome) d.groups)
    ((fun groups => clause " GROUP BY " ", "
      ((plan.map fun _ => seriesColumn).toList ++ groups)) <$>
      d.groupFragments t plan.isSome) := by
  refine writes_listing (fun _ => writes_write _) (fun lead s => ?_) plan
  rw [run_entries (run_group t plan.isSome), groupFragments, bind_pure_comp, Functor.map_map]

theorem writes_orders : Writes (listing plan ", " " ORDER BY " (fun _ => emitDateOrder)
      (fun lead item i => term ", " lead (emitOrder t item i)) d.orders)
    ((fun orders => clause " ORDER BY " ", "
      ((plan.map fun _ => seriesColumn ++ .raw " ASC").toList ++ orders)) <$>
      d.orderFragments t) :=
  writes_listing (fun _ => (writes_write _).append (writes_write _))
    (run_entries_term (writes_order t) ", " · d.orders) plan

/-- A draft is written as the fragment of its clauses. -/
theorem writes_emit (r : Registry) :
    Writes (d.emit r plan) (Clauses.fragment <$> d.clauses r plan) := by
  unfold clauses
  rw [map_bind]
  refine .bind fun t => ?_
  have h := (writes_series plan).seq ((writes_write "SELECT ").seq ((writes_items d t plan).seq
    ((writes_source t plan).seq
      ((writes_conditions d t (if plan.isSome then " AND " else " WHERE ")).seq
        ((writes_groups d t plan).seq ((writes_orders d t plan).seq
          ((writes_limit d.limit).concat (writes_write ";").last)))))))
  refine fun s => (h s).trans ?_
  -- the clauses are made in the order in which they are written
  cases d.itemFragments t with
  | error e => rfl
  | ok items =>
    cases d.conditionFragments t with
    | error e => rfl
    | ok conditions =>
      cases d.groupFragments t plan.isSome with
      | error e => rfl
      | ok groups =>
        cases d.orderFragments t with
        | error e => rfl
        | ok orders => cases plan <;> rfl

/-- Writing a draft from left to right comes to the statement that the compiler makes of it, or to
the error for which there is none. -/
theorem onePass_eq_compile (r : Registry) : d.onePass r plan = d.compile r plan := by
  rw [onePass, writes_emit d plan r, compile, Functor.map_map, Functor.map_map, bind_pure_comp]
  simp only [Statement.add_nil]

end Draft

/-! ### Where the entries stand -/

/-- The expression of a column, aggregated or not. -/
def Column.expressionText (c : Column) : Option Aggregation → String
  | none => c.internal
  | some a => (Aggregation.around a).1 ++ c.internal ++ (Aggregation.around a).2

/-- The series of a plan, whose bounds have the first two placeholders. -/
def BucketPlan.seriesText (p : BucketPlan) : String :=
  "WITH date_series AS (SELECT generate_series(" ++ placeholder 1 ++ ", " ++ placeholder 2 ++
    (", '1 " ++ Keyword.word p.unit ++ "'::interval) AS \"date\") ")

namespace Draft

/-- The text of a selected column. -/
def SelectText (t : Table) (item : Select) (text : String) : Prop :=
  ∃ c a, t.column? item.column = some c ∧ item.agg = a.map Keyword.word ∧
    text = c.expressionText a ++ " AS " ++ "\"" ++ columnAlias c.name item.agg ++ "\""

/-- The text of a column to order by. -/
def OrderText (t : Table) (item : Order) (text : String) : Prop :=
  ∃ c a, ∃ direction : Direction, t.column? item.column = some c ∧
    item.agg = a.map Keyword.word ∧ item.direction = Keyword.word direction ∧
    text = c.expressionText a ++ " " ++ Keyword.word direction

/-- The text of a grouping. -/
def GroupText (t : Table) (item : Group) (text : String) : Prop :=
  ∃ c, t.column? item.column = some c ∧ text = c.internal

/-- The text of a filter whose value has the placeholder number `k`. -/
def FilterText (t : Table) (item : Filter) (k : ℕ) (text : String) : Prop :=
  ∃ c operator field, t.column? item.column = some c ∧
    operatorSql item.kind item.operator field = .ok operator ∧
    text = c.conditionText item.form operator k

/-- A grouping has a term of its own, unless there is a plan and it is a datetime grouping. -/
def Group.hasTerm (isPlanned : Bool) : Group → Bool
  | datetime .. => !isPlanned
  | categorical _ => true

/-- Where the entries of a draft stand in a statement. Each list holds the term of the plan, if
there is one, and then the entries in their order; a clause of an empty list is empty, as
`Layout.text` writes it. -/
structure Written (d : Draft) (t : Table) (plan : Option BucketPlan) (l : Layout) (s : Statement) :
    Prop where
  text : s.text = l.text
  series : l.series = (plan.map BucketPlan.seriesText).getD ""
  items : ∃ texts, List.Forall₂ (SelectText t) d.select texts ∧ l.items =
    (plan.map fun p =>
      "date_series.\"date\"" ++ " AS " ++ "\"" ++ p.column.name ++ "\"").toList ++ texts
  source : l.source = match plan with
    | none => " FROM " ++ t.source
    | some p => " FROM date_series LEFT JOIN " ++ t.source ++ " ON " ++
        bucketText p.unit p.column.internal ++ " = " ++ bucketText p.unit "date_series.\"date\""
  opening : l.opening = if plan.isSome then " AND " else " WHERE "
  conditions : List.Forall₂ (fun f text => FilterText t f.1 f.2 text)
    (d.filters.zipIdx (2 * plan.toList.length + 1)) l.conditions
  groups : ∃ texts, List.Forall₂ (GroupText t) (d.groups.filter (Group.hasTerm plan.isSome)) texts ∧
    l.groups = (plan.map fun _ => "date_series.\"date\"").toList ++ texts
  orders : ∃ texts, List.Forall₂ (OrderText t) d.orders texts ∧
    l.orders = (plan.map fun _ => "date_series.\"date\" ASC").toList ++ texts
  limit : l.limit = if d.limit matches .null then none else some s.parameters.length
  parameters : ∃ values, List.Forall₂ (fun f v => f.bound? = some v) d.filters values ∧
    s.parameters =
      plan.toList.flatMap BucketPlan.bounds ++ values ++ Clauses.limitValues d.limit

theorem exists_textFrom_aggregated {c : Column} {agg : Option String} {f : Fragment}
    (h : aggregated c.internal agg = .ok f) (n : ℕ) :
    ∃ a, agg = a.map Keyword.word ∧ f.textFrom n = c.expressionText a := by
  rcases aggregated_eq_ok.1 h with ⟨rfl, rfl⟩ | ⟨a, rfl, rfl⟩
  · exact ⟨none, rfl, rfl⟩
  · refine ⟨some a, rfl, ?_⟩
    simp [Column.expressionText, Fragment.textFrom_append, String.append_assoc]

/-- Two values between three pieces of text. -/
theorem textFrom_two_values (a b c : String) (v w : Value) (n : ℕ) :
    (Fragment.concat [.raw a, .bind v, .raw b, .bind w, .raw c]).textFrom n =
      a ++ placeholder (n + 1) ++ b ++ placeholder (n + 2) ++ c := by
  simp [Fragment.textFrom_append, String.append_assoc]

theorem textFrom_series (p : BucketPlan) : p.series.textFrom 0 = p.seriesText :=
  textFrom_two_values _ _ _ _ _ 0

theorem textFrom_dateOrder (n : ℕ) :
    (seriesColumn ++ .raw " ASC").textFrom n = "date_series.\"date\" ASC" := by
  simp [seriesColumn, Fragment.textFrom_append]

/-- The texts of a list that the term of a plan stands in front of. -/
theorem map_textFrom_planned {own : BucketPlan → Fragment} {ownText : BucketPlan → String}
    (h : ∀ p, (own p).textFrom 0 = ownText p) (plan : Option BucketPlan) (fs : List Fragment) :
    ((plan.map own).toList ++ fs).map (Fragment.textFrom 0) =
      (plan.map ownText).toList ++ fs.map (Fragment.textFrom 0) := by
  cases plan with
  | none => rfl
  | some p => exact congrArg (· :: fs.map (Fragment.textFrom 0)) (h p)

variable {t : Table}

theorem selectText_of_fragment {item : Select} {i : ℕ} {f : Fragment}
    (h : selectFragment t item i = .ok f) : SelectText t item (f.textFrom 0) := by
  obtain ⟨c, e, hc, he, rfl⟩ := selectFragment_eq_ok.1 h
  obtain ⟨a, ha, htext⟩ := exists_textFrom_aggregated he 0
  refine ⟨c, a, hc, ha, ?_⟩
  simp only [Fragment.concat_cons, Fragment.concat_nil, Fragment.textFrom_append, htext,
    Fragment.textFrom_raw, Fragment.textFrom_quoted, Fragment.textFrom_empty, String.append_assoc,
    String.append_empty]

theorem orderText_of_fragment {item : Order} {i : ℕ} {f : Fragment}
    (h : orderFragment t item i = .ok f) : OrderText t item (f.textFrom 0) := by
  obtain ⟨c, e, direction, hc, he, hd, rfl⟩ := orderFragment_eq_ok.1 h
  obtain ⟨a, ha, htext⟩ := exists_textFrom_aggregated he 0
  refine ⟨c, a, direction, hc, ha, hd, ?_⟩
  simp [Fragment.textFrom_append, htext, String.append_assoc]

/-- Entries that are made one by one have their texts in their order. -/
theorem forall₂_texts {α : Type} {fragment : α → ℕ → Except BuildError Fragment}
    {R : α → String → Prop} (hR : ∀ x i f, fragment x i = .ok f → R x (f.textFrom 0)) {xs : List α}
    {i : ℕ} {fs : List Fragment} (h : ((xs.zipIdx i).mapM fun x => fragment x.1 x.2) = .ok fs) :
    List.Forall₂ R xs (fs.map (Fragment.textFrom 0)) := by
  replace h := mapM_eq_ok.1 h
  induction xs generalizing i fs with
  | nil =>
    cases h
    exact .nil
  | cons x xs ih =>
    cases h with
    | cons hx h => exact .cons (hR x i _ hx) (ih h)

/-- Of the groupings, those with a term have their texts in their order. -/
theorem forall₂_groupTexts {isPlanned : Bool} {groups : List Group} {i : ℕ}
    {terms : List (Option Fragment)}
    (h : ((groups.zipIdx i).mapM fun g => groupFragment t isPlanned g.1 g.2) = .ok terms) :
    List.Forall₂ (GroupText t) (groups.filter (Group.hasTerm isPlanned))
      ((terms.filterMap id).map (Fragment.textFrom 0)) := by
  replace h := mapM_eq_ok.1 h
  induction groups generalizing i terms with
  | nil =>
    cases h
    exact .nil
  | cons g groups ih =>
    cases h with
    | cons hg h =>
      obtain ⟨c, hc, rfl⟩ := groupFragment_eq_ok.1 hg
      cases g with
      | categorical name => exact .cons ⟨c, hc, rfl⟩ (ih h)
      | datetime name unit =>
        cases isPlanned with
        | false => exact .cons ⟨c, hc, rfl⟩ (ih h)
        | true =>
          have hrest := ih h
          exact hrest

/-- Each filter binds its value and has the next placeholder. -/
theorem forall₂_filterTexts {filters : List Filter} {i n : ℕ} {fs : List Fragment}
    (h : ((filters.zipIdx i).mapM fun f => filterFragment t f.1 f.2) = .ok fs) :
    List.Forall₂ (fun f text => FilterText t f.1 f.2 text) (filters.zipIdx (n + 1))
        (Fragment.textsFrom n fs) ∧
      List.Forall₂ (fun f v => f.bound? = some v) filters (fs.flatMap Fragment.values) := by
  replace h := mapM_eq_ok.1 h
  induction filters generalizing i n fs with
  | nil =>
    cases h
    exact ⟨.nil, .nil⟩
  | cons f filters ih =>
    cases h with
    | cons hf h =>
      obtain ⟨c, operator, v, hc, hoperator, hv, rfl⟩ := filterFragment_eq_ok.1 hf
      obtain ⟨htexts, hvalues⟩ := ih (n := n + 1) h
      rw [List.zipIdx_cons, Fragment.textsFrom, List.flatMap_cons, values_condition]
      exact ⟨.cons ⟨c, operator, _, hc, hoperator, textFrom_condition ..⟩ htexts,
        .cons hv hvalues⟩

/-- Compiled clauses hold the entries of their draft. -/
theorem written_of_clauses {d : Draft} {r : Registry} {plan : Option BucketPlan} {c : Clauses}
    (h : d.clauses r plan = .ok c) : d.Written c.table plan c.layout c.fragment.render := by
  have hbinds := bindsInConditions_of_clauses h
  obtain ⟨-, hplan, hitems, hconditions, hgroups, horders, hlimit⟩ := clauses_eq_ok.1 h
  obtain ⟨terms, hterms, hgs⟩ := groupFragments_eq_ok.1 hgroups
  have hbounds : c.bounds.length = 2 * plan.toList.length := by
    rw [Clauses.bounds_eq, hplan]
    cases plan <;> rfl
  have hselect := forall₂_texts (fun item i f (h : selectFragment c.table item i = .ok f) =>
    selectText_of_fragment h) hitems
  have horder := forall₂_texts (fun item i f (h : orderFragment c.table item i = .ok f) =>
    orderText_of_fragment h) horders
  obtain ⟨hfilters, hvalues⟩ := forall₂_filterTexts (n := c.bounds.length) hconditions
  have hparameters := Clauses.render_parameters_eq hbinds
  have hlast : c.fragment.render.parameters.length =
      c.bounds.length + c.conditionValues.length + (Clauses.limitValues c.limit).length := by
    rw [hparameters, List.length_append, List.length_append]
  subst hplan
  refine
    { text := Clauses.render_text_eq hbinds
      series := ?series
      items := ⟨_, hselect, map_textFrom_planned (fun p => p.textFrom_selectItem 0) _ _⟩
      source := ?source
      opening := rfl
      conditions := hbounds ▸ hfilters
      groups := ⟨_, forall₂_groupTexts hterms, ?groups⟩
      orders := ⟨_, horder, map_textFrom_planned (fun _ => textFrom_dateOrder 0) _ _⟩
      limit := ?limit
      parameters := ⟨_, hvalues, ?parameters⟩ }
  case series =>
    unfold Clauses.layout Clauses.seriesFragment
    cases c.plan with
    | none => rfl
    | some p => exact textFrom_series p
  case source =>
    unfold Clauses.layout Clauses.sourceFragment
    cases c.plan with
    | none => rfl
    | some p => exact p.textFrom_source c.table 0
  case groups =>
    rw [← hgs]
    exact map_textFrom_planned (fun _ => rfl) _ _
  case limit =>
    rw [hlast, ← hlimit]
    unfold Clauses.layout
    cases c.limit <;> rfl
  case parameters =>
    rw [hparameters, Clauses.bounds_eq, hlimit]
    rfl

end Draft

/-- Every draft, with any plan or none, is compiled as it is written from left to right: to the same
statement, or to the same error. In the statement each entry stands once and in its place, except
that with a plan the series stands in front of the groupings for those by datetime columns. -/
theorem compile_one_pass (d : Draft) (r : Registry) (plan : Option BucketPlan) :
    d.compile r plan = d.onePass r plan ∧
      ∀ s, d.compile r plan = .ok s →
        ∃ t l, r.table? d.table = some t ∧ d.Written t plan l s := by
  refine ⟨(d.onePass_eq_compile plan r).symm, fun s hs => ?_⟩
  obtain ⟨c, hc, rfl⟩ := Draft.compile_eq_ok.1 hs
  exact ⟨c.table, c.layout, (Draft.clauses_eq_ok.1 hc).1, Draft.written_of_clauses hc⟩

open Bundled in
/-- A query by names and hours, with its plan. -/
theorem compile_one_pass_namedTraces : ∃ s l,
    (namedTraces.scoped traces "a").toDraft.compile Registry.bundled (some hourPlan) = .ok s ∧
    (namedTraces.scoped traces "a").toDraft.onePass Registry.bundled (some hourPlan) = .ok s ∧
    (namedTraces.scoped traces "a").toDraft.Written traces (some hourPlan) l s := by
  obtain ⟨hsame, hwritten⟩ := compile_one_pass (namedTraces.scoped traces "a").toDraft
    Registry.bundled (some hourPlan)
  have hs : ∃ s, (namedTraces.scoped traces "a").toDraft.compile Registry.bundled
      (some hourPlan) = .ok s := ⟨_, rfl⟩
  obtain ⟨s, hs⟩ := hs
  obtain ⟨t, l, ht, h⟩ := hwritten s hs
  have ht' : Registry.bundled.table? (namedTraces.scoped traces "a").toDraft.table =
      some traces := rfl
  obtain rfl := Option.some.inj (ht'.symm.trans ht)
  exact ⟨s, l, hs, hsame ▸ hs, h⟩

/-- Statements that differ in their groupings alone have the same text only if the clauses of the
groupings have. -/
theorem Layout.clauseText_of_text_eq {l : Layout} {groups : List String}
    (h : l.text = { l with groups }.text) :
    clauseText " GROUP BY " ", " l.groups = clauseText " GROUP BY " ", " groups := by
  have hlimit := (String.append_left_inj ";").1 h
  have horders := (String.append_left_inj (limitText l.limit)).1 hlimit
  exact (String.append_right_inj _).1 ((String.append_left_inj _).1 horders)

open Bundled in
/-- With its plan the hour of a query by names and hours stands in front of the names. The statement
is another one than that with both groupings in the order of the query, be the hour written as its
column or as the series, and be the series in front of them or not. -/
theorem groups_not_in_order_namedTraces : ∃ l s,
    (namedTraces.scoped traces "a").toDraft.plan traces = .ok (some hourPlan) ∧
    (namedTraces.scoped traces "a").toDraft.compile Registry.bundled (some hourPlan) = .ok s ∧
    (namedTraces.scoped traces "a").toDraft.Written traces (some hourPlan) l s ∧
    ∀ front texts, front = [] ∨ front = ["date_series.\"date\""] → List.Forall₂
        (fun g text => Draft.GroupText traces g text ∨
          (g.hasTerm true = false ∧ text = "date_series.\"date\""))
        (namedTraces.scoped traces "a").toDraft.groups texts →
      s.text ≠ { l with groups := front ++ texts }.text := by
  have hc : ∃ c, (namedTraces.scoped traces "a").toDraft.clauses Registry.bundled (some hourPlan) =
      .ok c ∧ c.table = traces ∧ c.layout.groups = ["date_series.\"date\"", "t.\"name\""] :=
    ⟨_, rfl, rfl, rfl⟩
  obtain ⟨c, hc, htable, hgroups⟩ := hc
  have hwritten := htable ▸ Draft.written_of_clauses hc
  refine ⟨_, _, rfl, Draft.compile_eq_ok.2 ⟨c, hc, rfl⟩, hwritten,
    fun front texts hfront htexts htext => ?_⟩
  rw [hwritten.text] at htext
  have hclause := Layout.clauseText_of_text_eq htext
  rw [hgroups] at hclause
  cases htexts with
  | cons hname htexts =>
    cases htexts with
    | cons hhour hnil =>
      cases hnil
      obtain ⟨col, hcol, rfl⟩ := hname.resolve_right fun h => Bool.noConfusion h.1
      cases hcol
      rcases hhour with ⟨col, hcol, rfl⟩ | ⟨-, rfl⟩
      · cases hcol
        rcases hfront with rfl | rfl <;> exact absurd hclause (by decide +kernel)
      · rcases hfront with rfl | rfl <;> exact absurd hclause (by decide +kernel)

end Dashboard
