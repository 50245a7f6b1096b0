import Dashboard.Proofs.DryRun
import Dashboard.Proofs.RecordMembers
import Dashboard.Registry.Bundled

/-!
# Faults of single entries

Every part of a description is looked at on its own. What is said of one entry of a list therefore
does not depend on the others.

* `Checked.recordFaults` lists the faults of a record field by field, `Checked.listFaults` those of
  a list entry by entry. `Shape.faults_query` says that the faults of a description are such a list.
* `EntrySlot` is a place in a list in a field of an object, `EntrySlot.fill` the object with an
  entry there. `Checked.pick_withValue`: which fields are picked does not depend on the entry.
* `Checked.recordFaults_withValue` and `Checked.listFaults_items`: the faults of an entry are a
  stretch of the faults of the whole, and the rest does not depend on it.
* `Shape.Located`: every fault of a part lies at or below the place of the part.
* `faults_of_entry`: so it is for every entry of a description whose table is known, except for the
  fault of a list that needs an entry and has no valid one.
-/

namespace Dashboard
namespace Checked

/-! ### Faults of records -/

/-- How one field of a record is checked: the names it goes by, the faults of a value that it has,
and whether it has to be there. -/
structure FieldCheck where
  names : List String
  faults : Path → Json → List QueryError
  needed : Bool

/-- A field that has to be there. -/
def FieldCheck.needs {α : Type} (names : List String) (check : Path → Json → Checked α) :
    FieldCheck := ⟨names, fun path j => (check path j).faults, true⟩

/-- A field that may be absent. -/
def FieldCheck.allows {α : Type} (names : List String) (check : Path → Json → Checked α) :
    FieldCheck := ⟨names, fun path j => (check path j).faults, false⟩

/-- The faults that come from one field. -/
def FieldCheck.faultsIn (c : FieldCheck) (path : Path) (fields : Fields Json) : List QueryError :=
  match pick c.names fields with
  | some (n, j) => c.faults (path ++ [n]) j
  | none => if c.needed then [.invalid .required (Path.field? (path ++ c.names.take 1))] else []

/-- The faults of a record: those of its fields in the order of the checks, and then one for each
field that no check has picked, in the order of the fields. -/
def recordFaults (cs : List FieldCheck) (path : Path) (fields : Fields Json) : List QueryError :=
  cs.flatMap (fun c => c.faultsIn path fields) ++ extras path (cs.map FieldCheck.names) fields

section

variable {α : Type} (path : Path) (names : List String) (check : Path → Json → Checked α)
  (fields : Fields Json)

theorem faults_required : (required path names check fields).faults =
    (FieldCheck.needs names check).faultsIn path fields := by
  unfold required FieldCheck.faultsIn FieldCheck.needs
  cases pick names fields <;> rfl

theorem faults_optional (default : α) : (optional path names default check fields).faults =
    (FieldCheck.allows names check).faultsIn path fields := by
  unfold optional FieldCheck.faultsIn FieldCheck.allows
  cases pick names fields <;> rfl

end

/-! ### Faults of lists -/

/-- The faults of the entries of a list, the first of which has the position `i`. -/
def entryFaults (entry : Path → Json → List QueryError) (path : Path) :
    ℕ → List Json → List QueryError
  | _, [] => []
  | i, j :: js => entry (path ++ [toString i]) j ++ entryFaults entry path (i + 1) js

/-- No entry of a list is without faults. -/
def noneValid (entry : Path → Json → List QueryError) (path : Path) : ℕ → List Json → Bool
  | _, [] => true
  | i, j :: js => !(entry (path ++ [toString i]) j).isEmpty && noneValid entry path (i + 1) js

/-- The fault of a list that needs a valid entry and has none. -/
def sizeFaults (entry : Path → Json → List QueryError) (needsEntry : Bool) (path : Path)
    (js : List Json) : List QueryError :=
  if needsEntry && noneValid entry path 0 js then [.invalid .noItems path.field?] else []

/-- The faults of a list: those of its entries, in their order, and that of its size. -/
def listFaults (entry : Path → Json → List QueryError) (needsEntry : Bool) (path : Path) :
    Json → List QueryError
  | .list js => entryFaults entry path 0 js ++ sizeFaults entry needsEntry path js
  | _ => [.invalid .notList path.field?]

section

variable {entry : Path → Json → List QueryError} {path : Path}

theorem entryFaults_append (i : ℕ) (pre post : List Json) : entryFaults entry path i (pre ++ post) =
    entryFaults entry path i pre ++ entryFaults entry path (i + pre.length) post := by
  induction pre generalizing i with
  | nil => rfl
  | cons j pre ih =>
    rw [List.cons_append, entryFaults, entryFaults, ih, List.append_assoc, List.length_cons,
      Nat.add_right_comm, Nat.add_assoc]

theorem noneValid_append (i : ℕ) (pre post : List Json) : noneValid entry path i (pre ++ post) =
    (noneValid entry path i pre && noneValid entry path (i + pre.length) post) := by
  induction pre generalizing i with
  | nil => rfl
  | cons j pre ih =>
    rw [List.cons_append, noneValid, noneValid, ih, Bool.and_assoc, List.length_cons,
      Nat.add_right_comm, Nat.add_assoc]

/-- A list with a valid entry is never too small. -/
theorem sizeFaults_of_valid {needsEntry : Bool} {pre post : List Json} {x : Json}
    (h : entry (path ++ [toString pre.length]) x = []) :
    sizeFaults entry needsEntry path (pre ++ x :: post) = [] := by
  have hvalid : noneValid entry path 0 (pre ++ x :: post) = false := by
    rw [noneValid_append, Nat.zero_add, noneValid, h]
    simp
  rw [sizeFaults, hvalid, Bool.and_false]
  rfl

variable {α : Type} (check : Path → Json → Checked α) (path)

theorem flatMap_faults_entries (i : ℕ) (js : List Json) :
    (js.mapIdx fun k j => check (path ++ [toString (i + k)]) j).flatMap faults =
      entryFaults (fun p j => (check p j).faults) path i js := by
  induction js generalizing i with
  | nil => rfl
  | cons j js ih =>
    rw [List.mapIdx_cons, List.flatMap_cons, entryFaults, ← ih]
    simp only [Nat.add_zero, Nat.add_assoc, Nat.add_comm 1]

theorem any_value_entries (i : ℕ) (js : List Json) :
    ((js.mapIdx fun k j => check (path ++ [toString (i + k)]) j).any fun c => c.value?.isSome) =
      !noneValid (fun p j => (check p j).faults) path i js := by
  have hvalue (c : Checked α) : c.value?.isSome = c.faults.isEmpty := by cases c <;> rfl
  induction js generalizing i with
  | nil => rfl
  | cons j js ih =>
    rw [List.mapIdx_cons, List.any_cons, noneValid, Bool.not_and, Bool.not_not, ← ih, hvalue]
    simp only [Nat.add_zero, Nat.add_assoc, Nat.add_comm 1]

theorem faults_list : (fun path j => (Shape.list check path j).faults) =
    listFaults (fun p j => (check p j).faults) false := by
  funext path j
  cases j with
  | list js =>
    have h := flatMap_faults_entries path check 0 js
    simp only [Nat.zero_add] at h
    rw [Shape.list, faults_every, Shape.entries, h, listFaults, sizeFaults, Bool.false_and]
    exact (List.append_nil _).symm
  | _ => rfl

theorem faults_someList : (fun path j => (Shape.someList check path j).faults) =
    listFaults (fun p j => (check p j).faults) true := by
  funext path j
  cases j with
  | list js =>
    have h := flatMap_faults_entries path check 0 js
    have hvalid := any_value_entries path check 0 js
    simp only [Nat.zero_add] at h hvalid
    simp only [Shape.someList, Shape.entries, listFaults, sizeFaults, faults_andNo, faults_every, h,
      hvalid, Bool.true_and]
    cases noneValid (fun p j => (check p j).faults) path 0 js <;> rfl
  | _ => rfl

end
end Checked

open Checked

/-! ### Descriptions -/

namespace Shape

/-- The lists of a description. -/
inductive Part where
  | select
  | filter
  | groupBy
  | orderBy
  deriving DecidableEq

namespace Part

/-- The names that a list goes by. -/
def names : Part → List String
  | select => ["select"]
  | filter => ["filter"]
  | groupBy => ["groupBy", "group_by"]
  | orderBy => ["orderBy", "order_by"]

/-- The faults of one entry. -/
def faults : Part → Path → Json → List QueryError
  | select => fun path j => (selectItem path j).faults
  | filter => fun path j => (Shape.filter path j).faults
  | groupBy => fun path j => (group path j).faults
  | orderBy => fun path j => (orderItem path j).faults

/-- Only the selected columns have to be there, one valid one at least. -/
def needsEntry (part : Part) : Bool := part = select

/-- The check of a list. -/
def check (part : Part) : FieldCheck where
  names := part.names
  faults := listFaults part.faults part.needsEntry
  needed := part.needsEntry

end Part

/-- The checks of the fields of a description, in their order. -/
def queryChecks : List FieldCheck :=
  [.needs ["from", "from_"] text, Part.select.check, Part.filter.check, Part.groupBy.check,
    Part.orderBy.check, .allows ["limit"] limit]

/-- A description has the faults of all of its fields, and one for each field that there should not
be. -/
theorem faults_query (fields : Fields Json) :
    (query fields).faults = recordFaults queryChecks [] fields := by
  simp only [query, faults_andNo, faults_map2, faults_both, faults_required, faults_optional,
    FieldCheck.needs, FieldCheck.allows, faults_someList, faults_list, recordFaults, queryChecks,
    List.flatMap_cons, List.flatMap_nil, List.append_nil, List.append_assoc]
  rfl

/-- The tag of a record has been read before its fields. -/
def tagCheck : FieldCheck := ⟨["type"], fun _ _ => [], false⟩

theorem faultsIn_tagCheck (path : Path) (fields : Fields Json) :
    tagCheck.faultsIn path fields = [] := by
  unfold FieldCheck.faultsIn tagCheck
  cases pick ["type"] fields <;> rfl

/-- The checks of the fields of a selected column. -/
def selectChecks : List FieldCheck :=
  [.needs ["column"] text, .allows ["agg"] (keyword? Aggregation)]

theorem faults_selectItem (path : Path) (fields : Fields Json) :
    (selectItem path (.object fields)).faults = recordFaults selectChecks path fields := by
  simp only [selectItem, record, faults_andNo, faults_map2, faults_required, faults_optional,
    recordFaults, selectChecks, List.flatMap_cons, List.flatMap_nil, List.append_nil]
  rfl

/-- The checks of the fields of a column to order by. -/
def orderChecks : List FieldCheck :=
  [.needs ["column"] text, .allows ["agg"] (keyword? Aggregation),
    .needs ["direction"] (keyword Direction)]

theorem faults_orderItem (path : Path) (fields : Fields Json) :
    (orderItem path (.object fields)).faults = recordFaults orderChecks path fields := by
  simp only [orderItem, record, faults_andNo, faults_map2, faults_both, faults_required,
    faults_optional, recordFaults, orderChecks, List.flatMap_cons, List.flatMap_nil,
    List.append_nil]
  rfl

/-- The checks of the fields of a filter with the operators `α`. -/
def filterChecks {β : Type} (α : Type) [Keyword α] (value : Path → Json → Checked β) :
    List FieldCheck :=
  [tagCheck, .needs ["column"] text, .needs ["operator"] (operator α), .needs ["value"] value]

theorem faults_filterFields {α β : Type} [Keyword α] (path : Path) (make : String → α → β → Filter)
    (value : Path → Json → Checked β) (fields : Fields Json) :
    (filterFields path make value fields).faults =
      recordFaults (filterChecks α value) path fields := by
  simp only [filterFields, faults_andNo, faults_map2, faults_both, faults_required, recordFaults,
    filterChecks, List.flatMap_cons, List.flatMap_nil, List.append_nil, faultsIn_tagCheck,
    List.nil_append]
  rfl

/-- The checks of the fields of a grouping by categories. -/
def categoricalChecks : List FieldCheck := [tagCheck, .needs ["column"] text]

theorem faults_categorical (word : CategoricalWord) (path : Path) (fields : Fields Json) :
    (((required path ["column"] text fields).map (GroupBy.categorical word)).andNo
        (extras path [["type"], ["column"]] fields)).faults =
      recordFaults categoricalChecks path fields := by
  simp only [faults_andNo, faults_map, faults_required, recordFaults, categoricalChecks,
    List.flatMap_cons, List.flatMap_nil, List.append_nil, faultsIn_tagCheck, List.nil_append]
  rfl

/-- The checks of the fields of a grouping by time. -/
def timeGroupChecks : List FieldCheck :=
  [tagCheck, .needs ["column"] text,
    .needs ["temporalUnit", "temporal_unit"] (keyword TemporalUnit)]

theorem faults_timeGroup (path : Path) (fields : Fields Json) :
    ((map2 GroupBy.datetime (required path ["column"] text fields)
        (required path ["temporalUnit", "temporal_unit"] (keyword TemporalUnit) fields)).andNo
        (extras path [["type"], ["column"], ["temporalUnit", "temporal_unit"]] fields)).faults =
      recordFaults timeGroupChecks path fields := by
  simp only [faults_andNo, faults_map2, faults_required, recordFaults, timeGroupChecks,
    List.flatMap_cons, List.flatMap_nil, List.append_nil, faultsIn_tagCheck, List.nil_append]
  rfl

end Shape

/-! ### Places of entries -/

/-- A place in a list that is the value of a field. The field is the first of its name. -/
structure EntrySlot where
  front : Fields Json
  name : String
  pre : List Json
  post : List Json
  back : Fields Json
  first : ∀ f ∈ front, f.1 ≠ name

namespace EntrySlot

variable (s : EntrySlot)

/-- The fields with any value for the one with the list. -/
def withValue (j : Json) : Fields Json := s.front ++ (s.name, j) :: s.back

/-- The list with an entry at the place. -/
def items (x : Json) : List Json := s.pre ++ x :: s.post

/-- The fields with an entry at the place. -/
def fill (x : Json) : Fields Json := s.withValue (.list (s.items x))

theorem field?_withValue (n : String) (j : Json) :
    Fields.field? n (s.withValue j) =
      if n = s.name then some j else Fields.field? n (s.front ++ s.back) := by
  unfold withValue Fields.field?
  rw [List.lookup_append, List.lookup_append, List.lookup_cons]
  by_cases hn : n = s.name
  · subst hn
    have hfront : s.front.lookup s.name = none := Fields.field?_eq_none.2 s.first
    rw [if_pos rfl, hfront, beq_self_eq_true]
    rfl
  · rw [if_neg hn, beq_false_of_ne hn]

end EntrySlot

namespace Checked

variable (s : EntrySlot)

/-- The field of the slot is the one that a check picks, whatever its value is. -/
def FieldCheck.ReadsAt (c : FieldCheck) (s : EntrySlot) : Prop :=
  ∀ j, pick c.names (s.withValue j) = some (s.name, j)

/-- The value of one field makes no difference to which field is picked. -/
theorem pick_withValue (names : List String) :
    (s.name ∈ names ∧ ∀ j, pick names (s.withValue j) = some (s.name, j)) ∨
      ∃ o, ∀ j, pick names (s.withValue j) = o := by
  induction names with
  | nil => exact .inr ⟨none, fun _ => rfl⟩
  | cons n names ih =>
    have hcons (j : Json) : pick (n :: names) (s.withValue j) =
        ((Fields.field? n (s.withValue j)).map fun v => (n, v)).or
          (pick names (s.withValue j)) := by
      rw [pick, List.findSome?_cons]
      cases Fields.field? n (s.withValue j) <;> rfl
    by_cases hn : n = s.name
    · refine .inl ⟨hn ▸ List.mem_cons_self, fun j => ?_⟩
      rw [hcons, s.field?_withValue, if_pos hn, hn]
      rfl
    · simp only [hcons, s.field?_withValue, if_neg hn]
      cases Fields.field? n (s.front ++ s.back) with
      | some v => exact .inr ⟨some (n, v), fun _ => rfl⟩
      | none =>
        rcases ih with ⟨hmem, h⟩ | ⟨o, h⟩
        · refine .inl ⟨List.mem_cons_of_mem _ hmem, fun j => ?_⟩
          rw [h]
          rfl
        · refine .inr ⟨o, fun j => ?_⟩
          rw [h]
          rfl

/-- The value of one field makes no difference to which fields are left over. -/
theorem extras_withValue (path : Path) (known : List (List String)) (j j' : Json) :
    extras path known (s.withValue j) = extras path known (s.withValue j') := by
  have hpicked : (known.filterMap fun names => (pick names (s.withValue j)).map Prod.fst) =
      known.filterMap fun names => (pick names (s.withValue j')).map Prod.fst := by
    refine List.filterMap_congr fun names _ => ?_
    rcases pick_withValue s names with ⟨-, h⟩ | ⟨o, h⟩
    · rw [h, h]
      rfl
    · rw [h, h]
  unfold extras
  simp only [hpicked]
  generalize known.filterMap (fun names => (pick names (s.withValue j')).map Prod.fst) = picked
  unfold EntrySlot.withValue
  rw [List.filter_append, List.filter_append, List.map_append, List.map_append, List.filter_cons,
    List.filter_cons]
  split <;> rfl

/-- A check that does not read the field of a slot finds the same faults, whatever its value is. -/
theorem faultsIn_withValue {c : FieldCheck} (h : s.name ∉ c.names ∨ ¬c.ReadsAt s) (path : Path)
    (j j' : Json) : c.faultsIn path (s.withValue j) = c.faultsIn path (s.withValue j') := by
  rcases pick_withValue s c.names with ⟨hmem, hreads⟩ | ⟨o, ho⟩
  · exact absurd hreads (h.resolve_left fun h => h hmem)
  · unfold FieldCheck.faultsIn
    rw [ho, ho]

/-- The faults of a record are those of one field, and around them faults that do not depend on the
value of this field. -/
theorem recordFaults_withValue {cs : List FieldCheck} (hnames : (cs.flatMap FieldCheck.names).Nodup)
    {c : FieldCheck} (hc : c ∈ cs) (hreads : c.ReadsAt s) (path : Path) :
    ∃ before after, ∀ j, recordFaults cs path (s.withValue j) =
      before ++ c.faults (path ++ [s.name]) j ++ after := by
  obtain ⟨front, back, rfl⟩ := List.append_of_mem hc
  have hmem : s.name ∈ c.names := (mem_of_pick (hreads .null)).1
  have hother {c' : FieldCheck} (hc' : c' ∈ front ∨ c' ∈ back) : s.name ∉ c'.names := by
    intro hmem'
    rw [List.flatMap_append, List.flatMap_cons] at hnames
    obtain ⟨-, hback, hfront⟩ := List.nodup_append.1 hnames
    obtain ⟨-, -, hback⟩ := List.nodup_append.1 hback
    rcases hc' with hc' | hc'
    · exact hfront _ (List.mem_flatMap.2 ⟨c', hc', hmem'⟩) _ (List.mem_append_left _ hmem) rfl
    · exact hback _ hmem _ (List.mem_flatMap.2 ⟨c', hc', hmem'⟩) rfl
  have hconst {cs' : List FieldCheck} (h : ∀ c' ∈ cs', c' ∈ front ∨ c' ∈ back) (j : Json) :
      cs'.flatMap (fun c' => c'.faultsIn path (s.withValue j)) =
        cs'.flatMap fun c' => c'.faultsIn path (s.withValue .null) :=
    List.flatMap_congr fun c' hc' => faultsIn_withValue s (.inl (hother (h c' hc'))) path _ _
  have hown (j : Json) : c.faultsIn path (s.withValue j) = c.faults (path ++ [s.name]) j := by
    rw [FieldCheck.faultsIn, hreads j]
  refine ⟨front.flatMap fun c' => c'.faultsIn path (s.withValue .null),
    (back.flatMap fun c' => c'.faultsIn path (s.withValue .null)) ++
      extras path ((front ++ c :: back).map FieldCheck.names) (s.withValue .null), fun j => ?_⟩
  rw [recordFaults, List.flatMap_append, List.flatMap_cons, hown, hconst fun _ => .inl,
    hconst fun _ => .inr, extras_withValue s _ _ j .null]
  simp only [List.append_assoc]

/-- A record that does not read a field has the same faults, whatever its value is. -/
theorem recordFaults_of_not_readsAt {cs : List FieldCheck} (h : ∀ c ∈ cs, ¬c.ReadsAt s)
    (path : Path) (j j' : Json) :
    recordFaults cs path (s.withValue j) = recordFaults cs path (s.withValue j') := by
  rw [recordFaults, recordFaults, extras_withValue s path _ j j']
  congr 1
  exact List.flatMap_congr fun c hc => faultsIn_withValue s (.inr (h c hc)) path j j'

/-- The faults of a list are those of one entry, around them faults that do not depend on this
entry, and the fault of its size. -/
theorem listFaults_items (entry : Path → Json → List QueryError) (needsEntry : Bool) (path : Path) :
    ∃ before between, ∀ x, listFaults entry needsEntry path (.list (s.items x)) =
      before ++ entry (path ++ [toString s.pre.length]) x ++ between ++
        sizeFaults entry needsEntry path (s.items x) := by
  refine ⟨entryFaults entry path 0 s.pre, entryFaults entry path (s.pre.length + 1) s.post,
    fun x => ?_⟩
  rw [listFaults, EntrySlot.items, entryFaults_append, Nat.zero_add, entryFaults]
  simp only [List.append_assoc]

/-- So it is for an entry of a list that is the value of a field of a record. -/
theorem recordFaults_fill {cs : List FieldCheck} (hnames : (cs.flatMap FieldCheck.names).Nodup)
    {c : FieldCheck} (hc : c ∈ cs) (hreads : c.ReadsAt s) {entry : Path → Json → List QueryError}
    {needsEntry : Bool} (hlist : c.faults = listFaults entry needsEntry) (path : Path) :
    ∃ before between after, ∀ x, recordFaults cs path (s.fill x) =
      before ++ entry (path ++ [s.name] ++ [toString s.pre.length]) x ++ between ++
        sizeFaults entry needsEntry (path ++ [s.name]) (s.items x) ++ after := by
  obtain ⟨before, after, hrecord⟩ := recordFaults_withValue s hnames hc hreads path
  obtain ⟨front, between, hitems⟩ := listFaults_items s entry needsEntry (path ++ [s.name])
  refine ⟨before ++ front, between, after, fun x => ?_⟩
  rw [EntrySlot.fill, hrecord, hlist, hitems]
  simp only [List.append_assoc]

end Checked

/-! ### Where the faults of an entry lie -/

/-- A fault lies at the place that a path leads to, or below it. -/
def QueryError.LiesAt (e : QueryError) (path : Path) : Prop :=
  ∃ rest, e.field = Path.field? (path ++ rest)

namespace Shape

/-- Whatever faults are found of a value, they lie at the place of the value. -/
def LocatedFaults (faults : Path → Json → List QueryError) : Prop :=
  ∀ path j, ∀ e ∈ faults path j, e.LiesAt path

/-- Whatever faults a check finds, they lie at the place of the value that it checks. -/
def Located {α : Type} (check : Path → Json → Checked α) : Prop :=
  ∀ path j, ∀ e ∈ (check path j).faults, e.LiesAt path

theorem liesAt_of_append {e : QueryError} {path more : Path} (h : e.LiesAt (path ++ more)) :
    e.LiesAt path := by
  obtain ⟨rest, hrest⟩ := h
  exact ⟨more ++ rest, by rw [hrest, List.append_assoc]⟩

theorem liesAt_invalid (issue : Issue) (path : Path) :
    (QueryError.invalid issue path.field?).LiesAt path :=
  ⟨[], by rw [List.append_nil]; rfl⟩

theorem liesAt_of_mem_singleton {issue : Issue} {path : Path} :
    ∀ e ∈ [QueryError.invalid issue path.field?], e.LiesAt path := by
  intro e he
  obtain rfl := List.mem_singleton.1 he
  exact liesAt_invalid issue path

theorem liesAt_of_mem_fault {α : Type} {issue : Issue} {path : Path} :
    ∀ e ∈ (fault issue path : Checked α).faults, e.LiesAt path :=
  liesAt_of_mem_singleton

/-- No fault lies anywhere. -/
theorem liesAt_of_mem_ok {α : Type} {a : α} {path : Path} :
    ∀ e ∈ (ok a).faults, e.LiesAt path := nofun

theorem located_text : Located text := fun path j => by
  unfold text
  split
  · exact liesAt_of_mem_ok
  · exact liesAt_of_mem_fault

theorem located_keyword (α : Type) [Keyword α] : Located (keyword α) := fun path j => by
  unfold keyword
  split
  · split
    · exact liesAt_of_mem_ok
    · exact liesAt_of_mem_fault
  · exact liesAt_of_mem_fault

theorem located_keyword? (α : Type) [Keyword α] : Located (keyword? α) := fun path j => by
  unfold keyword?
  split
  · exact liesAt_of_mem_ok
  · rw [faults_map]
    exact located_keyword α path _

theorem located_operator (α : Type) [Keyword α] : Located (operator α) := fun path j => by
  have h := located_keyword α path j
  unfold operator
  split
  · rename_i words field es hkeyword
    rw [hkeyword] at h
    -- the first fault changes its kind, and lies where it did
    intro e he
    rcases List.mem_cons.1 he with rfl | he
    · exact h (.invalid (.keyword words) field) List.mem_cons_self
    · exact h e (List.mem_cons_of_mem _ he)
  · exact h

theorem located_number : Located number := fun path j => by
  unfold number
  split
  · exact liesAt_of_mem_ok
  · exact liesAt_of_mem_ok
  · intro e he
    simp only [faults_refused, List.mem_cons, List.not_mem_nil, or_false] at he
    rcases he with rfl | rfl
    · exact liesAt_of_append (liesAt_invalid _ _)
    · exact liesAt_of_append (liesAt_invalid _ _)

theorem located_timestamp : Located timestamp := fun path j => by
  unfold timestamp
  extract_lets answer
  clear_value answer
  cases answer with
  | ok t => exact liesAt_of_mem_ok
  | error issue => exact liesAt_of_mem_fault

theorem located_listFaults {entry : Path → Json → List QueryError} (h : LocatedFaults entry)
    (needsEntry : Bool) : LocatedFaults (listFaults entry needsEntry) := fun path j => by
  have hentries (i : ℕ) (js : List Json) : ∀ e ∈ entryFaults entry path i js, e.LiesAt path := by
    induction js generalizing i with
    | nil => nofun
    | cons j js ih =>
      intro e he
      rcases List.mem_append.1 he with he | he
      · exact liesAt_of_append (h _ _ e he)
      · exact ih (i + 1) e he
  cases j with
  | list js =>
    intro e he
    rcases List.mem_append.1 he with he | he
    · exact hentries 0 js e he
    · unfold sizeFaults at he
      split at he
      · exact liesAt_of_mem_singleton e he
      · cases he
  | _ => exact liesAt_of_mem_singleton

/-- The faults of a record lie in it, if those of its fields lie in them. -/
theorem liesAt_of_mem_recordFaults {cs : List FieldCheck} (h : ∀ c ∈ cs, LocatedFaults c.faults)
    (path : Path) (fields : Fields Json) : ∀ e ∈ recordFaults cs path fields, e.LiesAt path := by
  intro e he
  rcases List.mem_append.1 he with he | he
  · obtain ⟨c, hc, he⟩ := List.mem_flatMap.1 he
    unfold FieldCheck.faultsIn at he
    split at he
    · exact liesAt_of_append (h c hc _ _ e he)
    · split at he
      · obtain rfl := List.mem_singleton.1 he
        exact liesAt_of_append (liesAt_invalid _ _)
      · cases he
  · obtain ⟨f, -, rfl⟩ := List.mem_map.1 he
    exact liesAt_of_append (liesAt_invalid _ _)

theorem located_tagged {α : Type} {words : List String}
    {check : String → Path → Fields Json → Checked α}
    (h : ∀ w path fields, ∀ e ∈ (check w path fields).faults, e.LiesAt path) :
    Located (tagged words check) := fun path j => by
  unfold tagged
  split
  · split
    · exact liesAt_of_mem_fault
    · split
      · split
        · exact fun e he => liesAt_of_append (h _ _ _ e he)
        · exact liesAt_of_mem_fault
      · exact liesAt_of_mem_fault
  · exact liesAt_of_mem_fault

theorem located_selectItem : Located selectItem := fun path j => by
  cases j with
  | object fields =>
    rw [faults_selectItem]
    refine liesAt_of_mem_recordFaults ?_ path fields
    simp only [selectChecks, List.forall_mem_cons]
    exact ⟨located_text, located_keyword? _, nofun⟩
  | _ => exact liesAt_of_mem_fault

theorem located_orderItem : Located orderItem := fun path j => by
  cases j with
  | object fields =>
    rw [faults_orderItem]
    refine liesAt_of_mem_recordFaults ?_ path fields
    simp only [orderChecks, List.forall_mem_cons]
    exact ⟨located_text, located_keyword? _, located_keyword _, nofun⟩
  | _ => exact liesAt_of_mem_fault

theorem located_someList {α : Type} {check : Path → Json → Checked α} (h : Located check) :
    Located (someList check) := by
  show LocatedFaults fun path j => (someList check path j).faults
  rw [faults_someList]
  exact located_listFaults h true

theorem liesAt_of_mem_filterFields {α β : Type} [Keyword α] {make : String → α → β → Filter}
    {value : Path → Json → Checked β} (h : Located value) (path : Path) (fields : Fields Json) :
    ∀ e ∈ (filterFields path make value fields).faults, e.LiesAt path := by
  rw [faults_filterFields]
  refine liesAt_of_mem_recordFaults ?_ path fields
  simp only [filterChecks, List.forall_mem_cons]
  exact ⟨fun _ _ => nofun, located_text, located_operator _, h, nofun⟩

theorem located_filter : Located filter := located_tagged fun w path fields => by
  split
  · exact liesAt_of_mem_filterFields located_number path fields
  · exact liesAt_of_mem_filterFields located_timestamp path fields
  · exact liesAt_of_mem_filterFields (located_someList located_text) path fields
  · exact liesAt_of_mem_filterFields located_text path fields

theorem located_group : Located group := located_tagged fun w path fields => by
  split
  · rw [faults_categorical]
    refine liesAt_of_mem_recordFaults ?_ path fields
    simp only [categoricalChecks, List.forall_mem_cons]
    exact ⟨fun _ _ => nofun, located_text, nofun⟩
  · rw [faults_timeGroup]
    refine liesAt_of_mem_recordFaults ?_ path fields
    simp only [timeGroupChecks, List.forall_mem_cons]
    exact ⟨fun _ _ => nofun, located_text, located_keyword _, nofun⟩

theorem located_part (part : Part) : LocatedFaults part.faults := by
  cases part with
  | select => exact located_selectItem
  | filter => exact located_filter
  | groupBy => exact located_group
  | orderBy => exact located_orderItem

end Shape

/-! ### Entries of a description -/

open Shape

/-- A description names a table that is there. -/
def Fields.NamesTable (r : Registry) (fields : Fields Json) : Prop :=
  ∃ n name t, pick ["from", "from_"] fields = some (n, .text name) ∧ r.table? name = some t

/-- The path to the place of an entry. -/
def EntrySlot.path (s : EntrySlot) : Path := [s.name, toString s.pre.length]

namespace Query

theorem table_of_check {fields : Fields Json} {n name : String}
    (hpick : pick ["from", "from_"] fields = some (n, .text name)) {q : Query}
    (h : Query.check (.object fields) = .ok q) : q.table = name := by
  obtain ⟨hbuild, -⟩ := andNo_eq_ok.1 h
  obtain ⟨table, p, htable, -, rfl⟩ := map2_eq_ok.1 hbuild
  rw [required, hpick] at htable
  cases htable
  rfl

/-- What is said of a description are the faults of its shape, if there are any or if its table is
known. -/
theorem faults_eq_recordFaults {r : Registry} {fields : Fields Json}
    (h : recordFaults queryChecks [] fields ≠ [] ∨ Fields.NamesTable r fields) :
    Query.faults r (.object fields) = recordFaults queryChecks [] fields := by
  rw [← faults_query] at h ⊢
  unfold Query.faults
  cases hcheck : Query.check (.object fields) with
  | refused e es =>
    have hquery : Shape.query fields = refused e es := hcheck
    rw [hquery]
    rfl
  | ok q =>
    have hquery : Shape.query fields = ok q := hcheck
    rw [hquery] at h ⊢
    obtain ⟨n, name, t, hpick, ht⟩ := h.resolve_left fun h => h rfl
    have htable : r.resolveTable q.table = .ok t := by
      rw [table_of_check hpick hcheck]
      exact Registry.resolveTable_eq_ok.2 ht
    simp only [htable, faults_ok]

end Query

namespace Shape

theorem check_mem_queryChecks (part : Part) : part.check ∈ queryChecks := by
  cases part <;> simp [queryChecks]

theorem nodup_names_queryChecks : (queryChecks.flatMap FieldCheck.names).Nodup := by
  decide

/-- The faults of a description are those of one entry, around them faults that do not depend on
this entry, and the fault of the size of its list. -/
theorem queryFaults_fill (part : Part) (s : EntrySlot) (h : part.check.ReadsAt s) :
    ∃ before between after, ∀ x, recordFaults queryChecks [] (s.fill x) =
      before ++ part.faults s.path x ++ between ++
        sizeFaults part.faults part.needsEntry [s.name] (s.items x) ++ after :=
  recordFaults_fill s nodup_names_queryChecks (check_mem_queryChecks part) h rfl []

/-- An entry of a list that no part of a description is read from has no faults. -/
theorem queryFaults_fill_of_unread {s : EntrySlot} (h : ∀ part : Part, ¬part.check.ReadsAt s)
    (x y : Json) :
    recordFaults queryChecks [] (s.fill x) = recordFaults queryChecks [] (s.fill y) := by
  by_cases hreads : ∃ c ∈ queryChecks, c.ReadsAt s
  · obtain ⟨c, hc, hreads⟩ := hreads
    obtain ⟨before, after, hrecord⟩ := recordFaults_withValue s nodup_names_queryChecks hc hreads []
    have hlist : c.faults ([] ++ [s.name]) (.list (s.items x)) =
        c.faults ([] ++ [s.name]) (.list (s.items y)) := by
      simp only [queryChecks, List.mem_cons, List.not_mem_nil, or_false] at hc
      rcases hc with rfl | rfl | rfl | rfl | rfl | rfl
      · rfl
      · exact absurd hreads (h .select)
      · exact absurd hreads (h .filter)
      · exact absurd hreads (h .groupBy)
      · exact absurd hreads (h .orderBy)
      · rfl
    rw [EntrySlot.fill, EntrySlot.fill, hrecord, hrecord, hlist]
  · exact recordFaults_of_not_readsAt s (fun c hc hc' => hreads ⟨c, hc, hc'⟩) [] _ _

/-- A filter with the tag of a list of options is checked as one. -/
theorem filter_of_options {fields : Fields Json}
    (htag : Fields.field? "type" fields = some (.text "stringOptions")) (path : Path) :
    filter path (.object fields) =
      filterFields (path ++ ["stringOptions"]) Filter.options (someList text) fields := by
  unfold filter tagged
  simp only [htag]
  rfl

/-- The faults of a list of options in a filter, around those of one option. -/
theorem filter_faults_fill {s : EntrySlot} (hname : s.name = "value")
    (htype : Fields.field? "type" (s.front ++ s.back) = some (.text "stringOptions"))
    (path : Path) : ∃ before between after, ∀ x, (filter path (.object (s.fill x))).faults =
      before ++ (text (path ++ ["stringOptions", "value"] ++ [toString s.pre.length]) x).faults ++
        between ++ sizeFaults (fun path j => (text path j).faults) true
          (path ++ ["stringOptions", "value"]) (s.items x) ++ after := by
  have hreads : (FieldCheck.needs ["value"] (someList text)).ReadsAt s := fun j => by
    rw [FieldCheck.needs, ← hname, pick, List.findSome?_cons, s.field?_withValue, if_pos rfl]
    rfl
  have hnodup :
      ((filterChecks OptionsOperator (someList text)).flatMap FieldCheck.names).Nodup := by
    decide
  obtain ⟨before, between, after, h⟩ := recordFaults_fill s hnodup (by simp [filterChecks]) hreads
    (faults_someList text) (path ++ ["stringOptions"])
  refine ⟨before, between, after, fun x => ?_⟩
  have htag : Fields.field? "type" (s.fill x) = some (.text "stringOptions") := by
    rw [EntrySlot.fill, s.field?_withValue, hname, if_neg (by decide), htype]
  rw [filter_of_options htag, faults_filterFields, h, hname, List.append_assoc path]
  rfl

end Shape

/-- What is said of the shape of a description are the faults of its fields in their order, those of
a list entry by entry, and one for each field that there should not be. What is said of one entry
lies at its place and depends on the entry alone, and nothing else depends on it but the fault of a
list that needs a valid entry and has none. An entry without faults leaves nothing but the faults
around it. -/
theorem faults_of_entry (r : Registry) :
    (∀ fields, (Query.check (.object fields)).faults = recordFaults queryChecks [] fields ∧
      (recordFaults queryChecks [] fields ≠ [] ∨ Fields.NamesTable r fields →
        Query.faults r (.object fields) = recordFaults queryChecks [] fields)) ∧
    (∀ (part : Part) (s : EntrySlot), part.check.ReadsAt s → ∃ before between after, ∀ x,
      (s.fill x).NamesTable r →
        Query.faults r (.object (s.fill x)) = before ++ part.faults s.path x ++ between ++
          sizeFaults part.faults part.needsEntry [s.name] (s.items x) ++ after ∧
        (∀ e ∈ part.faults s.path x, e.LiesAt s.path) ∧
        (part.faults s.path x = [] →
          Query.faults r (.object (s.fill x)) = before ++ between ++ after)) ∧
    (∀ s : EntrySlot, (∀ part : Part, ¬part.check.ReadsAt s) → ∀ x y,
      (s.fill x).NamesTable r → (s.fill y).NamesTable r →
        Query.faults r (.object (s.fill x)) = Query.faults r (.object (s.fill y))) ∧
    (∀ (s : EntrySlot) (path : Path), s.name = "value" →
      Fields.field? "type" (s.front ++ s.back) = some (.text "stringOptions") →
      ∃ before between after, ∀ x, Part.filter.faults path (.object (s.fill x)) =
        before ++ (text (path ++ ["stringOptions", "value"] ++ [toString s.pre.length]) x).faults ++
          between ++ sizeFaults (fun path j => (text path j).faults) true
            (path ++ ["stringOptions", "value"]) (s.items x) ++ after) := by
  refine ⟨fun fields => ⟨faults_query fields, Query.faults_eq_recordFaults⟩,
    fun part s hreads => ?_, fun s hunread x y hx hy => ?_,
    fun s path hname htype => filter_faults_fill hname htype path⟩
  · obtain ⟨before, between, after, h⟩ := queryFaults_fill part s hreads
    refine ⟨before, between, after, fun x hx => ?_⟩
    rw [Query.faults_eq_recordFaults (.inr hx), h]
    refine ⟨rfl, located_part part s.path x, fun hvalid => ?_⟩
    have hsize : sizeFaults part.faults part.needsEntry [s.name] (s.items x) = [] :=
      sizeFaults_of_valid hvalid
    rw [hvalid, hsize]
    simp only [List.append_nil]
  · rw [Query.faults_eq_recordFaults (.inr hx), Query.faults_eq_recordFaults (.inr hy)]
    exact queryFaults_fill_of_unread hunread x y

namespace Bundled

/-- The place of the only selected column of a query on traces. -/
def onlyItem : EntrySlot where
  front := [("from", .text "traces")]
  name := "select"
  pre := []
  post := []
  back := []
  first := by decide

theorem namesTable_onlyItem (x : Json) : (onlyItem.fill x).NamesTable Registry.bundled :=
  ⟨"from", "traces", traces, rfl, rfl⟩

end Bundled

open Bundled in
/-- An empty record lacks its column, and the list lacks a valid entry for it. -/
theorem faults_of_entry_onlyItem : Part.select.check.ReadsAt onlyItem ∧
    (onlyItem.fill (.object [])).NamesTable Registry.bundled ∧
    ∃ before between after,
      Query.faults Registry.bundled (.object (onlyItem.fill (.object []))) = before ++
        [.invalid .required (some "select.0.column")] ++ between ++
          [.invalid .noItems (some "select")] ++ after := by
  have hreads : Part.select.check.ReadsAt onlyItem := fun _ => rfl
  have hnames := namesTable_onlyItem (.object [])
  obtain ⟨-, hlocal, -⟩ := faults_of_entry Registry.bundled
  obtain ⟨before, between, after, h⟩ := hlocal .select onlyItem hreads
  exact ⟨hreads, hnames, before, between, after, (h _ hnames).1⟩

open Bundled in
/-- No faults around those of the only selected column are the same for an empty record and for a
valid one. -/
theorem faults_not_local_onlyItem : ¬∃ before after, ∀ x,
    (onlyItem.fill x).NamesTable Registry.bundled →
      Query.faults Registry.bundled (.object (onlyItem.fill x)) =
        before ++ Part.select.faults onlyItem.path x ++ after := by
  rintro ⟨before, after, h⟩
  have hvalid := h (.object [("column", .text "id")]) (namesTable_onlyItem _)
  have hempty := h (.object []) (namesTable_onlyItem _)
  have hnone : Query.faults Registry.bundled
      (.object (onlyItem.fill (.object [("column", .text "id")]))) = [] := rfl
  have htwo : (Query.faults Registry.bundled (.object (onlyItem.fill (.object [])))).length = 2 :=
    rfl
  have hown : (Part.select.faults onlyItem.path (.object [])).length = 1 := rfl
  rw [hnone] at hvalid
  obtain ⟨hfront, rfl⟩ := List.append_eq_nil_iff.1 hvalid.symm
  obtain ⟨rfl, -⟩ := List.append_eq_nil_iff.1 hfront
  rw [hempty, List.nil_append, List.append_nil, hown] at htwo
  exact absurd htwo (by decide)

end Dashboard
