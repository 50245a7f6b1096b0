import Dashboard.Query.Shape
import Mathlib.Data.Nat.Notation

/-!
# Faults of descriptions

Whatever is wrong with the shape of a description, it is reported as a fault of the description,
at a place that has a name or at none: `Query.isValidation_check`. The checks are put together from
a few combinators, and one lemma for each of them says that it brings no other kind of error.
-/

namespace Dashboard

theorem Path.field?_ne_empty (path : Path) : path.field? ≠ some "" := by
  unfold Path.field?
  extract_lets text
  split
  · nofun
  · rename_i htext
    exact fun h => htext (Option.some.inj h)

/-- A fault of the description, whose place is not without a name. -/
structure QueryError.IsFault (e : QueryError) : Prop where
  validation : e.isA .validation = true
  field : e.field ≠ some ""

theorem QueryError.isFault_invalid (issue : Issue) (path : Path) :
    (QueryError.invalid issue path.field?).IsFault := ⟨rfl, path.field?_ne_empty⟩

namespace Checked

variable {α β γ : Type}

/-- All faults of a check are faults of the description. -/
def IsValidation (c : Checked α) : Prop := ∀ e ∈ c.faults, e.IsFault

theorem IsValidation.of_toExcept {c : Checked α} (h : c.IsValidation) {e : QueryError}
    (he : c.toExcept = .error e) : e.IsFault := by
  cases c with
  | ok a => cases he
  | refused first others =>
    cases he
    exact h _ List.mem_cons_self

theorem isValidation_ok (a : α) : (ok a).IsValidation := nofun

theorem isValidation_fault (issue : Issue) (path : Path) :
    (fault issue path : Checked α).IsValidation := by
  intro e he
  cases List.mem_singleton.1 he
  exact QueryError.isFault_invalid issue path

theorem IsValidation.map {c : Checked α} (h : c.IsValidation) (f : α → β) :
    (c.map f).IsValidation := by
  rwa [IsValidation, faults_map]

theorem IsValidation.both {a : Checked α} {b : Checked β} (ha : a.IsValidation)
    (hb : b.IsValidation) : (both a b).IsValidation := by
  rw [IsValidation, faults_both]
  exact fun e he => (List.mem_append.1 he).elim (ha e) (hb e)

theorem IsValidation.map2 {a : Checked α} {b : Checked β} (ha : a.IsValidation)
    (hb : b.IsValidation) (f : α → β → γ) : (map2 f a b).IsValidation := (ha.both hb).map _

theorem isValidation_every {cs : List (Checked α)} (h : ∀ c ∈ cs, c.IsValidation) :
    (every cs).IsValidation := by
  rw [IsValidation, faults_every]
  intro e he
  obtain ⟨c, hc, he⟩ := List.mem_flatMap.1 he
  exact h c hc e he

theorem IsValidation.andNo {c : Checked α} (h : c.IsValidation) {es : List QueryError}
    (hes : ∀ e ∈ es, e.IsFault) : (c.andNo es).IsValidation := by
  rw [IsValidation, faults_andNo]
  exact fun e he => (List.mem_append.1 he).elim (h e) (hes e)

theorem isValidation_of_mem_extras {path : Path} {known : List (List String)}
    {fields : Fields Json} : ∀ e ∈ extras path known fields, e.IsFault := by
  intro e he
  obtain ⟨f, -, rfl⟩ := List.mem_map.1 he
  exact QueryError.isFault_invalid .extra _

section

variable {check : Path → Json → Checked α} (h : ∀ path j, (check path j).IsValidation)
include h

theorem isValidation_required (path : Path) (names : List String) (fields : Fields Json) :
    (required path names check fields).IsValidation := by
  unfold required
  split
  · exact h _ _
  · exact isValidation_fault _ _

theorem isValidation_optional (path : Path) (names : List String) (default : α)
    (fields : Fields Json) : (optional path names default check fields).IsValidation := by
  unfold optional
  split
  · exact h _ _
  · exact isValidation_ok _

end
end Checked

open Checked

namespace Shape

variable {α β : Type}

/-! ### Values -/

theorem isValidation_text (path : Path) (j : Json) : (text path j).IsValidation := by
  unfold text
  split
  · exact isValidation_ok _
  · exact isValidation_fault _ _

theorem isValidation_keyword [Keyword α] (path : Path) (j : Json) :
    (keyword α path j).IsValidation := by
  unfold keyword
  split
  · split
    · exact isValidation_ok _
    · exact isValidation_fault _ _
  · exact isValidation_fault _ _

theorem isValidation_keyword? [Keyword α] (path : Path) (j : Json) :
    (keyword? α path j).IsValidation := by
  unfold keyword?
  split
  · exact isValidation_ok _
  · exact (isValidation_keyword path _).map _

theorem isValidation_operator [Keyword α] (path : Path) (j : Json) :
    (operator α path j).IsValidation := by
  have h := isValidation_keyword (α := α) path j
  unfold operator
  split
  · rename_i words field es hkeyword
    rw [hkeyword] at h
    -- the first fault changes its kind, and belongs to the faults of descriptions still
    intro e he
    rcases List.mem_cons.1 he with rfl | he
    · exact ⟨rfl, (h _ List.mem_cons_self).field⟩
    · exact h e (List.mem_cons_of_mem _ he)
  · exact h

theorem isValidation_number (path : Path) (j : Json) : (number path j).IsValidation := by
  unfold number
  split
  · exact isValidation_ok _
  · exact isValidation_ok _
  · intro e he
    simp only [faults_refused, List.mem_cons, List.not_mem_nil, or_false] at he
    rcases he with rfl | rfl
    · exact QueryError.isFault_invalid _ _
    · exact QueryError.isFault_invalid _ _

theorem isValidation_timestamp (path : Path) (j : Json) : (timestamp path j).IsValidation := by
  unfold timestamp
  extract_lets answer
  clear_value answer
  cases answer with
  | ok t => exact isValidation_ok _
  | error issue => exact isValidation_fault _ _

theorem isValidation_limit (path : Path) (j : Json) : (limit path j).IsValidation := by
  unfold limit
  split
  · exact isValidation_ok _
  · split
    · exact isValidation_fault _ _
    · exact isValidation_ok _
  · exact isValidation_fault _ _

/-! ### Lists and records -/

section

variable {check : Path → Json → Checked α} (h : ∀ path j, (check path j).IsValidation)
include h

theorem isValidation_of_mem_entries {path : Path} {js : List Json} :
    ∀ c ∈ entries path check js, c.IsValidation := by
  intro c hc
  obtain ⟨i, hi, rfl⟩ := List.mem_mapIdx.1 hc
  exact h _ _

theorem isValidation_list (path : Path) (j : Json) : (list check path j).IsValidation := by
  unfold list
  split
  · exact isValidation_every (isValidation_of_mem_entries h)
  · exact isValidation_fault _ _

theorem isValidation_someList (path : Path) (j : Json) :
    (someList check path j).IsValidation := by
  unfold someList
  split
  · refine (isValidation_every (isValidation_of_mem_entries h)).andNo fun e he => ?_
    split at he
    · cases he
    · cases List.mem_singleton.1 he
      exact QueryError.isFault_invalid _ _
  · exact isValidation_fault _ _

end

theorem isValidation_record {check : Fields Json → Checked α}
    (h : ∀ fields, (check fields).IsValidation) (name : String) (path : Path) (j : Json) :
    (record name check path j).IsValidation := by
  unfold record
  split
  · exact h _
  · exact isValidation_fault _ _

theorem isValidation_tagged {check : String → Path → Fields Json → Checked α}
    (h : ∀ w path fields, (check w path fields).IsValidation) (words : List String) (path : Path)
    (j : Json) : (tagged words check path j).IsValidation := by
  unfold tagged
  split
  · split
    · exact isValidation_fault _ _
    · split
      · split
        · exact h _ _ _
        · exact isValidation_fault _ _
      · exact isValidation_fault _ _
  · exact isValidation_fault _ _

/-! ### Entries -/

theorem isValidation_selectItem (path : Path) (j : Json) : (selectItem path j).IsValidation := by
  refine isValidation_record (fun fields => ?_) _ path j
  exact ((isValidation_required isValidation_text _ _ _).map2
    (isValidation_optional isValidation_keyword? _ _ _ _) _).andNo isValidation_of_mem_extras

theorem isValidation_orderItem (path : Path) (j : Json) : (orderItem path j).IsValidation := by
  refine isValidation_record (fun fields => ?_) _ path j
  exact ((isValidation_required isValidation_text _ _ _).map2
    ((isValidation_optional isValidation_keyword? _ _ _ _).both
      (isValidation_required isValidation_keyword _ _ _)) _).andNo isValidation_of_mem_extras

theorem isValidation_filterFields [Keyword α] {value : Path → Json → Checked β}
    (h : ∀ path j, (value path j).IsValidation) (path : Path) (make : String → α → β → Filter)
    (fields : Fields Json) : (filterFields path make value fields).IsValidation :=
  ((isValidation_required isValidation_text _ _ _).map2
    ((isValidation_required isValidation_operator _ _ _).both
      (isValidation_required h _ _ _)) _).andNo isValidation_of_mem_extras

theorem isValidation_filter (path : Path) (j : Json) : (filter path j).IsValidation := by
  refine isValidation_tagged (fun w path fields => ?_) _ path j
  split
  · exact isValidation_filterFields isValidation_number _ _ _
  · exact isValidation_filterFields isValidation_timestamp _ _ _
  · exact isValidation_filterFields (isValidation_someList isValidation_text) _ _ _
  · exact isValidation_filterFields isValidation_text _ _ _

theorem isValidation_group (path : Path) (j : Json) : (group path j).IsValidation := by
  refine isValidation_tagged (fun w path fields => ?_) _ path j
  have hcolumn := isValidation_required isValidation_text path ["column"] fields
  split
  · exact (hcolumn.map _).andNo isValidation_of_mem_extras
  · exact (hcolumn.map2 (isValidation_required isValidation_keyword _ _ _) _).andNo
      isValidation_of_mem_extras

end Shape

open Shape in
/-- Whatever is wrong with the shape of a description is reported as a fault of the description. -/
theorem Query.isValidation_check (j : Json) : (Query.check j).IsValidation := by
  refine isValidation_record (fun fields => ?_) _ _ j
  exact ((isValidation_required isValidation_text _ _ _).map2
    ((isValidation_required (isValidation_someList isValidation_selectItem) _ _ _).both
      ((isValidation_optional (isValidation_list isValidation_filter) _ _ _ _).both
        ((isValidation_optional (isValidation_list isValidation_group) _ _ _ _).both
          ((isValidation_optional (isValidation_list isValidation_orderItem) _ _ _ _).both
            (isValidation_optional isValidation_limit _ _ _ _))))) _).andNo
    isValidation_of_mem_extras

end Dashboard
