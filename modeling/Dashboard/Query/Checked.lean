import Dashboard.Json.Basic
import Dashboard.Query.Error

/-!
# Checks that find every fault

A `Checked α` is a value, or the faults that stand in its way: at least one, in the order of the
description. Checks of separate parts are put together by `Checked.both` and `Checked.every`, which
keep the faults of all parts.

A `Path` leads into a description by names and positions.
-/

namespace Dashboard

/-- Names and positions that lead to a part of a description. -/
abbrev Path := List String

/-- A path as a field; the empty text is no field. -/
def Path.field? (p : Path) : Option String :=
  let text := ".".intercalate p
  if text = "" then none else some text

/-- A value, or every fault that was found. -/
inductive Checked (α : Type) where
  | ok (value : α)
  | refused (first : QueryError) (others : List QueryError)
  deriving Repr

namespace Checked

variable {α β γ : Type}

/-- The faults that were found. -/
def faults : Checked α → List QueryError
  | ok _ => []
  | refused e es => e :: es

/-- The value, if there is one. -/
def value? : Checked α → Option α
  | ok a => some a
  | refused .. => none

/-- The value, or the first fault. -/
def toExcept : Checked α → Except QueryError α
  | ok a => .ok a
  | refused e _ => .error e

/-- No value, for one reason. -/
def fault (issue : Issue) (path : Path) : Checked α := refused (.invalid issue path.field?) []

/-- Applies a function to the value. -/
def map (f : α → β) : Checked α → Checked β
  | ok a => ok (f a)
  | refused e es => refused e es

/-- Two values, or the faults of both checks, those of the first in front. -/
def both : Checked α → Checked β → Checked (α × β)
  | ok a, ok b => ok (a, b)
  | ok _, refused e es => refused e es
  | refused e es, c => refused e (es ++ c.faults)

/-- Combines two values. -/
def map2 (f : α → β → γ) (a : Checked α) (b : Checked β) : Checked γ :=
  (both a b).map fun p => f p.1 p.2

/-- All values, or the faults of all checks in order. -/
def every : List (Checked α) → Checked (List α)
  | [] => ok []
  | c :: cs => map2 List.cons c (every cs)

/-- The value, unless there are further faults. -/
def andNo (c : Checked α) : List QueryError → Checked α
  | [] => c
  | e :: es => map2 (fun a _ => a) c (refused e es : Checked Unit)

@[simp] theorem faults_ok (a : α) : (ok a).faults = [] := rfl

@[simp] theorem faults_refused (e : QueryError) (es : List QueryError) :
    (refused e es : Checked α).faults = e :: es := rfl

@[simp] theorem faults_map (f : α → β) (c : Checked α) : (c.map f).faults = c.faults := by
  cases c <;> rfl

@[simp] theorem faults_both (a : Checked α) (b : Checked β) :
    (both a b).faults = a.faults ++ b.faults := by
  cases a <;> cases b <;> rfl

@[simp] theorem faults_map2 (f : α → β → γ) (a : Checked α) (b : Checked β) :
    (map2 f a b).faults = a.faults ++ b.faults := by
  simp [map2]

@[simp] theorem faults_every (cs : List (Checked α)) :
    (every cs).faults = cs.flatMap faults := by
  induction cs with
  | nil => rfl
  | cons c cs ih => simp [every, ih]

@[simp] theorem faults_andNo (c : Checked α) (es : List QueryError) :
    (c.andNo es).faults = c.faults ++ es := by
  cases es <;> simp [andNo]

end Checked

/-! ### Records -/

namespace Checked

variable {α : Type}

/-- The value of a field that may go by several names, and the name it goes by; the names in front
come first. -/
def pick (names : List String) (fields : Fields Json) : Option (String × Json) :=
  names.findSome? fun n => (fields.field? n).map fun j => (n, j)

/-- A field that must be there. A missing one is reported under its first name. -/
def required (path : Path) (names : List String) (check : Path → Json → Checked α)
    (fields : Fields Json) : Checked α :=
  match pick names fields with
  | some (n, j) => check (path ++ [n]) j
  | none => fault .required (path ++ names.take 1)

/-- A field that may be absent. -/
def optional (path : Path) (names : List String) (default : α) (check : Path → Json → Checked α)
    (fields : Fields Json) : Checked α :=
  match pick names fields with
  | some (n, j) => check (path ++ [n]) j
  | none => ok default

/-- The faults of the fields that no check has picked, in their order. -/
def extras (path : Path) (known : List (List String)) (fields : Fields Json) : List QueryError :=
  let picked := known.filterMap fun names => (pick names fields).map Prod.fst
  (fields.filter fun f => !picked.contains f.1).map fun f =>
    .invalid .extra (Path.field? (path ++ [f.1]))

end Checked
end Dashboard
