import Dashboard.Value

/-!
# Fragments of SQL

A `Fragment` keeps trusted text and untrusted values apart: `strings` is the text around the
placeholders and `values` what is bound to them, so there is exactly one more string than values.

* `Fragment.raw` is text alone, `Fragment.bind` one placeholder, `Fragment.quoted` an identifier
  between double quotes.
* `Fragment.append`, `Fragment.concat` and `Fragment.join` put fragments one after the other: the
  last string of one and the first string of the next become one string.
* `Fragment.render` numbers the placeholders, which makes a `Statement`.
-/

namespace Dashboard

/-- Text with placeholders, and the values bound to them. -/
@[ext] structure Fragment where
  strings : List String
  values : List Value
  length_strings : strings.length = values.length + 1
  deriving Repr

/-- Why strings and values make no fragment. -/
inductive FragmentError where
  | partCount
  deriving Repr, DecidableEq

/-- The wording of an error. -/
def FragmentError.message : FragmentError → String
  | partCount => "Fragment needs exactly one more string than values"

/-- SQL text whose placeholders are `:p1`, `:p2`, …, and the values bound to them in order. -/
structure Statement where
  text : String
  parameters : List Value
  deriving Repr, Inhabited

namespace Fragment

/-- A fragment from its parts. -/
def ofParts (strings : List String) (values : List Value) : Except FragmentError Fragment :=
  if h : strings.length = values.length + 1 then return ⟨strings, values, h⟩
  else throw .partCount

/-- The fragment without text and values. -/
def empty : Fragment := ⟨[""], [], rfl⟩

/-- Trusted text. -/
def raw (text : String) : Fragment := ⟨[text], [], rfl⟩

/-- One placeholder. -/
def bind (value : Value) : Fragment := ⟨["", ""], [value], rfl⟩

/-- An identifier between double quotes. -/
def quoted (identifier : String) : Fragment := raw ("\"" ++ identifier ++ "\"")

/-- There is nothing in a fragment: no value, and no text. -/
def isEmpty (f : Fragment) : Bool := f.values.isEmpty && f.strings.head? == some ""

/-- The strings of one fragment followed by those of another; the two that meet become one. -/
def joinStrings : List String → List String → List String
  | [], t => t
  | [a], b :: t => (a ++ b) :: t
  | [a], [] => [a]
  | a :: b :: s, t => a :: joinStrings (b :: s) t

theorem length_joinStrings {s t : List String} (hs : s ≠ []) (ht : t ≠ []) :
    (joinStrings s t).length + 1 = s.length + t.length := by
  fun_induction joinStrings s t with
  | case1 t => exact absurd rfl hs
  | case2 a b t => simp only [List.length_cons, List.length_nil]; omega
  | case3 a => exact absurd rfl ht
  | case4 a b s t ih =>
    have := ih (by simp) ht
    simp only [List.length_cons] at this ⊢
    omega

theorem strings_ne_nil (f : Fragment) : f.strings ≠ [] := by
  intro h
  have := f.length_strings
  simp [h] at this

/-- One fragment after the other. -/
def append (f g : Fragment) : Fragment where
  strings := joinStrings f.strings g.strings
  values := f.values ++ g.values
  length_strings := by
    have h := length_joinStrings f.strings_ne_nil g.strings_ne_nil
    rw [f.length_strings, g.length_strings] at h
    rw [List.length_append]
    omega

instance : Append Fragment := ⟨append⟩

@[simp] theorem values_append (f g : Fragment) : (f ++ g).values = f.values ++ g.values := rfl

@[simp] theorem strings_append (f g : Fragment) :
    (f ++ g).strings = joinStrings f.strings g.strings := rfl

/-- Fragments one after the other. -/
def concat (parts : List Fragment) : Fragment := parts.foldr (· ++ ·) empty

/-- Fragments one after the other, with a separator between two of them. -/
def join (separator : String) (parts : List Fragment) : Fragment :=
  concat (parts.intersperse (raw separator))

/-- The placeholder of a number. -/
def placeholder (n : Nat) : String := ":p" ++ toString n

/-- The text of strings between placeholders, the next of which has the number `n + 1`. -/
def textAfter (n : Nat) : List String → String
  | [] => ""
  | [s] => s
  | s :: rest => s ++ placeholder (n + 1) ++ textAfter (n + 1) rest

/-- Numbers the placeholders from left to right. -/
def render (f : Fragment) : Statement := ⟨textAfter 0 f.strings, f.values⟩

end Fragment

namespace Statement

/-- The values by the names of their placeholders. -/
def bindings (s : Statement) : List (String × Value) :=
  s.parameters.mapIdx fun i v => ("p" ++ toString (i + 1), v)

end Statement
end Dashboard
