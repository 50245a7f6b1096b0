import Dashboard.Sql.Fragment
import Mathlib.Data.List.Basic
import Mathlib.Data.Nat.Notation
import Std.Data.String.ToNat

/-!
# Rendering of composed fragments

The placeholders of a fragment are numbered only when it is complete, so the text of a part depends
on how many values stand before it.

* `Fragment.textFrom n f` is the text of `f` when `n` values stand before it, and
  `Fragment.textsFrom n fs` the texts of fragments one after the other.
* `textFrom_append`, `textFrom_concat` and `textFrom_join`: a composed fragment has the texts of its
  parts, each numbered on from the values of the parts before it.
* `Statement.lookup_bindings`: the name of a placeholder stands for the value at its position.
-/

namespace Dashboard
namespace Fragment

/-- The text of a fragment whose first placeholder has the number `n + 1`. -/
def textFrom (n : ℕ) (f : Fragment) : String := textAfter n f.strings

/-- The texts of fragments that follow one another, numbered from `n + 1`. -/
def textsFrom (n : ℕ) : List Fragment → List String
  | [] => []
  | f :: fs => f.textFrom n :: textsFrom (n + f.values.length) fs

@[simp] theorem render_text (f : Fragment) : f.render.text = f.textFrom 0 := rfl

@[simp] theorem render_parameters (f : Fragment) : f.render.parameters = f.values := rfl

/-! ### Simple fragments -/

@[simp] theorem textFrom_empty (n : ℕ) : empty.textFrom n = "" := rfl

@[simp] theorem textFrom_raw (s : String) (n : ℕ) : (raw s).textFrom n = s := rfl

@[simp] theorem textFrom_quoted (s : String) (n : ℕ) :
    (quoted s).textFrom n = "\"" ++ s ++ "\"" := rfl

@[simp] theorem textFrom_bind (v : Value) (n : ℕ) :
    (bind v).textFrom n = placeholder (n + 1) := by
  simp [textFrom, bind, textAfter]

@[simp] theorem values_empty : empty.values = [] := rfl

@[simp] theorem values_raw (s : String) : (raw s).values = [] := rfl

@[simp] theorem values_quoted (s : String) : (quoted s).values = [] := rfl

@[simp] theorem values_bind (v : Value) : (bind v).values = [v] := rfl

/-- A fragment without values has the same text everywhere. -/
theorem textFrom_eq_of_values {f : Fragment} (h : f.values = []) (n m : ℕ) :
    f.textFrom n = f.textFrom m := by
  have hl := f.length_strings
  rw [h] at hl
  obtain ⟨s, hs⟩ := List.length_eq_one_iff.1 hl
  simp [textFrom, hs, textAfter]

/-! ### Composed fragments -/

/-- A list that is not empty is not empty either with others joined to it. -/
theorem exists_joinStrings_cons (b : String) (s t : List String) :
    ∃ c u, joinStrings (b :: s) t = c :: u := by
  cases s with
  | nil => cases t <;> exact ⟨_, _, rfl⟩
  | cons c s => exact ⟨b, joinStrings (c :: s) t, rfl⟩

theorem textAfter_joinStrings {s t : List String} (hs : s ≠ []) (ht : t ≠ []) (n : ℕ) :
    textAfter n (joinStrings s t) = textAfter n s ++ textAfter (n + (s.length - 1)) t := by
  fun_induction joinStrings s t generalizing n with
  | case1 t => exact absurd rfl hs
  | case2 a b t => cases t <;> simp [textAfter, String.append_assoc]
  | case3 a => exact absurd rfl ht
  | case4 a b s t ih =>
    obtain ⟨c, u, hu⟩ := exists_joinStrings_cons b s t
    have ih := ih (by simp) ht (n + 1)
    rw [hu] at ih ⊢
    simp only [textAfter, ih, String.append_assoc, List.length_cons]
    rw [show n + 1 + (s.length + 1 - 1) = n + (s.length + 1 + 1 - 1) by omega]

/-- The second of two fragments is numbered on from the values of the first. -/
theorem textFrom_append (f g : Fragment) (n : ℕ) :
    (f ++ g).textFrom n = f.textFrom n ++ g.textFrom (n + f.values.length) := by
  have h := textAfter_joinStrings f.strings_ne_nil g.strings_ne_nil n
  rwa [f.length_strings, Nat.add_sub_cancel] at h

@[simp] theorem concat_nil : concat [] = empty := rfl

@[simp] theorem concat_cons (f : Fragment) (fs : List Fragment) :
    concat (f :: fs) = f ++ concat fs := rfl

theorem values_concat (fs : List Fragment) : (concat fs).values = fs.flatMap values := by
  induction fs with
  | nil => rfl
  | cons f fs ih => rw [concat_cons, values_append, ih, List.flatMap_cons]

theorem textFrom_concat (fs : List Fragment) (n : ℕ) :
    (concat fs).textFrom n = String.join (textsFrom n fs) := by
  induction fs generalizing n with
  | nil => rfl
  | cons f fs ih => rw [concat_cons, textFrom_append, ih, textsFrom, String.join_cons]

theorem values_join (sep : String) (fs : List Fragment) :
    (join sep fs).values = fs.flatMap values := by
  rw [join, values_concat]
  induction fs with
  | nil => rfl
  | cons f fs ih =>
    cases fs with
    | nil => rfl
    | cons g fs => simpa using ih

/-- Joined fragments have the joined texts. -/
theorem textFrom_join (sep : String) (fs : List Fragment) (n : ℕ) :
    (join sep fs).textFrom n = sep.intercalate (textsFrom n fs) := by
  induction fs generalizing n with
  | nil => rfl
  | cons f fs ih =>
    cases fs with
    | nil => simp [join, textFrom_append, textsFrom]
    | cons g fs =>
      have h : join sep (f :: g :: fs) = f ++ (raw sep ++ join sep (g :: fs)) := rfl
      rw [h, textFrom_append, textFrom_append, ih]
      simp [textsFrom, String.append_assoc]

@[simp] theorem textsFrom_nil (n : ℕ) : textsFrom n [] = [] := rfl

@[simp] theorem length_textsFrom (fs : List Fragment) (n : ℕ) :
    (textsFrom n fs).length = fs.length := by
  induction fs generalizing n with
  | nil => rfl
  | cons f fs ih => simp [textsFrom, ih]

/-- Fragments without values have the same texts everywhere. -/
theorem textsFrom_eq_of_values {fs : List Fragment} (h : ∀ f ∈ fs, f.values = []) (n : ℕ) :
    textsFrom n fs = fs.map (textFrom 0) := by
  induction fs generalizing n with
  | nil => rfl
  | cons f fs ih =>
    rw [textsFrom, ih (fun g hg => h g (List.mem_cons_of_mem _ hg)), List.map_cons,
      textFrom_eq_of_values (h f List.mem_cons_self) n 0]

/-- Of fragments with one value each, the `i`th is numbered `n + i + 1`. -/
theorem getElem?_textsFrom {fs : List Fragment} (h : ∀ f ∈ fs, f.values.length = 1) (n i : ℕ) :
    (textsFrom n fs)[i]? = fs[i]?.map (textFrom (n + i)) := by
  induction fs generalizing n i with
  | nil => rfl
  | cons f fs ih =>
    cases i with
    | zero => simp [textsFrom]
    | succ i =>
      have hf := h f List.mem_cons_self
      simp only [textsFrom, List.getElem?_cons_succ, hf]
      rw [ih (fun g hg => h g (List.mem_cons_of_mem _ hg)), Nat.add_right_comm, Nat.add_assoc]

/-- Of fragments with one value each, the `i`th binds the `i`th value. -/
theorem getElem?_flatMap_values {fs : List Fragment} (h : ∀ f ∈ fs, f.values.length = 1) (i : ℕ) :
    (fs.flatMap values)[i]? = fs[i]?.bind fun f => f.values.head? := by
  induction fs generalizing i with
  | nil => rfl
  | cons f fs ih =>
    obtain ⟨v, hv⟩ := List.length_eq_one_iff.1 (h f List.mem_cons_self)
    rw [List.flatMap_cons, hv]
    cases i with
    | zero => simp [hv]
    | succ i => simpa using ih (fun g hg => h g (List.mem_cons_of_mem _ hg)) i

end Fragment

/-! ### Bound values -/

namespace Statement

/-- The name of a placeholder. -/
def parameterName (k : ℕ) : String := "p" ++ toString k

theorem parameterName_injective : Function.Injective parameterName := by
  intro i j h
  exact Nat.repr_injective ((String.append_right_inj "p").1 h)

theorem lookup_mapIdx (vs : List Value) (n i : ℕ) :
    (vs.mapIdx fun j v => (parameterName (n + j + 1), v)).lookup (parameterName (n + i + 1)) =
      vs[i]? := by
  induction vs generalizing n i with
  | nil => rfl
  | cons v vs ih =>
    rw [List.mapIdx_cons]
    cases i with
    | zero => simp
    | succ i =>
      have hne : parameterName (n + (i + 1) + 1) ≠ parameterName (n + 0 + 1) :=
        fun h => by have := parameterName_injective h; omega
      have hk : ∀ j, n + (j + 1) + 1 = n + 1 + j + 1 := fun j => by omega
      rw [List.lookup_cons, beq_false_of_ne hne, List.getElem?_cons_succ]
      simp only [hk]
      exact ih (n + 1) i

/-- The name `p(i + 1)` stands for the value at position `i`. -/
theorem lookup_bindings (s : Statement) (i : ℕ) :
    s.bindings.lookup (parameterName (i + 1)) = s.parameters[i]? := by
  simpa [bindings, parameterName] using lookup_mapIdx s.parameters 0 i

end Statement
end Dashboard
