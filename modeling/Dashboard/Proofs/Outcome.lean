import Mathlib.Data.List.Forall2
import Mathlib.Data.Nat.Notation

/-!
# Outcomes of steps that may fail

* `bind_eq_ok` and `mapM_eq_ok` take a successful run of several steps apart, `bind_eq_error` and
  `mapM_eq_error` one that fails.
* `Alike R x y` compares two runs: both end in the same error, or both end in results related by
  `R`. `Alike.bind` and `Alike.mapM` compose such comparisons.
-/

namespace Dashboard

variable {ε α β γ δ : Type}

/-! ### Successful runs -/

theorem bind_eq_ok {x : Except ε α} {f : α → Except ε β} {b : β} :
    x >>= f = .ok b ↔ ∃ a, x = .ok a ∧ f a = .ok b := by
  cases x with
  | error e => simp [bind, Except.bind]
  | ok a => simp [bind, Except.bind]

theorem pure_eq_ok {a b : α} : (pure a : Except ε α) = .ok b ↔ b = a := by
  simp [pure, Except.pure, eq_comm]

@[simp] theorem throw_ne_ok {e : ε} {a : α} : (throw e : Except ε α) ≠ .ok a := nofun

/-- A run goes on after a check exactly if the check does not refuse it. -/
theorem unless_throw_eq_ok {p : Prop} [Decidable p] {e : ε} {k : Unit → Except ε β} {b : β} :
    (if p then throw e >>= k else k ()) = .ok b ↔ ¬p ∧ k () = .ok b := by
  by_cases hp : p
  · simp [hp, bind_eq_ok]
  · simp [hp]

theorem mapM_eq_ok {f : α → Except ε β} {xs : List α} {ys : List β} :
    xs.mapM f = .ok ys ↔ List.Forall₂ (fun x y => f x = .ok y) xs ys := by
  induction xs generalizing ys with
  | nil => rw [List.mapM_nil, pure_eq_ok, List.forall₂_nil_left_iff]
  | cons x xs ih =>
    rw [List.mapM_cons, bind_eq_ok, List.forall₂_cons_left_iff]
    constructor
    · rintro ⟨y, hy, h⟩
      obtain ⟨zs, hzs, h⟩ := bind_eq_ok.1 h
      exact ⟨y, zs, hy, ih.1 hzs, pure_eq_ok.1 h⟩
    · rintro ⟨y, zs, hy, hzs, rfl⟩
      exact ⟨y, hy, bind_eq_ok.2 ⟨zs, ih.2 hzs, pure_eq_ok.2 rfl⟩⟩

/-- Of two lists that are related entry by entry, the second holds nothing that is related to no
entry of the first. -/
theorem exists_rel_of_mem {R : α → β → Prop} {xs : List α} {ys : List β}
    (h : List.Forall₂ R xs ys) {y : β} (hy : y ∈ ys) : ∃ x ∈ xs, R x y := by
  induction h with
  | nil => cases hy
  | cons hx _ ih =>
    rcases List.mem_cons.1 hy with rfl | hy
    · exact ⟨_, List.mem_cons_self, hx⟩
    · obtain ⟨x, hmem, hx⟩ := ih hy
      exact ⟨x, List.mem_cons_of_mem _ hmem, hx⟩

/-- Every result of a successful traversal comes from an entry. -/
theorem exists_of_mem_mapM {f : α → Except ε β} {xs : List α} {ys : List β}
    (h : xs.mapM f = .ok ys) {y : β} (hy : y ∈ ys) : ∃ x ∈ xs, f x = .ok y :=
  exists_rel_of_mem (mapM_eq_ok.1 h) hy

theorem exists_map_eq_ok {f : α → β} {x : Except ε α} :
    (∃ b, f <$> x = .ok b) ↔ ∃ a, x = .ok a := by
  cases x <;> simp [Functor.map, Except.map]

/-- A traversal succeeds exactly if it does at every entry. -/
theorem exists_mapM_eq_ok {f : α → Except ε β} {xs : List α} :
    (∃ ys, xs.mapM f = .ok ys) ↔ ∀ x ∈ xs, ∃ y, f x = .ok y := by
  simp only [mapM_eq_ok]
  induction xs with
  | nil => simp
  | cons x xs ih =>
    rw [List.forall_mem_cons, ← ih]
    constructor
    · rintro ⟨ys, h⟩
      obtain ⟨y, ys, hy, hys, -⟩ := List.forall₂_cons_left_iff.1 h
      exact ⟨⟨y, hy⟩, ys, hys⟩
    · rintro ⟨⟨y, hy⟩, ys, hys⟩
      exact ⟨y :: ys, .cons hy hys⟩

/-- Where success does not depend on the position, a traversal with positions succeeds exactly if
it does at every entry. -/
theorem exists_mapM_zipIdx_eq_ok {f : α × ℕ → Except ε β} {xs : List α} {P : α → Prop}
    (hP : ∀ x i, (∃ y, f (x, i) = .ok y) ↔ P x) :
    (∃ ys, xs.zipIdx.mapM f = .ok ys) ↔ ∀ x ∈ xs, P x := by
  rw [exists_mapM_eq_ok]
  constructor
  · intro h x hx
    obtain ⟨i, hi⟩ := List.mem_iff_getElem?.1 hx
    exact (hP x i).1 (h (x, i) (List.mem_zipIdx_iff_getElem?.2 hi))
  · intro h p hp
    exact (hP p.1 p.2).2 (h p.1 (List.mem_of_getElem? (List.mem_zipIdx_iff_getElem?.1 hp)))

/-- A successful traversal with positions has one result for each entry, at the same place. -/
theorem getElem?_of_mapM_zipIdx {f : α × ℕ → Except ε β} {xs : List α} {ys : List β}
    (h : xs.zipIdx.mapM f = .ok ys) :
    ys.length = xs.length ∧ ∀ (i : ℕ) (x : α), xs[i]? = some x →
      ∃ y, ys[i]? = some y ∧ f (x, i) = .ok y := by
  obtain ⟨hlen, hget⟩ := List.forall₂_iff_get.1 (mapM_eq_ok.1 h)
  rw [List.length_zipIdx] at hlen
  refine ⟨hlen.symm, fun i x hx => ?_⟩
  obtain ⟨hi, rfl⟩ := List.getElem?_eq_some_iff.1 hx
  have hy : i < ys.length := hlen ▸ hi
  refine ⟨ys[i], List.getElem?_eq_getElem hy, ?_⟩
  simpa using hget i (by simpa using hi) hy

/-! ### Runs that fail -/

theorem bind_eq_error {x : Except ε α} {f : α → Except ε β} {e : ε} :
    x >>= f = .error e ↔ x = .error e ∨ ∃ a, x = .ok a ∧ f a = .error e := by
  cases x with
  | error d => simp [bind, Except.bind]
  | ok a => simp [bind, Except.bind]

theorem map_eq_error {f : α → β} {x : Except ε α} {e : ε} : f <$> x = .error e ↔ x = .error e := by
  cases x <;> simp [Functor.map, Except.map]

/-- A traversal fails for the reason of the first entry that it fails at. -/
theorem mapM_eq_error {f : α → Except ε β} {xs : List α} {e : ε} :
    xs.mapM f = .error e ↔ ∃ before x after, xs = before ++ x :: after ∧
      (∀ b ∈ before, ∃ y, f b = .ok y) ∧ f x = .error e := by
  induction xs with
  | nil => simp [pure, Except.pure]
  | cons x xs ih =>
    rw [List.mapM_cons, bind_eq_error]
    constructor
    · rintro (hx | ⟨y, hy, h⟩)
      · exact ⟨[], x, xs, rfl, by simp, hx⟩
      · rcases bind_eq_error.1 h with hxs | ⟨ys, -, h⟩
        · obtain ⟨before, x', after, rfl, hbefore, hx'⟩ := ih.1 hxs
          exact ⟨x :: before, x', after, rfl, List.forall_mem_cons.2 ⟨⟨y, hy⟩, hbefore⟩, hx'⟩
        · cases h
    · rintro ⟨_ | ⟨b, before⟩, x', after, hsplit, hbefore, hx'⟩
      · obtain ⟨rfl, -⟩ := List.cons.inj hsplit
        exact .inl hx'
      · obtain ⟨rfl, rfl⟩ := List.cons.inj hsplit
        obtain ⟨⟨y, hy⟩, hbefore⟩ := List.forall_mem_cons.1 hbefore
        exact .inr ⟨y, hy, bind_eq_error.2 (.inl (ih.2 ⟨before, x', after, rfl, hbefore, hx'⟩))⟩

theorem exists_of_mapM_eq_error {f : α → Except ε β} {xs : List α} {e : ε}
    (h : xs.mapM f = .error e) : ∃ x ∈ xs, f x = .error e := by
  obtain ⟨before, x, after, rfl, -, hx⟩ := mapM_eq_error.1 h
  exact ⟨x, by simp, hx⟩

/-- A traversal with positions fails for the reason of one of its entries. -/
theorem exists_of_mapM_zipIdx_eq_error {f : α × ℕ → Except ε β} {xs : List α} {e : ε}
    (h : xs.zipIdx.mapM f = .error e) : ∃ x ∈ xs, ∃ i, f (x, i) = .error e := by
  obtain ⟨p, hp, hf⟩ := exists_of_mapM_eq_error h
  exact ⟨p.1, List.mem_of_getElem? (List.mem_zipIdx_iff_getElem?.1 hp), p.2, hf⟩

/-- A traversal of lists is a traversal of what they hold. -/
theorem mapM_flatten (f : α → Except ε β) (xss : List (List α)) :
    xss.flatten.mapM f = List.flatten <$> xss.mapM (List.mapM f) := by
  induction xss with
  | nil => rfl
  | cons xs xss ih =>
    rw [List.flatten_cons, List.mapM_append, List.mapM_cons, ih]
    simp only [map_bind, bind_pure_comp, Functor.map_map, List.flatten_cons]

/-! ### Two runs -/

/-- Two runs end in the same error, or in related results. -/
inductive Alike (R : α → β → Prop) : Except ε α → Except ε β → Prop
  | error (e : ε) : Alike R (.error e) (.error e)
  | ok {a : α} {b : β} (h : R a b) : Alike R (.ok a) (.ok b)

namespace Alike

variable {R : α → β → Prop} {S : γ → δ → Prop}

theorem refl {Q : α → α → Prop} (hQ : ∀ a, Q a a) (x : Except ε α) : Alike Q x x := by
  cases x with
  | error e => exact .error e
  | ok a => exact .ok (hQ a)

theorem pure {a : α} {b : β} (h : R a b) : Alike (ε := ε) R (Pure.pure a) (Pure.pure b) := .ok h

theorem bind {x : Except ε α} {y : Except ε β} {f : α → Except ε γ} {g : β → Except ε δ}
    (h : Alike R x y) (hf : ∀ a b, R a b → Alike S (f a) (g b)) :
    Alike S (x >>= f) (y >>= g) := by
  cases h with
  | error e => exact .error e
  | ok h => exact hf _ _ h

theorem mapM {xs : List α} {ys : List β} {f : α → Except ε γ} {g : β → Except ε δ}
    (h : List.Forall₂ R xs ys) (hf : ∀ a b, R a b → Alike S (f a) (g b)) :
    Alike (List.Forall₂ S) (xs.mapM f) (ys.mapM g) := by
  induction h with
  | nil => exact pure .nil
  | cons hab _ ih =>
    rw [List.mapM_cons, List.mapM_cons]
    refine (hf _ _ hab).bind fun c d hcd => ih.bind fun cs ds hcds => ?_
    exact pure (.cons hcd hcds)

end Alike
end Dashboard
