import Dashboard.Proofs.FoldedText
import Mathlib.Data.List.DropRight

/-!
# Runs of white space

* `Text.squeeze` puts one space for each run of white space, and drops none of them, not even at the
  ends of a text. What it leaves is single spaced, and such texts are those that it does not change
  (`Text.squeeze_eq_self_iff`); it may be done from either end (`Text.squeeze_reverse`).
* `Text.fold` drops the runs at the ends, so how it goes on depends on what it has left so far:
  behind a character that is no white space, it leaves `Text.spaced` of the rest
  (`Text.fold_cons_solid`).
-/

namespace Dashboard
namespace Text

/-! ### Runs of white space -/

/-- White space comes first in a text. -/
def startsBlank (s : List Char) : Bool := s.head?.any isBlank

/-- The text with one space for each run of white space. -/
def squeeze : List Char → List Char
  | [] => []
  | c :: r =>
    if isBlank c then if startsBlank r then squeeze r else ' ' :: squeeze r
    else c :: squeeze r

theorem isBlank_space : isBlank ' ' = true := by decide

theorem ne_of_isBlank {c d : Char} (hc : isBlank c = true) (hd : isBlank d = false) : c ≠ d := by
  rintro rfl
  rw [hd] at hc
  cases hc

theorem squeeze_cons_solid {c : Char} (h : isBlank c = false) (r : List Char) :
    squeeze (c :: r) = c :: squeeze r := by
  rw [squeeze, h]
  rfl

theorem squeeze_cons_blank {c : Char} (h : isBlank c = true) (r : List Char) :
    squeeze (c :: r) = if startsBlank r then squeeze r else ' ' :: squeeze r := by
  rw [squeeze, if_pos h]

@[simp] theorem startsBlank_cons (c : Char) (r : List Char) : startsBlank (c :: r) = isBlank c :=
  rfl

theorem startsBlank_append {s : List Char} (h : s ≠ []) (t : List Char) :
    startsBlank (s ++ t) = startsBlank s := by
  rw [startsBlank, startsBlank, List.head?_append_of_ne_nil s h]

theorem startsBlank_squeeze (s : List Char) : startsBlank (squeeze s) = startsBlank s := by
  induction s with
  | nil => rfl
  | cons c r ih =>
    cases hc : isBlank c with
    | false => rw [squeeze_cons_solid hc, startsBlank_cons, startsBlank_cons]
    | true =>
      rw [squeeze_cons_blank hc, startsBlank_cons, hc]
      split
      · rename_i hr
        rw [ih, hr]
      · exact isBlank_space

theorem singleSpaced_squeeze (s : List Char) : SingleSpaced (squeeze s) := by
  induction s with
  | nil => exact ⟨nofun, .nil⟩
  | cons c r ih =>
    have hhead {d : Char} (h : d ∈ (squeeze r).head?) : isBlank d = startsBlank r := by
      rw [← startsBlank_squeeze, startsBlank, Option.mem_def.1 h]
      rfl
    have hcons {d : Char} (hd : isBlank d = true → d = ' ')
        (h : isBlank d = false ∨ startsBlank r = false) : SingleSpaced (d :: squeeze r) := by
      refine ⟨List.forall_mem_cons.2 ⟨hd, ih.space⟩, List.isChain_cons.2 ⟨fun e he hboth => ?_,
        ih.apart⟩⟩
      rw [hhead he] at hboth
      rcases h with h | h
      · rw [hboth.1] at h
        cases h
      · rw [hboth.2] at h
        cases h
    cases hc : isBlank c with
    | false =>
      rw [squeeze_cons_solid hc]
      exact hcons (fun h => by rw [hc] at h; cases h) (.inl hc)
    | true =>
      rw [squeeze_cons_blank hc]
      split
      · exact ih
      · rename_i hr
        exact hcons (fun _ => rfl) (.inr (by simpa using hr))

/-- A text is not changed by squeezing exactly if it is single spaced. -/
theorem squeeze_eq_self_iff {s : List Char} : squeeze s = s ↔ SingleSpaced s := by
  refine ⟨fun h => h ▸ singleSpaced_squeeze s, fun h => ?_⟩
  induction s with
  | nil => rfl
  | cons c r ih =>
    obtain ⟨hspace, hapart⟩ := h
    obtain ⟨hc, hr⟩ := List.forall_mem_cons.1 hspace
    obtain ⟨hnext, hchain⟩ := List.isChain_cons.1 hapart
    have ih := ih ⟨hr, hchain⟩
    cases hblank : isBlank c with
    | false => rw [squeeze_cons_solid hblank, ih]
    | true =>
      have hstart : startsBlank r = false := by
        cases r with
        | nil => rfl
        | cons d r => simpa [hblank] using hnext d rfl
      rw [squeeze_cons_blank hblank, hstart, ih, hc hblank]
      rfl

theorem squeeze_append_singleton (s : List Char) (c : Char) : squeeze (s ++ [c]) =
    if isBlank c then if startsBlank s.reverse then squeeze s else squeeze s ++ [' ']
    else squeeze s ++ [c] := by
  induction s with
  | nil => cases hc : isBlank c <;> simp [squeeze, startsBlank, hc]
  | cons d s ih =>
    cases s with
    | nil => cases hc : isBlank c <;> cases hd : isBlank d <;> simp [squeeze, startsBlank, hc, hd]
    | cons e s =>
      have hend : startsBlank (d :: e :: s).reverse = startsBlank (e :: s).reverse := by
        rw [List.reverse_cons, startsBlank_append (by simp)]
      have hstart : startsBlank (e :: s ++ [c]) = isBlank e := rfl
      rw [List.cons_append, squeeze, squeeze.eq_2 d, ih, hend, hstart, startsBlank_cons]
      cases isBlank c <;> cases isBlank d <;> cases isBlank e <;>
        cases startsBlank (e :: s).reverse <;> rfl

/-- Runs of white space are squeezed from either end alike. -/
theorem squeeze_reverse (s : List Char) : squeeze s.reverse = (squeeze s).reverse := by
  induction s with
  | nil => rfl
  | cons c r ih =>
    rw [List.reverse_cons, squeeze_append_singleton, List.reverse_reverse, ih, squeeze]
    cases isBlank c <;> cases startsBlank r <;> simp

/-- Dropping the white space at the end and squeezing the rest keeps the texts that are single
spaced and do not end in white space. -/
theorem squeeze_rdropWhile_eq_self_iff {s : List Char} : squeeze (s.rdropWhile isBlank) = s ↔
    SingleSpaced s ∧ ∀ c ∈ s.getLast?, isBlank c = false := by
  constructor
  · intro h
    refine ⟨h ▸ singleSpaced_squeeze _, fun c hc => ?_⟩
    have hlast : startsBlank s.reverse = false := by
      rw [← h, ← squeeze_reverse, startsBlank_squeeze, List.rdropWhile, List.reverse_reverse]
      cases hdrop : s.reverse.dropWhile isBlank with
      | nil => rfl
      | cons d r =>
        have := List.head_dropWhile_not isBlank (l := s.reverse) (by simp [hdrop])
        simpa [hdrop] using this
    rw [startsBlank, List.head?_reverse, Option.mem_def.1 hc] at hlast
    exact hlast
  · rintro ⟨hspaced, hlast⟩
    have hkeep : s.rdropWhile isBlank = s := by
      rw [List.rdropWhile_eq_self_iff]
      intro hne hblank
      rw [hlast _ (List.getLast?_eq_some_getLast hne)] at hblank
      cases hblank
    rw [hkeep, squeeze_eq_self_iff]
    exact hspaced

/-! ### Folding from the left -/

/-- What folding leaves of a text behind a character that is no white space. -/
def spaced : List Char → List Char
  | [] => []
  | c :: r => if isBlank c then if fold r = [] then [] else ' ' :: fold r else c :: spaced r

theorem fold_cons_blank {c : Char} (h : isBlank c = true) (r : List Char) :
    fold (c :: r) = fold r := by
  rw [fold, words, if_pos h, fold]

theorem fold_eq_nil {s : List Char} : fold s = [] ↔ words s = [] := by
  constructor
  · intro h
    by_contra hne
    exact (trimmed_intercalate hne (of_mem_words s)).1.ne_nil h
  · intro h
    rw [fold, h]
    rfl

theorem fold_cons_solid {c : Char} (h : isBlank c = false) (r : List Char) :
    fold (c :: r) = c :: spaced r := by
  induction r generalizing c with
  | nil => simp [fold, words, h, spaced]
  | cons d r ih =>
    cases hd : isBlank d with
    | true =>
      have hwords : words (c :: d :: r) = [c] :: words r := by simp [words, h, hd]
      rw [spaced, if_pos hd]
      split
      · rename_i hnil
        rw [fold, hwords, fold_eq_nil.1 hnil]
        rfl
      · rename_i hne
        obtain ⟨w, ws, hws⟩ := List.exists_cons_of_ne_nil (mt fold_eq_nil.2 hne)
        rw [fold, hwords, fold, hws, List.intercalate_cons_cons]
        rfl
    | false =>
      -- the word of `d` is the rest of that of `c`
      have hne : words (d :: r) ≠ [] := fun hnil => by
        have := words_eq_nil.1 hnil d List.mem_cons_self
        rw [hd] at this
        cases this
      obtain ⟨w, ws, hws⟩ := List.exists_cons_of_ne_nil hne
      have hwords : words (c :: d :: r) = (c :: w) :: ws := by
        rw [words, hws]
        simp [h, hd]
      have hfold : fold (c :: d :: r) = c :: fold (d :: r) := by
        rw [fold, hwords, fold, hws]
        cases ws <;> simp [List.intercalate_cons_cons]
      rw [hfold, ih hd, spaced, hd]
      rfl

/-- Folding keeps the next character, unless it is white space. -/
theorem head?_spaced (r : List Char) {d : Char} (hd : isBlank d = false) :
    (spaced r).head? = some d ↔ r.head? = some d := by
  cases r with
  | nil => rfl
  | cons c r =>
    rw [spaced]
    split
    · rename_i hc
      have hne : c ≠ d := ne_of_isBlank hc hd
      have hspace : ' ' ≠ d := ne_of_isBlank isBlank_space hd
      split <;> simp [hne, hspace]
    · rfl

/-- A folded text has no other white space than spaces. -/
theorem eq_space_of_mem_fold {s : List Char} {c : Char} (h : c ∈ fold s) (hc : isBlank c = true) :
    c = ' ' := by
  have hs : strip s ≠ [] := fun hnil => by
    rw [fold_eq_nil.2 (words_eq_nil.2 (strip_eq_nil.1 hnil))] at h
    cases h
  exact (singleSpaced_fold hs).space c h hc

end Text
end Dashboard
