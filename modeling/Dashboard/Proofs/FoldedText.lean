import Dashboard.Text.Blank
import Mathlib.Data.List.Chain
import Mathlib.Data.List.TakeWhile

/-!
# Texts that were stripped and folded

* `Text.Trimmed` says that a text is not empty and has no white space at either end, and
  `Text.trimmed_strip` that this is what stripping leaves, if it leaves anything.
* `Text.SingleSpaced` says that the only white space in a text are spaces, no two of them side by
  side. Such a text has no line breaks (`Text.SingleSpaced.notMem_lineBreaks`).
* `Text.of_mem_words`: a word of a text is not empty and holds no white space. From this
  `Text.trimmed_fold` and `Text.singleSpaced_fold` follow by induction on the words.
* `Text.words_intercalate` reads words back from the text that joins them, so that folding a text a
  second time changes nothing (`Text.fold_fold`).
-/

namespace Dashboard
namespace Text

/-- A text that is not empty and has no white space at its ends. -/
structure Trimmed (s : List Char) : Prop where
  ne_nil : s ≠ []
  first : ∀ c ∈ s.head?, isBlank c = false
  last : ∀ c ∈ s.getLast?, isBlank c = false

/-- A text whose only white space are spaces, each by itself. -/
structure SingleSpaced (s : List Char) : Prop where
  space : ∀ c ∈ s, isBlank c = true → c = ' '
  apart : s.IsChain fun c d => ¬(isBlank c = true ∧ isBlank d = true)

/-- The characters that end a line. -/
def lineBreaks : List Char :=
  ['\n', '\x0b', '\x0c', '\r', '\x1c', '\x1d', '\x1e', '\u0085', '\u2028', '\u2029']

theorem SingleSpaced.notMem_lineBreaks {s : List Char} (h : SingleSpaced s) :
    ∀ c ∈ s, c ∉ lineBreaks := by
  have hblank : lineBreaks.all isBlank = true := by decide
  intro c hc hbreak
  rw [h.space c hc (List.all_eq_true.1 hblank c hbreak)] at hbreak
  exact absurd hbreak (by decide)

/-! ### Stripping -/

theorem stripRight_eq_nil {s : List Char} :
    stripRight s = [] ↔ ∀ c ∈ s, isBlank c = true := by
  induction s with
  | nil => simp [stripRight]
  | cons c r ih =>
    rw [List.forall_mem_cons, ← ih, stripRight]
    cases stripRight r with
    | nil => cases isBlank c <;> simp
    | cons d t => simp

theorem last_stripRight (s : List Char) : ∀ c ∈ (stripRight s).getLast?, isBlank c = false := by
  induction s with
  | nil => nofun
  | cons c r ih =>
    rw [stripRight]
    cases hr : stripRight r with
    | nil =>
      cases hc : isBlank c with
      | true => nofun
      | false => simp [hc]
    | cons d t =>
      rw [hr] at ih
      simpa using ih

/-- What stripping leaves begins as the text does. -/
theorem head?_stripRight {c : Char} {r : List Char} (h : isBlank c = false) :
    (stripRight (c :: r)).head? = some c := by
  rw [stripRight]
  cases stripRight r <;> simp [h]

theorem strip_eq_nil {s : List Char} : strip s = [] ↔ ∀ c ∈ s, isBlank c = true := by
  rw [strip, stripRight_eq_nil]
  constructor
  · intro h c hc
    rw [← List.takeWhile_append_dropWhile (p := isBlank) (l := s), List.mem_append] at hc
    exact hc.elim (fun hc => List.mem_takeWhile_imp hc) (h c)
  · intro h c hc
    exact h c ((List.dropWhile_suffix _).mem hc)

/-- Whatever stripping leaves of a text is trimmed. -/
theorem trimmed_strip {s : List Char} (h : strip s ≠ []) : Trimmed (strip s) := by
  refine ⟨h, ?_, last_stripRight _⟩
  unfold strip at h ⊢
  cases hs : s.dropWhile isBlank with
  | nil => nofun
  | cons c r =>
    have hc : isBlank c = false := by
      have := List.head_dropWhile_not isBlank (l := s) (by simp [hs])
      simpa [hs] using this
    rw [head?_stripRight hc]
    simpa using hc

/-! ### Folding -/

/-- A word of a text is not empty and holds no white space. -/
def IsWordText (w : List Char) : Prop := w ≠ [] ∧ ∀ c ∈ w, isBlank c = false

theorem of_mem_words (s : List Char) : ∀ w ∈ words s, IsWordText w := by
  induction s with
  | nil => nofun
  | cons c r ih =>
    rw [words]
    cases hc : isBlank c with
    | true => simpa using ih
    | false =>
      have hsingle : ∀ w ∈ [c] :: words r, IsWordText w :=
        List.forall_mem_cons.2 ⟨⟨by simp, by simpa using hc⟩, ih⟩
      -- `c` goes in front of the next word if that follows at once
      cases hw : words r with
      | nil => simpa [hw] using hsingle
      | cons w ws =>
        rw [hw] at ih hsingle
        obtain ⟨hword, hws⟩ := List.forall_mem_cons.1 ih
        cases hr : r.head?.map isBlank with
        | none => simpa using hsingle
        | some b =>
          cases b with
          | true => simpa using hsingle
          | false =>
            have hlonger : IsWordText (c :: w) :=
              ⟨by simp, List.forall_mem_cons.2 ⟨hc, hword.2⟩⟩
            simpa using List.forall_mem_cons.2 ⟨hlonger, hws⟩

theorem words_eq_nil {s : List Char} : words s = [] ↔ ∀ c ∈ s, isBlank c = true := by
  induction s with
  | nil => simp [words]
  | cons c r ih =>
    rw [List.forall_mem_cons, words]
    cases hc : isBlank c with
    | true => simpa using ih
    | false =>
      -- `c` belongs to a word
      constructor
      · intro hnil
        rw [if_neg (by simp)] at hnil
        split at hnil <;> cases hnil
      · rintro ⟨hblank, -⟩
        cases hblank

theorem IsWordText.trimmed {w : List Char} (h : IsWordText w) : Trimmed w :=
  ⟨h.1, fun c hc => h.2 c (List.mem_of_head? hc), fun c hc => h.2 c (List.mem_of_getLast? hc)⟩

theorem IsWordText.singleSpaced {w : List Char} (h : IsWordText w) : SingleSpaced w := by
  refine ⟨fun c hc hblank => ?_, ?_⟩
  · rw [h.2 c hc] at hblank
    cases hblank
  · refine List.Pairwise.isChain (List.pairwise_of_forall_mem_list fun c hc d _ hboth => ?_)
    rw [h.2 c hc] at hboth
    cases hboth.1

/-- A word in front of a text, with a space between them. -/
theorem Trimmed.cons_word {w rest : List Char} (hw : IsWordText w) (h : Trimmed rest) :
    Trimmed (w ++ ' ' :: rest) := by
  refine ⟨by simp, ?_, ?_⟩
  · simpa [List.head?_append, List.head?_eq_some_head hw.1] using hw.trimmed.first
  · simpa [List.getLast?_append, List.getLast?_cons,
      List.getLast?_eq_some_getLast h.ne_nil] using h.last

theorem SingleSpaced.cons_word {w rest : List Char} (hw : IsWordText w) (ht : Trimmed rest)
    (h : SingleSpaced rest) : SingleSpaced (w ++ ' ' :: rest) := by
  refine ⟨fun c hc hblank => ?_, List.isChain_append.2 ⟨hw.singleSpaced.apart, ?_, ?_⟩⟩
  · rcases List.mem_append.1 hc with hc | hc
    · exact hw.singleSpaced.space c hc hblank
    · rcases List.mem_cons.1 hc with rfl | hc
      · rfl
      · exact h.space c hc hblank
  · -- the text begins with no white space of its own
    refine List.isChain_cons.2 ⟨fun d hd hboth => ?_, h.apart⟩
    rw [ht.first d hd] at hboth
    cases hboth.2
  · intro c hc d _ hboth
    rw [hw.trimmed.last c hc] at hboth
    cases hboth.1

/-- Words with one space between two of them are trimmed, and have no other white space. -/
theorem trimmed_intercalate {ws : List (List Char)} (hne : ws ≠ [])
    (h : ∀ w ∈ ws, IsWordText w) :
    Trimmed ([' '].intercalate ws) ∧ SingleSpaced ([' '].intercalate ws) := by
  induction ws with
  | nil => exact absurd rfl hne
  | cons w ws ih =>
    obtain ⟨hw, hws⟩ := List.forall_mem_cons.1 h
    cases ws with
    | nil =>
      rw [List.intercalate_singleton]
      exact ⟨hw.trimmed, hw.singleSpaced⟩
    | cons v vs =>
      obtain ⟨htrimmed, hspaced⟩ := ih (by simp) hws
      rw [List.intercalate_cons_cons, List.append_assoc, List.singleton_append]
      exact ⟨htrimmed.cons_word hw, hspaced.cons_word hw htrimmed⟩

/-- A word in front of white space, or of nothing, is the first word of the text. -/
theorem words_append {w rest : List Char} (hw : IsWordText w)
    (h : ∀ c ∈ rest.head?, isBlank c = true) : words (w ++ rest) = w :: words rest := by
  obtain ⟨hne, hsolid⟩ := hw
  induction w with
  | nil => exact absurd rfl hne
  | cons c w ih =>
    obtain ⟨hc, hw⟩ := List.forall_mem_cons.1 hsolid
    cases w with
    | nil =>
      -- what follows `c` does not go on with the word
      cases rest with
      | nil => simp [words, hc]
      | cons d rest => simp [words, hc, h d rfl]
    | cons d w =>
      rw [List.cons_append, words, ih (by simp) hw]
      simp [hc, hw d List.mem_cons_self]

/-- Words with one space between two of them are the words of the text. -/
theorem words_intercalate {ws : List (List Char)} (h : ∀ w ∈ ws, IsWordText w) :
    words ([' '].intercalate ws) = ws := by
  induction ws with
  | nil => rfl
  | cons w ws ih =>
    obtain ⟨hw, hws⟩ := List.forall_mem_cons.1 h
    cases ws with
    | nil =>
      have hend : words (w ++ []) = [w] := words_append hw (by simp)
      rw [List.intercalate_singleton, ← hend, List.append_nil]
    | cons v vs =>
      have hspace : isBlank ' ' = true := by decide
      rw [List.intercalate_cons_cons, List.append_assoc, List.singleton_append,
        words_append hw (by simpa using hspace), words, if_pos hspace, ih hws]

/-- A folded text is not changed by folding it again. -/
theorem fold_fold (s : List Char) : fold (fold s) = fold s := by
  rw [fold, fold, words_intercalate (of_mem_words s)]

section

variable {s : List Char} (h : strip s ≠ [])
include h

theorem words_ne_nil : words s ≠ [] := fun hwords =>
  h (strip_eq_nil.2 (words_eq_nil.1 hwords))

/-- A text that is not blank is trimmed by folding it. -/
theorem trimmed_fold : Trimmed (fold s) :=
  (trimmed_intercalate (words_ne_nil h) (of_mem_words s)).1

theorem singleSpaced_fold : SingleSpaced (fold s) :=
  (trimmed_intercalate (words_ne_nil h) (of_mem_words s)).2

end

end Text
end Dashboard
