import Dashboard.Proofs.Outcome
import Dashboard.Sql.Gate
import Mathlib.Algebra.Ring.Parity
import Mathlib.Data.List.TakeWhile
import Mathlib.Data.Nat.Notation

/-!
# What the gate finds

* `Statement.violations_eq_ok` and `Statement.violations_eq_error`: the gate lists what its five
  checks find, unless some placeholder has too many digits to be read, and then it fails for the
  first such placeholder.
* `Statement.violations_eq_nil`: the gate has nothing against a statement exactly if none of its
  five checks has.
* `Gate.placeholdersFrom_suffix` and `Gate.placeholderDigits_of_boundary`: a placeholder is found
  wherever it stands between characters that belong neither to a word nor to another placeholder.
* `Gate.exists_blankQuoted_eq`: blanking keeps a stretch without double quotes, if those before it
  come in pairs or none follows.
* `Gate.hasInnerSemicolon_of_ne_nil`, `Gate.hasComment_append` and `Gate.findForbidden?_ne_none`:
  what the checks look for is found wherever it stands. `Gate.Spells` says how a forbidden word may
  be written.
-/

namespace Dashboard

namespace Gate

/-! ### Reading placeholders -/

/-- The digits of a placeholder are few enough to be read. -/
def Readable (digits : List Char) : Prop := digits.length ≤ mostDigits

instance : DecidablePred Readable := fun _ => inferInstanceAs (Decidable (_ ≤ _))

theorem readPlaceholder_eq_ok {digits : List Char} {n : ℕ} :
    readPlaceholder digits = .ok n ↔ Readable digits ∧ n = placeholderNumber digits := by
  rw [readPlaceholder, Readable, ← not_lt]
  split
  · simp [*]
  · simp [*, pure_eq_ok]

theorem readPlaceholder_eq_error {digits : List Char} {fault : LongPlaceholder} :
    readPlaceholder digits = .error fault ↔ ¬Readable digits ∧ fault = ⟨digits.length⟩ := by
  rw [readPlaceholder, Readable, not_le]
  split
  · simp [*, throw, throwThe, MonadExceptOf.throw, eq_comm]
  · simp [*, pure, Except.pure]

/-- Placeholders are all read or none is. -/
theorem mapM_readPlaceholder_eq_ok {ds : List (List Char)} {numbers : List ℕ} :
    ds.mapM readPlaceholder = .ok numbers ↔
      (∀ digits ∈ ds, Readable digits) ∧ numbers = ds.map placeholderNumber := by
  simp only [mapM_eq_ok, readPlaceholder_eq_ok]
  constructor
  · intro h
    induction h with
    | nil => exact ⟨nofun, rfl⟩
    | cons hx _ ih =>
      exact ⟨List.forall_mem_cons.2 ⟨hx.1, ih.1⟩, by rw [hx.2, ih.2, List.map_cons]⟩
  · rintro ⟨h, rfl⟩
    rw [List.forall₂_map_right_iff, List.forall₂_same]
    exact fun digits hmem => ⟨h digits hmem, rfl⟩

/-- The first placeholder that cannot be read, after others that can. -/
def FirstLong (ds : List (List Char)) (fault : LongPlaceholder) : Prop :=
  ∃ before digits after, ds = before ++ digits :: after ∧ (∀ d ∈ before, Readable d) ∧
    ¬Readable digits ∧ fault = ⟨digits.length⟩

theorem mapM_readPlaceholder_eq_error {ds : List (List Char)} {fault : LongPlaceholder} :
    ds.mapM readPlaceholder = .error fault ↔ FirstLong ds fault := by
  simp only [mapM_eq_error, readPlaceholder_eq_ok, readPlaceholder_eq_error, FirstLong,
    exists_and_left, exists_eq, and_true]

end Gate

namespace Statement

open Gate

/-- What the gate lists: the findings of its checks, if it can read all placeholders. -/
theorem violations_eq_ok {s : Statement} {vs : List Violation} :
    s.violations = .ok vs ↔
      (∀ digits ∈ placeholders (Text.strip s.text.toList), Readable digits) ∧
      vs = s.findings ((placeholders (Text.strip s.text.toList)).map placeholderNumber) := by
  simp only [violations, bind_eq_ok, mapM_readPlaceholder_eq_ok, pure_eq_ok]
  constructor
  · rintro ⟨numbers, ⟨hread, rfl⟩, rfl⟩
    exact ⟨hread, rfl⟩
  · rintro ⟨hread, rfl⟩
    exact ⟨_, ⟨hread, rfl⟩, rfl⟩

/-- The gate fails for the first placeholder that it cannot read. -/
theorem violations_eq_error {s : Statement} {fault : LongPlaceholder} :
    s.violations = .error fault ↔ FirstLong (placeholders (Text.strip s.text.toList)) fault := by
  simp [violations, bind_eq_error, mapM_readPlaceholder_eq_error, pure, Except.pure]

/-- The checks find nothing exactly if none of them does. -/
theorem findings_eq_nil {s : Statement} {numbers : List ℕ} :
    s.findings numbers = [] ↔ startsQuery (Text.strip s.text.toList) = true ∧
      hasInnerSemicolon (blankQuoted (Text.strip s.text.toList)) = false ∧
      hasComment (blankQuoted (Text.strip s.text.toList)) = false ∧
      findForbidden? none (blankQuoted (Text.strip s.text.toList)) = none ∧
      numbers.Perm (List.range' 1 s.parameters.length) := by
  rw [← List.isPerm_iff]
  unfold findings
  simp only [List.append_eq_nil_iff, and_assoc]
  refine and_congr (by simp) (and_congr (by simp) (and_congr (by simp) (and_congr ?_ (by simp))))
  cases findForbidden? none (blankQuoted (Text.strip s.text.toList)) <;> simp

/-- A statement passes exactly if it passes every check, and its placeholders can be read. -/
theorem violations_eq_nil {s : Statement} :
    s.violations = .ok [] ↔ startsQuery (Text.strip s.text.toList) = true ∧
      hasInnerSemicolon (blankQuoted (Text.strip s.text.toList)) = false ∧
      hasComment (blankQuoted (Text.strip s.text.toList)) = false ∧
      findForbidden? none (blankQuoted (Text.strip s.text.toList)) = none ∧
      ((placeholders (Text.strip s.text.toList)).map placeholderNumber).Perm
        (List.range' 1 s.parameters.length) ∧
      ∀ digits ∈ placeholders (Text.strip s.text.toList), Readable digits := by
  rw [violations_eq_ok, eq_comm (a := []), findings_eq_nil, and_comm]
  simp only [and_assoc]

end Statement

namespace Text

/-! ### Texts without white space at their ends -/

theorem stripRight_eq_self {s : List Char} (h : ∀ c ∈ s.getLast?, isBlank c = false) :
    stripRight s = s := by
  induction s with
  | nil => rfl
  | cons c r ih =>
    cases r with
    | nil => simp [stripRight, h c rfl]
    | cons d r => rw [stripRight, ih (by simpa using h)]

theorem strip_eq_self {s : List Char} (hfirst : ∀ c ∈ s.head?, isBlank c = false)
    (hlast : ∀ c ∈ s.getLast?, isBlank c = false) : strip s = s := by
  have hdrop : s.dropWhile isBlank = s := by
    cases s with
    | nil => rfl
    | cons c r => rw [List.dropWhile_cons_of_neg (by simp [hfirst c rfl])]
  rw [strip, hdrop, stripRight_eq_self hlast]

end Text

namespace Gate

/-! ### Placeholders -/

/-- The character before the second part of a text, where `before` is what precedes the first. -/
theorem getLast?_cons_or (c : Char) (x : List Char) (before : Option Char) :
    (c :: x).getLast?.or before = x.getLast?.or (some c) := by
  cases x <;> simp [List.getLast?_cons]

/-- The placeholders in the second part of a text are the last ones of the text. -/
theorem placeholdersFrom_suffix (x y : List Char) (before : Option Char) :
    placeholdersFrom (x.getLast?.or before) y <:+ placeholdersFrom before (x ++ y) := by
  induction x generalizing before with
  | nil => simp
  | cons c x ih =>
    rw [getLast?_cons_or, List.cons_append, placeholdersFrom]
    exact (ih (some c)).trans (List.suffix_append _ _)

/-- A digit is the value of some number. -/
theorem decimalValue_isSome_of_isDigit {c : Char} (h : c.isDigit = true) :
    (Text.decimalValue? c).isSome = true := by
  simp only [Char.isDigit, Bool.and_eq_true, decide_eq_true_eq] at h
  have hlow : '0' ≤ c ∧ c ≤ '9' := h
  have hsmall : c.toNat < 0x80 := Nat.lt_of_le_of_lt h.2 (by decide)
  simp [Text.decimalValue?, hsmall, hlow]

/-- Digits between `p` and a character that is neither a digit nor part of a word are those of a
placeholder. -/
theorem placeholderDigits_of_boundary {digits rest : List Char} (hne : digits ≠ [])
    (hdigits : ∀ c ∈ digits, (Text.decimalValue? c).isSome = true)
    (hrest : ∀ c ∈ rest.head?, (Text.decimalValue? c).isSome = false ∧ Text.isWord c = false) :
    placeholderDigits? ('p' :: (digits ++ rest)) = some digits := by
  have htake : (digits ++ rest).takeWhile (fun c => (Text.decimalValue? c).isSome) = digits := by
    rw [List.takeWhile_append_of_pos hdigits]
    cases rest with
    | nil => simp
    | cons c r => simp [(hrest c rfl).1]
  have hboundary : atBoundary rest.head? = true := by
    cases rest with
    | nil => rfl
    | cons c r => simp [atBoundary, (hrest c rfl).2]
  unfold placeholderDigits?
  simp only [htake, List.drop_left]
  simp [hne, hboundary]

/-! ### What stands between double quotes -/

/-- While no quote comes, blanking keeps what it reads. -/
theorem blankFrom_none_append_of_notMem {x : List Char} (hx : '"' ∉ x) (y : List Char) :
    blankFrom none (x ++ y) = x ++ blankFrom none y := by
  induction x with
  | nil => rfl
  | cons c x ih =>
    obtain ⟨hc, hx⟩ := not_or.1 (List.mem_cons.not.1 hx)
    rw [List.cons_append, blankFrom, if_neg (Ne.symm hc), ih hx, List.cons_append]

/-- An open quote that is never closed counts as text. -/
theorem blankFrom_some_of_notMem {y : List Char} (hy : '"' ∉ y) (held : List Char) :
    blankFrom (some held) y = '"' :: (held.reverse ++ y) := by
  induction y generalizing held with
  | nil => simp [blankFrom]
  | cons c y ih =>
    obtain ⟨hc, hy⟩ := not_or.1 (List.mem_cons.not.1 hy)
    rw [blankFrom, if_neg (Ne.symm hc), ih hy]
    simp

/-- Where every quote is closed, blanking starts anew. -/
theorem blankFrom_append_of_even {x : List Char} (y : List Char) :
    (Even (x.count '"') → blankFrom none (x ++ y) = blankFrom none x ++ blankFrom none y) ∧
    (∀ held, Odd (x.count '"') →
      blankFrom (some held) (x ++ y) = blankFrom (some held) x ++ blankFrom none y) := by
  induction x with
  | nil => exact ⟨fun _ => rfl, fun _ h => absurd h (by decide)⟩
  | cons c x ih =>
    obtain ⟨ihnone, ihsome⟩ := ih
    by_cases hc : c = '"'
    · subst hc
      rw [List.count_cons_self]
      refine ⟨fun h => ?_, fun held h => ?_⟩
      · have hodd : Odd (x.count '"') := Nat.not_even_iff_odd.1 (Nat.even_add_one.1 h)
        simpa [blankFrom] using ihsome [] hodd
      · have heven : Even (x.count '"') := Nat.not_odd_iff_even.1 (Nat.odd_add_one.1 h)
        simp [blankFrom, ihnone heven]
    · rw [List.count_cons_of_ne hc]
      refine ⟨fun h => ?_, fun held h => ?_⟩
      · simp [blankFrom, hc, ihnone h]
      · simpa [blankFrom, hc] using ihsome (c :: held) h

/-- Behind the last quote of a text, blanking keeps everything. -/
theorem blankFrom_append_of_notMem {x y : List Char} (hy : '"' ∉ y) :
    (blankFrom none (x ++ y) = blankFrom none x ++ y) ∧
    (∀ held, blankFrom (some held) (x ++ y) = blankFrom (some held) x ++ y) := by
  induction x with
  | nil =>
    refine ⟨?_, fun held => ?_⟩
    · simpa [blankFrom] using blankFrom_none_append_of_notMem hy []
    · simp [blankFrom, blankFrom_some_of_notMem hy]
  | cons c x ih =>
    obtain ⟨ihnone, ihsome⟩ := ih
    refine ⟨?_, fun held => ?_⟩
    · by_cases hc : c = '"'
      · simp [blankFrom, hc, ihsome]
      · simp [blankFrom, hc, ihnone]
    · by_cases hc : c = '"'
      · simp [blankFrom, hc, ihnone]
      · simp [blankFrom, hc, ihsome]

theorem getLast?_blankFrom (x : List Char) :
    (blankFrom none x).getLast? = x.getLast? ∧
    (∀ held, (blankFrom (some held) x).getLast? =
      some (x.getLast?.getD (held.head?.getD '"'))) := by
  induction x with
  | nil => exact ⟨rfl, fun held => by simp [blankFrom, List.getLast?_cons]⟩
  | cons c x ih =>
    obtain ⟨ihnone, ihsome⟩ := ih
    refine ⟨?_, fun held => ?_⟩
    · by_cases hc : c = '"'
      · simp [blankFrom, hc, ihsome, List.getLast?_cons]
      · simp [blankFrom, hc, ihnone, List.getLast?_cons]
    · by_cases hc : c = '"'
      · simp [blankFrom, hc, ihnone, List.getLast?_cons]
      · simp [blankFrom, hc, ihsome, List.getLast?_cons]

theorem head?_blankFrom_some (y held : List Char) :
    (blankFrom (some held) y).head? = some '"' := by
  induction y generalizing held with
  | nil => rfl
  | cons c y ih =>
    by_cases hc : c = '"'
    · simp [blankFrom, hc]
    · rw [blankFrom, if_neg hc, ih]

theorem head?_blankFrom_none (y : List Char) : (blankFrom none y).head? = y.head? := by
  cases y with
  | nil => rfl
  | cons c y =>
    by_cases hc : c = '"'
    · rw [blankFrom, if_pos hc, head?_blankFrom_some, List.head?_cons, hc]
    · rw [blankFrom, if_neg hc, List.head?_cons, List.head?_cons]

/-- A stretch without quotes is kept, with the same character on either side, if the quotes before
it are closed or no quote follows. -/
theorem exists_blankQuoted_eq {x d : List Char} (y : List Char) (hd : '"' ∉ d)
    (h : Even (x.count '"') ∨ '"' ∉ y) :
    ∃ x' y', blankQuoted (x ++ (d ++ y)) = x' ++ (d ++ y') ∧ x'.getLast? = x.getLast? ∧
      y'.head? = y.head? := by
  have hlast := (getLast?_blankFrom x).1
  rcases h with heven | hy
  · refine ⟨blankFrom none x, blankFrom none y, ?_, hlast, head?_blankFrom_none y⟩
    rw [blankQuoted, (blankFrom_append_of_even _).1 heven, blankFrom_none_append_of_notMem hd]
  · refine ⟨blankFrom none x, y, ?_, hlast, rfl⟩
    have hdy : '"' ∉ d ++ y := by simp [hd, hy]
    rw [blankQuoted, (blankFrom_append_of_notMem hdy).1]

/-! ### Semicolons and comments -/

/-- A semicolon that something follows is found. -/
theorem hasInnerSemicolon_of_ne_nil (x : List Char) {y : List Char} (hy : y ≠ []) :
    hasInnerSemicolon (x ++ ';' :: y) = true := by
  unfold hasInnerSemicolon
  by_cases hall : ∀ c ∈ y, c = ';'
  · -- then what follows is a second one
    obtain ⟨c, y, rfl⟩ := List.exists_cons_of_ne_nil hy
    have hc : c = ';' := hall c List.mem_cons_self
    have hcount : 1 < (x ++ ';' :: c :: y).count ';' := by
      rw [List.count_append, hc, List.count_cons_self, List.count_cons_self]
      omega
    rw [decide_eq_true hcount, Bool.or_true]
  · -- then it stays when the semicolons at the end are dropped
    have hne : ((y.reverse.dropWhile (· == ';')).isEmpty) = false := by
      rw [List.isEmpty_eq_false_iff, Ne, List.dropWhile_eq_nil_iff]
      intro h
      exact hall fun c hc => by simpa using h c (List.mem_reverse.2 hc)
    have hdrop : (x ++ ';' :: y).reverse.dropWhile (· == ';') =
        y.reverse.dropWhile (· == ';') ++ (';' :: x.reverse) := by
      have hrev : (x ++ ';' :: y).reverse = y.reverse ++ (';' :: x.reverse) := by simp
      rw [hrev, List.dropWhile_append, hne]
      rfl
    rw [hdrop]
    simp

theorem hasComment_cons {r : List Char} (c : Char) (h : hasComment r = true) :
    hasComment (c :: r) = true := by
  unfold hasComment
  split
  · rfl
  · rfl
  · rename_i heq
    cases heq
    exact h
  · contradiction

/-- The opening of a comment is found wherever it stands. -/
theorem hasComment_append (x : List Char) {y : List Char} (h : hasComment y = true) :
    hasComment (x ++ y) = true := by
  induction x with
  | nil => exact h
  | cons c x ih => exact hasComment_cons c ih

/-! ### Words -/

/-- A text spells a word: the letters of its parts in any case, with white space between two
parts. -/
inductive Spells : List String → List Char → Prop where
  | part {w : String} {s : List Char} (h : s.map foldLetter = w.toList) : Spells [w] s
  | cons {w w' : String} {ws : List String} {s gap r : List Char}
      (h : s.map foldLetter = w.toList) (hne : gap ≠ []) (hgap : ∀ c ∈ gap, Text.isBlank c = true)
      (hr : Spells (w' :: ws) r) : Spells (w :: w' :: ws) (s ++ (gap ++ r))

theorem dropWord?_append {s : List Char} (r : List Char) :
    dropWord? (s.map foldLetter) (s ++ r) = some r := by
  induction s with
  | nil => rfl
  | cons c s ih => rw [List.map_cons, List.cons_append, dropWord?, if_pos rfl, ih]

/-- White space is drained up to a character that is none. -/
theorem dropBlanks?_append {gap r : List Char} (hne : gap ≠ [])
    (hgap : ∀ c ∈ gap, Text.isBlank c = true) (hr : ∀ c ∈ r.head?, Text.isBlank c = false) :
    dropBlanks? (gap ++ r) = some r := by
  obtain ⟨c, gap, rfl⟩ := List.exists_cons_of_ne_nil hne
  have hstop : r.dropWhile Text.isBlank = r := by
    cases r with
    | nil => rfl
    | cons d r => rw [List.dropWhile_cons_of_neg (by simp [hr d rfl])]
  rw [List.cons_append, dropBlanks?, if_pos (hgap c List.mem_cons_self),
    List.dropWhile_append_of_pos fun d hd => hgap d (List.mem_cons_of_mem _ hd), hstop]

/-- White space is no letter in any case. -/
theorem foldLetter_of_isBlank {c : Char} (h : Text.isBlank c = true) : foldLetter c = c := by
  have hletter : ¬('a' ≤ c ∧ c ≤ 'z') := by
    rintro ⟨hlow, hhigh⟩
    have hlow : 97 ≤ c.toNat := hlow
    have hhigh : c.toNat ≤ 122 := hhigh
    simp only [Text.isBlank, Bool.or_eq_true, Bool.and_eq_true, decide_eq_true_eq, beq_iff_eq] at h
    omega
  unfold foldLetter
  rw [if_neg hletter]
  split
  · exact absurd h (by decide)
  · exact absurd h (by decide)
  · exact absurd h (by decide)
  · exact absurd h (by decide)
  · rfl

/-- Every part of a word starts with a character that is not white space. -/
def HasLetters (ws : List String) : Prop :=
  ∀ w ∈ ws, (w.toList.head?.any fun c => !Text.isBlank c) = true

theorem hasLetters_of_mem_forbidden {ws : List String} (h : ws ∈ forbidden) : HasLetters ws := by
  unfold HasLetters
  revert ws
  decide

/-- A text that spells a word does not start with white space, and it is not empty. -/
theorem Spells.head {ws : List String} {s : List Char} (h : Spells ws s) (hws : HasLetters ws) :
    ∃ c r, s = c :: r ∧ Text.isBlank c = false := by
  have hpart {w : String} {s : List Char} (hs : s.map foldLetter = w.toList)
      (hw : (w.toList.head?.any fun c => !Text.isBlank c) = true) :
      ∃ c r, s = c :: r ∧ Text.isBlank c = false := by
    rw [← hs] at hw
    cases s with
    | nil => cases hw
    | cons c r =>
      have hletter : Text.isBlank (foldLetter c) = false := by simpa using hw
      refine ⟨c, r, rfl, ?_⟩
      -- a blank would stand for itself in the word
      cases hc : Text.isBlank c with
      | false => rfl
      | true =>
        rw [foldLetter_of_isBlank hc, hc] at hletter
        exact hletter
  cases h with
  | part hs => exact hpart hs (hws _ List.mem_cons_self)
  | cons hs hne hgap hr =>
    obtain ⟨c, r, rfl, hc⟩ := hpart hs (hws _ List.mem_cons_self)
    exact ⟨c, _, rfl, hc⟩

theorem dropParts?_append {ws : List String} {s : List Char} (h : Spells ws s)
    (hws : HasLetters ws) (r : List Char) : dropParts? ws (s ++ r) = some r := by
  induction h with
  | part hs => rw [dropParts?, ← hs, dropWord?_append]
  | cons hs hne hgap hr ih =>
    rename_i w w' ws s gap t
    have htail : HasLetters (w' :: ws) := fun v hv => hws v (List.mem_cons_of_mem _ hv)
    obtain ⟨c, t', rfl, hc⟩ := hr.head htail
    have hword : dropWord? w.toList (s ++ (gap ++ (c :: t')) ++ r) =
        some (gap ++ (c :: t' ++ r)) := by
      rw [← hs, List.append_assoc, dropWord?_append, List.append_assoc]
    have hblanks : dropBlanks? (gap ++ (c :: t' ++ r)) = some (c :: t' ++ r) := by
      refine dropBlanks?_append hne hgap fun d hd => ?_
      cases hd
      exact hc
    rw [dropParts?, hword, Option.bind_some, hblanks, Option.bind_some, ih htail]
    nofun

/-- A forbidden word is found wherever it stands between characters that belong to no word. -/
theorem findForbidden?_ne_none {ws : List String} (hws : ws ∈ forbidden) {s : List Char}
    (hs : Spells ws s) {r : List Char} (hr : atBoundary r.head? = true) {x : List Char}
    {before : Option Char} (hx : atBoundary (x.getLast?.or before) = true) :
    findForbidden? before (x ++ (s ++ r)) ≠ none := by
  have hletters := hasLetters_of_mem_forbidden hws
  induction x generalizing before with
  | nil =>
    have hat : forbiddenAt? (s ++ r) ≠ none := by
      intro hnone
      have hnot := List.findSome?_eq_none_iff.1 hnone ws hws
      simp only [dropParts?_append hs hletters r, hr] at hnot
      contradiction
    obtain ⟨c, t, rfl, -⟩ := hs.head hletters
    have hx : atBoundary before = true := by simpa using hx
    rw [List.nil_append, List.cons_append, findForbidden?, if_pos hx]
    rw [List.cons_append] at hat
    cases hfound : forbiddenAt? (c :: (t ++ r)) with
    | none => exact absurd hfound hat
    | some w => nofun
  | cons c x ih =>
    rw [getLast?_cons_or] at hx
    rw [List.cons_append, findForbidden?]
    split
    · nofun
    · exact ih hx

end Gate
end Dashboard
