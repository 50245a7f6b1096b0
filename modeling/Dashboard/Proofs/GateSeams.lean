import Dashboard.Proofs.GateRules

/-!
# Texts put together

What the gate looks for can form where two texts meet: a comment from two characters, a forbidden
word from its letters or from its parts, a placeholder, a pair of quotes.

* `exists_of_findForbidden?`: a forbidden word that is found is spelled in the text, between
  characters that belong to no word.
* `Opens` and `Closes` say how a text may start, or end, so that nothing forms at that end.
  `hasComment_append_eq_false`, `findForbidden?_append_eq_none` and `placeholders_append` are the
  seam lemmas, one for each check that looks at more than one character.
* `Harmless` says of a text that the gate has nothing against it and finds certain placeholders in
  it. `Harmless.append` puts such texts together.
-/

namespace Dashboard
namespace Gate

/-! ### What a found word looks like -/

theorem exists_of_dropWord? {w s r : List Char} (h : dropWord? w s = some r) :
    ∃ u, s = u ++ r ∧ u.map foldLetter = w := by
  induction w generalizing s with
  | nil =>
    obtain rfl : s = r := by simpa [dropWord?] using h
    exact ⟨[], rfl, rfl⟩
  | cons c w ih =>
    cases s with
    | nil => cases h
    | cons d s =>
      rw [dropWord?] at h
      split at h
      · rename_i hc
        obtain ⟨u, rfl, hu⟩ := ih h
        exact ⟨d :: u, rfl, by rw [List.map_cons, hc, hu]⟩
      · cases h

theorem exists_of_dropBlanks? {s r : List Char} (h : dropBlanks? s = some r) :
    ∃ gap, s = gap ++ r ∧ gap ≠ [] ∧ ∀ c ∈ gap, Text.isBlank c = true := by
  cases s with
  | nil => cases h
  | cons c s =>
    rw [dropBlanks?] at h
    split at h
    · rename_i hc
      cases h
      refine ⟨c :: s.takeWhile Text.isBlank, ?_, List.cons_ne_nil _ _, fun d hd => ?_⟩
      · rw [List.cons_append, List.takeWhile_append_dropWhile]
      · rcases List.mem_cons.1 hd with rfl | hd
        · exact hc
        · exact List.mem_takeWhile_imp hd
    · cases h

/-- What is dropped for the parts of a word spells it. -/
theorem spells_of_dropParts? {ws : List String} (hne : ws ≠ []) {s r : List Char}
    (h : dropParts? ws s = some r) : ∃ u, s = u ++ r ∧ Spells ws u := by
  induction ws generalizing s with
  | nil => exact absurd rfl hne
  | cons w ws ih =>
    cases ws with
    | nil =>
      obtain ⟨u, rfl, hu⟩ := exists_of_dropWord? h
      exact ⟨u, rfl, .part hu⟩
    | cons w' ws =>
      rw [dropParts?] at h
      · obtain ⟨t, h, htail⟩ := Option.bind_eq_some_iff.1 h
        obtain ⟨t', hword, hblanks⟩ := Option.bind_eq_some_iff.1 h
        obtain ⟨u, rfl, hu⟩ := exists_of_dropWord? hword
        obtain ⟨gap, rfl, hgap, hblank⟩ := exists_of_dropBlanks? hblanks
        obtain ⟨v, rfl, hv⟩ := ih (List.cons_ne_nil _ _) htail
        exact ⟨u ++ (gap ++ v), by simp, .cons hu hgap hblank hv⟩
      · exact List.cons_ne_nil _ _

/-- A forbidden word that is found stands in the text between characters that belong to no word. -/
theorem exists_of_findForbidden? {s : List Char} {before : Option Char}
    (h : findForbidden? before s ≠ none) : ∃ ws ∈ forbidden, ∃ x u r, s = x ++ (u ++ r) ∧
      Spells ws u ∧ atBoundary (x.getLast?.or before) = true ∧ atBoundary r.head? = true := by
  induction s generalizing before with
  | nil => exact absurd rfl h
  | cons c s ih =>
    rw [findForbidden?] at h
    split at h
    · rename_i found hfound
      split at hfound
      · rename_i hbefore
        obtain ⟨ws, hws, hat⟩ := List.exists_of_findSome?_eq_some hfound
        split at hat
        · rename_i r hr
          split at hat
          · rename_i hboundary
            have hne : ws ≠ [] := by
              rintro rfl
              exact absurd hws (by decide)
            obtain ⟨u, hu, hspells⟩ := spells_of_dropParts? hne hr
            exact ⟨ws, hws, [], u, r, hu, hspells, by simpa using hbefore, hboundary⟩
          · cases hat
        · cases hat
      · cases hfound
    · obtain ⟨ws, hws, x, u, r, rfl, hspells, hx, hr⟩ := ih h
      exact ⟨ws, hws, c :: x, u, r, rfl, hspells, by rwa [getLast?_cons_or], hr⟩

/-! ### Seams -/

/-- The characters at which texts meet. -/
def isSeam (c : Char) : Bool := [' ', '(', ')', ',', ';', '"', '['].contains c

/-- A text starts so that nothing forms between it and whatever comes before: with a seam, and not
with the second part of a word. -/
def Opens (t : List Char) : Prop :=
  t.head?.all isSeam = true ∧
    ((t.dropWhile Text.isBlank).head?.all fun c => foldLetter c != 'R') = true

/-- A text ends so that nothing forms between it and whatever comes behind: in a seam, and not in
the first part of a word. -/
def Closes (s : List Char) : Prop :=
  s.getLast?.all isSeam = true ∧
    ((s.reverse.dropWhile Text.isBlank).take 2).map foldLetter ≠ ['T', 'E']

instance : DecidablePred Opens := fun _ => inferInstanceAs (Decidable (_ ∧ _))

instance : DecidablePred Closes := fun _ => inferInstanceAs (Decidable (_ ∧ _))

/-- A seam belongs to no word, number, placeholder or comment, and is no letter in any case. -/
theorem of_isSeam {c : Char} (h : isSeam c = true) :
    c ∉ [':', '-', '/', '*', 'p'] ∧ Text.isWord c = false ∧
      (Text.decimalValue? c).isSome = false ∧ foldLetter c = c := by
  have hall : ([' ', '(', ')', ',', ';', '"', '['].all fun c =>
      !([':', '-', '/', '*', 'p'].contains c) && !Text.isWord c &&
        !(Text.decimalValue? c).isSome && foldLetter c == c) = true := by decide
  have hc := List.all_eq_true.1 hall c (List.contains_iff_mem.1 h)
  simpa [and_assoc] using hc

/-- No letter of a forbidden word is a seam. -/
theorem isSeam_of_mem_spelled {ws : List String} (hws : ws ∈ forbidden) {w : String} (hw : w ∈ ws)
    {u : List Char} (hu : u.map foldLetter = w.toList) {c : Char} (hc : c ∈ u) :
    isSeam c = false := by
  have hall : (forbidden.all fun ws => ws.all fun w => w.toList.all fun c => !isSeam c) = true := by
    decide
  have hletters := List.all_eq_true.1 (List.all_eq_true.1 hall ws hws) w hw
  cases hseam : isSeam c with
  | false => rfl
  | true =>
    have hmem : c ∈ w.toList := by
      rw [← hu, ← (of_isSeam hseam).2.2.2]
      exact List.mem_map_of_mem hc
    have hnot := List.all_eq_true.1 hletters c hmem
    rw [hseam] at hnot
    cases hnot

/-- Of the two parts of a forbidden word, the first ends in `ET` and the second starts with `R`. -/
theorem parts_of_mem_forbidden {w w' : String} {ws : List String}
    (h : w :: w' :: ws ∈ forbidden) :
    ws = [] ∧ w.toList.reverse.take 2 = ['T', 'E'] ∧ w'.toList.take 1 = ['R'] := by
  have hall : ∀ ws ∈ forbidden, ∀ w ∈ ws.head?, ∀ w' ∈ ws.tail.head?,
      ws.tail.tail = [] ∧ w.toList.reverse.take 2 = ['T', 'E'] ∧ w'.toList.take 1 = ['R'] := by
    decide
  exact hall _ h w rfl w' rfl

/-- A character that stands for a letter is not white space. -/
theorem isBlank_of_foldLetter {c l : Char} (h : foldLetter c = l) (hl : Text.isBlank l = false) :
    Text.isBlank c = false := by
  cases hc : Text.isBlank c with
  | false => rfl
  | true => rw [← h, foldLetter_of_isBlank hc, hc] at hl; exact hl

/-- A text does not close that ends in the first part of a word and white space. -/
theorem not_closes_append {w : String} (hw : w.toList.reverse.take 2 = ['T', 'E'])
    {u gap : List Char} (hu : u.map foldLetter = w.toList)
    (hgap : ∀ c ∈ gap, Text.isBlank c = true) (x : List Char) : ¬Closes (x ++ (u ++ gap)) := by
  rintro ⟨-, h⟩
  have hreverse : (u.reverse.take 2).map foldLetter = ['T', 'E'] := by
    rw [List.map_take, List.map_reverse, hu, hw]
  obtain ⟨a, b, t, hab, ha, hb⟩ : ∃ a b t, u.reverse = a :: b :: t ∧ foldLetter a = 'T' ∧
      foldLetter b = 'E' := by
    match hrev : u.reverse with
    | [] => simp [hrev] at hreverse
    | [a] => simp [hrev] at hreverse
    | a :: b :: t =>
      rw [hrev] at hreverse
      simp only [List.take_succ_cons, List.take_zero, List.map_cons, List.map_nil,
        List.cons.injEq, and_true] at hreverse
      exact ⟨a, b, t, rfl, hreverse.1, hreverse.2⟩
  have hblank : ∀ c ∈ gap.reverse, Text.isBlank c = true := fun c hc =>
    hgap c (List.mem_reverse.1 hc)
  have hstop := isBlank_of_foldLetter ha (by decide)
  apply h
  rw [List.reverse_append, List.reverse_append, List.append_assoc,
    List.dropWhile_append_of_pos hblank, hab, List.cons_append,
    List.dropWhile_cons_of_neg (by simp [hstop])]
  simp [ha, hb]

/-- A text does not open that starts with white space and the second part of a word. -/
theorem not_opens_append {w : String} (hw : w.toList.take 1 = ['R']) {u gap : List Char}
    (hu : u.map foldLetter = w.toList) (hgap : ∀ c ∈ gap, Text.isBlank c = true)
    (r : List Char) : ¬Opens (gap ++ u ++ r) := by
  rintro ⟨-, h⟩
  obtain ⟨a, t, rfl, ha⟩ : ∃ a t, u = a :: t ∧ foldLetter a = 'R' := by
    rw [← hu, ← List.map_take] at hw
    cases u with
    | nil => cases hw
    | cons a t => exact ⟨a, t, rfl, by simpa using hw⟩
  have hstop := isBlank_of_foldLetter ha (by decide)
  rw [List.append_assoc, List.dropWhile_append_of_pos hgap, List.cons_append,
    List.dropWhile_cons_of_neg (by simp [hstop])] at h
  simp [ha] at h

/-- If the last character of a front part of `u ++ (gap ++ v)` is in neither `u` nor `v`, the front
part is `u` and characters of the gap. -/
theorem exists_gap_of_last {α : Type} {u gap v c d : List α} {l : α}
    (h : u ++ (gap ++ v) = c ++ [l] ++ d) (hu : l ∉ u) (hv : l ∉ v) :
    ∃ g, c ++ [l] = u ++ g ∧ ∀ e ∈ g, e ∈ gap := by
  rcases List.append_eq_append_iff.1 h with ⟨g, hg, hrest⟩ | ⟨y, rfl, -⟩
  · rcases List.append_eq_append_iff.1 hrest with ⟨y, rfl, rfl⟩ | ⟨y, rfl, -⟩
    · rcases List.eq_nil_or_concat y with rfl | ⟨y, b, rfl⟩
      · exact ⟨gap, by simpa using hg, fun e he => he⟩
      · -- the front part would end in `v`
        rw [List.concat_eq_append, ← List.append_assoc, ← List.append_assoc] at hg
        obtain rfl := List.singleton_inj.1 (List.append_inj' hg rfl).2
        exact absurd (by simp) hv
    · exact ⟨g, hg, fun e he => List.mem_append_left _ he⟩
  · exact absurd (by simp) hu

/-- If the first character of a back part of `u ++ (gap ++ v)` is in neither `u` nor `v`, the back
part is characters of the gap and `v`. -/
theorem exists_gap_of_first {α : Type} {u gap v c d : List α} {f : α}
    (h : u ++ (gap ++ v) = c ++ f :: d) (hu : f ∉ u) (hv : f ∉ v) :
    ∃ g, f :: d = g ++ v ∧ ∀ e ∈ g, e ∈ gap := by
  rcases List.append_eq_append_iff.1 h with ⟨y, rfl, hrest⟩ | ⟨y, rfl, hd⟩
  · rcases List.append_eq_append_iff.1 hrest with ⟨y', rfl, rfl⟩ | ⟨g, rfl, hg⟩
    · exact absurd (by simp) hv
    · exact ⟨g, hg, fun e he => List.mem_append_right _ he⟩
  · cases y with
    | nil => exact ⟨gap, hd, fun e he => he⟩
    | cons b y =>
      obtain ⟨rfl, -⟩ := List.cons.inj hd
      exact absurd (by simp) hu

/-- Where a forbidden word stands across a seam, the text before does not close and the text behind
does not open. -/
theorem not_closes_and_not_opens {ws : List String} (hws : ws ∈ forbidden) {c d : List Char}
    {l f : Char} (h : Spells ws (c ++ [l] ++ f :: d)) (x r : List Char) :
    ¬Closes (x ++ (c ++ [l])) ∧ ¬Opens (f :: d ++ r) := by
  have hlast : Closes (x ++ (c ++ [l])) → isSeam l = true := fun h => by
    simpa [List.getLast?_append] using h.1
  have hfirst : Opens (f :: d ++ r) → isSeam f = true := fun h => h.1
  generalize hw : c ++ [l] ++ f :: d = w at h
  cases h with
  | part hu =>
    -- no character of the word is a seam
    have hletter {e : Char} (he : e ∈ w) := isSeam_of_mem_spelled hws List.mem_cons_self hu he
    have hl := hletter (e := l) (by simp [← hw])
    have hf := hletter (e := f) (by simp [← hw])
    exact ⟨fun h => by simp [hlast h] at hl, fun h => by simp [hfirst h] at hf⟩
  | cons hu hne hgap hv =>
    rename_i w₁ w₂ ws u gap v
    obtain ⟨rfl, hw₁, hw₂⟩ := parts_of_mem_forbidden hws
    cases hv with
    | part hv =>
      have hletter₁ {e : Char} (he : isSeam e = true) : e ∉ u := fun hmem => by
        simp [isSeam_of_mem_spelled hws List.mem_cons_self hu hmem] at he
      have hletter₂ {e : Char} (he : isSeam e = true) : e ∉ v := fun hmem => by
        simp [isSeam_of_mem_spelled hws (List.mem_cons_of_mem _ List.mem_cons_self) hv hmem] at he
      refine ⟨fun h => ?_, fun h => ?_⟩
      · have hl := hlast h
        obtain ⟨g, hg, hmem⟩ := exists_gap_of_last hw.symm (hletter₁ hl) (hletter₂ hl)
        rw [hg] at h
        exact not_closes_append hw₁ hu (fun e he => hgap e (hmem e he)) x h
      · have hf := hfirst h
        obtain ⟨g, hg, hmem⟩ := exists_gap_of_first hw.symm (hletter₁ hf) (hletter₂ hf)
        rw [hg] at h
        exact not_opens_append hw₂ hv (fun e he => hgap e (hmem e he)) r h

/-- Two texts without a forbidden word have none together, if either of them ends in a seam
there. -/
theorem findForbidden?_append_eq_none {a b : List Char} (ha : findForbidden? none a = none)
    (hb : findForbidden? none b = none) (h : Closes a ∨ Opens b) :
    findForbidden? none (a ++ b) = none := by
  by_contra hne
  obtain ⟨ws, hws, x, u, r, heq, hspells, hx, hr⟩ := exists_of_findForbidden? hne
  have hb' {y : List Char} (hy : atBoundary y.getLast? = true) : b ≠ y ++ (u ++ r) := by
    rintro rfl
    exact findForbidden?_ne_none hws hspells hr (by simpa using hy) hb
  have ha' {t : List Char} (ht : atBoundary t.head? = true) : a ≠ x ++ (u ++ t) := by
    rintro rfl
    exact findForbidden?_ne_none hws hspells ht hx ha
  rcases List.append_eq_append_iff.1 heq with ⟨y, rfl, hy⟩ | ⟨c, rfl, hrest⟩
  · -- the word stands in the second text
    refine hb' ?_ hy
    cases y with
    | nil => rfl
    | cons d y => simpa [List.getLast?_cons] using hx
  · rcases List.append_eq_append_iff.1 hrest with ⟨t, rfl, rfl⟩ | ⟨d, rfl, rfl⟩
    · -- it stands in the first text
      refine ha' ?_ rfl
      cases t with
      | nil => rfl
      | cons d t => exact hr
    · rcases List.eq_nil_or_concat c with rfl | ⟨c, l, rfl⟩
      · exact hb' (y := []) rfl rfl
      cases d with
      | nil => exact ha' (t := []) rfl (by simp)
      | cons f d =>
        rw [List.concat_eq_append] at hspells h
        obtain ⟨hcloses, hopens⟩ := not_closes_and_not_opens hws hspells x r
        exact h.elim hcloses hopens

/-! ### Comments and placeholders across seams -/

theorem hasComment_cons_eq_false {c : Char} {r : List Char} :
    hasComment (c :: r) = false ↔ ¬(c = '-' ∧ r.head? = some '-') ∧
      ¬(c = '/' ∧ r.head? = some '*') ∧ hasComment r = false := by
  cases r with
  | nil => simp [hasComment]
  | cons d r =>
    by_cases hdash : c = '-' ∧ d = '-'
    · obtain ⟨rfl, rfl⟩ := hdash
      simp [hasComment]
    · by_cases hslash : c = '/' ∧ d = '*'
      · obtain ⟨rfl, rfl⟩ := hslash
        simp [hasComment]
      · rw [hasComment]
        · simp [hdash, hslash]
        · rintro _ rfl heq
          exact hdash ⟨rfl, (List.cons.inj heq).1⟩
        · rintro _ rfl heq
          exact hslash ⟨rfl, (List.cons.inj heq).1⟩

/-- Two texts without a comment have none together, if they meet at a seam. -/
theorem hasComment_append_eq_false {a b : List Char} (ha : hasComment a = false)
    (hb : hasComment b = false)
    (h : a.getLast?.all isSeam = true ∨ b.head?.all isSeam = true) :
    hasComment (a ++ b) = false := by
  induction a with
  | nil => exact hb
  | cons c a ih =>
    rw [hasComment_cons_eq_false] at ha
    rw [List.cons_append, hasComment_cons_eq_false]
    cases a with
    | cons d a =>
      exact ⟨ha.1, ha.2.1, ih ha.2.2 (by simpa [List.getLast?_cons] using h)⟩
    | nil =>
      -- only here the two characters come from both texts
      have hnot {x y : Char} (hx : isSeam x = false) (hy : isSeam y = false) :
          ¬(c = x ∧ b.head? = some y) := by
        rintro ⟨rfl, hhead⟩
        rw [hhead] at h
        simp [hx, hy] at h
      exact ⟨hnot (by decide) (by decide), hnot (by decide) (by decide), hb⟩

/-- What is read of a placeholder are the digits in front of a character that is none. -/
theorem placeholderDigits?_digits {digits rest : List Char}
    (hdigits : ∀ c ∈ digits, (Text.decimalValue? c).isSome = true)
    (hrest : ∀ c ∈ rest.head?, (Text.decimalValue? c).isSome = false) :
    placeholderDigits? ('p' :: (digits ++ rest)) =
      if !digits.isEmpty && atBoundary rest.head? then some digits else none := by
  have htake : (digits ++ rest).takeWhile (fun c => (Text.decimalValue? c).isSome) = digits := by
    rw [List.takeWhile_append_of_pos hdigits]
    cases rest with
    | nil => simp
    | cons c r => simp [hrest c rfl]
  unfold placeholderDigits?
  simp only [htake, List.drop_left]

/-- Every text starts with digits, as many as there are, none included. -/
theorem exists_digits_append (a : List Char) : ∃ digits rest, a = digits ++ rest ∧
    (∀ c ∈ digits, (Text.decimalValue? c).isSome = true) ∧
      ∀ c ∈ rest.head?, (Text.decimalValue? c).isSome = false := by
  have hsplit := List.takeWhile_append_dropWhile
    (p := fun c => (Text.decimalValue? c).isSome) (l := a)
  refine ⟨_, _, hsplit.symm, fun c hc => ?_, fun c hc => ?_⟩
  · exact List.mem_takeWhile_imp (p := fun c => (Text.decimalValue? c).isSome) hc
  · have hstop := List.head?_dropWhile_not (fun c => (Text.decimalValue? c).isSome) a
    rw [hc] at hstop
    simpa using hstop

/-- No placeholder is read from another letter. -/
theorem placeholderDigits?_of_ne {c : Char} (h : c ≠ 'p') (a : List Char) :
    placeholderDigits? (c :: a) = none := by
  rw [placeholderDigits?]
  rintro _ heq
  exact h (List.cons.inj heq).1

/-- A character that belongs to no word, number or placeholder. -/
def Apart (c : Char) : Prop :=
  c ≠ ':' ∧ Text.isWord c = false ∧ (Text.decimalValue? c).isSome = false

theorem apart_of_seam {o : Option Char} (h : o.all isSeam = true) : ∀ c ∈ o, Apart c := by
  rintro c rfl
  obtain ⟨hmarks, hword, hdecimal, -⟩ := of_isSeam (c := c) h
  refine ⟨?_, hword, hdecimal⟩
  rintro rfl
  exact absurd hmarks (by decide)

/-- A placeholder does not go on across a character that stands apart. -/
theorem placeholderDigits?_append {a b : List Char}
    (h : (a ≠ [] ∧ ∀ c ∈ a.getLast?, Apart c) ∨ ∀ c ∈ b.head?, Apart c) :
    placeholderDigits? (a ++ b) = placeholderDigits? a := by
  have hp : ¬Apart 'p' := fun h => absurd h.2.1 (by decide)
  cases a with
  | nil =>
    have hfirst := h.resolve_left fun h => h.1 rfl
    cases b with
    | nil => rfl
    | cons c b =>
      have hc : c ≠ 'p' := fun hc => hp (hc ▸ hfirst c rfl)
      rw [List.nil_append, placeholderDigits?_of_ne hc]
      rfl
  | cons c a =>
    by_cases hc : c = 'p'
    · obtain ⟨digits, rest, rfl, hdigits, hrest⟩ := exists_digits_append a
      rw [hc, List.cons_append, List.append_assoc, placeholderDigits?_digits hdigits hrest]
      cases rest with
      | cons d rest =>
        have hrest' : ∀ c ∈ ((d :: rest) ++ b).head?, (Text.decimalValue? c).isSome = false := hrest
        rw [placeholderDigits?_digits hdigits hrest']
        rfl
      | nil =>
        -- no digit stands apart, so the second text starts with a character that does
        have hfirst : ∀ c ∈ b.head?, Apart c := by
          refine h.resolve_left fun h => ?_
          have hlast := h.2
          rcases List.eq_nil_or_concat digits with rfl | ⟨ds, d, rfl⟩
          · exact hp (hc ▸ hlast c (by simp))
          · have hd := hdigits d (by simp)
            have hapart := hlast d (by simp [List.getLast?_cons])
            rw [hapart.2.2] at hd
            cases hd
        have hboundary : atBoundary b.head? = true := by
          cases b with
          | nil => rfl
          | cons d b => simp [atBoundary, (hfirst d rfl).2.1]
        rw [List.nil_append, placeholderDigits?_digits hdigits fun c hc => (hfirst c hc).2.2,
          hboundary]
        rfl
    · rw [List.cons_append, placeholderDigits?_of_ne hc, placeholderDigits?_of_ne hc]

theorem placeholdersFrom_append {a b : List Char} (before : Option Char)
    (h : (∀ c ∈ a.getLast?, Apart c) ∨ ∀ c ∈ b.head?, Apart c) :
    placeholdersFrom before (a ++ b) =
      placeholdersFrom before a ++ placeholdersFrom (a.getLast?.or before) b := by
  induction a generalizing before with
  | nil => rfl
  | cons c a ih =>
    have hrest : (∀ c ∈ a.getLast?, Apart c) ∨ ∀ c ∈ b.head?, Apart c := by
      refine h.imp_left fun h => ?_
      cases a with
      | nil => simp
      | cons d a => simpa [List.getLast?_cons] using h
    have hdigits (hc : c = ':') : placeholderDigits? (a ++ b) = placeholderDigits? a := by
      subst hc
      refine placeholderDigits?_append ?_
      cases a with
      | nil => exact .inr (h.resolve_left fun h => (h ':' rfl).1 rfl)
      | cons d a => exact hrest.imp_left fun h => ⟨nofun, h⟩
    rw [List.cons_append, placeholdersFrom, placeholdersFrom, ih (some c) hrest, getLast?_cons_or,
      List.append_assoc]
    congr 1
    split
    · rename_i hc
      rw [hdigits hc.1]
    · rfl

/-- The placeholders of two texts are those of each, if a character stands apart where they meet. -/
theorem placeholders_append {a b : List Char}
    (h : (∀ c ∈ a.getLast?, Apart c) ∨ ∀ c ∈ b.head?, Apart c) :
    placeholders (a ++ b) = placeholders a ++ placeholders b := by
  have hbehind : placeholdersFrom (a.getLast?.or none) b = placeholdersFrom none b := by
    cases b with
    | nil => rfl
    | cons c b =>
      rw [placeholdersFrom, placeholdersFrom]
      congr 1
      by_cases hc : c = ':'
      · have hlast := h.resolve_right fun h => (h c rfl).1 hc
        have hprecede : mayPrecedePlaceholder a.getLast? = true := by
          cases hl : a.getLast? with
          | none => rfl
          | some l =>
            obtain ⟨hne, hword, -⟩ := hlast l hl
            simp [mayPrecedePlaceholder, hne, hword]
        rw [Option.or_none, hprecede]
        rfl
      · rw [if_neg (by simp [hc]), if_neg (by simp [hc])]
  rw [placeholders, placeholdersFrom_append none h, hbehind]
  rfl

/-! ### Harmless texts -/

/-- The gate has nothing against a text on its own: its double quotes come in pairs, and outside of
them there is no semicolon, no comment and no forbidden word. The digits of its placeholders are
`found`. -/
structure Harmless (s : List Char) (found : List (List Char)) : Prop where
  quotes : Even (s.count '"')
  semicolon : ';' ∉ blankQuoted s
  comment : hasComment (blankQuoted s) = false
  keyword : findForbidden? none (blankQuoted s) = none
  placeholders : placeholders s = found

instance (s : List Char) (found : List (List Char)) : Decidable (Harmless s found) :=
  decidable_of_iff (Even (s.count '"') ∧ ';' ∉ blankQuoted s ∧
      hasComment (blankQuoted s) = false ∧ findForbidden? none (blankQuoted s) = none ∧
      Gate.placeholders s = found)
    ⟨fun ⟨hq, hs, hc, hk, hp⟩ => ⟨hq, hs, hc, hk, hp⟩,
      fun ⟨hq, hs, hc, hk, hp⟩ => ⟨hq, hs, hc, hk, hp⟩⟩

theorem head?_dropWhile_blankQuoted (t : List Char) :
    ((blankQuoted t).dropWhile Text.isBlank).head? = (t.dropWhile Text.isBlank).head? := by
  have hquote : Text.isBlank '"' = false := by decide
  rw [blankQuoted]
  induction t with
  | nil => rfl
  | cons c t ih =>
    by_cases hc : c = '"'
    · subst hc
      rw [blankFrom, if_pos rfl]
      cases hb : blankFrom (some []) t with
      | nil => simpa [hb] using head?_blankFrom_some t []
      | cons d b =>
        have hd := head?_blankFrom_some t []
        rw [hb] at hd
        cases hd
        simp [hquote]
    · rw [blankFrom, if_neg hc]
      cases hblank : Text.isBlank c with
      | true => rw [List.dropWhile_cons_of_pos hblank, List.dropWhile_cons_of_pos hblank, ih]
      | false => simp [hblank]

/-- Blanking changes nothing in how a text opens. -/
theorem opens_blankQuoted {t : List Char} (h : Opens t) : Opens (blankQuoted t) := by
  refine ⟨?_, ?_⟩
  · rw [blankQuoted, head?_blankFrom_none]
    exact h.1
  · rw [head?_dropWhile_blankQuoted]
    exact h.2

/-- Two harmless texts that meet at a seam are harmless together. -/
theorem Harmless.append {s t : List Char} {found found' : List (List Char)}
    (hs : Harmless s found) (ht : Harmless t found') (h : Closes (blankQuoted s) ∨ Opens t) :
    Harmless (s ++ t) (found ++ found') := by
  have hblank : blankQuoted (s ++ t) = blankQuoted s ++ blankQuoted t :=
    (blankFrom_append_of_even t).1 hs.quotes
  have hblanked : Closes (blankQuoted s) ∨ Opens (blankQuoted t) := h.imp_right opens_blankQuoted
  have hseam : s.getLast?.all isSeam = true ∨ t.head?.all isSeam = true := by
    refine h.imp (fun h => ?_) fun h => h.1
    have hlast := h.1
    rwa [blankQuoted, (getLast?_blankFrom s).1] at hlast
  refine ⟨?_, ?_, ?_, ?_, ?_⟩
  · rw [List.count_append]
    exact hs.quotes.add ht.quotes
  · rw [hblank, List.mem_append]
    exact not_or.2 ⟨hs.semicolon, ht.semicolon⟩
  · rw [hblank]
    exact hasComment_append_eq_false hs.comment ht.comment (hblanked.imp (·.1) (·.1))
  · rw [hblank]
    exact findForbidden?_append_eq_none hs.keyword ht.keyword hblanked
  · rw [placeholders_append (hseam.imp apart_of_seam apart_of_seam), hs.placeholders,
      ht.placeholders]

/-- A text that opens and is more than white space opens with anything behind it. -/
theorem opens_append {s t : List Char} (hs : Opens s)
    (ht : s.all Text.isBlank = true → Opens t) : Opens (s ++ t) := by
  refine ⟨?_, ?_⟩
  · cases s with
    | nil => exact (ht rfl).1
    | cons c s => exact hs.1
  · rw [List.dropWhile_append]
    split
    · rename_i hempty
      refine (ht (List.all_eq_true.2 fun c hc => ?_)).2
      exact List.dropWhile_eq_nil_iff.1 (List.isEmpty_iff.1 hempty) c hc
    · rename_i hne
      obtain ⟨c, r, hr⟩ := List.exists_cons_of_ne_nil (mt List.isEmpty_iff.2 hne)
      have hfirst := hs.2
      rw [hr] at hfirst ⊢
      exact hfirst

/-! ### Placeholders and quoted names -/

theorem hasComment_of_notMem {s : List Char} (hdash : '-' ∉ s) (hslash : '/' ∉ s) :
    hasComment s = false := by
  induction s with
  | nil => rfl
  | cons c s ih =>
    simp only [List.mem_cons, not_or] at hdash hslash
    exact hasComment_cons_eq_false.2 ⟨fun h => hdash.1 h.1.symm, fun h => hslash.1 h.1.symm,
      ih hdash.2 hslash.2⟩

theorem placeholdersFrom_of_notMem {s : List Char} (h : ':' ∉ s) (before : Option Char) :
    placeholdersFrom before s = [] := by
  induction s generalizing before with
  | nil => rfl
  | cons c s ih =>
    obtain ⟨hc, hs⟩ := not_or.1 (List.mem_cons.not.1 h)
    rw [placeholdersFrom, if_neg fun h => hc h.1.symm, ih hs, List.nil_append]

/-- What stands between two double quotes is blanked. -/
theorem blankFrom_some_append_of_notMem {x : List Char} (hx : '"' ∉ x) (held y : List Char) :
    blankFrom (some held) (x ++ '"' :: y) = '"' :: '"' :: blankFrom none y := by
  induction x generalizing held with
  | nil => rfl
  | cons c x ih =>
    obtain ⟨hc, hx⟩ := not_or.1 (List.mem_cons.not.1 hx)
    rw [List.cons_append, blankFrom, if_neg (Ne.symm hc), ih hx]

/-- A quoted name is harmless if neither a double quote nor a colon is in it. -/
theorem harmless_quoted {name : List Char} (hquote : '"' ∉ name) (hcolon : ':' ∉ name) :
    Harmless ('"' :: (name ++ ['"'])) [] := by
  have hblank : blankQuoted ('"' :: (name ++ ['"'])) = ['"', '"'] :=
    blankFrom_some_append_of_notMem hquote [] []
  refine ⟨?_, ?_, ?_, ?_, ?_⟩
  · rw [List.count_cons_self, List.count_append, List.count_eq_zero.2 hquote]
    decide
  · rw [hblank]
    decide
  · rw [hblank]
    decide
  · rw [hblank]
    decide
  · exact placeholdersFrom_of_notMem (by simp [hcolon]) none

/-- Every forbidden word starts with a letter other than `P`. -/
theorem exists_initial_of_spells {ws : List String} (hws : ws ∈ forbidden) {u : List Char}
    (h : Spells ws u) : ∃ c ∈ u, (foldLetter c).isUpper = true ∧ foldLetter c ≠ 'P' := by
  have hall : ∀ ws ∈ forbidden, ∀ w ∈ ws.head?,
      w.toList.head?.any (fun l => l.isUpper && l != 'P') = true := by
    decide
  have hinitial {w : String} {ws : List String} {u : List Char} (hws : w :: ws ∈ forbidden)
      (hu : u.map foldLetter = w.toList) :
      ∃ c ∈ u, (foldLetter c).isUpper = true ∧ foldLetter c ≠ 'P' := by
    have hfirst := hall _ hws w rfl
    rw [← hu] at hfirst
    cases u with
    | nil => cases hfirst
    | cons c u =>
      rw [List.map_cons, List.head?_cons, Option.any_some, Bool.and_eq_true, bne_iff_ne] at hfirst
      exact ⟨c, List.mem_cons_self, hfirst⟩
  cases h with
  | part hu => exact hinitial hws hu
  | cons hu hne hgap hv =>
    obtain ⟨c, hc, hupper⟩ := hinitial hws hu
    exact ⟨c, List.mem_append_left _ hc, hupper⟩

end Gate
end Dashboard
