import Dashboard.Proofs.GateRules

/-!
# What the gate overlooks

A database reads a statement from the left: a literal stands between single quotes and a quoted
identifier between double quotes, and a quote that is doubled does not end it. The gate looks for
double quotes only, so it may take one inside a literal for the start of an identifier.

* `Sql.read` cuts a text into pieces as a database does; `Sql.textOf_read` puts it together again.
* `Sql.Danger` is what must not stand outside quotes: a semicolon before the end, the opening of a
  comment, a forbidden word.
* `hidden_by_stray_quotes`: in a statement that the gate lets through, such a place follows an odd
  number of double quotes inside literals, and another double quote follows it. Where the double
  quotes inside every literal are even in number, there is none.
-/

namespace Dashboard
namespace Sql

/-! ### Pieces -/

/-- A piece of a text: a character outside quotes, what stands between two quotes `q`, or what
follows a quote that is never closed. -/
inductive Piece where
  | plain (c : Char)
  | quoted (q : Char) (content : List Char)
  | unclosed (q : Char) (content : List Char)
  deriving Repr, DecidableEq

/-- The text of a piece. -/
def Piece.text : Piece → List Char
  | plain c => [c]
  | quoted q content => q :: (content ++ [q])
  | unclosed q content => q :: content

/-- The text of pieces. -/
def textOf (ps : List Piece) : List Char := ps.flatMap Piece.text

@[simp] theorem textOf_nil : textOf [] = [] := rfl

@[simp] theorem textOf_cons (p : Piece) (ps : List Piece) :
    textOf (p :: ps) = p.text ++ textOf ps := rfl

@[simp] theorem textOf_append (ps qs : List Piece) :
    textOf (ps ++ qs) = textOf ps ++ textOf qs := by
  simp [textOf]

@[simp] theorem textOf_map_plain (s : List Char) : textOf (s.map .plain) = s := by
  induction s with
  | nil => rfl
  | cons c s ih => rw [List.map_cons, textOf_cons, ih]; rfl

/-- A character that opens a literal or a quoted identifier. -/
def IsQuote (c : Char) : Prop := c = '\'' ∨ c = '"'

instance : DecidablePred IsQuote := fun c => inferInstanceAs (Decidable (c = '\'' ∨ c = '"'))

/-- The pieces of the rest of a text. `held` is what has been read since a quote `q` that is still
open, last character first; a quote that is doubled belongs to the content. -/
def readFrom : Option (Char × List Char) → List Char → List Piece
  | none, [] => []
  | some (q, held), [] => [.unclosed q held.reverse]
  | none, c :: r =>
    if IsQuote c then readFrom (some (c, [])) r else .plain c :: readFrom none r
  | some (q, held), [c] =>
    if c = q then [.quoted q held.reverse] else [.unclosed q (c :: held).reverse]
  | some (q, held), c :: d :: r =>
    if c = q then
      if d = q then readFrom (some (q, d :: c :: held)) r
      else .quoted q held.reverse :: readFrom none (d :: r)
    else readFrom (some (q, c :: held)) (d :: r)

/-- The pieces of a text. -/
def read (s : List Char) : List Piece := readFrom none s

/-- What has been read of the piece that is still open. -/
def heldText : Option (Char × List Char) → List Char
  | none => []
  | some (q, held) => q :: held.reverse

theorem textOf_readFrom (held : Option (Char × List Char)) (s : List Char) :
    textOf (readFrom held s) = heldText held ++ s := by
  fun_induction readFrom held s with
  | case1 => rfl
  | case2 q held => simp [Piece.text, heldText]
  | case3 c r hc ih => simpa [heldText] using ih
  | case4 c r hc ih => simpa [heldText, Piece.text] using ih
  | case5 held q => simp [Piece.text, heldText]
  | case6 q held c hc => simp [Piece.text, heldText]
  | case7 held q r ih => simpa [heldText] using ih
  | case8 held q d r hd ih => simp [ih, heldText, Piece.text]
  | case9 q held c d r hc ih => simpa [heldText] using ih

/-- Nothing of a text is lost in reading it. -/
theorem textOf_read (s : List Char) : textOf (read s) = s := textOf_readFrom none s

/-- A doubled quote does not end a literal. -/
example : read ['\'', '"', '\'', '\'', '\'', ';'] =
    [.quoted '\'' ['"', '\'', '\''], .plain ';'] := by decide

/-- Characters outside quotes are no quotes, and in a quoted identifier the double quotes come in
pairs. -/
def Piece.Sound : Piece → Prop
  | plain c => ¬IsQuote c
  | quoted q content => IsQuote q ∧ (q = '"' → Even (content.count '"'))
  | unclosed q _ => IsQuote q

/-- What `Piece.Sound` asks of the piece that is still open. -/
def HeldSound : Option (Char × List Char) → Prop
  | none => True
  | some (q, held) => IsQuote q ∧ (q = '"' → Even (held.count '"'))

theorem sound_of_mem_readFrom {held : Option (Char × List Char)} {s : List Char}
    (h : HeldSound held) : ∀ p ∈ readFrom held s, p.Sound := by
  fun_induction readFrom held s with
  | case1 => nofun
  | case2 q held => exact List.forall_mem_singleton.2 h.1
  | case3 c r hc ih => exact ih ⟨hc, fun _ => Even.zero⟩
  | case4 c r hc ih => exact List.forall_mem_cons.2 ⟨hc, ih trivial⟩
  | case5 held q =>
    refine List.forall_mem_singleton.2 ⟨h.1, fun hq => ?_⟩
    rw [List.count_reverse]
    exact h.2 hq
  | case6 q held c hc => exact List.forall_mem_singleton.2 h.1
  | case7 held q r ih =>
    refine ih ⟨h.1, fun hq => ?_⟩
    rw [hq, List.count_cons_self, List.count_cons_self]
    exact (h.2 hq).add even_two
  | case8 held q d r hd ih =>
    refine List.forall_mem_cons.2 ⟨⟨h.1, fun hq => ?_⟩, ih trivial⟩
    rw [List.count_reverse]
    exact h.2 hq
  | case9 q held c d r hc ih =>
    refine ih ⟨h.1, fun hq => ?_⟩
    rw [List.count_cons_of_ne (hq ▸ hc)]
    exact h.2 hq

/-- Nothing comes after a quote that is never closed. -/
theorem eq_nil_of_unclosed {held : Option (Char × List Char)} {s : List Char}
    {front rest : List Piece} {q : Char} {content : List Char}
    (h : readFrom held s = front ++ .unclosed q content :: rest) : rest = [] := by
  have hlast {p : Piece} {front : List Piece} (h : [p] = front ++ .unclosed q content :: rest) :
      rest = [] := by
    have := congrArg List.length h
    simp only [List.length_append, List.length_cons, List.length_nil] at this
    exact List.eq_nil_of_length_eq_zero (by omega)
  have hcons {p : Piece} {ps front : List Piece}
      (h : p :: ps = front ++ .unclosed q content :: rest) (hp : p ≠ .unclosed q content) :
      ∃ front', ps = front' ++ .unclosed q content :: rest := by
    cases front with
    | nil => exact absurd (List.cons.inj h).1 hp
    | cons p' front => exact ⟨front, (List.cons.inj h).2⟩
  fun_induction readFrom held s generalizing front with
  | case1 => simp at h
  | case2 q' held => exact hlast h
  | case3 c r hc ih => exact ih h
  | case4 c r hc ih =>
    obtain ⟨front', h⟩ := hcons h nofun
    exact ih h
  | case5 held q' => exact hlast h
  | case6 q' held c hc => exact hlast h
  | case7 held q' r ih => exact ih h
  | case8 held q' d r hd ih =>
    obtain ⟨front', h⟩ := hcons h nofun
    exact ih h
  | case9 q' held c d r hc ih => exact ih h

/-! ### Double quotes inside literals -/

/-- The contents of the literals among pieces. -/
def literals (ps : List Piece) : List (List Char) :=
  ps.filterMap fun
    | .quoted '\'' content => some content
    | _ => none

/-- The number of double quotes inside literals. -/
def strayQuotes (ps : List Piece) : ℕ := ((literals ps).map (List.count '"')).sum

theorem literals_append (ps qs : List Piece) : literals (ps ++ qs) = literals ps ++ literals qs :=
  List.filterMap_append

theorem even_strayQuotes {ps : List Piece} (h : ∀ l ∈ literals ps, Even (l.count '"')) :
    Even (strayQuotes ps) := by
  unfold strayQuotes
  generalize literals ps = ls at h ⊢
  induction ls with
  | nil => exact Even.zero
  | cons l ls ih =>
    obtain ⟨hl, hls⟩ := List.forall_mem_cons.1 h
    rw [List.map_cons, List.sum_cons]
    exact hl.add (ih hls)

/-- Where every quote is closed, the double quotes of a text have the parity of those inside
literals, since those of identifiers come in pairs. -/
theorem even_count_textOf {ps : List Piece} (hsound : ∀ p ∈ ps, p.Sound)
    (hclosed : ∀ q content, .unclosed q content ∉ ps) :
    Even ((textOf ps).count '"') ↔ Even (strayQuotes ps) := by
  induction ps with
  | nil => exact Iff.rfl
  | cons p ps ih =>
    obtain ⟨hp, hsound⟩ := List.forall_mem_cons.1 hsound
    have ih := ih hsound fun q content hmem => hclosed q content (List.mem_cons_of_mem _ hmem)
    rw [textOf_cons, List.count_append]
    cases p with
    | plain c =>
      have hcount : (Piece.plain c).text.count '"' = 0 := by
        rw [List.count_eq_zero]
        intro hmem
        exact hp (.inr (List.mem_singleton.1 hmem).symm)
      have hstray : strayQuotes (.plain c :: ps) = strayQuotes ps := rfl
      rw [hcount, hstray, Nat.zero_add, ih]
    | unclosed q content => exact absurd List.mem_cons_self (hclosed q content)
    | quoted q content =>
      obtain ⟨rfl | rfl, hpairs⟩ := hp
      · have hcount : (Piece.quoted '\'' content).text.count '"' = content.count '"' := by
          simp [Piece.text]
        have hstray : strayQuotes (.quoted '\'' content :: ps) =
            content.count '"' + strayQuotes ps := rfl
        rw [hcount, hstray, Nat.even_add, Nat.even_add, ih]
      · have hcount : Even ((Piece.quoted '"' content).text.count '"') := by
          have htext : (Piece.quoted '"' content).text.count '"' = content.count '"' + 2 := by
            simp [Piece.text]
          rw [htext]
          exact (hpairs rfl).add even_two
        have hstray : strayQuotes (.quoted '"' content :: ps) = strayQuotes ps := rfl
        rw [hstray, Nat.even_add, ih]
        simp [hcount]

/-! ### Dangerous places -/

/-- The characters `s`, outside quotes and between `front` and `back`, are a semicolon that
something follows, the opening of a comment, or a forbidden word on its own. -/
inductive Danger (front : List Piece) : List Char → List Piece → Prop where
  | semicolon {back : List Piece} (h : back ≠ []) : Danger front [';'] back
  | dashes (back : List Piece) : Danger front ['-', '-'] back
  | slashStar (back : List Piece) : Danger front ['/', '*'] back
  | word {back : List Piece} {ws : List String} {s : List Char} (hws : ws ∈ Gate.forbidden)
      (hs : Gate.Spells ws s) (hfront : Gate.atBoundary (textOf front).getLast? = true)
      (hback : Gate.atBoundary (textOf back).head? = true) : Danger front s back

/-- Every piece has a text. -/
theorem textOf_ne_nil {ps : List Piece} (h : ps ≠ []) : textOf ps ≠ [] := by
  obtain ⟨p, ps, rfl⟩ := List.exists_cons_of_ne_nil h
  cases p <;> simp [Piece.text]

theorem Danger.ne_nil {front back : List Piece} {s : List Char} (h : Danger front s back) :
    s ≠ [] := by
  cases h with
  | semicolon => nofun
  | dashes => nofun
  | slashStar => nofun
  | word hws hs =>
    obtain ⟨c, r, rfl, -⟩ := hs.head (Gate.hasLetters_of_mem_forbidden hws)
    nofun

open Gate in
/-- A dangerous place that blanking keeps is found by one of the checks. -/
theorem Danger.found {front back : List Piece} {s x y : List Char} (h : Danger front s back)
    (hx : x.getLast? = (textOf front).getLast?) (hy : y.head? = (textOf back).head?) :
    hasInnerSemicolon (x ++ (s ++ y)) = true ∨ hasComment (x ++ (s ++ y)) = true ∨
      findForbidden? none (x ++ (s ++ y)) ≠ none := by
  cases h with
  | semicolon hback =>
    have hne : y ≠ [] := by
      rintro rfl
      exact textOf_ne_nil hback (List.head?_eq_none_iff.1 hy.symm)
    exact .inl (hasInnerSemicolon_of_ne_nil x hne)
  | dashes => exact .inr (.inl (hasComment_append x rfl))
  | slashStar => exact .inr (.inl (hasComment_append x rfl))
  | word hws hs hfront hback =>
    refine .inr (.inr (findForbidden?_ne_none hws hs ?_ ?_))
    · rw [hy]
      exact hback
    · rw [Option.or_none, hx]
      exact hfront

end Sql

/-- The pieces of a statement, without the white space around it. -/
def Statement.pieces (s : Statement) : List Sql.Piece := Sql.read (Text.strip s.text.toList)

namespace Sql

/-- In front of characters outside quotes, every quote is closed. -/
theorem unclosed_notMem {s word : List Char} {front back : List Piece}
    (h : read s = front ++ (word.map .plain ++ back)) (hword : word ≠ []) (q : Char)
    (content : List Char) : .unclosed q content ∉ front := by
  intro hmem
  obtain ⟨before, after, rfl⟩ := List.append_of_mem hmem
  have hpieces : readFrom none s =
      before ++ .unclosed q content :: (after ++ (word.map .plain ++ back)) := by
    rw [← List.cons_append, ← List.append_assoc]
    exact h
  have hnil := eq_nil_of_unclosed hpieces
  simp [hword] at hnil

/-- A dangerous place in the text `s` is seen after blanking, unless it follows an odd number of
double quotes inside literals and another double quote follows. -/
theorem exists_blankQuoted_danger {s word : List Char} {front back : List Piece}
    (h : read s = front ++ (word.map .plain ++ back)) (hdanger : Danger front word back)
    (hseen : Even (strayQuotes front) ∨ '"' ∉ textOf back) :
    ∃ x y, Gate.blankQuoted s = x ++ (word ++ y) ∧ x.getLast? = (textOf front).getLast? ∧
      y.head? = (textOf back).head? := by
  have hsound : ∀ p ∈ read s, p.Sound := sound_of_mem_readFrom trivial
  rw [h] at hsound
  have hfront : ∀ p ∈ front, p.Sound := fun p hp => hsound p (List.mem_append_left _ hp)
  have hword : '"' ∉ word := by
    intro hmem
    have hplain : Piece.plain '"' ∈ front ++ (word.map .plain ++ back) :=
      List.mem_append_right _ (List.mem_append_left _ (List.mem_map_of_mem hmem))
    exact hsound _ hplain (.inr rfl)
  have htext : s = textOf front ++ (word ++ textOf back) := by
    rw [← textOf_read s, h, textOf_append, textOf_append, textOf_map_plain]
  have hquotes : Even ((textOf front).count '"') ∨ '"' ∉ textOf back := by
    rw [even_count_textOf hfront (unclosed_notMem h hdanger.ne_nil)]
    exact hseen
  rw [htext]
  exact Gate.exists_blankQuoted_eq (textOf back) hword hquotes

end Sql

open Sql in
/-- A statement that the gate lets through holds a semicolon before its end, the opening of a
comment or a forbidden word outside quotes only where an odd number of double quotes inside literals
precedes and another double quote follows. So it holds none if the double quotes inside every
literal are even in number. -/
theorem hidden_by_stray_quotes {s : Statement} (h : s.violations = .ok []) :
    (∀ front word back, s.pieces = front ++ (word.map Piece.plain ++ back) →
      Danger front word back → Odd (strayQuotes front) ∧ '"' ∈ textOf back) ∧
    ((∀ l ∈ literals s.pieces, Even (l.count '"')) →
      ∀ front word back, s.pieces = front ++ (word.map Piece.plain ++ back) →
        ¬Danger front word back) := by
  obtain ⟨-, hsemicolon, hcomment, hforbidden, -⟩ := Statement.violations_eq_nil.1 h
  have hhidden : ∀ front word back, s.pieces = front ++ (word.map Piece.plain ++ back) →
      Danger front word back → Odd (strayQuotes front) ∧ '"' ∈ textOf back := by
    intro front word back hpieces hdanger
    by_contra hnot
    have hseen : Even (strayQuotes front) ∨ '"' ∉ textOf back := by
      rw [← Nat.not_odd_iff_even]
      exact not_and_or.1 hnot
    obtain ⟨x, y, hblank, hx, hy⟩ := exists_blankQuoted_danger hpieces hdanger hseen
    rw [hblank] at hsemicolon hcomment hforbidden
    rcases hdanger.found hx hy with hfound | hfound | hfound
    · rw [hsemicolon] at hfound
      cases hfound
    · rw [hcomment] at hfound
      cases hfound
    · exact hfound hforbidden
  refine ⟨hhidden, fun heven front word back hpieces hdanger => ?_⟩
  have hodd := (hhidden front word back hpieces hdanger).1
  have hfront : Even (strayQuotes front) := by
    refine even_strayQuotes fun l hl => heven l ?_
    rw [hpieces, literals_append]
    exact List.mem_append_left _ hl
  exact absurd hodd (Nat.not_odd_iff_even.2 hfront)

/-- A statement that drops a table, between two that select a literal of one double quote. -/
def hiddenDrop : Statement := ⟨"SELECT '\"'; DROP TABLE t; SELECT '\"'", []⟩

open Sql in
/-- The gate takes what stands between the two literals for an identifier, so it sees neither the
first semicolon nor the word behind it. -/
theorem hidden_by_stray_quotes_drop : hiddenDrop.violations = .ok [] ∧
    (∃ front back, hiddenDrop.pieces = front ++ ([';'].map Piece.plain ++ back) ∧
      Danger front [';'] back ∧ Odd (strayQuotes front) ∧ '"' ∈ textOf back) ∧
    ∃ front back, hiddenDrop.pieces = front ++ (['D', 'R', 'O', 'P'].map Piece.plain ++ back) ∧
      Danger front ['D', 'R', 'O', 'P'] back ∧ Odd (strayQuotes front) ∧ '"' ∈ textOf back := by
  have hgate : hiddenDrop.violations = .ok [] := by decide +kernel
  have hsemicolon : hiddenDrop.pieces = hiddenDrop.pieces.take 8 ++
      ([';'].map Piece.plain ++ hiddenDrop.pieces.drop 9) := by decide +kernel
  have hend : Danger (hiddenDrop.pieces.take 8) [';'] (hiddenDrop.pieces.drop 9) :=
    .semicolon (by decide +kernel)
  have hword : hiddenDrop.pieces = hiddenDrop.pieces.take 10 ++
      (['D', 'R', 'O', 'P'].map Piece.plain ++ hiddenDrop.pieces.drop 14) := by decide +kernel
  have hspells : Gate.Spells ["DROP"] ['D', 'R', 'O', 'P'] := .part (by decide)
  have hdrop : Danger (hiddenDrop.pieces.take 10) ['D', 'R', 'O', 'P']
      (hiddenDrop.pieces.drop 14) :=
    .word (by decide) hspells (by decide +kernel) (by decide +kernel)
  have hhidden := (hidden_by_stray_quotes hgate).1
  exact ⟨hgate, ⟨_, _, hsemicolon, hend, hhidden _ _ _ hsemicolon hend⟩,
    _, _, hword, hdrop, hhidden _ _ _ hword hdrop⟩

end Dashboard
