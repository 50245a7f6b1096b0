import Dashboard.Proofs.RegistryRoundTrip
import Dashboard.Proofs.SqlTokens
import Dashboard.Proofs.SqueezedText

/-!
# What folding makes of a source

The source of a table is folded to one line, in quotes as well as outside. So a name in double
quotes may become another name, a literal that goes on behind an end of line becomes two, a comment
that starts with `--` hides what followed its line, and white space that the database takes for a
part of a word is gone.

* `Sql.Reader.step_blank` and `Sql.Reader.step_solid` say what one step of a reader makes of white
  space and of any other character. A reader of the text (`R`) and one of the folded text
  (`Sql.Reader.squeezed`) stay side by side: behind a character of white space another one changes
  nothing (`Sql.Reader.squeezed_behind`), behind any other it is read as one space
  (`Sql.Reader.behind_squeezed`). By induction on the text, `Sql.Reader.read_folded`.
* `Sql.lexemes_fold`: so the lexemes of the folded text are those in front of the first comment that
  starts with `--`, squeezed (`Sql.Lexeme.squeezed`).
* `Sql.lexemes_fold_eq_iff`: they are those of the text exactly if squeezing changes none of them
  and they all stand in front of that comment (`Sql.Foldable`).
* `source_tokens_eq_iff`: this for every source of a registry that was read.
-/

namespace Dashboard
namespace Sql

open Text

/-! ### Squeezed pieces -/

/-- A piece with one space for each run of white space in quotes. Nothing stands behind a quote that
is not closed, so white space at the end is gone. -/
def Piece.squeezed : Piece → Piece
  | plain c => plain c
  | quoted q content => quoted q (squeeze content)
  | unclosed q content => unclosed q (squeeze (content.rdropWhile isBlank))

/-- The piece is a character outside quotes. -/
def Piece.isPlain : Piece → Bool
  | plain _ => true
  | _ => false

/-- The piece is white space that is none for the database. -/
def Piece.isStray : Piece → Bool
  | plain c => isBlank c
  | _ => false

/-- A lexeme as it is read on one line, where no literal goes on. -/
def Lexeme.squeezed (x : Lexeme) : Lexeme :=
  ⟨x.joined && x.piece.isPlain, x.piece.squeezed⟩

/-- An end of line is white space like any other. -/
def Gap.squeezed : Gap → Gap
  | none => none
  | _ => space

/-- A place with what it holds squeezed. -/
def Place.squeezed : Place → Place
  | quoted q held => quoted q (squeeze held)
  | doubled q held => doubled q (squeeze held)
  | p => p

namespace Reader

/-- The reader of a text on one line. -/
def squeezed (R : Reader) : Reader :=
  ⟨R.place.squeezed, R.gap.squeezed, R.last.map Piece.squeezed⟩

/-- The reader behind one more character of white space. -/
def behind (R : Reader) (c : Char) : Reader :=
  match R.place with
  | .outside => { R with gap := R.gap.past c }
  | .quoted q held | .doubled q held => { R with place := .quoted q (c :: held) }
  | .line => { R with gap := R.gap.past c }
  | .block depth | .opening depth => { R with place := .block depth }
  | .closing 0 => { R with place := .outside }
  | .closing (depth + 1) => { R with place := .block depth }

/-- A piece is held from a quote on, and a comment leaves a gap. -/
def Sound (R : Reader) : Prop :=
  match R.place with
  | .outside => True
  | .quoted q _ | .doubled q _ => IsQuote q
  | _ => R.gap ≠ .none

/-- What a reader holds does not end in white space. -/
def AfterSolid (R : Reader) : Prop :=
  match R.place with
  | .quoted _ held | .doubled _ held => startsBlank held = false
  | _ => True

/-- The reader stands where one more character of white space changes nothing. -/
def AfterBlank (R : Reader) : Prop :=
  match R.place with
  | .outside => R.gap ≠ .none
  | .quoted _ held => startsBlank held = true
  | .line | .block _ => True
  | _ => False

end Reader

/-! ### Steps -/

/-- On one line only characters outside quotes go on with a token. -/
theorem joins_squeezed (g : Gap) (a b : Piece) :
    joins g.squeezed a.squeezed b.squeezed = (joins g a b && b.isPlain) := by
  unfold Gap.squeezed Piece.squeezed Piece.isPlain joins
  grind

theorem any_joins_squeezed (g : Gap) (last : Option Piece) (p : Piece) :
    (last.map Piece.squeezed).any (joins g.squeezed · p.squeezed) =
      (last.any (joins g · p) && p.isPlain) := by
  cases last with
  | none => rfl
  | some a => exact joins_squeezed g a p

theorem Gap.past_ne_none (g : Gap) (c : Char) : g.past c ≠ .none := by
  unfold Gap.past
  grind

theorem Gap.squeezed_past (g : Gap) (c : Char) : (g.past c).squeezed = .space := by
  unfold past squeezed
  grind

theorem Gap.squeezed_of_ne_none {g : Gap} (h : g ≠ .none) : g.squeezed = .space := by
  cases g with
  | none => exact absurd rfl h
  | space => rfl
  | line => rfl

theorem Gap.past_squeezed (g : Gap) {c : Char} (h : isLineEnd c = false) :
    g.squeezed.past c = .space := by
  unfold past squeezed
  grind

/-- The white space of the database is white space. -/
theorem isBlank_of_isSpace {c : Char} (h : isSpace c = true) : isBlank c = true := by
  have hall : [' ', '\t', '\n', '\r', '\x0b', '\x0c'].all isBlank = true := by decide
  exact List.all_eq_true.1 hall c (List.contains_iff_mem.1 h)

theorem isSpace_of_isLineEnd {c : Char} (h : isLineEnd c = true) : isSpace c = true := by
  have hall : ['\n', '\r'].all isSpace = true := by decide
  exact List.all_eq_true.1 hall c (List.contains_iff_mem.1 h)

theorem IsQuote.isBlank {c : Char} (h : IsQuote c) : isBlank c = false := by
  rcases h with rfl | rfl <;> decide

namespace Reader

variable {R : Reader} {c : Char}

/-- White space outside quotes is skipped, or else read as a piece. -/
theorem step_outside (hplace : R.place = .outside) (hc : isBlank c = true) (ahead : Option Char) :
    R.step false c ahead = if isSpace c then R.skip c .outside else R.give (.plain c) := by
  have hquote : ¬IsQuote c := fun h => ne_of_isBlank hc h.isBlank rfl
  have hdash : c ≠ '-' := ne_of_isBlank hc (by decide)
  have hslash : c ≠ '/' := ne_of_isBlank hc (by decide)
  simp [step, hplace, hquote, hdash, hslash]

/-- White space goes to the place behind it, whatever comes next. -/
theorem step_blank (hsound : R.Sound) (hc : isBlank c = true)
    (hspace : R.place = .outside → isSpace c = true) (ahead : Option Char) :
    R.step false c ahead = (none, R.behind c) := by
  rcases R with ⟨_ | ⟨q, held⟩ | ⟨q, held⟩ | _ | depth | depth | (_ | depth), gap, last⟩
  case outside =>
    rw [step_outside rfl hc, if_pos (hspace rfl)]
    rfl
  case quoted =>
    have hquote : c ≠ q := ne_of_isBlank hc (IsQuote.isBlank hsound)
    simp [step, behind, goTo, hquote]
  case block =>
    have hslash : c ≠ '/' := ne_of_isBlank hc (by decide)
    have hstar : c ≠ '*' := ne_of_isBlank hc (by decide)
    simp [step, behind, goTo, hslash, hstar]
  all_goals rfl

theorem sound_behind (h : R.Sound) (c : Char) : (R.behind c).Sound := by
  rcases R with ⟨_ | ⟨q, held⟩ | ⟨q, held⟩ | _ | depth | depth | (_ | depth), gap, last⟩
  case line => exact gap.past_ne_none c
  all_goals first | exact h | trivial

theorem afterBlank_behind (hsound : R.Sound) (hc : isBlank c = true)
    (h : R.AfterBlank ∨ R.AfterSolid) : (R.behind c).AfterBlank := by
  rcases R with ⟨_ | ⟨q, held⟩ | ⟨q, held⟩ | _ | depth | depth | (_ | depth), gap, last⟩
  case outside => exact gap.past_ne_none c
  case quoted => exact hc
  case doubled => exact hc
  case closing.zero => exact hsound
  all_goals trivial

/-- A second character of white space changes nothing. -/
theorem squeezed_behind (hsound : R.Sound) (h : R.AfterBlank) (hc : isBlank c = true) :
    (R.behind c).squeezed = R.squeezed := by
  rcases R with ⟨_ | ⟨q, held⟩ | ⟨q, held⟩ | _ | depth | depth | (_ | depth), gap, last⟩
  case outside => simp [squeezed, behind, Gap.squeezed_past, Gap.squeezed_of_ne_none h]
  case quoted =>
    have hheld : startsBlank held = true := h
    simp [squeezed, behind, Place.squeezed, squeeze_cons_blank hc, hheld]
  case line => simp [squeezed, behind, Gap.squeezed_past, Gap.squeezed_of_ne_none hsound]
  case block => rfl
  all_goals exact h.elim

/-- The first character of white space is the space that is left of it. -/
theorem behind_squeezed (h : R.AfterSolid) (hc : isBlank c = true) :
    R.squeezed.behind ' ' = (R.behind c).squeezed := by
  have hpast (g : Gap) : g.squeezed.past ' ' = (g.past c).squeezed := by
    rw [Gap.past_squeezed g (by decide), Gap.squeezed_past]
  have hsqueeze {held : List Char} (hheld : startsBlank held = false) :
      squeeze (c :: held) = ' ' :: squeeze held := by
    rw [squeeze_cons_blank hc, hheld]
    rfl
  rcases R with ⟨_ | ⟨q, held⟩ | ⟨q, held⟩ | _ | depth | depth | (_ | depth), gap, last⟩
  case outside => simp [squeezed, behind, Place.squeezed, hpast]
  case line => simp [squeezed, behind, Place.squeezed, hpast]
  case quoted => simp [squeezed, behind, Place.squeezed, hsqueeze h]
  case doubled => simp [squeezed, behind, Place.squeezed, hsqueeze h]
  all_goals rfl

/-- A piece that ends here ends here on one line too. -/
theorem give_squeezed (R : Reader) (p : Piece) : R.squeezed.give p.squeezed =
    ((R.give p).1.map Lexeme.squeezed, (R.give p).2.squeezed) := by
  simp only [give, squeezed, any_joins_squeezed]
  rfl

/-- Any other character is read on one line as it is read in the text, where the next characters are
the same or white space both. -/
theorem step_solid (hsound : R.Sound) (hc : isBlank c = false) {a a' : Option Char}
    (h : ∀ d, isBlank d = false → (a' = some d ↔ a = some d)) :
    R.squeezed.step false c a' =
      ((R.step false c a).1.map Lexeme.squeezed, (R.step false c a).2.squeezed) := by
  have hspace : isSpace c = false := by
    by_contra hspace
    rw [isBlank_of_isSpace (by simpa using hspace)] at hc
    cases hc
  have hline : isLineEnd c = false := by
    by_contra hline
    rw [isSpace_of_isLineEnd (by simpa using hline)] at hspace
    cases hspace
  have hpast (g : Gap) : g.squeezed.past c = (g.past c).squeezed := by
    rw [Gap.past_squeezed g hline, Gap.squeezed_past]
  have hdash : a' = some '-' ↔ a = some '-' := h _ (by decide)
  have hslash : a' = some '/' ↔ a = some '/' := h _ (by decide)
  have hstar : a' = some '*' ↔ a = some '*' := h _ (by decide)
  rcases R with ⟨_ | ⟨q, held⟩ | ⟨q, held⟩ | _ | depth | depth | (_ | depth), gap, last⟩
  case outside =>
    have hgive := give_squeezed ⟨.outside, gap, last⟩ (.plain c)
    simp only [squeezed, Place.squeezed, Piece.squeezed] at hgive
    simp only [step, squeezed, Place.squeezed, hdash, hstar, hspace]
    split
    · rfl
    · split
      · simp [skip, hpast]
      · split
        · rfl
        · exact hgive
  case quoted =>
    have hquote : a' = some q ↔ a = some q := h _ (IsQuote.isBlank hsound)
    have hgive := give_squeezed ⟨.quoted q held, gap, last⟩ (.quoted q held.reverse)
    simp only [squeezed, Place.squeezed, Piece.squeezed, squeeze_reverse] at hgive
    simp only [step, squeezed, Place.squeezed, hquote, goTo]
    split
    · simp [squeeze_cons_solid hc]
    · split
      · simp [squeeze_cons_solid hc]
      · exact hgive
  case doubled => simp [step, squeezed, Place.squeezed, goTo, squeeze_cons_solid hc]
  case line => simp [step, squeezed, Place.squeezed, skip, hpast]
  case block =>
    simp only [step, squeezed, Place.squeezed, hslash, hstar]
    split
    · rfl
    · split <;> rfl
  all_goals rfl

theorem sound_squeezed (h : R.Sound) : R.squeezed.Sound := by
  rcases R with ⟨_ | ⟨q, held⟩ | ⟨q, held⟩ | _ | depth | depth | (_ | depth), gap, last⟩
  case outside => trivial
  case quoted => exact h
  case doubled => exact h
  all_goals
    have hgap : gap.squeezed = .space := Gap.squeezed_of_ne_none h
    exact fun hnone => Gap.noConfusion (hgap.symm.trans hnone)

theorem sound_step (hsound : R.Sound) (hc : isBlank c = false) (a : Option Char) :
    (R.step false c a).2.Sound ∧ (R.step false c a).2.AfterSolid := by
  rcases R with ⟨_ | ⟨q, held⟩ | ⟨q, held⟩ | _ | depth | depth | (_ | depth), gap, last⟩
  case outside =>
    simp only [step]
    split
    · rename_i hquote
      exact ⟨hquote, rfl⟩
    · split
      · exact ⟨gap.past_ne_none c, trivial⟩
      · split
        · exact ⟨Gap.noConfusion, trivial⟩
        · split <;> exact ⟨trivial, trivial⟩
  case quoted =>
    simp only [step]
    split
    · exact ⟨hsound, hc⟩
    · split
      · exact ⟨hsound, hc⟩
      · exact ⟨trivial, trivial⟩
  case doubled => exact ⟨hsound, hc⟩
  case line => exact ⟨gap.past_ne_none c, trivial⟩
  case block =>
    simp only [step]
    split
    · exact ⟨hsound, trivial⟩
    · split <;> exact ⟨hsound, trivial⟩
  case closing.zero => exact ⟨trivial, trivial⟩
  all_goals exact ⟨hsound, trivial⟩

/-- White space at the end of a text changes nothing. -/
theorem rest_behind (hc : isBlank c = true) :
    (R.behind c).rest.map Lexeme.squeezed = R.rest.map Lexeme.squeezed := by
  have hdrop (q : Char) (held : List Char) : Piece.squeezed (.unclosed q (c :: held).reverse) =
      Piece.squeezed (.unclosed q held.reverse) := by
    simp [Piece.squeezed, List.rdropWhile_concat_pos _ _ _ hc]
  rcases R with ⟨_ | ⟨q, held⟩ | ⟨q, held⟩ | _ | depth | depth | (_ | depth), gap, last⟩
  case quoted =>
    simp only [rest, behind, List.map_singleton, Lexeme.squeezed, hdrop, Bool.false_and]
  case doubled =>
    simp only [rest, behind, List.map_singleton, Lexeme.squeezed, hdrop, Bool.false_and]
  all_goals rfl

/-- What is left at the end of a text that does not end in white space. -/
theorem rest_squeezed (h : R.AfterSolid) : R.squeezed.rest = R.rest.map Lexeme.squeezed := by
  have hdrop {held : List Char} (q : Char) (hheld : startsBlank held = false) :
      Piece.unclosed q (squeeze held).reverse = Piece.squeezed (.unclosed q held.reverse) := by
    have hkeep : held.dropWhile isBlank = held := by
      cases held with
      | nil => rfl
      | cons d held => exact List.dropWhile_cons_of_neg (by simpa using hheld)
    simp only [Piece.squeezed, List.rdropWhile, List.reverse_reverse, hkeep, squeeze_reverse]
  rcases R with ⟨_ | ⟨q, held⟩ | ⟨q, held⟩ | _ | depth | depth | (_ | depth), gap, last⟩
  case quoted => simp [rest, squeezed, Place.squeezed, Lexeme.squeezed, hdrop q h, Piece.isPlain]
  case doubled => simp [rest, squeezed, Place.squeezed, Lexeme.squeezed, hdrop q h, Piece.isPlain]
  all_goals rfl

/-! ### Whole texts -/

/-- White space is read as nothing, since none is read as a piece. -/
theorem read_cons_blank {r : List Char} (hsound : R.Sound) (hc : isBlank c = true)
    (hread : ∀ x ∈ R.read false (c :: r), x.piece.isStray = false) :
    R.read false (c :: r) = (R.behind c).read false r := by
  have hspace : R.place = .outside → isSpace c = true := by
    intro hplace
    by_contra hspace
    have hstep : R.step false c r.head? = R.give (.plain c) := by
      rw [step_outside hplace hc, if_neg hspace]
    have hmem : ⟨R.last.any (joins R.gap · (.plain c)), .plain c⟩ ∈ R.read false (c :: r) := by
      rw [read, hstep]
      exact List.mem_cons_self
    have hstray := hread _ hmem
    rw [Piece.isStray, hc] at hstray
    cases hstray
  rw [read, step_blank hsound hc hspace]
  rfl

/-- White space at the end of a text is read as nothing. -/
theorem read_blank {s : List Char} (hs : ∀ c ∈ s, isBlank c = true) (hsound : R.Sound)
    (hread : ∀ x ∈ R.read false s, x.piece.isStray = false) :
    (R.read false s).map Lexeme.squeezed = R.rest.map Lexeme.squeezed := by
  induction s generalizing R with
  | nil => rfl
  | cons c r ih =>
    obtain ⟨hc, hr⟩ := List.forall_mem_cons.1 hs
    have hbehind := read_cons_blank hsound hc hread
    rw [hbehind] at hread ⊢
    rw [ih hr (sound_behind hsound c) hread, rest_behind hc]

/-- The rest of a text is read on one line as it is read in the text. Behind white space, what is
left of it is the folded rest; behind another character it is what folding leaves behind one. -/
theorem read_folded (s : List Char) (hsound : R.Sound)
    (hread : ∀ x ∈ R.read false s, x.piece.isStray = false) :
    (R.AfterSolid → R.squeezed.read false (spaced s) = (R.read false s).map Lexeme.squeezed) ∧
      (R.AfterBlank → fold s ≠ [] →
        R.squeezed.read false (fold s) = (R.read false s).map Lexeme.squeezed) := by
  induction s generalizing R with
  | nil => exact ⟨fun h => rest_squeezed h, fun _ h => absurd rfl h⟩
  | cons c r ih =>
    cases hc : isBlank c with
    | false =>
      -- the character is read, and the rest of the text follows it
      have hstep := step_solid hsound hc (a := r.head?) fun d hd => head?_spaced r hd
      have hmore : ∀ x ∈ (R.step false c r.head?).2.read false r, x.piece.isStray = false :=
        fun x hx => hread x (by rw [read]; exact List.mem_append_right _ hx)
      obtain ⟨hnext, hsolid⟩ := sound_step hsound hc r.head?
      have hrest := (ih hnext hmore).1 hsolid
      have hline : R.squeezed.read false (c :: spaced r) =
          (R.read false (c :: r)).map Lexeme.squeezed := by
        rw [read, read, hstep, hrest, List.map_append]
        cases (R.step false c r.head?).1 <;> rfl
      refine ⟨fun _ => ?_, fun _ _ => ?_⟩
      · rw [spaced, hc]
        exact hline
      · rw [fold_cons_solid hc]
        exact hline
    | true =>
      have hbehind := read_cons_blank hsound hc hread
      rw [hbehind] at hread ⊢
      have hblank (h : R.AfterBlank ∨ R.AfterSolid) :=
        (ih (sound_behind hsound c) hread).2 (afterBlank_behind hsound hc h)
      refine ⟨fun h => ?_, fun h hne => ?_⟩
      · rw [spaced, if_pos hc]
        split
        · rename_i hnil
          -- no more than white space is left
          have hr := words_eq_nil.1 (fold_eq_nil.1 hnil)
          rw [read_nil, rest_squeezed h, read_blank hr (sound_behind hsound c) hread,
            rest_behind hc]
        · rename_i hne
          rw [read, step_blank (sound_squeezed hsound) isBlank_space fun _ => rfl,
            behind_squeezed h hc, hblank (.inr h) hne]
          rfl
      · rw [fold_cons_blank hc] at hne ⊢
        rw [← hblank (.inl h) hne, squeezed_behind hsound h hc]

end Reader

theorem isLineEnd_of_mem_fold {s : List Char} {c : Char} (h : c ∈ fold s) :
    isLineEnd c = false := by
  by_contra hline
  have hline : isLineEnd c = true := by simpa using hline
  rw [eq_space_of_mem_fold h (isBlank_of_isSpace (isSpace_of_isLineEnd hline))] at hline
  exact absurd hline (by decide)

/-- The lexemes of a folded text are those in front of the first comment that starts with `--`,
squeezed, where all white space outside quotes is white space for the database. -/
theorem lexemes_fold {s : List Char} (h : ∀ x ∈ lexemesBefore s, x.piece.isStray = false) :
    lexemes (fold s) = (lexemesBefore s).map Lexeme.squeezed := by
  have hstart : Reader.start.Sound := trivial
  unfold lexemes lexemesBefore at *
  rw [Reader.read_ends fun _ => isLineEnd_of_mem_fold]
  by_cases hs : fold s = []
  · have hblank := words_eq_nil.1 (fold_eq_nil.1 hs)
    rw [hs, Reader.read_blank hblank hstart h]
    rfl
  · exact (Reader.read_folded s hstart h).2 Gap.noConfusion hs

/-- On one line a comment hides what followed its line. -/
example : lexemes (fold "a --b\n+ c".toList) = [⟨false, .plain 'a'⟩] := by decide

/-! ### Texts whose tokens are kept -/

/-- A piece that folding keeps as it is. -/
def Piece.Steady : Piece → Prop
  | plain c => isBlank c = false
  | quoted _ content => SingleSpaced content
  | unclosed _ content => SingleSpaced content ∧ ∀ c ∈ content.getLast?, isBlank c = false

/-- A lexeme that folding keeps as it is: white space in quotes is one space at a time, and no
literal goes on behind an end of line. -/
structure Lexeme.Steady (x : Lexeme) : Prop where
  piece : x.piece.Steady
  joined : x.joined = true → x.piece.isPlain = true

theorem Piece.steady_iff {p : Piece} : p.Steady ↔ p.squeezed = p ∧ p.isStray = false := by
  cases p with
  | plain c => simp [Steady, squeezed, isStray]
  | quoted q content => simp [Steady, squeezed, isStray, squeeze_eq_self_iff]
  | unclosed q content => simp [Steady, squeezed, isStray, squeeze_rdropWhile_eq_self_iff]

theorem Lexeme.steady_iff {x : Lexeme} :
    x.Steady ↔ x.squeezed = x ∧ x.piece.isStray = false := by
  have hx : x.Steady ↔ x.piece.Steady ∧ (x.joined = true → x.piece.isPlain = true) :=
    ⟨fun h => ⟨h.piece, h.joined⟩, fun h => ⟨h.1, h.2⟩⟩
  obtain ⟨joined, p⟩ := x
  rw [hx, Piece.steady_iff]
  simp only [squeezed, Lexeme.mk.injEq, Bool.and_eq_left_iff_imp]
  tauto

/-- A text whose tokens folding keeps: every lexeme is steady, and none follows a comment that
starts with `--`. -/
structure Foldable (s : List Char) : Prop where
  steady : ∀ x ∈ lexemes s, x.Steady
  shown : lexemesBefore s = lexemes s

theorem forall_steady_iff {xs : List Lexeme} : (∀ x ∈ xs, x.Steady) ↔
    xs.map Lexeme.squeezed = xs ∧ ∀ x ∈ xs, x.piece.isStray = false := by
  have hmap : xs.map Lexeme.squeezed = xs.map id ↔ ∀ x ∈ xs, x.squeezed = x := List.map_inj_left
  rw [List.map_id] at hmap
  simp only [Lexeme.steady_iff, hmap, forall_and]

/-- The lexemes of a folded text are steady: folding it again changes nothing. -/
theorem steady_of_fold (s : List Char) : ∀ x ∈ lexemes (fold s), x.Steady := by
  have hbefore : lexemesBefore (fold s) = lexemes (fold s) :=
    (Reader.read_ends (fun _ => isLineEnd_of_mem_fold) _).symm
  have hstray : ∀ x ∈ lexemes (fold s), x.piece.isStray = false := by
    rintro ⟨joined, _ | _ | _⟩ hx
    case plain c =>
      obtain ⟨hmem, hspace⟩ := Reader.plain_of_mem_read hx
      by_contra hblank
      rw [eq_space_of_mem_fold hmem (by simpa [Piece.isStray] using hblank)] at hspace
      exact absurd hspace (by decide)
    all_goals rfl
  have hfixed := lexemes_fold (s := fold s) (by rwa [hbefore])
  rw [fold_fold, hbefore] at hfixed
  exact forall_steady_iff.2 ⟨hfixed.symm, hstray⟩

/-- Folding keeps the lexemes of a text exactly if the text is foldable. -/
theorem lexemes_fold_eq_iff {s : List Char} : lexemes (fold s) = lexemes s ↔ Foldable s := by
  constructor
  · intro h
    have hall : ∀ x ∈ lexemes s, x.Steady := by
      rw [← h]
      exact steady_of_fold s
    have hbefore : ∀ x ∈ lexemesBefore s, x.Steady :=
      fun x hx => hall x ((lexemesBefore_isPrefix s).mem hx)
    obtain ⟨hsqueezed, hstray⟩ := forall_steady_iff.1 hbefore
    rw [lexemes_fold hstray, hsqueezed] at h
    exact ⟨hall, h⟩
  · rintro ⟨hall, hshown⟩
    obtain ⟨hsqueezed, hstray⟩ := forall_steady_iff.1 hall
    rw [← hshown] at hstray
    rw [lexemes_fold hstray, hshown, hsqueezed]

end Sql

/-! ### Sources of tables -/

/-- The source of a table is what folding makes of `s`. It has the tokens of `s` exactly if `s` is
foldable. In general its lexemes are those in front of the first comment of `s` that starts with
`--`, squeezed, where all white space outside quotes is white space for the database. -/
structure Table.FoldedFrom (t : Table) (s : String) : Prop where
  source : t.source.toList = Text.fold s.toList
  tokens_iff : Sql.tokens t.source.toList = Sql.tokens s.toList ↔ Sql.Foldable s.toList
  lexemes : (∀ x ∈ Sql.lexemesBefore s.toList, x.piece.isStray = false) →
    Sql.lexemes t.source.toList = (Sql.lexemesBefore s.toList).map Sql.Lexeme.squeezed

namespace Registry

theorem eq_of_solidText? {d : Document} {s : String} (h : solidText? d = some s) : d = .text s := by
  unfold solidText? at h
  split at h
  · split at h
    · cases h
    · cases h
      rfl
  · cases h

theorem exists_foldedFrom {d : Document} {t : Table} (h : tableOf d = .ok t) :
    ∃ s : String, d.valueAt "source" = some (.text s) ∧ t.FoldedFrom s := by
  obtain ⟨_, s, _, _, hentries, -, hsource, ht, -⟩ := tableOf_eq_ok.1 h
  have hfold : t.source.toList = Text.fold s.toList := by rw [ht, String.toList_ofList]
  refine ⟨s, valueAt_of_entriesOf hentries (eq_of_solidText? hsource), hfold, ?_, ?_⟩
  · rw [hfold, Sql.tokens_eq_iff, Sql.lexemes_fold_eq_iff]
  · rw [hfold]
    exact Sql.lexemes_fold

end Registry

/-- Every source of a registry was folded from the one that its file has for the table, and has the
same tokens exactly if that one is foldable. The tokens are others where white space in quotes is
more than a space at a time, where a comment that starts with `--` hides what follows it on one
line, where a literal goes on behind an end of line, and where white space outside quotes is none
for the database. -/
theorem source_tokens_eq_iff {doc : Document} {r : Registry}
    (h : Registry.ofDocument doc = .ok r) :
    List.Forall₂ (fun item t => ∃ s : String, item.valueAt "source" = some (.text s) ∧
      t.FoldedFrom s) (doc.itemsAt "tables") r.tables :=
  (Registry.tables_of_ofDocument h).imp fun _ _ ht => Registry.exists_foldedFrom ht

namespace Events

/-- A registry file whose table stands under a name with two spaces side by side. -/
def totalsDocument : Document := .map [(.text "tables", .list [.map [
  (.text "name", .text "totals"), (.text "source", .text "\"daily  totals\"\n  d"),
  (.text "tenant_columns", .text "p"),
  (.text "columns", .list [
    .map [(.text "name", .text "p"), (.text "internal", .text "d.owner")]])]])]

/-- The table of that file. -/
def totalsTable : Table where
  name := "totals"
  source := "\"daily totals\" d"
  columns := [⟨"p", "d.owner", .string, none⟩]
  tenantColumns := ["p"]

end Events

open Events in
/-- The source of that table names another table than its file does. -/
theorem source_tokens_eq_iff_totals :
    Registry.ofDocument totalsDocument = .ok ⟨.int 1, [totalsTable]⟩ ∧
      totalsTable.FoldedFrom "\"daily  totals\"\n  d" ∧
      Sql.lexemes "\"daily  totals\"\n  d".toList =
        [⟨false, .quoted '"' "daily  totals".toList⟩, ⟨false, .plain 'd'⟩] ∧
      Sql.lexemes totalsTable.source.toList =
        [⟨false, .quoted '"' "daily totals".toList⟩, ⟨false, .plain 'd'⟩] ∧
      ¬Sql.Foldable "\"daily  totals\"\n  d".toList := by
  have hread : Registry.ofDocument totalsDocument = .ok ⟨.int 1, [totalsTable]⟩ := rfl
  obtain ⟨s, hs, hfolded⟩ := (List.forall₂_cons.1 (source_tokens_eq_iff hread)).1
  cases hs
  refine ⟨hread, hfolded, by decide, ?_, fun hfoldable => ?_⟩
  · rw [hfolded.lexemes (by decide)]
    decide
  · have htokens := hfolded.tokens_iff.2 hfoldable
    exact absurd htokens (by decide)

end Dashboard
