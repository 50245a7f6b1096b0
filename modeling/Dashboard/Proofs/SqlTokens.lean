import Dashboard.Proofs.SqlReading
import Mathlib.Data.List.SplitBy

/-!
# The tokens of an SQL text

`Sql.read` knows quotes only. Between two tokens of a statement there may also be comments: one from
`--` to the end of the line, and one between `/*` and `*/`, in which others may stand.

* `Sql.Reader.step` reads one character. A `Sql.Lexeme` is a character outside quotes and comments,
  or a quoted piece, and says whether it goes on with the token before it: the characters of a word
  stand side by side, and so do those of an operator, and a literal goes on after an end of line
  between two quotes. White space and comments are no lexemes.
* `Sql.tokens` gathers lexemes; `Sql.tokens_eq_iff` says that nothing of them is lost.
* `Sql.lexemesBefore` reads as if the end of a line did not end a comment. Then the first comment
  that starts with `--` hides what follows it, and nothing before it changes
  (`Sql.lexemesBefore_isPrefix`).

Escapes with a backslash and quotes that are written with dollar signs are not read, and the full
stop of a number is a token on its own.
-/

namespace Dashboard
namespace Sql

/-! ### Lexemes -/

/-- The white space of the database. -/
def isSpace (c : Char) : Bool := [' ', '\t', '\n', '\r', '\x0b', '\x0c'].contains c

/-- The characters that end a line. -/
def isLineEnd (c : Char) : Bool := ['\n', '\r'].contains c

/-- The characters of operators. -/
def isOperatorPart (c : Char) : Bool := "+-*/<>=~!@#%^&|\x60?".toList.contains c

/-- The characters that are tokens on their own. -/
def isMark (c : Char) : Bool := "()[],;:.".toList.contains c

/-- What lies between a piece and the one before it: nothing, white space or comments, or an end of
line among them. -/
inductive Gap where
  | none
  | space
  | line
  deriving Repr, DecidableEq

/-- A gap with one more character of white space, or of a comment up to the end of the line. -/
def Gap.past (g : Gap) (c : Char) : Gap :=
  if isLineEnd c then line else if g = none then space else g

/-- A piece belongs to the same token as the one before it. -/
def joins : Gap → Piece → Piece → Bool
  | .none, .plain c, .plain d =>
    if isOperatorPart c then isOperatorPart d
    else !isMark c && !isOperatorPart d && !isMark d
  | .line, .quoted '\'' _, .quoted '\'' _ => true
  | _, _, _ => false

/-- A piece outside comments that is no white space, and whether it goes on with a token. -/
structure Lexeme where
  joined : Bool
  piece : Piece
  deriving Repr, DecidableEq

/-! ### Reading -/

/-- Where in a text a reader is. `held` is what a quoted piece holds so far, last character first;
`depth` is the number of comments that a comment stands in. The second of two characters that belong
together, such as a doubled quote, has a place of its own. -/
inductive Place where
  | outside
  | quoted (q : Char) (held : List Char)
  | doubled (q : Char) (held : List Char)
  | line
  | block (depth : ℕ)
  | opening (depth : ℕ)
  | closing (depth : ℕ)
  deriving Repr, DecidableEq

/-- A reader of a text: its place, the last piece, unless a comment between `/*` and `*/` came after
it, and the gap since then. -/
structure Reader where
  place : Place
  gap : Gap
  last : Option Piece

namespace Reader

/-- In front of a text, which nothing in it goes on with. -/
def start : Reader := ⟨.outside, .space, none⟩

/-- The reader at another place, with no lexeme read. -/
def goTo (R : Reader) (p : Place) : Option Lexeme × Reader := (none, { R with place := p })

/-- The reader at another place, behind a character of white space or of a comment. -/
def skip (R : Reader) (c : Char) (p : Place) : Option Lexeme × Reader :=
  (none, { R with place := p, gap := R.gap.past c })

/-- A piece that ends here. -/
def give (R : Reader) (p : Piece) : Option Lexeme × Reader :=
  (some ⟨R.last.any (joins R.gap · p), p⟩, ⟨.outside, .none, some p⟩)

/-- Reads a character, of which `ahead` is the next one. If `ends` is false, the end of a line does
not end a comment. -/
def step (ends : Bool) (R : Reader) (c : Char) (ahead : Option Char) : Option Lexeme × Reader :=
  match R.place with
  | .outside =>
    if IsQuote c then R.goTo (.quoted c [])
    else if c = '-' ∧ ahead = some '-' then R.skip c .line
    else if c = '/' ∧ ahead = some '*' then (none, ⟨.opening 0, .space, none⟩)
    else if isSpace c then R.skip c .outside
    else R.give (.plain c)
  | .quoted q held =>
    if c ≠ q then R.goTo (.quoted q (c :: held))
    else if ahead = some q then R.goTo (.doubled q (c :: held))
    else R.give (.quoted q held.reverse)
  | .doubled q held => R.goTo (.quoted q (c :: held))
  | .line => R.skip c (if ends && isLineEnd c then .outside else .line)
  | .block depth =>
    if c = '*' ∧ ahead = some '/' then R.goTo (.closing depth)
    else if c = '/' ∧ ahead = some '*' then R.goTo (.opening (depth + 1))
    else R.goTo (.block depth)
  | .opening depth => R.goTo (.block depth)
  | .closing 0 => R.goTo .outside
  | .closing (depth + 1) => R.goTo (.block depth)

/-- What is left at the end of a text: a quote that is not closed. -/
def rest (R : Reader) : List Lexeme :=
  match R.place with
  | .quoted q held | .doubled q held => [⟨false, .unclosed q held.reverse⟩]
  | _ => []

/-- The lexemes of the rest of a text. -/
def read (ends : Bool) (R : Reader) : List Char → List Lexeme
  | [] => R.rest
  | c :: r => (R.step ends c r.head?).1.toList ++ read ends (R.step ends c r.head?).2 r

@[simp] theorem read_nil (ends : Bool) (R : Reader) : R.read ends [] = R.rest := rfl

end Reader

/-- The lexemes of a text. -/
def lexemes (s : List Char) : List Lexeme := Reader.start.read true s

/-- The lexemes in front of the first comment that starts with `--`. -/
def lexemesBefore (s : List Char) : List Lexeme := Reader.start.read false s

/-- The tokens of a text, each as the list of its lexemes. -/
def tokens (s : List Char) : List (List Lexeme) := (lexemes s).splitBy fun _ b => b.joined

/-- Texts have the same tokens exactly if they have the same lexemes. -/
theorem tokens_eq_iff {s t : List Char} : tokens s = tokens t ↔ lexemes s = lexemes t := by
  constructor
  · intro h
    have hflat := congrArg List.flatten h
    rwa [tokens, tokens, List.flatten_splitBy, List.flatten_splitBy] at hflat
  · intro h
    rw [tokens, tokens, h]

/-- The comment is no token, and the literal goes on in the next line. -/
example : (tokens "t.id>=/* x */'a'--\n 'b'".toList).map (·.map (·.piece.text)) =
    [[['t']], [['.']], [['i'], ['d']], [['>'], ['=']], [['\'', 'a', '\''], ['\'', 'b', '\'']]] := by
  decide

namespace Reader

/-! ### What comes from a text -/

/-- Only a character that is no white space is read as a piece of its own. -/
theorem plain_of_step {ends : Bool} {R : Reader} {c d : Char} {ahead : Option Char} {joined : Bool}
    (h : (R.step ends c ahead).1 = some ⟨joined, .plain d⟩) : c = d ∧ isSpace c = false := by
  unfold step goTo skip give at h
  grind

/-- The characters outside quotes come from the text, and are no white space. -/
theorem plain_of_mem_read {ends : Bool} {R : Reader} {s : List Char} {joined : Bool} {c : Char}
    (h : ⟨joined, .plain c⟩ ∈ R.read ends s) : c ∈ s ∧ isSpace c = false := by
  induction s generalizing R with
  | nil =>
    rw [read_nil, rest] at h
    split at h <;> simp at h
  | cons d r ih =>
    rw [read, List.mem_append] at h
    rcases h with h | h
    · obtain ⟨rfl, hspace⟩ := plain_of_step (Option.mem_toList.1 h)
      exact ⟨List.mem_cons_self, hspace⟩
    · exact ⟨List.mem_cons_of_mem _ (ih h).1, (ih h).2⟩

/-! ### Comments up to the end of a line -/

/-- Where lines end counts only in a comment, and at the end of a line. -/
theorem step_ends {R : Reader} {c : Char} (h : R.place = .line → isLineEnd c = false)
    (ahead : Option Char) : R.step true c ahead = R.step false c ahead := by
  unfold step
  split
  all_goals try rfl
  rename_i hplace
  rw [h hplace]
  rfl

/-- In a text without ends of lines they do not count. -/
theorem read_ends {s : List Char} (h : ∀ c ∈ s, isLineEnd c = false) (R : Reader) :
    R.read true s = R.read false s := by
  induction s generalizing R with
  | nil => rfl
  | cons c r ih =>
    obtain ⟨hc, hr⟩ := List.forall_mem_cons.1 h
    rw [read, read, step_ends fun _ => hc, ih hr]

/-- Nothing is read in a comment that does not end. -/
theorem read_line {R : Reader} (h : R.place = .line) (s : List Char) : R.read false s = [] := by
  induction s generalizing R with
  | nil => rw [read_nil, rest, h]
  | cons c r ih =>
    have hstep : R.step false c r.head? = R.skip c .line := by
      unfold step
      rw [h]
      rfl
    rw [read, hstep]
    exact ih rfl

theorem read_isPrefix (R : Reader) (s : List Char) : R.read false s <+: R.read true s := by
  induction s generalizing R with
  | nil => exact List.prefix_rfl
  | cons c r ih =>
    by_cases hplace : R.place = .line
    · rw [read_line hplace]
      exact List.nil_prefix
    · rw [read, read, step_ends fun h => absurd h hplace]
      exact (List.prefix_append_right_inj _).2 (ih _)

end Reader

/-- The lexemes in front of the first comment that starts with `--` are the first ones of a text. -/
theorem lexemesBefore_isPrefix (s : List Char) : lexemesBefore s <+: lexemes s :=
  Reader.start.read_isPrefix s

end Sql
end Dashboard
