import Dashboard.Yaml.Line

/-!
# Plain scalars

A plain scalar is words without quotes, on one line or several. `Plain.read` takes one from the
front of a text: a word ends at a gap, and at a colon that ends a word itself; in flow collections
also at their punctuation. Words go on over line breaks as long as the lines are indented far
enough.
-/

namespace Dashboard
namespace Yaml

/-- The text of a plain scalar, what follows it, and whether a line break lies between the two. -/
structure Plain where
  text : List Char
  rest : List Char
  broken : Bool
  deriving Repr, DecidableEq

namespace Plain

/-- The punctuation of flow collections. -/
def isFlowMark (c : Char) : Bool := [',', '[', ']', '\x7b', '\x7d'].contains c

/-- A colon before this text separates a key from its value. -/
def endsKey (flow : Bool) (s : List Char) : Bool :=
  endsWord s || (flow && (s.head?.map isFlowMark).getD false)

/-- A word ends before the character `c`, which `r` follows. -/
def stops (flow : Bool) (c : Char) (r : List Char) : Bool :=
  isGap c || (c == ':' && endsKey flow r) || (flow && (c == '?' || isFlowMark c))

/-- The word at the front of a text, and what follows it. -/
def word (flow : Bool) : List Char → List Char × List Char
  | [] => ([], [])
  | c :: r =>
    if stops flow c r then ([], c :: r) else (c :: (word flow r).1, (word flow r).2)

/-- Spaces and line breaks: the breaks, the column of what follows, and the text from there. None
if a line starts with the marker of a document. -/
def emptyLines? (column : Nat) : List Char → Option (List Char × Nat × List Char)
  | [] => some ([], column, [])
  | '\r' :: '\n' :: r =>
    if atMarker r then none
    else (emptyLines? 0 r).map fun l => ('\n' :: l.1, l.2)
  | c :: r =>
    if c == ' ' then emptyLines? (column + 1) r
    else if isBreak c then
      if atMarker r then none
      else (emptyLines? 0 r).map fun l => (normalBreak c :: l.1, l.2)
    else some ([], column, c :: r)

/-- What lies between two words, and the column after it. -/
structure Gap where
  text : List Char
  column : Nat
  rest : List Char
  broken : Bool
  deriving Repr, DecidableEq

/-- The gap at the front of a text, from the given column on. One without text ends the scalar. -/
def gap (column : Nat) (s : List Char) : Gap :=
  let spaces := s.takeWhile (· == ' ')
  let r := skipSpaces s
  match takeBreak? r with
  | none => ⟨spaces, column + spaces.length, r, false⟩
  | some (b, r) =>
    if atMarker r then ⟨[], 0, r, true⟩
    else match emptyLines? 0 r with
      | none => ⟨[], 0, r, true⟩
      | some (bs, column, r) => ⟨foldBreaks b bs, column, r, true⟩

/-- The scalar does not go on after a gap. -/
def ends (flow : Bool) (indent : Int) (g : Gap) : Bool :=
  g.text.isEmpty || g.rest.head? == some '#' || (!flow && decide ((g.column : Int) < indent))

/-- Words and the gaps between them, at most `n` words, from the given column on. -/
def words (flow : Bool) (indent : Int) : Nat → Nat → List Char → Plain
  | 0, _, s => ⟨[], s, false⟩
  | n + 1, column, s =>
    let (w, r) := word flow s
    let g := gap (column + columns w) r
    if w.isEmpty then ⟨[], s, false⟩
    else if ends flow indent g then ⟨w, g.rest, g.broken⟩
    else
      let p := words flow indent n g.column g.rest
      if p.text.isEmpty then ⟨w, g.rest, g.broken⟩ else ⟨w ++ g.text ++ p.text, p.rest, p.broken⟩

/-- The plain scalar at the front of a text that starts at a column; the lines after the first one
start at column `indent` or later. -/
def read (flow : Bool) (indent : Int) (column : Nat) (s : List Char) : Plain :=
  words flow indent s.length column s

/-- A plain scalar may start here. -/
def starts (flow : Bool) : List Char → Bool
  | [] => false
  | c :: r =>
    !(isGap c || "-?:,[]\x7b\x7d#&*!|>'\"%@`".toList.contains c) ||
      (!endsWord r && (c == '-' || (!flow && (c == '?' || c == ':'))))

end Plain
end Yaml
end Dashboard
