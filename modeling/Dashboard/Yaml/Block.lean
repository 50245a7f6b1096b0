import Dashboard.Number.Digits
import Dashboard.Yaml.Line

/-!
# Block scalars

`Block.read?` takes a block scalar from the front of a text, after its indicator. The lines of a
literal scalar keep their breaks; a folded scalar joins lines that start with no space. The header
may fix the indentation, which is otherwise that of the first line, and says what becomes of the
line breaks at the end: none, one, or all.
-/

namespace Dashboard
namespace Yaml
namespace Block

/-- What becomes of the line breaks at the end. -/
inductive Chomping where
  | strip
  | clip
  | keep
  deriving Repr, DecidableEq

/-- A sign for the chomping, and what follows it. -/
def takeChomping : List Char → Chomping × List Char
  | '+' :: r => (.keep, r)
  | '-' :: r => (.strip, r)
  | r => (.clip, r)

/-- A digit for the indentation, and what follows it; zero is none. -/
def takeIndent? : List Char → Option (Option Nat × List Char)
  | [] => some (none, [])
  | c :: r => match asciiDigit? c with
    | none => some (none, c :: r)
    | some 0 => none
    | some d => some (some d, r)

/-- The header of a block scalar: chomping and indentation in either order, and what follows. -/
def header? (s : List Char) : Option (Chomping × Option Nat × List Char) :=
  match takeChomping s with
  | (.clip, r) => (takeIndent? r).map fun (indent, r) => match indent with
    | none => (.clip, none, r)
    | some d => ((takeChomping r).1, some d, (takeChomping r).2)
  | (chomping, r) => (takeIndent? r).map fun (indent, r) => (chomping, indent, r)

/-- Empty lines: their breaks, the column of what follows, and the text from there. A line counts
as empty if nothing but at most `indent` spaces is on it; `column` of them are passed already. -/
def emptyLines (indent column : Nat) : List Char → List Char × Nat × List Char
  | [] => ([], column, [])
  | '\r' :: '\n' :: r =>
    let (bs, column, r) := emptyLines indent 0 r
    ('\n' :: bs, column, r)
  | c :: r =>
    if c == ' ' && column < indent then emptyLines indent (column + 1) r
    else if isBreak c then
      let (bs, column, r) := emptyLines indent 0 r
      (normalBreak c :: bs, column, r)
    else ([], column, c :: r)

/-- Lines of spaces alone: their breaks, the largest column, that of what follows, and the text
from there. -/
def blankLines (column most : Nat) : List Char → List Char × Nat × Nat × List Char
  | [] => ([], most, column, [])
  | '\r' :: '\n' :: r =>
    let (bs, most, column, r) := blankLines 0 most r
    ('\n' :: bs, most, column, r)
  | c :: r =>
    if c == ' ' then blankLines (column + 1) (max most (column + 1)) r
    else if isBreak c then
      let (bs, most, column, r) := blankLines 0 most r
      (normalBreak c :: bs, most, column, r)
    else ([], most, column, c :: r)

/-- A line break as a list, empty where the text ends. -/
def lineEnd (s : List Char) : List Char × List Char :=
  match takeBreak? s with
  | some (b, r) => ([b], r)
  | none => ([], s)

/-- A line that starts with no space. -/
def isFlush (s : List Char) : Bool :=
  !((s.head?.map fun c => c == ' ' || c == '\t').getD false)

/-- What the end of a line and the empty lines after it stand for, before another line. -/
def joint (folded : Bool) (line ending bs next : List Char) : List Char :=
  if folded && ending == ['\n'] && isFlush line && isFlush next then
    (if bs.isEmpty then [' '] else []) ++ bs
  else ending ++ bs

/-- What the line breaks at the end of a scalar stand for. -/
def chomped (chomping : Chomping) (ending bs : List Char) : List Char :=
  match chomping with
  | .strip => []
  | .clip => ending
  | .keep => ending ++ bs

/-- The lines of a scalar from the column `indent` on, at most `n`, and what follows them. -/
def lines (folded : Bool) (chomping : Chomping) (indent : Nat) :
    Nat → List Char → List Char × List Char
  | 0, s => ([], s)
  | n + 1, s =>
    let line := s.takeWhile fun c => !isBreak c
    let (ending, r) := lineEnd (s.dropWhile fun c => !isBreak c)
    let (bs, column, r) := emptyLines indent 0 r
    if column = indent ∧ r ≠ [] then
      let (text, rest) := lines folded chomping indent n r
      (line ++ joint folded line ending bs r ++ text, rest)
    else (line ++ chomped chomping ending bs, r)

/-- The lines after the header. `least` is the smallest indentation that they may have. -/
def body (folded : Bool) (chomping : Chomping) (least : Nat) (given : Option Nat)
    (s : List Char) : List Char × List Char :=
  let (bs, indent, column, r) := match given with
    | some d =>
      let indent := least + d - 1
      let (bs, column, r) := emptyLines indent 0 s
      (bs, indent, column, r)
    | none =>
      let (bs, most, column, r) := blankLines 0 0 s
      (bs, max least most, column, r)
  if column = indent ∧ r ≠ [] then
    let (text, rest) := lines folded chomping indent (r.length + 1) r
    (bs ++ text, rest)
  else (if chomping = .keep then bs else [], r)

/-- A block scalar after its indicator, and what follows it. -/
def read? (folded : Bool) (least : Nat) (s : List Char) : Option (List Char × List Char) :=
  match header? s with
  | none => none
  | some (chomping, given, r) =>
    if (r.head?.map fun c => c == ' ' || isBreak c).getD true then
      (restOfLine? r).map (body folded chomping least given)
    else none

end Block
end Yaml
end Dashboard
