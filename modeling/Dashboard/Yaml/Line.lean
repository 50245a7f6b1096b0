import Dashboard.Text.Letter

/-!
# Lines of YAML

* `isBreak` holds of the characters that end a line, `isGap` also of the space and the tab.
* `takeBreak?` takes one line break from the front of a text. A carriage return with a line feed
  is one break, and every break but the two separators of Unicode reads as a line feed.
* `atMarker` holds where a line starts with `---` or `...` alone.
* `restOfLine?` passes over spaces, a comment and the end of the line.
* `columns` counts the columns that a text on one line takes.
-/

namespace Dashboard
namespace Yaml

/-- The characters that end a line. -/
def isBreak (c : Char) : Bool :=
  c == '\n' || c == '\r' || c == '\u0085' || c == '\u2028' || c == '\u2029'

/-- The characters that separate words. -/
def isGap (c : Char) : Bool := c == ' ' || c == '\t' || isBreak c

/-- Nothing follows, or a character that separates words. -/
def endsWord (s : List Char) : Bool := (s.head?.map isGap).getD true

/-- A line break as it is read. -/
def normalBreak (c : Char) : Char := if c == '\u2028' || c == '\u2029' then c else '\n'

/-- The line break at the front of a text, and what follows it. -/
def takeBreak? : List Char → Option (Char × List Char)
  | '\r' :: '\n' :: r => some ('\n', r)
  | c :: r => if isBreak c then some (normalBreak c, r) else none
  | [] => none

/-- A line that starts here marks the start or the end of a document. -/
def atMarker (s : List Char) : Bool :=
  (['-', '-', '-'].isPrefixOf s || ['.', '.', '.'].isPrefixOf s) && endsWord (s.drop 3)

/-- The text after the spaces at its front. -/
def skipSpaces (s : List Char) : List Char := s.dropWhile (· == ' ')

/-- The text after spaces, a comment and a line break; none if anything else is on the line. -/
def restOfLine? (s : List Char) : Option (List Char) :=
  let r := match skipSpaces s with
    | '#' :: r => r.dropWhile fun c => !isBreak c
    | r => r
  match r with
  | [] => some []
  | _ => (takeBreak? r).map Prod.snd

/-- The columns that a text on one line takes; the mark of the byte order takes none. -/
def columns (s : List Char) : Nat := (Text.letters s).countP (· != .char '\uFEFF')

/-- What line breaks between two words stand for: one is a space, and of several the first is left
out. -/
def foldBreaks (first : Char) (others : List Char) : List Char :=
  if first ≠ '\n' then first :: others else if others.isEmpty then [' '] else others

end Yaml
end Dashboard
