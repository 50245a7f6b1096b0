import Dashboard.Number.Literal
import Dashboard.Sql.Fragment
import Dashboard.Text.Blank
import Dashboard.Text.Case

/-!
# The safety gate

`Statement.violations` inspects the text of a statement before it goes to the database.

1. It starts with `SELECT` or `WITH`.
2. It holds no semicolon except one at its end.
3. It holds no comment.
4. It holds none of the words `forbidden`.
5. Its placeholders are numbered `1`, …, `n` for `n` bound values, each once.

White space around the text does not count. The checks 2 to 4 look at the text without what stands
between double quotes, since an identifier may be any word. The last check reads the numbers of the
placeholders. One with more than `mostDigits` digits, zeros in front included, is not read, and then
the gate comes to no result: it fails with a `LongPlaceholder`.
-/

namespace Dashboard

/-- A rule that a statement breaks. -/
inductive Violation where
  | notSelect
  | severalStatements
  | comment
  | keyword (text : String)
  | placeholders (found bound : Nat)
  deriving Repr, DecidableEq

/-- The wording of a violation. -/
def Violation.message : Violation → String
  | notSelect => "Statement must be a SELECT."
  | severalStatements => "Multi-statement SQL is not allowed."
  | comment => "SQL comments are not allowed."
  | keyword text => "Dangerous keyword detected: '" ++ text ++ "'."
  | placeholders found bound =>
    "Placeholder mismatch: " ++ toString found ++ " placeholder(s) for " ++ toString bound ++
      " bound value(s)."

/-- Why a text is not inspected to the end: a placeholder in it has too many digits to be read. -/
structure LongPlaceholder where
  digits : Nat
  deriving Repr, DecidableEq

/-- The wording of the fault. -/
def LongPlaceholder.message (fault : LongPlaceholder) : String := tooLongToRead fault.digits

namespace Gate

/-- What stands between double quotes is left out. `held` is what has been read since a quote that
is still open, last character first; a quote that is never closed counts as text. -/
def blankFrom : Option (List Char) → List Char → List Char
  | none, [] => []
  | some held, [] => '"' :: held.reverse
  | none, c :: r => if c = '"' then blankFrom (some []) r else c :: blankFrom none r
  | some held, c :: r =>
    if c = '"' then '"' :: '"' :: blankFrom none r else blankFrom (some (c :: held)) r

/-- The text with nothing between double quotes. -/
def blankQuoted (s : List Char) : List Char := blankFrom none s

/-- The text starts with one of the two words that start a query, in any case. -/
def startsQuery (s : List Char) : Bool :=
  "SELECT".toList.isPrefixOf (Text.upper s) || "WITH".toList.isPrefixOf (Text.upper s)

/-- There are two semicolons, or there is one before the end. -/
def hasInnerSemicolon (s : List Char) : Bool :=
  (s.reverse.dropWhile (· == ';')).contains ';' || decide (1 < s.count ';')

/-- The text holds the opening of a comment. -/
def hasComment : List Char → Bool
  | '-' :: '-' :: _ => true
  | '/' :: '*' :: _ => true
  | _ :: r => hasComment r
  | [] => false

/-! ### Words -/

/-- A letter as it is compared with the letters of a forbidden word: in upper case, and four
letters of other alphabets like the ones they resemble. -/
def foldLetter (c : Char) : Char :=
  if 'a' ≤ c ∧ c ≤ 'z' then Char.ofNat (c.toNat - 0x20)
  else match c with
    | 'ı' | 'İ' => 'I'
    | 'ſ' => 'S'
    | '\u212a' => 'K'
    | _ => c

/-- The words that no statement may hold; the parts of a word are separated by white space. -/
def forbidden : List (List String) :=
  [["DROP"], ["ALTER"], ["TRUNCATE"], ["INSERT"], ["UPDATE"], ["DELETE"], ["MERGE"], ["GRANT"],
    ["REVOKE"], ["CREATE"], ["EXECUTE"], ["EXEC"], ["CALL"], ["COPY"], ["SET", "ROLE"],
    ["RESET", "ROLE"]]

/-- The text after a word at its front, in any case. -/
def dropWord? : List Char → List Char → Option (List Char)
  | [], s => some s
  | _ :: _, [] => none
  | w :: ws, c :: r => if foldLetter c = w then dropWord? ws r else none

/-- The text after white space at its front, of which there must be some. -/
def dropBlanks? : List Char → Option (List Char)
  | c :: r => if Text.isBlank c then some (r.dropWhile Text.isBlank) else none
  | [] => none

/-- The text after the parts of a word at its front. -/
def dropParts? : List String → List Char → Option (List Char)
  | [], s => some s
  | [w], s => dropWord? w.toList s
  | w :: ws, s => ((dropWord? w.toList s).bind dropBlanks?).bind (dropParts? ws)

/-- No character of a word is next. -/
def atBoundary (next : Option Char) : Bool := !(next.map Text.isWord).getD false

/-- The forbidden word at the front of a text, as it is written there. -/
def forbiddenAt? (s : List Char) : Option (List Char) :=
  forbidden.findSome? fun ws => match dropParts? ws s with
    | some r => if atBoundary r.head? then some (s.take (s.length - r.length)) else none
    | none => none

/-- The first forbidden word in a text that follows the character `before`. -/
def findForbidden? (before : Option Char) : List Char → Option (List Char)
  | [] => none
  | c :: r => match if atBoundary before then forbiddenAt? (c :: r) else none with
    | some w => some w
    | none => findForbidden? (some c) r

/-! ### Placeholders -/

/-- Nothing that a placeholder may not follow: a colon or a character of a word. -/
def mayPrecedePlaceholder (before : Option Char) : Bool :=
  match before with
  | none => true
  | some c => c != ':' && !Text.isWord c

/-- The digits of a placeholder whose colon has been read. -/
def placeholderDigits? : List Char → Option (List Char)
  | 'p' :: r =>
    let ds := r.takeWhile fun c => (Text.decimalValue? c).isSome
    if !ds.isEmpty && atBoundary (r.drop ds.length).head? then some ds else none
  | _ => none

/-- The digits of the placeholders in a text that follows the character `before`, in order. -/
def placeholdersFrom (before : Option Char) : List Char → List (List Char)
  | [] => []
  | c :: r =>
    (if c = ':' ∧ mayPrecedePlaceholder before = true then (placeholderDigits? r).toList else []) ++
      placeholdersFrom (some c) r

/-- The digits of the placeholders in a text, in order. -/
def placeholders (s : List Char) : List (List Char) := placeholdersFrom none s

/-- The number that digits of a placeholder write. -/
def placeholderNumber (digits : List Char) : Nat := ofDigits (digits.filterMap Text.decimalValue?)

/-- The number of a placeholder, if it has not too many digits to be read. -/
def readPlaceholder (digits : List Char) : Except LongPlaceholder Nat :=
  if mostDigits < digits.length then throw ⟨digits.length⟩ else return placeholderNumber digits

end Gate

namespace Statement

open Gate

/-- The rules that a statement breaks, in order, if its placeholders have these numbers. -/
def findings (s : Statement) (numbers : List Nat) : List Violation :=
  let sql := Text.strip s.text.toList
  let unquoted := blankQuoted sql
  let bound := s.parameters.length
  (if startsQuery sql then [] else [.notSelect]) ++
    (if hasInnerSemicolon unquoted then [.severalStatements] else []) ++
    (if hasComment unquoted then [.comment] else []) ++
    (match findForbidden? none unquoted with
      | some w => [.keyword (String.ofList (Text.upper w))]
      | none => []) ++
    (if numbers.isPerm (List.range' 1 bound) then [] else [.placeholders numbers.length bound])

/-- The rules that a statement breaks, in order, unless a placeholder in its text is not read. -/
def violations (s : Statement) : Except LongPlaceholder (List Violation) := do
  let numbers ← (placeholders (Text.strip s.text.toList)).mapM readPlaceholder
  return s.findings numbers

end Statement

end Dashboard
