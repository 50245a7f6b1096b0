import Dashboard.Number.Digits
import Dashboard.Text.Letter
import Dashboard.Yaml.Error
import Dashboard.Yaml.Line

/-!
# Quoted scalars

`Quoted.read` takes a scalar between quotes from the front of a text, after its opening quote.
Between single quotes a quote is written twice; between double quotes a backslash starts an escape.
White space around a line break becomes what the breaks stand for.
-/

namespace Dashboard
namespace Yaml
namespace Quoted

/-- Tabs and spaces. -/
def isSpace (c : Char) : Bool := c == ' ' || c == '\t'

/-- The line breaks at the front of a text and the text after them, each line without its
indentation; none of the lines may be the marker of a document. -/
def breaks : Nat → List Char → Except YamlError (List Char × List Char)
  | 0, _ => throw .malformed
  | n + 1, s =>
    if atMarker s then throw .malformed
    else match takeBreak? (s.dropWhile isSpace) with
      | none => return ([], s.dropWhile isSpace)
      | some (b, r) => do
        let (bs, r) ← breaks n r
        return (b :: bs, r)

/-- White space inside a scalar, and what follows it. -/
def space (s : List Char) : Except YamlError (List Char × List Char) :=
  let r := s.dropWhile isSpace
  match takeBreak? r with
  | some (b, r) => do
    let (bs, r) ← breaks (r.length + 1) r
    return (foldBreaks b bs, r)
  | none => return (s.takeWhile isSpace, r)

/-- The character that a letter after a backslash stands for. -/
def simpleEscape? : Char → Option Char
  | '0' => some (Char.ofNat 0)
  | 'a' => some (Char.ofNat 7)
  | 'b' => some (Char.ofNat 8)
  | 't' => some '\t'
  | '\t' => some '\t'
  | 'n' => some '\n'
  | 'v' => some (Char.ofNat 11)
  | 'f' => some (Char.ofNat 12)
  | 'r' => some '\r'
  | 'e' => some (Char.ofNat 27)
  | ' ' => some ' '
  | '"' => some '"'
  | '\\' => some '\\'
  | '/' => some '/'
  | 'N' => some '\u0085'
  | '_' => some '\u00a0'
  | 'L' => some '\u2028'
  | 'P' => some '\u2029'
  | _ => none

/-- The number of hexadecimal digits after a letter that announces some. -/
def escapeWidth? : Char → Option Nat
  | 'x' => some 2
  | 'u' => some 4
  | 'U' => some 8
  | _ => none

/-- The number that hexadecimal digits write. -/
def hexNumber? (ds : List Char) : Option Nat :=
  ds.foldlM (fun n c => (hexDigit? c).map fun d => 16 * n + d) 0

/-- What stands after a backslash, and the text after it. -/
def escape (s : List Char) : Except YamlError (List Char × List Char) :=
  match takeBreak? s, s with
  | some (_, r), _ => breaks (r.length + 1) r
  | none, [] => throw .malformed
  | none, c :: r => match simpleEscape? c, escapeWidth? c with
    | some d, _ => return ([d], r)
    | none, none => throw .malformed
    | none, some width =>
      match hexNumber? (r.take width) with
      | none => throw .malformed
      | some n =>
        if r.length < width then throw .malformed
        else if 0x80000000 ≤ n then throw .overflow
        else if 0x110000 ≤ n then throw .noCharacter
        else return ((Text.Letter.ofCode n).chars, r.drop width)

/-- The characters up to the closing quote, and what follows it. -/
def chars (double : Bool) : Nat → List Char → Except YamlError (List Char × List Char)
  | 0, _ => throw .malformed
  | _, [] => throw .malformed
  | n + 1, c :: r =>
    if isGap c then do
      let (cs, r) ← space (c :: r)
      let (ds, r) ← chars double n r
      return (cs ++ ds, r)
    else if double && c == '\\' then do
      let (cs, r) ← escape r
      let (ds, r) ← chars double n r
      return (cs ++ ds, r)
    else if double && c == '"' then return ([], r)
    else if !double && c == '\'' then
      match r with
      | '\'' :: r => do
        let (ds, r) ← chars double n r
        return ('\'' :: ds, r)
      | _ => return ([], r)
    else do
      let (ds, r) ← chars double n r
      return (c :: ds, r)

/-- A scalar after its opening quote, and what follows its closing quote. -/
def read (double : Bool) (s : List Char) : Except YamlError (List Char × List Char) :=
  chars double (s.length + 1) s

end Quoted
end Yaml
end Dashboard
