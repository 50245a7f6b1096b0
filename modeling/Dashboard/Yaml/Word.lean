import Dashboard.Number.Digits
import Dashboard.Yaml.Error
import Dashboard.Yaml.Line
import Dashboard.Yaml.Token

/-!
# Names, tags and directives

The parts of YAML that consist of words of restricted characters.

* `takeName?` takes the name of an anchor or alias, `takeTag?` a tag, and `takeDirective` a
  directive, each from the front of a text after its indicator.
-/

namespace Dashboard
namespace Yaml

/-- Letters, digits, the hyphen and the underscore. -/
def isNameChar (c : Char) : Bool := c.isAlphanum || c == '-' || c == '_'

/-- The characters of an address; the percent sign starts an escape. -/
def isUriChar (c : Char) : Bool :=
  c.isAlphanum || "-;/?:@&=+$,_.!~*'()[]".toList.contains c

/-- Nothing follows, or a space or a line break. -/
def endsField (s : List Char) : Bool := (s.head?.map fun c => c == ' ' || isBreak c).getD true

/-- The name of an anchor or alias, and what follows it. -/
def takeName? (s : List Char) : Option (String × List Char) :=
  let name := s.takeWhile isNameChar
  let r := s.dropWhile isNameChar
  if name.isEmpty then none
  else if endsWord r || (r.head?.map fun c => "?:,]\x7d%@`".toList.contains c).getD false then
    some (String.ofList name, r)
  else none

/-- The bytes of an address, and what follows it; an escape is one byte. -/
def uriBytes : List Char → Option (List UInt8 × List Char)
  | [] => some ([], [])
  | '%' :: a :: b :: r => do
    let byte := UInt8.ofNat (16 * (← hexDigit? a) + (← hexDigit? b))
    let (bytes, r) ← uriBytes r
    some (byte :: bytes, r)
  | c :: r =>
    if c == '%' then none
    else if isUriChar c then
      (uriBytes r).map fun u => (UInt8.ofNat c.toNat :: u.1, u.2)
    else some ([], c :: r)

/-- An address, and what follows it. -/
def takeUri? (s : List Char) : Option (String × List Char) := do
  let (bytes, r) ← uriBytes s
  if bytes.isEmpty then none
  let text ← String.fromUTF8? (ByteArray.mk bytes.toArray)
  some (Text.ofLetters (text.toList.map .char), r)

/-- A handle between exclamation marks, or a single one, and what follows it. -/
def takeHandle? : List Char → Option (String × List Char)
  | '!' :: r =>
    if r.head? == some ' ' then some ("!", r)
    else
      let name := r.takeWhile isNameChar
      match r.dropWhile isNameChar with
      | '!' :: r => some (String.ofList ('!' :: name ++ ['!']), r)
      | _ => none
  | _ => none

/-- Handle and address of a tag after its exclamation mark, and what follows. -/
def tagParts? (s : List Char) : Option (Option String × String × List Char) :=
  match s with
  | '<' :: r => match takeUri? r with
    | some (uri, '>' :: r) => some (none, uri, r)
    | _ => none
  | _ =>
    if endsWord s then some (none, "!", s)
    else if (s.takeWhile fun c => c != ' ' && !isBreak c).contains '!' then do
      let (handle, r) ← takeHandle? ('!' :: s)
      let (suffix, r) ← takeUri? r
      some (some handle, suffix, r)
    else do
      let (suffix, r) ← takeUri? s
      some (some "!", suffix, r)

/-- A tag after its exclamation mark, and what follows it. -/
def takeTag? (s : List Char) : Option (Token × List Char) := do
  let (handle, suffix, r) ← tagParts? s
  if endsField r then some (.tag handle suffix, r) else none

/-- A result that may be missing, as a step of reading. -/
def found {α : Type} : Option α → Except YamlError α
  | some a => return a
  | none => throw .malformed

/-- A number of a version, and what follows it. -/
def takeNumber (s : List Char) : Except YamlError (Nat × List Char) :=
  match spanDigits asciiDigit? s with
  | ([], _) => throw .malformed
  | (ds, r) =>
    if mostDigits < ds.length then throw (.longInteger ds.length) else return (ofDigits ds, r)

/-- The two numbers of a version: the first of them, and what follows both. -/
def takeVersion (s : List Char) : Except YamlError (Nat × List Char) := do
  let (major, r) ← takeNumber (skipSpaces s)
  match r with
  | '.' :: r =>
    let (_, r) ← takeNumber r
    if endsField r then return (major, r) else throw .malformed
  | _ => throw .malformed

/-- A handle with the address that it stands for, and what follows. -/
def takeHandleRule? (s : List Char) : Option (Directive × List Char) := do
  let (handle, r) ← takeHandle? (skipSpaces s)
  if r.head? ≠ some ' ' then none
  let (uri, r) ← takeUri? (skipSpaces r)
  if endsField r then some (.handle handle uri, r) else none

/-- A directive after its percent sign, up to the end of its line, and what follows it. -/
def takeDirective (s : List Char) : Except YamlError (Directive × List Char) := do
  let name := String.ofList (s.takeWhile isNameChar)
  let r := s.dropWhile isNameChar
  if name = "" ∨ endsField r = false then throw .malformed
  let (directive, r) ← match name with
    | "YAML" => do
      let (major, r) ← takeVersion r
      pure (Directive.version major, r)
    | "TAG" => found (takeHandleRule? r)
    | _ => pure (.reserved, r.dropWhile fun c => !isBreak c)
  return (directive, ← found (restOfLine? r))

end Yaml
end Dashboard
