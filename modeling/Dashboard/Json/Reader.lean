import Dashboard.Json.Basic
import Dashboard.Number.Binary
import Dashboard.Number.Digits
import Dashboard.Number.Literal
import Dashboard.Text.CodeUnit

/-!
# Reading JSON

`Json.read` reads a text that holds one JSON value. Beyond the standard it takes the numbers `NaN`,
`Infinity` and `-Infinity`. A field that an object names twice keeps its first place and its last
value. Lists and objects may be nested to a given depth, and integers have at most `mostDigits`
digits.

A `JsonFault` says what is wrong, and how many letters were left where it went wrong; `Json.read`
turns that into the number of letters before it.
-/

namespace Dashboard

/-- What is wrong with a JSON text. -/
inductive JsonIssue where
  | value
  | name
  | colon
  | comma
  | extra
  | unterminated
  | control
  | escape
  | unicodeEscape
  | tooLong (digits : Nat)
  | tooDeep
  deriving Repr, DecidableEq

/-- The wording of an issue. -/
def JsonIssue.message : JsonIssue → String
  | value => "Expecting value"
  | name => "Expecting property name enclosed in double quotes"
  | colon => "Expecting ':' delimiter"
  | comma => "Expecting ',' delimiter"
  | extra => "Extra data"
  | unterminated => "Unterminated string starting at"
  | control => "Invalid control character at"
  | escape => "Invalid \\escape"
  | unicodeEscape => "Invalid \\uXXXX escape"
  | tooLong digits => tooLongToRead digits
  | tooDeep => "maximum recursion depth exceeded"

/-- The text breaks the rules of JSON, and is not just too large. -/
def JsonIssue.isSyntax : JsonIssue → Bool
  | tooLong _ | tooDeep => false
  | _ => true

/-- An issue and a number of letters: those left, or those before it. -/
structure JsonFault where
  issue : JsonIssue
  count : Nat
  deriving Repr, DecidableEq

namespace Json

open Text

/-- Fails where the text `s` is left. -/
def fail {α : Type} (issue : JsonIssue) (s : List Char) : Except JsonFault α :=
  throw ⟨issue, (letters s).length⟩

/-- Blanks, tabs and line breaks. -/
def isSpace (c : Char) : Bool := c == ' ' || c == '\t' || c == '\n' || c == '\r'

/-- The text after the white space at its front. -/
def skipSpace (s : List Char) : List Char := s.dropWhile isSpace

/-! ### Texts -/

/-- The value of four hexadecimal digits. -/
def hexFour? : List Char → Option Nat
  | [a, b, c, d] => do
    some (16 * (16 * (16 * (← hexDigit? a) + (← hexDigit? b)) + (← hexDigit? c)) + (← hexDigit? d))
  | _ => none

/-- The character that a letter after a backslash stands for. -/
def simpleEscape? : Char → Option Char
  | '"' => some '"'
  | '\\' => some '\\'
  | '/' => some '/'
  | 'b' => some (Char.ofNat 8)
  | 'f' => some (Char.ofNat 12)
  | 'n' => some '\n'
  | 'r' => some '\r'
  | 't' => some '\t'
  | _ => none

/-- The letter that follows `\u`: of one code unit, or of two that make a pair; `s` starts at the
`u`. Four digits must not be the end of the text. -/
def readUnit (s : List Char) : Except JsonFault (Letter × List Char) :=
  let digits := (s.drop 1).take 4
  let rest := s.drop 5
  if rest.isEmpty then fail .unicodeEscape s
  else match hexFour? digits with
    | none => fail .unicodeEscape s
    | some n =>
      match isHighHalf n && decide (6 < rest.length), rest with
      | true, '\\' :: 'u' :: r => match hexFour? (r.take 4) with
        | none => fail .unicodeEscape ('u' :: r)
        | some m =>
          if isLowHalf m then return (.char (pairChar n m), r.drop 4)
          else return (.ofCode n, rest)
      | _, _ => return (.ofCode n, rest)

/-- The characters of a text up to its closing quote; `start` is the text from its opening quote. -/
def readChars (start : List Char) : Nat → List Char → Except JsonFault (List Char × List Char)
  | 0, _ => fail .unterminated start
  | _ + 1, [] => fail .unterminated start
  | n + 1, c :: r =>
    if c == '"' then return ([], r)
    else if c == '\\' then
      match r with
      | [] => fail .unterminated start
      | 'u' :: _ => do
        let (l, r') ← readUnit r
        let (cs, r'') ← readChars start n r'
        return (l.chars ++ cs, r'')
      | e :: r' => match simpleEscape? e with
        | none => fail .escape (c :: r)
        | some d => do
          let (cs, r'') ← readChars start n r'
          return (d :: cs, r'')
    else if c.toNat < 0x20 then fail .control (c :: r)
    else do
      let (cs, r') ← readChars start n r
      return (c :: cs, r')

/-- A text after its opening quote. -/
def readText (r : List Char) : Except JsonFault (String × List Char) := do
  let (cs, r') ← readChars ('"' :: r) (r.length + 1) r
  return (String.ofList cs, r')

/-! ### Numbers -/

/-- The digits of a natural number: a zero alone, or digits that start with another one. -/
def natDigits : List Char → List Nat × List Char
  | '0' :: r => ([0], r)
  | r => spanDigits asciiDigit? r

/-- A point with digits after it, or nothing. -/
def fractionDigits : List Char → List Nat × List Char
  | '.' :: r => match spanDigits asciiDigit? r with
    | ([], _) => ([], '.' :: r)
    | (ds, r') => (ds, r')
  | r => ([], r)

/-- An exponent, or nothing. -/
def exponentPart : List Char → Option Int × List Char
  | c :: r =>
    if c == 'e' || c == 'E' then
      let (negative, r') := splitSign r
      match spanDigits asciiDigit? r' with
      | ([], _) => (none, c :: r)
      | (ds, r'') => (some (signed negative (ofDigits ds)), r'')
    else (none, c :: r)
  | [] => (none, [])

/-- A number. -/
def readNumber (s : List Char) : Except JsonFault (Json × List Char) :=
  let negative := s.head? == some '-'
  match natDigits (if negative then s.drop 1 else s) with
  | ([], _) => fail .value s
  | (whole, r) =>
    let (fraction, r) := fractionDigits r
    let (exponent, r) := exponentPart r
    if fraction.isEmpty && exponent.isNone then
      if mostDigits < whole.length then fail (.tooLong whole.length) s
      else return (int (signed negative (ofDigits whole)), r)
    else
      let e := exponent.getD 0 - fraction.length
      return (float (Binary.nearestDecimal negative (ofDigits (whole ++ fraction)) e), r)

/-! ### Values -/

/-- The values that are written as words. -/
def constants : List (String × Json) :=
  [("null", null), ("true", bool true), ("false", bool false), ("NaN", float (0.0 / 0.0)),
    ("Infinity", float (1.0 / 0.0)), ("-Infinity", float (-1.0 / 0.0))]

/-- A value other than a list or an object. -/
def readAtom (s : List Char) : Except JsonFault (Json × List Char) :=
  match s with
  | '"' :: r => do
    let (t, r') ← readText r
    return (text t, r')
  | _ => match constants.find? fun c => c.1.toList.isPrefixOf s with
    | some (w, v) => return (v, s.drop w.length)
    | none => readNumber s

mutual

/-- A value in which lists and objects may be nested `room` deep; the second argument bounds the
number of steps. -/
def readValue : Nat → Nat → List Char → Except JsonFault (Json × List Char)
  | _, 0, s => fail .value s
  | room, n + 1, s => match s, room with
    | '[' :: _, 0 | '\x7b' :: _, 0 => fail .tooDeep s
    | '[' :: r, room + 1 => match skipSpace r with
      | ']' :: r' => return (list [], r')
      | r' => do
        let (items, r'') ← readItems room n r'
        return (list items, r'')
    | '\x7b' :: r, room + 1 => match skipSpace r with
      | '\x7d' :: r' => return (object [], r')
      | r' => do
        let (fields, r'') ← readFields room n [] r'
        return (object fields, r'')
    | _, _ => readAtom s

/-- The items of a list, up to its bracket. -/
def readItems : Nat → Nat → List Char → Except JsonFault (List Json × List Char)
  | _, 0, s => fail .value s
  | room, n + 1, s => do
    let (item, r) ← readValue room n s
    match skipSpace r with
    | ']' :: r' => return ([item], r')
    | ',' :: r' =>
      let (items, r'') ← readItems room n (skipSpace r')
      return (item :: items, r'')
    | r' => fail .comma r'

/-- The fields of an object, up to its brace, put after the fields read so far. -/
def readFields : Nat → Nat → Fields Json → List Char → Except JsonFault (Fields Json × List Char)
  | _, 0, _, s => fail .value s
  | room, n + 1, fields, s => match s with
    | '"' :: r => do
      let (name, r) ← readText r
      match skipSpace r with
      | ':' :: r =>
        let (value, r) ← readValue room n (skipSpace r)
        let fields := fields.put name value
        match skipSpace r with
        | '\x7d' :: r => return (fields, r)
        | ',' :: r => readFields room n fields (skipSpace r)
        | r => fail .comma r
      | r => fail .colon r
    | _ => fail .name s

end

/-- Reads a text that holds one value, nested at most `deepest` deep; a fault counts the letters
before it. -/
def read (deepest : Nat) (s : String) : Except JsonFault Json :=
  let cs := s.toList
  let answer : Except JsonFault Json := do
    let (v, r) ← readValue deepest (2 * cs.length + 2) (skipSpace cs)
    match skipSpace r with
    | [] => return v
    | r => fail .extra r
  answer.mapError fun f => { f with count := (letters cs).length - f.count }

end Json
end Dashboard
