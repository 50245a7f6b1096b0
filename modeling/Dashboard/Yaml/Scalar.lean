import Dashboard.Number.Decimal
import Dashboard.Number.Literal
import Dashboard.Text.Case
import Dashboard.Time.Reading
import Dashboard.Yaml.Error

/-!
# Types of scalars

A scalar without quotes has the type that its text suggests: `Tag.ofPlain` recognises truth values,
integers, doubles, timestamps, the missing value, the two marks `<<` and `=`, and the signs that
start tags, names and aliases, which have no value; any other text is a text. `Tag.read` reads a
scalar of a type as a document.

Integers may be binary, octal, hexadecimal, or of base sixty with colons; doubles may have base
sixty too. Underscores do not count.
-/

namespace Dashboard
namespace Yaml

/-- The types of nodes. -/
inductive Tag where
  | null
  | bool
  | int
  | float
  | binary
  | timestamp
  | omap
  | pairs
  | set
  | str
  | seq
  | map
  | merge
  | value
  | other
  deriving Repr, DecidableEq

/-- The front of the addresses of the standard types. -/
def standardUri : String := "tag:yaml.org,2002:"

/-- The types by their names. -/
def Tag.names : List (String × Tag) :=
  [("null", null), ("bool", bool), ("int", int), ("float", float), ("binary", binary),
    ("timestamp", timestamp), ("omap", omap), ("pairs", pairs), ("set", set), ("str", str),
    ("seq", seq), ("map", map), ("merge", merge), ("value", value)]

/-- The type of an address. -/
def Tag.ofUri (uri : String) : Tag :=
  ((names.find? fun n => standardUri ++ n.1 == uri).map Prod.snd).getD other

/-! ### Forms of plain scalars -/

namespace Form

/-- A decimal digit. -/
def isDigit (c : Char) : Bool := (asciiDigit? c).isSome

/-- A decimal digit or an underscore. -/
def isLoose (c : Char) : Bool := isDigit c || c == '_'

/-- Some characters, all of a class. -/
def isRun (p : Char → Bool) (s : List Char) : Bool := !s.isEmpty && s.all p

/-- A digit, and then digits and underscores. -/
def isNatural : List Char → Bool
  | [] => false
  | c :: r => isDigit c && r.all isLoose

/-- Parts between colons. -/
def colonParts : List Char → List (List Char)
  | [] => [[]]
  | c :: r => match c == ':', colonParts r with
    | true, ps => [] :: ps
    | false, p :: ps => (c :: p) :: ps
    | false, [] => [[c]]

/-- A number below sixty, of one digit or two. -/
def isSixtieth : List Char → Bool
  | [c] => isDigit c
  | [a, b] => '0' ≤ a && a ≤ '5' && isDigit b
  | _ => false

/-- The text after a sign, if there is one. -/
def unsigned (s : List Char) : List Char := (splitSign s).2

/-- Truth values. -/
def truths : List (String × Bool) :=
  [("yes", true), ("no", false), ("true", true), ("false", false), ("on", true), ("off", false)]

/-- A word in lower case, with a capital, or in upper case. -/
def isCased (word s : String) : Bool :=
  s == word || s == word.capitalize || s == word.toUpper

/-- The form of a truth value. -/
def isBool (s : String) : Bool := truths.any fun t => isCased t.1 s

/-- The form of the missing value. -/
def isNull (s : String) : Bool := s == "" || s == "~" || isCased "null" s

/-- The form of an integer without its sign. -/
def isUnsignedInt (s : List Char) : Bool :=
  match s with
  | '0' :: 'b' :: r => isRun (fun c => c == '0' || c == '1' || c == '_') r
  | '0' :: 'x' :: r => isRun (fun c => (hexDigit? c).isSome || c == '_') r
  | '0' :: r => r.all fun c => ('0' ≤ c && c ≤ '7') || c == '_'
  | _ => match colonParts s with
    | p :: ps => isNatural p && ps.all isSixtieth
    | [] => false

/-- The form of an integer. -/
def isInt (s : List Char) : Bool := isUnsignedInt (unsigned s)

/-- An exponent with its sign, or nothing. -/
def isExponent : List Char → Bool
  | [] => true
  | e :: sign :: r => (e == 'e' || e == 'E') && (sign == '+' || sign == '-') && isRun isDigit r
  | _ => false

/-- Digits and underscores, and then an exponent or nothing. -/
def isFraction (s : List Char) : Bool := isExponent (s.dropWhile isLoose)

/-- The form of a double of base sixty: the last part has a point. -/
def isSixtyFloat (s : List Char) : Bool :=
  match (colonParts s).reverse with
  | last :: p :: ps =>
    isSixtieth (last.takeWhile (· != '.')) &&
      (match last.dropWhile (· != '.') with
        | '.' :: r => r.all isLoose
        | _ => false) &&
      (match (p :: ps).reverse with
        | q :: qs => isNatural q && qs.all isSixtieth
        | [] => false)
  | _ => false

/-- The form of a double. -/
def isFloat (s : List Char) : Bool :=
  let body := unsigned s
  match s, body with
  | '.' :: c :: r, _ =>
    (isDigit c && isFraction r) || isCased "inf" (String.ofList (c :: r)) ||
      ["nan", "NaN", "NAN"].contains (String.ofList (c :: r))
  | _, '.' :: r => isCased "inf" (String.ofList r)
  | _, _ =>
    isSixtyFloat body ||
      (isNatural (body.takeWhile (· != '.')) &&
        match body.dropWhile (· != '.') with
        | '.' :: r => isFraction r
        | _ => false)

end Form

/-! ### Timestamps -/

/-- What a timestamp consists of: year, month and day; hour, minute and second; the digits of the
fraction; and the offset in seconds, if there is one. -/
structure Stamp where
  day : Nat × Nat × Nat
  clock : Option (Nat × Nat × Nat × List Nat × Option Int)
  deriving Repr, DecidableEq

namespace Stamp

/-- Digits at the front of a text, at least `least` and at most `most`. -/
def digits? (least most : Nat) (s : List Char) : Option (Nat × List Char) :=
  let ds := (spanDigits asciiDigit? (s.take most)).1
  if ds.length < least then none else some (ofDigits ds, s.drop ds.length)

/-- The text after a character at its front. -/
def char? (c : Char) : List Char → Option (List Char)
  | d :: r => if d == c then some r else none
  | [] => none

/-- A date whose month and day have at least `least` digits. -/
def date? (least : Nat) (s : List Char) : Option ((Nat × Nat × Nat) × List Char) := do
  let (year, r) ← digits? 4 4 s
  let (month, r) ← digits? least 2 (← char? '-' r)
  let (day, r) ← digits? least 2 (← char? '-' r)
  some ((year, month, day), r)

/-- Tabs and spaces. -/
def isSpace (c : Char) : Bool := c == ' ' || c == '\t'

/-- The text after the sign between date and time of day. -/
def separator? : List Char → Option (List Char)
  | c :: r =>
    if c == 'T' || c == 't' then some r
    else if isSpace c then some (r.dropWhile isSpace)
    else none
  | [] => none

/-- Hours of one or two digits and possibly minutes, up to the end of the text. -/
def offset? (s : List Char) : Option Nat := do
  let (hour, r) ← digits? 1 2 s
  match r with
  | [] => some (3600 * hour)
  | _ => do
    let (minute, r) ← digits? 2 2 (← char? ':' r)
    if r.isEmpty then some (3600 * hour + 60 * minute) else none

/-- The zone at the end of a text. -/
def zone? (s : List Char) : Option (Option Int) :=
  match s.dropWhile isSpace with
  | [] => if s.isEmpty then some none else none
  | ['Z'] => some (some 0)
  | '+' :: r => (offset? r).map fun n => some (n : Int)
  | '-' :: r => (offset? r).map fun n => some (-(n : Int))
  | _ => none

/-- The digits of a fraction after a point, if there is a point. -/
def fraction : List Char → List Nat × List Char
  | '.' :: r => spanDigits asciiDigit? r
  | r => ([], r)

/-- A date with a time of day. -/
def full? (s : List Char) : Option Stamp := do
  let (day, r) ← date? 1 s
  let (hour, r) ← digits? 1 2 (← separator? r)
  let (minute, r) ← digits? 2 2 (← char? ':' r)
  let (second, r) ← digits? 2 2 (← char? ':' r)
  let (ds, r) := fraction r
  let zone ← zone? r
  some ⟨day, some (hour, minute, second, ds, zone)⟩

/-- A date alone whose month and day have at least `least` digits. -/
def dateOnly? (least : Nat) (s : List Char) : Option Stamp :=
  match date? least s with
  | some (day, []) => some ⟨day, none⟩
  | _ => none

/-- The date of a timestamp, if the calendar has it. -/
def toDate (day : Nat × Nat × Nat) : Except CalendarFault Date :=
  let (y, m, d) := day
  if y = 0 then throw .year
  else if m = 0 ∨ 12 < m then throw .month
  else if d = 0 ∨ Date.daysInMonth y m < d then throw .day
  else return ⟨y, m, d⟩

/-- A timestamp as a document. -/
def toDocument (s : Stamp) : Except CalendarFault Document :=
  match s.clock with
  | none => return .date (← toDate s.day)
  | some (hour, minute, second, ds, zone) => do
    let offset := zone.getD 0
    if 86400 ≤ offset.natAbs then throw (.offset offset)
    let date ← toDate s.day
    if 24 ≤ hour then throw .hour
    if 60 ≤ minute then throw .minute
    if 60 ≤ second then throw .second
    return .time ⟨date, hour, minute, second, Timestamp.microOf ds, zone⟩

end Stamp

/-! ### Types and values -/

/-- The text without a line feed at its end, which does not belong to the form of a scalar. -/
def withoutFeed (s : List Char) : List Char :=
  match s.reverse with
  | '\n' :: r => r.reverse
  | _ => s

/-- The type that the text of a plain scalar suggests. A line feed alone is a text. -/
def Tag.ofPlain (whole : String) : Tag :=
  let s := withoutFeed whole.toList
  let text := String.ofList s
  if s.isEmpty && whole != "" then str
  else if Form.isBool text then bool
  else if Form.isFloat s then float
  else if Form.isInt s then int
  else if text == "<<" then merge
  else if Form.isNull text then null
  else if ((Stamp.dateOnly? 2 s).or (Stamp.full? s)).isSome then timestamp
  else if text == "=" then value
  else if ["!", "&", "*"].contains text then other
  else str

/-- The value of a digit of a base. -/
def digitIn? (base : Nat) (c : Char) : Option Nat :=
  ((hexDigit? c).or (Text.decimalValue? c)).filter (· < base)

/-- The letter after a zero that may announce a base. -/
def baseLetters (base : Nat) : List Char :=
  match base with
  | 2 => ['b', 'B']
  | 8 => ['o', 'O']
  | 16 => ['x', 'X']
  | _ => []

/-- The digits after a zero with the letter of the base, or all of them. -/
def dropBase (base : Nat) (s : List Char) : List Char :=
  match s with
  | '0' :: c :: r => if (baseLetters base).contains c then r else s
  | _ => s

/-- A number of a base, with white space around it, a sign, and the announcement of the base. -/
def intIn? (base : Nat) (s : List Char) : Option Int :=
  let (negative, body) := splitSign (Text.strip s)
  let ds := dropBase base body
  if ds.isEmpty then none
  else (ds.foldlM (fun n c => (digitIn? base c).map fun d => base * n + d) 0).map (signed negative)

/-- A number of a base, or the error that there is none. -/
def readIn (base : Nat) (s : List Char) : Except YamlError Int :=
  match intIn? base s with
  | some n => return n
  | none => throw (.integer base (String.ofList s))

/-- A decimal number, or the error that there is none. -/
def readDecimal (s : List Char) : Except YamlError Int :=
  (readInteger s).mapError fun
    | .malformed => .integer 10 (String.ofList s)
    | .tooLong digits => .longInteger digits

/-- The number whose digits in a base are given, first digit first. -/
def ofParts (base : Int) (ds : List Int) : Int := ds.foldl (fun n d => base * n + d) 0

/-- An integer without underscores and sign. -/
def readUnsigned (s : List Char) : Except YamlError Int :=
  match s with
  | [] => throw .emptyNumber
  | ['0'] => return 0
  | '0' :: 'b' :: r => readIn 2 r
  | '0' :: 'x' :: r => readIn 16 r
  | '0' :: _ => readIn 8 s
  | _ =>
    if s.contains ':' then do
      return ofParts 60 (← (Form.colonParts s).mapM readDecimal)
    else readDecimal s

/-- An integer. -/
def readSigned (s : List Char) : Except YamlError Int := do
  match s.filter (· != '_') with
  | [] => throw .emptyNumber
  | '-' :: r => return -(← readUnsigned r)
  | '+' :: r => readUnsigned r
  | r => readUnsigned r

/-- A double in decimal digits, or one of the names of an infinity or of no number. -/
def doubleOf? (s : List Char) : Option Float :=
  let (negative, body) := splitSign (Text.strip s)
  match Decimal.finiteOf? negative body with
  | some d => d.toFloat?
  | none =>
    if ["inf", "infinity"].contains (String.ofList body) then
      some (Binary.toFloat negative Binary.overflowBits)
    else if String.ofList body == "nan" then (Decimal.nan false).toFloat?
    else none

/-- A double, or the error that there is none. -/
def readDouble (s : List Char) : Except YamlError Float :=
  match doubleOf? s with
  | some x => return x
  | none => throw (.number (String.ofList s))

/-- Parts of base sixty, last part first, added from the last one on; the place of a part must not
be beyond all doubles. -/
def sixtyFold (place : Nat) (total : Float) : List Float → Except YamlError Float
  | [] => return total
  | x :: xs => match Binary.nearestInt? place with
    | some p => sixtyFold (60 * place) (total + x * p) xs
    | none => throw .overflow

/-- A double without underscores and sign, in lower case. -/
def readMagnitude (s : List Char) : Except YamlError Float :=
  if s == ".inf".toList then readDouble "inf".toList
  else if s == ".nan".toList then readDouble "nan".toList
  else if s.contains ':' then do
    sixtyFold 1 0.0 (← (Form.colonParts s).mapM readDouble).reverse
  else readDouble s

/-- The text of a double without underscores, in lower case. -/
def plainDigits (s : List Char) : List Char := Text.lower (s.filter (· != '_'))

/-- A double. -/
def readFloat (s : List Char) : Except YamlError Float := do
  match plainDigits s with
  | [] => throw .emptyNumber
  | '-' :: r => return -(← readMagnitude r)
  | '+' :: r => readMagnitude r
  | r => readMagnitude r

/-- The text of a double is the word for no number, which is one value however often it comes. -/
def isNaNText (s : List Char) : Bool := (splitSign (plainDigits s)).2 == ".nan".toList

/-- A truth value. -/
def readBool (s : String) : Except YamlError Bool :=
  match Form.truths.lookup s.toLower with
  | some b => return b
  | none => throw .unknownTruth

/-- A date or timestamp. -/
def readStamp (whole : List Char) : Except YamlError Document :=
  let s := withoutFeed whole
  match (Stamp.full? s).or (Stamp.dateOnly? 1 s) with
  | some t => t.toDocument.mapError .calendar
  | none => throw .notATimestamp

/-! ### Bytes -/

/-- The value of a digit of base sixty-four. -/
def digit64? (c : Char) : Option Nat :=
  if 'A' ≤ c ∧ c ≤ 'Z' then some (c.toNat - 0x41)
  else if 'a' ≤ c ∧ c ≤ 'z' then some (c.toNat - 0x61 + 26)
  else if '0' ≤ c ∧ c ≤ '9' then some (c.toNat - 0x30 + 52)
  else if c = '+' then some 62
  else if c = '/' then some 63
  else none

/-- The digits of base sixty-four up to the padding that completes a group of four; whatever is
neither digit nor padding does not count. None if the last group is not complete. -/
def digits64? (count pads : Nat) : List Char → Option (List Nat)
  | [] => if count % 4 = 0 then some [] else none
  | c :: r =>
    if c = '=' then
      if 2 ≤ count % 4 ∧ 4 ≤ count % 4 + pads + 1 then some [] else digits64? count (pads + 1) r
    else match digit64? c with
      | some d => (digits64? (count + 1) 0 r).map (d :: ·)
      | none => digits64? count pads r

/-- The bytes that digits of base sixty-four write, four digits for three bytes. -/
def bytes64 : List Nat → List UInt8
  | a :: b :: c :: d :: r =>
    UInt8.ofNat (4 * a + b / 16) :: UInt8.ofNat (b % 16 * 16 + c / 4) ::
      UInt8.ofNat (c % 4 * 64 + d) :: bytes64 r
  | [a, b, c] => [UInt8.ofNat (4 * a + b / 16), UInt8.ofNat (b % 16 * 16 + c / 4)]
  | [a, b] => [UInt8.ofNat (4 * a + b / 16)]
  | _ => []

/-- Bytes in base sixty-four. -/
def readBytes (s : List Char) : Except YamlError (List UInt8) :=
  if s.all fun c => decide (c.toNat < 0x80) then
    match digits64? 0 0 s with
    | some ds => return bytes64 ds
    | none => throw .malformed
  else throw .malformed

/-- A scalar of a type as a document. -/
def Tag.read (tag : Tag) (text : String) : Except YamlError Document :=
  match tag with
  | null => return .null
  | bool => return .bool (← readBool text)
  | int => return .int (← readSigned text.toList)
  | float => return .float (← readFloat text.toList)
  | binary => return .bytes (← readBytes text.toList)
  | timestamp => readStamp text.toList
  | str => return .text text
  | _ => throw .malformed

end Yaml
end Dashboard
