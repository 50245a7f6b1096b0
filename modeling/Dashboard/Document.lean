import Dashboard.Json.Basic
import Dashboard.Number.Literal
import Dashboard.Number.Shortest
import Dashboard.Text.Quoted
import Dashboard.Time.Timestamp

/-!
# Documents

A `Document` is the raw content of a registry file: what a YAML text can say, and so also what a
JSON text can say.

A collection may be part of itself. Then it is `named` by a number, and inside it `again` with that
number stands for it. `Document.fill` puts the collection back in such places, so that what
`Document.items?` and `Document.entries?` give never refers to the outside.

* `Document.ofJson` takes a JSON value as a document.
* `Document.shown` is the form in which messages show a document, `Document.sentence` the same
  except that a text, a date or a timestamp stands for itself. A collection inside itself is shown
  as three dots.
* `Document.isFalsy` holds of the documents that count as absent: nothing, false, zero and whatever
  is empty.
* `Document.items?` lists what a document that holds other documents consists of.
* `Document.isEndless` holds of a document with a collection that is part of itself,
  `Document.hasLongInteger` of one with an integer that has too many digits to be written.
-/

namespace Dashboard

/-- The kinds of brackets that collections are shown in. -/
inductive Brackets where
  | round
  | square
  | curly
  deriving Repr, DecidableEq

/-- The raw content of a registry file. -/
inductive Document where
  | null
  | bool (b : Bool)
  | int (n : Int)
  | float (x : Float)
  | text (s : String)
  | bytes (bs : List UInt8)
  | date (d : Date)
  | time (t : Timestamp)
  | list (items : List Document)
  | tuple (items : List Document)
  | set (items : List Document)
  | map (entries : List (Document × Document))
  | named (label : Nat) (collection : Document)
  | again (label : Nat) (brackets : Brackets)
  deriving Repr, Inhabited

namespace Document

mutual

/-- A JSON value as a document. -/
def ofJson : Json → Document
  | .null => null
  | .bool b => bool b
  | .int n => int n
  | .float x => float x
  | .text s => text s
  | .list items => list (ofJsonItems items)
  | .object fields => map (ofJsonFields fields)

/-- JSON values as documents. -/
def ofJsonItems : List Json → List Document
  | [] => []
  | j :: js => ofJson j :: ofJsonItems js

/-- The fields of a JSON object as entries of a map. -/
def ofJsonFields : List (String × Json) → List (Document × Document)
  | [] => []
  | (k, j) :: fs => (text k, ofJson j) :: ofJsonFields fs

end

/-! ### How documents are shown -/

/-- Texts with a comma between two of them. -/
def commaText (parts : List String) : String := ", ".intercalate parts

/-- A date as messages show it. -/
def shownDate (d : Date) : String :=
  "datetime.date(" ++ commaText ([d.year, d.month, d.day].map toString) ++ ")"

/-- A length of time as messages show it: whole days, of which there may be fewer than none, and
seconds. -/
def shownLength (seconds : Int) : String :=
  let days := Int.fdiv seconds 86400
  let rest := Int.fmod seconds 86400
  let parts :=
    (if days = 0 then [] else ["days=" ++ toString days]) ++
      (if rest = 0 then [] else ["seconds=" ++ toString rest])
  "datetime.timedelta(" ++ commaText parts ++ ")"

/-- An offset from UTC as messages show it. -/
def shownOffset (offset : Int) : String :=
  if offset = 0 then "datetime.timezone.utc"
  else "datetime.timezone(" ++ shownLength offset ++ ")"

/-- A timestamp as messages show it: seconds and microseconds only as far as there are any. -/
def shownTime (t : Timestamp) : String :=
  let tail := if t.micro = 0 then (if t.second = 0 then [] else [t.second]) else [t.second, t.micro]
  let parts := ([t.date.year, t.date.month, t.date.day, t.hour, t.minute] ++ tail).map toString
  let zone := (t.offset.map fun o => ["tzinfo=" ++ shownOffset o]).getD []
  "datetime.datetime(" ++ commaText (parts ++ zone) ++ ")"

/-- Bytes as messages show them. -/
def shownBytes (bs : List UInt8) : String :=
  let q := Text.quoteFor (bs.map fun b => Char.ofNat b.toNat)
  String.ofList ('b' :: q :: bs.flatMap (Text.escapedByte q) ++ [q])

/-- The brackets of a collection. -/
def brackets : Document → Brackets
  | tuple _ => .round
  | list _ => .square
  | named _ d => d.brackets
  | again _ b => b
  | _ => .curly

/-- A collection inside itself. -/
def dots : Brackets → String
  | .round => "(...)"
  | .square => "[...]"
  | .curly => "\x7b...\x7d"

mutual

/-- A document as messages show it inside the collections with the given labels. -/
def shownIn (inside : List Nat) : Document → String
  | null => "None"
  | bool b => if b then "True" else "False"
  | int n => toString n
  | float x => floatText x
  | text s => Text.quoted s
  | bytes bs => shownBytes bs
  | date d => shownDate d
  | time t => shownTime t
  | list items => "[" ++ commaText (shownItems inside items) ++ "]"
  | tuple [d] => "(" ++ shownIn inside d ++ ",)"
  | tuple items => "(" ++ commaText (shownItems inside items) ++ ")"
  | set [] => "set()"
  | set (d :: ds) => "\x7b" ++ commaText (shownIn inside d :: shownItems inside ds) ++ "\x7d"
  | map entries => "\x7b" ++ commaText (shownEntries inside entries) ++ "\x7d"
  | named label d =>
    if inside.contains label then dots d.brackets else shownIn (label :: inside) d
  | again _ b => dots b

/-- Documents as messages show them. -/
def shownItems (inside : List Nat) : List Document → List String
  | [] => []
  | d :: ds => shownIn inside d :: shownItems inside ds

/-- Entries as messages show them. -/
def shownEntries (inside : List Nat) : List (Document × Document) → List String
  | [] => []
  | (k, v) :: es =>
    (shownIn inside k ++ ": " ++ shownIn inside v) :: shownEntries inside es

end

/-- A document as messages show it. -/
def shown (d : Document) : String := shownIn [] d

/-- A document inside a sentence: a text stands for itself, and so do dates and timestamps. -/
def sentence : Document → String
  | text s => s
  | date d => d.iso
  | time t =>
    String.ofList (t.localText ' ' ++ (t.offset.map Timestamp.offsetText).getD [])
  | d => shown d

/-! ### Collections inside themselves -/

mutual

/-- Puts a collection in the places that stand for it. -/
def fill (label : Nat) (whole : Document) : Document → Document
  | list items => list (fillItems label whole items)
  | tuple items => tuple (fillItems label whole items)
  | set items => set (fillItems label whole items)
  | map entries => map (fillEntries label whole entries)
  | named l d => if l = label then named l d else named l (fill label whole d)
  | again l b => if l = label then whole else again l b
  | d => d

/-- Puts a collection in the places of documents that stand for it. -/
def fillItems (label : Nat) (whole : Document) : List Document → List Document
  | [] => []
  | d :: ds => fill label whole d :: fillItems label whole ds

/-- Puts a collection in the places of entries that stand for it. -/
def fillEntries (label : Nat) (whole : Document) :
    List (Document × Document) → List (Document × Document)
  | [] => []
  | (k, v) :: es => (fill label whole k, fill label whole v) :: fillEntries label whole es

end

mutual

/-- Some collection of a document is part of itself. -/
def isEndless : Document → Bool
  | list items => areEndless items
  | tuple items => areEndless items
  | set items => areEndless items
  | map entries => areEndlessEntries entries
  | named .. => true
  | again .. => true
  | _ => false

/-- Some collection of documents is part of itself. -/
def areEndless : List Document → Bool
  | [] => false
  | d :: ds => isEndless d || areEndless ds

/-- Some collection of entries is part of itself. -/
def areEndlessEntries : List (Document × Document) → Bool
  | [] => false
  | (k, v) :: es => isEndless k || isEndless v || areEndlessEntries es

end

mutual

/-- Some integer of a document has too many digits to be written. -/
def hasLongInteger : Document → Bool
  | int n => !isWritable n
  | list items => haveLongInteger items
  | tuple items => haveLongInteger items
  | set items => haveLongInteger items
  | map entries => haveLongIntegerEntries entries
  | named _ d => hasLongInteger d
  | _ => false

/-- Some integer of documents has too many digits to be written. -/
def haveLongInteger : List Document → Bool
  | [] => false
  | d :: ds => hasLongInteger d || haveLongInteger ds

/-- Some integer of entries has too many digits to be written. -/
def haveLongIntegerEntries : List (Document × Document) → Bool
  | [] => false
  | (k, v) :: es => hasLongInteger k || hasLongInteger v || haveLongIntegerEntries es

end

/-! ### What documents hold -/

/-- The documents that count as absent. -/
def isFalsy : Document → Bool
  | null => true
  | bool b => !b
  | int n => n == 0
  | float x => x == 0
  | text s => s == ""
  | bytes bs => bs.isEmpty
  | date _ => false
  | time _ => false
  | list items => items.isEmpty
  | tuple items => items.isEmpty
  | set items => items.isEmpty
  | map entries => entries.isEmpty
  | named _ d => d.isFalsy
  | again .. => false

/-- The parts of a document, one after the other: the items of a list, the letters of a text, the
keys of a map. Numbers, dates and the like have no parts. -/
def items? : Document → Option (List Document)
  | text s => some ((Text.letters s.toList).map fun l => text (Text.ofLetters [l]))
  | bytes bs => some (bs.map fun b => int b.toNat)
  | list items => some items
  | tuple items => some items
  | set items => some items
  | map entries => some (entries.map Prod.fst)
  | named label d => d.items?.map (fillItems label (named label d))
  | _ => none

/-- A document is the given text. -/
def isText (s : String) : Document → Bool
  | text t => t == s
  | _ => false

/-- The entries of a map. -/
def entries? : Document → Option (List (Document × Document))
  | map entries => some entries
  | named label d => d.entries?.map (fillEntries label (named label d))
  | _ => none

/-- The value under a text in the entries of a map. -/
def lookup (key : String) (entries : List (Document × Document)) : Option Document :=
  (entries.find? fun e => e.1.isText key).map Prod.snd

end Document
end Dashboard
