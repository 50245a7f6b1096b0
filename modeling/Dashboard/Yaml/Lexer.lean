import Dashboard.Yaml.Block
import Dashboard.Yaml.Plain
import Dashboard.Yaml.Quoted
import Dashboard.Yaml.Word

/-!
# Reading tokens

`Lexed.ofText` splits a YAML text into tokens, up to the first fault.

A key needs no indicator in front of it: whatever stands on one line before a colon may be one. So
the state of the reading, a `Lexer`, holds for every level of flow collections the `Candidate` for a
key that has been seen there last, and puts the token for the key where it belongs once the colon
comes. A candidate is dropped at the end of its line or when the colon is too far away. Where the
indentation demands a key, losing it is an error.

As long as there is a candidate, the tokens from its place on are not settled. A fault leaves the
tokens that were settled before, so that a reader of tokens meets its own faults first.
-/

namespace Dashboard
namespace Yaml

/-- A place in a text: the letters and lines before it, and the letters of its own line. -/
structure Place where
  index : Nat
  line : Nat
  column : Nat
  deriving Repr, DecidableEq

/-- The place after some letters. The mark of the byte order takes no column. -/
def Place.after (p : Place) : List Text.Letter → Place
  | [] => p
  | .char '\r' :: .char '\n' :: r => after ⟨p.index + 2, p.line + 1, 0⟩ r
  | .char c :: r =>
    if isBreak c then after ⟨p.index + 1, p.line + 1, 0⟩ r
    else if c == '\uFEFF' then after { p with index := p.index + 1 } r
    else after { p with index := p.index + 1, column := p.column + 1 } r
  | .half _ :: r => after { p with index := p.index + 1, column := p.column + 1 } r

/-- A possible key: whether there must be one, where it starts, and the number of tokens before. -/
structure Candidate where
  required : Bool
  place : Place
  count : Nat
  deriving Repr, DecidableEq

/-- The state of the reading; tokens and indentations are held last first. -/
structure Lexer where
  rest : List Char
  place : Place
  indent : Int
  indents : List Int
  keyAllowed : Bool
  candidate : Option Candidate
  outer : List (Option Candidate)
  tokens : List Token
  deriving Repr

namespace Lexer

/-- The reading of a text at its start. -/
def start (s : List Char) : Lexer :=
  { rest := s
    place := ⟨0, 0, 0⟩
    indent := -1
    indents := []
    keyAllowed := true
    candidate := none
    outer := []
    tokens := [] }

/-- The reading is inside a flow collection. -/
def inFlow (l : Lexer) : Bool := !l.outer.isEmpty

/-- Goes on with the text `r`, which is an end of the current one. -/
def moveTo (l : Lexer) (r : List Char) : Lexer :=
  let passed := l.rest.take (l.rest.length - r.length)
  { l with rest := r, place := l.place.after (Text.letters passed) }

/-- Goes on with the text `r` after a character that does not break the line. -/
def pass (l : Lexer) (r : List Char) : Lexer :=
  { l with rest := r, place := { l.place with
      index := l.place.index + 1, column := l.place.column + 1 } }

/-- Adds a token. -/
def emit (l : Lexer) (t : Token) : Lexer := { l with tokens := t :: l.tokens }

/-! ### Candidates for keys -/

/-- Drops the candidate of the current level. -/
def dropCandidate (l : Lexer) : Except YamlError Lexer :=
  match l.candidate with
  | some k => if k.required then throw .malformed else return { l with candidate := none }
  | none => return l

/-- What starts here may be a key. -/
def addCandidate (l : Lexer) : Except YamlError Lexer := do
  if l.keyAllowed then
    let required := !l.inFlow && l.indent == l.place.column
    let l ← l.dropCandidate
    return { l with candidate := some ⟨required, l.place, l.tokens.length⟩ }
  else return l

/-- The farthest that the colon may be from the start of its key. -/
def longestKey : Nat := 1024

/-- A candidate is on another line or too far away. -/
def isStale (p : Place) (k : Candidate) : Bool :=
  k.place.line != p.line || decide (longestKey < p.index - k.place.index)

/-- A candidate unless it is stale. -/
def refresh (p : Place) : Option Candidate → Except YamlError (Option Candidate)
  | some k =>
    if isStale p k then (if k.required then throw .malformed else return none) else return some k
  | none => return none

/-- Drops the stale candidates of all levels. -/
def dropStale (l : Lexer) : Except YamlError Lexer := do
  let candidate ← refresh l.place l.candidate
  let outer ← l.outer.mapM (refresh l.place)
  return { l with candidate, outer }

/-! ### Indentation -/

/-- Closes the block collections that are indented farther than `column`. -/
def unwindTo (column : Int) : Int → List Int → List Token → Int × List Int × List Token
  | indent, [], ts => (indent, [], ts)
  | indent, i :: is, ts =>
    if column < indent then unwindTo column i is (.blockEnd :: ts) else (indent, i :: is, ts)

/-- Closes the block collections that end before `column`; inside flow collections none does. -/
def unwind (l : Lexer) (column : Int) : Lexer :=
  if l.inFlow then l
  else
    let (indent, indents, tokens) := unwindTo column l.indent l.indents l.tokens
    { l with indent, indents, tokens }

/-- Puts tokens after the first `count` ones. -/
def insert (l : Lexer) (count : Nat) (ts : List Token) : Lexer :=
  let k := l.tokens.length - count
  { l with tokens := l.tokens.take k ++ ts.reverse ++ l.tokens.drop k }

/-- Puts tokens after the first `count` ones, after the start of a block collection if `column` is
indented farther than the current one. -/
def openBlock (l : Lexer) (column count : Nat) (opening : Token) (ts : List Token) : Lexer :=
  if !l.inFlow && decide (l.indent < column) then
    { l.insert count (opening :: ts) with indent := column, indents := l.indent :: l.indents }
  else l.insert count ts

/-! ### Indicators -/

/-- Passes over spaces, comments and empty lines: whether there was a line break, and the rest. -/
def skipGaps (inComment : Bool) : List Char → Bool × List Char
  | [] => (false, [])
  | c :: r =>
    if isBreak c then (true, (skipGaps false r).2)
    else if inComment then skipGaps true r
    else if c == ' ' then skipGaps false r
    else if c == '#' then skipGaps true r
    else (false, c :: r)

/-- Goes to the next token. After a line break there may be a key, except in flow collections. -/
def toToken (l : Lexer) : Lexer :=
  if (l.rest.head?.map fun c => c == ' ' || c == '#' || isBreak c).getD false then
    let (broken, r) := skipGaps false l.rest
    { l.moveTo r with keyAllowed := l.keyAllowed || (broken && !l.inFlow) }
  else l

/-- A directive or the marker of a document, which ends all block collections. -/
def topLevel (l : Lexer) (t : Token) (r : List Char) : Except YamlError Lexer := do
  let l ← (l.unwind (-1)).dropCandidate
  return { (l.emit t).moveTo r with keyAllowed := false }

/-- The start of a flow collection. -/
def openFlow (l : Lexer) (t : Token) (r : List Char) : Except YamlError Lexer := do
  let l ← l.addCandidate
  return { (l.emit t).pass r with
    keyAllowed := true, candidate := none, outer := l.candidate :: l.outer }

/-- The end of a flow collection. -/
def closeFlow (l : Lexer) (t : Token) (r : List Char) : Except YamlError Lexer := do
  let l ← l.dropCandidate
  match l.outer with
  | [] => throw .malformed
  | k :: outer => return { (l.emit t).pass r with keyAllowed := false, candidate := k, outer }

/-- The comma between entries of a flow collection. -/
def flowEntry (l : Lexer) (r : List Char) : Except YamlError Lexer := do
  let l ← l.dropCandidate
  return { (l.emit .flowEntry).pass r with keyAllowed := true }

/-- An indicator that may open a block collection where keys are allowed. -/
def blockMark (l : Lexer) (opening t : Token) (r : List Char) : Except YamlError Lexer := do
  if !l.inFlow && !l.keyAllowed then throw .malformed
  let l ← (l.openBlock l.place.column l.tokens.length opening []).dropCandidate
  return (l.emit t).pass r

/-- The hyphen before an entry of a block sequence. -/
def blockEntry (l : Lexer) (r : List Char) : Except YamlError Lexer := do
  let l ← l.blockMark .blockSequenceStart .blockEntry r
  return { l with keyAllowed := true }

/-- The question mark before a key. -/
def keyMark (l : Lexer) (r : List Char) : Except YamlError Lexer := do
  let l ← l.blockMark .blockMappingStart .key r
  return { l with keyAllowed := !l.inFlow }

/-- The colon before a value. The candidate of its level becomes the key. -/
def valueMark (l : Lexer) (r : List Char) : Except YamlError Lexer :=
  match l.candidate with
  | some k =>
    let l := { l with candidate := none, keyAllowed := false }
    return ((l.openBlock k.place.column k.count .blockMappingStart [.key]).emit .value).pass r
  | none => do
    let l ← l.blockMark .blockMappingStart .value r
    return { l with keyAllowed := !l.inFlow }

/-- A token that may be a key or stand at the front of one. -/
def word (l : Lexer) (t : Option (Token × List Char)) : Except YamlError Lexer := do
  let l ← l.addCandidate
  match t with
  | none => throw .malformed
  | some (t, r) => return { (l.emit t).moveTo r with keyAllowed := false }

/-! ### Scalars -/

/-- A scalar between quotes. -/
def quotedScalar (l : Lexer) (double : Bool) (r : List Char) : Except YamlError Lexer := do
  let l ← l.addCandidate
  let (text, r) ← Quoted.read double r
  return { (l.emit (.scalar (String.ofList text) false)).moveTo r with keyAllowed := false }

/-- A scalar without quotes. -/
def plainScalar (l : Lexer) : Except YamlError Lexer := do
  let l ← l.addCandidate
  let p := Plain.read l.inFlow (l.indent + 1) l.place.column l.rest
  let l := l.emit (.scalar (String.ofList p.text) true)
  return { l.moveTo p.rest with keyAllowed := p.broken }

/-- A scalar of indented lines. -/
def blockScalar (l : Lexer) (folded : Bool) (r : List Char) : Except YamlError Lexer := do
  let l ← l.dropCandidate
  match Block.read? folded (max 1 (l.indent + 1)).toNat r with
  | none => throw .malformed
  | some (text, r) =>
    return { (l.emit (.scalar (String.ofList text) false)).moveTo r with keyAllowed := true }

/-! ### Steps -/

/-- The token that starts with the character `c`, which `r` follows. -/
def step (l : Lexer) (c : Char) (r : List Char) : Except YamlError Lexer :=
  if c == '%' && l.place.column == 0 then do
    let l ← (l.unwind (-1)).dropCandidate
    let (d, r) ← takeDirective r
    l.topLevel (.directive d) r
  else if l.place.column == 0 && atMarker (c :: r) then
    l.topLevel (if c == '-' then .documentStart else .documentEnd) (r.drop 2)
  else if c == '[' then l.openFlow .flowSequenceStart r
  else if c == '\x7b' then l.openFlow .flowMappingStart r
  else if c == ']' then l.closeFlow .flowSequenceEnd r
  else if c == '\x7d' then l.closeFlow .flowMappingEnd r
  else if c == ',' then l.flowEntry r
  else if c == '-' && endsWord r then l.blockEntry r
  else if c == '?' && (l.inFlow || endsWord r) then l.keyMark r
  else if c == ':' && (l.inFlow || endsWord r) then l.valueMark r
  else if c == '*' then l.word ((takeName? r).map fun n => (.alias n.1, n.2))
  else if c == '&' then l.word ((takeName? r).map fun n => (.anchor n.1, n.2))
  else if c == '!' then l.word (takeTag? r)
  else if c == '|' && !l.inFlow then l.blockScalar false r
  else if c == '>' && !l.inFlow then l.blockScalar true r
  else if c == '\'' then l.quotedScalar false r
  else if c == '"' then l.quotedScalar true r
  else if Plain.starts l.inFlow (c :: r) then l.plainScalar
  else throw .malformed

/-- The number of tokens that are settled: those before the first candidate. -/
def settled (l : Lexer) : Nat :=
  (l.candidate :: l.outer).foldl (fun n k => (k.map fun k => min n k.count).getD n) l.tokens.length

/-- The tokens so far, first one first. -/
def allTokens (l : Lexer) : List Token := l.tokens.reverse

/-- Goes on by one token, or by the end of the text, which is none. -/
def next (l : Lexer) : Except YamlError (Option Lexer) := do
  let l ← l.toToken.dropStale
  let l := l.unwind l.place.column
  match l.rest with
  | [] => return none
  | c :: r => return some (← (← l.step c r).dropStale)

/-- The tokens at the end of the text: all collections end. -/
def finish (l : Lexer) : Except YamlError (List Token) := do
  let l ← (l.toToken.unwind (-1)).dropCandidate
  return l.allTokens

end Lexer

/-- The tokens of a text, all of them or those that a fault leaves. -/
structure Lexed where
  tokens : List Token
  fault : Option YamlError
  deriving Repr, DecidableEq

namespace Lexer

/-- The tokens that are settled before a fault. -/
def stop (l : Lexer) (e : YamlError) : Lexed := ⟨l.allTokens.take l.settled, some e⟩

/-- Reads at most `n` tokens and the end of the text; if the text is not whole, its end is a
fault. -/
def run (whole : Bool) : Nat → Lexer → Lexed
  | 0, l => l.stop .malformed
  | n + 1, l => match l.next with
    | .error e => l.stop e
    | .ok (some l) => run whole n l
    | .ok none =>
      if whole then
        match l.finish with
        | .error e => l.stop e
        | .ok ts => ⟨ts, none⟩
      else l.stop .malformed

end Lexer

/-! ### Texts -/

/-- The letters that a YAML text may hold. -/
def isYamlLetter (l : Text.Letter) : Bool :=
  let n := l.code
  (n == 0x9 || n == 0xA || n == 0xD || (0x20 ≤ n && n ≤ 0x7E) || n == 0x85 ||
    (0xA0 ≤ n && n ≤ 0xFFFD) || 0x10000 ≤ n) && !l.isHalf

/-- The text with a line feed for every carriage return, alone or before a line feed. -/
def lineFeeds : List Char → List Char
  | [] => []
  | '\r' :: '\n' :: r => '\n' :: lineFeeds r
  | c :: r => (if c == '\r' then '\n' else c) :: lineFeeds r

/-- The number of letters that are looked at together, before the first of them is read. -/
def blockSize : Nat := 4096

/-- The number of letters that can be read before one that must not be there: its whole block is
lost, and the first two blocks are looked at together. -/
def readable (index : Nat) : Nat :=
  if index < 2 * blockSize then 0 else index / blockSize * blockSize

/-- The tokens of a text. A mark of the byte order in front does not count. -/
def Lexed.ofText (s : String) : Lexed :=
  let all := lineFeeds s.toList
  let ls := Text.letters all
  let (cs, whole) := match ls.findIdx? fun l => !isYamlLetter l with
    | some i => ((ls.take (readable i)).flatMap Text.Letter.chars, false)
    | none => (all, true)
  let body := match cs with
    | '\uFEFF' :: r => r
    | r => r
  if cs.isEmpty && !whole then ⟨[], some .malformed⟩
  else (Lexer.start body).run whole (body.length + 1)

end Yaml
end Dashboard
