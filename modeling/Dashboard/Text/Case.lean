import Dashboard.Text.CaseTable
import Dashboard.Text.Class

/-!
# Letter case

* `upper` maps every character to its full upper case form, which may be several characters.
* `lower` maps every character to its full lower case form; a capital sigma that ends a word
  becomes the final small sigma.

On ASCII both are shifts by 32.
-/

namespace Dashboard
namespace Text

/-- The code point that a table of case runs maps `n` to. -/
def applyRuns (table : Array CaseRun) (n : Nat) : Nat :=
  match table.find? fun r =>
      decide (r.first ≤ n) && decide (n ≤ r.last) && (n - r.first) % r.stride == 0 with
  | some r => ((n : Int) + r.shift).toNat
  | none => n

/-- The upper case form of a character. -/
def upperChar (c : Char) : List Char :=
  if c.toNat < 0x80 then
    if 'a' ≤ c && c ≤ 'z' then [Char.ofNat (c.toNat - 0x20)] else [c]
  else match upperExpansions.find? fun e => e.1 == c.toNat with
    | some e => e.2.map Char.ofNat
    | none => [Char.ofNat (applyRuns upperRuns c.toNat)]

/-- The upper case form of a text. -/
def upper (s : List Char) : List Char := s.flatMap upperChar

/-- The lower case form of a character, whatever surrounds it. -/
def lowerChar (c : Char) : List Char :=
  if c.toNat < 0x80 then
    if 'A' ≤ c && c ≤ 'Z' then [Char.ofNat (c.toNat + 0x20)] else [c]
  else if c == 'İ' then ['i', Char.ofNat 0x307]
  else [Char.ofNat (applyRuns lowerRuns c.toNat)]

/-- The nearest character that is not ignorable has a case. -/
def startsCased (s : List Char) : Bool :=
  match s.dropWhile fun c => inRanges ignorableRanges c.toNat with
  | [] => false
  | c :: _ => inRanges casedRanges c.toNat

/-- Lower case of the rest of a text; `before` is what precedes it, nearest character first. -/
def lowerAfter (before : List Char) : List Char → List Char
  | [] => []
  | c :: r =>
    (if c == 'Σ' then [if startsCased before && !startsCased r then 'ς' else 'σ']
      else lowerChar c) ++ lowerAfter (c :: before) r

/-- The lower case form of a text. -/
def lower (s : List Char) : List Char := lowerAfter [] s

end Text
end Dashboard
