/-!
# Letters

A text is a list of letters. A letter is a character, or half of a pair of code units that has lost
its partner, which is no character.

So that a `String` can hold every text, the last of all code points, the `mark`, announces the
letters that are not written as themselves: the mark is written twice, and a half as the mark and
one of the characters from `firstHalf` on. Every other character stands for itself.

* `Letter.chars` are the characters that a letter is kept as, `ofLetters` is the text of letters.
* `letters` finds the letters again: `letters_flatMap_chars`. A mark that announces nothing counts
  as a letter.
* `hasHalf` holds of the texts that cannot be written, since there is a half among their letters.
* `bytes` are the bytes of a text, those of a half being the three that a character of its number
  would have.
-/

namespace Dashboard
namespace Text

/-- A character, or half of a pair of code units: the numbers from `0xD800` on. -/
inductive Letter where
  | char (c : Char)
  | half (i : Fin 0x800)
  deriving Repr, DecidableEq

/-- The character in front of a letter that is not written as itself. -/
def mark : Char := Char.ofNat 0x10FFFF

/-- The character that the first half is written as, after the mark. -/
def firstHalf : Nat := 0x10F000

namespace Letter

/-- The number of a letter. -/
def code : Letter → Nat
  | char c => c.toNat
  | half i => 0xD800 + i.val

/-- The letter of a number. -/
def ofCode (n : Nat) : Letter :=
  if h : 0xD800 ≤ n ∧ n < 0xE000 then half ⟨n - 0xD800, by omega⟩ else char (Char.ofNat n)

/-- The letter is a half. -/
def isHalf : Letter → Bool
  | char _ => false
  | half _ => true

/-- The characters that a letter is kept as. -/
def chars : Letter → List Char
  | char c => if c = mark then [mark, mark] else [c]
  | half i => [mark, Char.ofNat (firstHalf + i.val)]

/-- The letter that is kept as the mark and the character `c`. -/
def marked? (c : Char) : Option Letter :=
  if c = mark then some (char mark)
  else if h : firstHalf ≤ c.toNat ∧ c.toNat < firstHalf + 0x800 then
    some (half ⟨c.toNat - firstHalf, by omega⟩)
  else none

/-- The bytes of a letter. -/
def bytes : Letter → List UInt8
  | char c => String.utf8EncodeChar c
  | half i => [0xED, UInt8.ofNat (0xA0 + i.val / 0x40), UInt8.ofNat (0x80 + i.val % 0x40)]

theorem marked?_mark : marked? mark = some (char mark) := if_pos rfl

theorem toNat_firstHalf_add (i : Fin 0x800) :
    (Char.ofNat (firstHalf + i.val)).toNat = firstHalf + i.val := by
  have hvalid : (firstHalf + i.val).isValidChar := by
    simp only [Nat.isValidChar, firstHalf]
    omega
  rw [Char.ofNat, dif_pos hvalid]
  rfl

theorem marked?_half (i : Fin 0x800) :
    marked? (Char.ofNat (firstHalf + i.val)) = some (half i) := by
  have hcode := toNat_firstHalf_add i
  have hmark : Char.ofNat (firstHalf + i.val) ≠ mark := by
    intro h
    have hlast : firstHalf + i.val = 0x10FFFF := by rw [← hcode, h]; rfl
    simp only [firstHalf] at hlast
    omega
  rw [marked?, if_neg hmark, dif_pos (by omega)]
  simp only [hcode, Nat.add_sub_cancel_left]

end Letter

/-- The letters of a text. -/
def letters : List Char → List Letter
  | [] => []
  | [c] => [.char c]
  | c :: d :: r =>
    match if c = mark then Letter.marked? d else none with
    | some l => l :: letters r
    | none => .char c :: letters (d :: r)

/-- The text of letters. -/
def ofLetters (ls : List Letter) : String := String.ofList (ls.flatMap Letter.chars)

/-- Some letter of a text is a half. -/
def hasHalf (s : String) : Bool := (letters s.toList).any Letter.isHalf

/-- The text with three replacement characters for every half, one for each of its bytes. -/
def replaceHalves (s : String) : String :=
  String.ofList ((letters s.toList).flatMap fun
    | .half _ => List.replicate 3 '\uFFFD'
    | l => l.chars)

/-- The bytes of a text. -/
def bytes (s : String) : List UInt8 := (letters s.toList).flatMap Letter.bytes

@[simp] theorem letters_nil : letters [] = [] := rfl

theorem letters_cons_of_ne {c : Char} (h : c ≠ mark) (r : List Char) :
    letters (c :: r) = .char c :: letters r := by
  cases r with
  | nil => rfl
  | cons d r => rw [letters, if_neg h]

theorem letters_mark_cons {d : Char} {l : Letter} (h : Letter.marked? d = some l) (r : List Char) :
    letters (mark :: d :: r) = l :: letters r := by
  rw [letters, if_pos rfl, h]

/-- The first letter of a text that starts with what the letter is kept as. -/
theorem letters_chars_append (l : Letter) (r : List Char) :
    letters (l.chars ++ r) = l :: letters r := by
  cases l with
  | half i => exact letters_mark_cons (Letter.marked?_half i) r
  | char c =>
    rw [Letter.chars]
    split
    · rename_i hc
      rw [hc]
      exact letters_mark_cons Letter.marked?_mark r
    · rename_i hc
      exact letters_cons_of_ne hc r

/-- The letters of a text are found in the characters that they are kept as. -/
theorem letters_flatMap_chars (ls : List Letter) : letters (ls.flatMap Letter.chars) = ls := by
  induction ls with
  | nil => rfl
  | cons l ls ih => rw [List.flatMap_cons, letters_chars_append, ih]

theorem letters_ofLetters (ls : List Letter) : letters (ofLetters ls).toList = ls := by
  rw [ofLetters, String.toList_ofList, letters_flatMap_chars]

/-- Different letters make different texts. -/
theorem ofLetters_injective {ls ms : List Letter} (h : ofLetters ls = ofLetters ms) : ls = ms := by
  rw [← letters_ofLetters ls, h, letters_ofLetters]

/-- A text has a half exactly if there is one among the letters that it is made of. -/
theorem hasHalf_ofLetters (ls : List Letter) : hasHalf (ofLetters ls) = ls.any Letter.isHalf := by
  rw [hasHalf, letters_ofLetters]

/-- A character for private use is no half, nor is the mark. -/
example : hasHalf (ofLetters [.ofCode 0xFA000, .ofCode 0x10FFFF, .ofCode 0x10F000]) = false ∧
    hasHalf (ofLetters [.ofCode 0xD800]) = true := by
  decide +kernel

end Text
end Dashboard
