/-!
# White space

* `isBlank` is the white space of the Unicode standard together with the four information
  separators `U+001C`–`U+001F`.
* `strip` drops it at both ends of a text, `words` splits a text at it, and `fold` joins the words
  with one space each.
-/

namespace Dashboard
namespace Text

/-- White space, line breaks and information separators. -/
def isBlank (c : Char) : Bool :=
  let n := c.toNat
  (0x9 ≤ n && n ≤ 0xD) || (0x1C ≤ n && n ≤ 0x20) || n == 0x85 || n == 0xA0 || n == 0x1680 ||
    (0x2000 ≤ n && n ≤ 0x200A) || n == 0x2028 || n == 0x2029 || n == 0x202F || n == 0x205F ||
    n == 0x3000

/-- The text without white space at its end. -/
def stripRight : List Char → List Char
  | [] => []
  | c :: r => match stripRight r with
    | [] => if isBlank c then [] else [c]
    | s => c :: s

/-- The text without white space at either end. -/
def strip (s : List Char) : List Char := stripRight (s.dropWhile isBlank)

/-- The maximal runs of characters that are not white space, in order. -/
def words : List Char → List (List Char)
  | [] => []
  | c :: r =>
    if isBlank c then words r
    else match r.head?.map isBlank, words r with
      | some false, w :: ws => (c :: w) :: ws
      | _, ws => [c] :: ws

/-- The words of a text with one space between two of them. -/
def fold (s : List Char) : List Char := [' '].intercalate (words s)

@[simp] theorem strip_nil : strip [] = [] := rfl

@[simp] theorem words_nil : words [] = [] := rfl

end Text
end Dashboard
