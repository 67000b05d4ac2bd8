import Custody.Text.Ranges

/-!
# Blanks

The characters with the Unicode property White_Space.  They separate words and tokens, and they
are what is cut from both ends of a text before a number is read from it.
-/

namespace Custody.Text

/-- The blanks above the ASCII block. -/
def blankRanges : Ranges := [
    (0x85, 0x85), (0xA0, 0xA0), (0x1680, 0x1680), (0x2000, 0x200A), (0x2028, 0x2029),
    (0x202F, 0x202F), (0x205F, 0x205F), (0x3000, 0x3000)]

/-- Whether a character is blank: the six ASCII blanks, or one of the higher ranges. -/
def isBlank (c : Char) : Bool :=
  if c.toNat < 0x80 then c == ' ' || (0x09 ≤ c.toNat && c.toNat ≤ 0x0D)
  else blankRanges.contains c.toNat

/-- A text without the blanks at its two ends. -/
def trim (text : List Char) : List Char :=
  ((text.dropWhile isBlank).reverse.dropWhile isBlank).reverse

/-- The words of a text: its maximal runs of characters that are not blank. -/
def words (text : List Char) : List (List Char) :=
  let flush (word : List Char) (found : List (List Char)) :=
    if word.isEmpty then found else word :: found
  let rec go : List Char → List Char → List (List Char)
    | [], word => flush word.reverse []
    | c :: rest, word => if isBlank c then flush word.reverse (go rest []) else go rest (c :: word)
  go text []

end Custody.Text
