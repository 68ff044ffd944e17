/-!
# Blanks

Which characters separate words, and the three things done with them: trimming a text at both ends,
cutting it into words, and dropping what stands in front.

Texts are lists of characters here and in everything that reads them. A reader consumes its input
from the front, and a list is the shape that says so; `String` appears only where a text enters or
leaves the library.

The class is the full one of the Unicode standard (`White_Space` and the four information
separators), not the ASCII blanks: a pasted pattern brings no-break and ideographic spaces along.
The zero width space is not a blank.
-/

namespace NoteChart.Text

/-- A blank: a character that separates words. -/
def isBlank (c : Char) : Bool :=
  let n := c.toNat
  (0x09 ≤ n && n ≤ 0x0d) || (0x1c ≤ n && n ≤ 0x20) || n == 0x85 || n == 0xa0 || n == 0x1680 ||
    (0x2000 ≤ n && n ≤ 0x200a) || n == 0x2028 || n == 0x2029 || n == 0x202f || n == 0x205f ||
    n == 0x3000

/-- The text without the characters in `drop` at its two ends. -/
def trimBy (drop : Char → Bool) (text : List Char) : List Char :=
  ((text.dropWhile drop).reverse.dropWhile drop).reverse

/-- The text without the blanks at its two ends. -/
def trim (text : List Char) : List Char := trimBy isBlank text

/-- The pieces between blanks, empty ones included: a text with `n` blanks has `n + 1` pieces. -/
def pieces : List Char → List (List Char)
  | [] => [[]]
  | c :: rest =>
    if isBlank c then [] :: pieces rest
    else
      match pieces rest with
      | [] => [[c]]
      | piece :: more => (c :: piece) :: more

/-- The words of a text, in order: the maximal runs without a blank. -/
def words (text : List Char) : List (List Char) := (pieces text).filter (!·.isEmpty)

end NoteChart.Text
