import NoteChart.Number.Binary64
import NoteChart.Text.DecimalDigit

/-!
# Written numbers

Numbers as people write them in a command, in an environment variable or in a quoted setting. An
integer is a sign and digits, and there is a limit to their number. A real may have a point and an
exponent, and may be the word for an infinity or for what is not a number; its digits have no limit.

Single underscores between digits are read over. `withoutSeparators?` is that rule, said once; the
readers behind it know nothing of underscores.
-/

namespace NoteChart.Number

/-- Writes a digit of any script as the one of `0` to `9` with its value. -/
def asciiForm (c : Char) : Char :=
  match Text.digit? c with
  | some value => Char.ofNat (48 + value)
  | none => c

/-- The character is one of `0` to `9`. -/
def isDigit (c : Char) : Bool := (Text.asciiDigit? c).isSome

/-- The text without the underscores that stand between two digits; none if one stands elsewhere.
`afterDigit` says whether a digit stands in front. -/
def withoutSeparators? (afterDigit : Bool) : List Char → Option (List Char)
  | [] => some []
  | c :: rest =>
    if c = '_' then
      match rest with
      | d :: _ => if afterDigit && isDigit d then withoutSeparators? false rest else none
      | [] => none
    else (withoutSeparators? (isDigit c) rest).map (c :: ·)

/-- Takes a sign from the front; true for a minus. -/
def sign : List Char → Bool × List Char
  | '-' :: rest => (true, rest)
  | '+' :: rest => (false, rest)
  | text => (false, text)

/-- The integer with a sign. -/
def signed (negative : Bool) (n : Nat) : Int := if negative then -(n : Int) else n

/-- The integer of a sign and any number of digits. -/
def signedDigits? (text : List Char) : Option Int :=
  let (negative, digits) := sign text
  (Text.asciiNumber? digits).map (signed negative)

/-- The exponent at the end of a real: nothing, or `e` with an integer. -/
def exponent? : List Char → Option Int
  | [] => some 0
  | c :: rest => if c = 'e' ∨ c = 'E' then signedDigits? rest else none

/-- The real of digits, at least one of them, with or without a point among them, and an exponent
or none. -/
def unsignedReal? (negative : Bool) (text : List Char) : Option Binary64 :=
  let whole := text.takeWhile isDigit
  let (fraction, rest) :=
    match text.dropWhile isDigit with
    | '.' :: rest => (rest.takeWhile isDigit, rest.dropWhile isDigit)
    | rest => ([], rest)
  match Text.asciiNumber? (whole ++ fraction), exponent? rest with
  | some digits, some exponent =>
    some (.ofDecimal negative digits (exponent - fraction.length))
  | _, _ => none

/-- The real of a text without separators. The words for infinity and for what is not a number are
read in either case. -/
def real? (text : List Char) : Option Binary64 :=
  let (negative, rest) := sign text
  let word := rest.map Char.toLower
  if word = ['i', 'n', 'f'] ∨ word = ['i', 'n', 'f', 'i', 'n', 'i', 't', 'y'] then
    some (.infinite negative)
  else if word = ['n', 'a', 'n'] then some .nan
  else unsignedReal? negative rest

/-- The integer of a sign and digits, unless there are more digits than are read. -/
def integer? (text : List Char) : Option Int :=
  let (negative, digits) := sign text
  ((Text.digits? digits).bind Text.number?).map (signed negative)

/-- The integer a person wrote, in digits of any script. Separators do not count as digits. -/
def readInteger? (text : List Char) : Option Int :=
  (withoutSeparators? false (text.map asciiForm)).bind integer?

/-- The real a person wrote, in digits of any script. -/
def readReal? (text : List Char) : Option Binary64 :=
  (withoutSeparators? false (text.map asciiForm)).bind real?

end NoteChart.Number
