/-!
# Decimal digits

Numbers in words are written in the digits of any script: `١٦ths` names the snap 16. The standard
lays the decimal digits of a script out in a row of ten, so a table of the zeros is all it takes.
The notation of patterns is narrower and has `asciiDigit?` of its own.

Integers are read up to a number of digits, `digitLimit`, and a word with more of them is a number
that cannot be read (`number?`). Reals know no such limit.
-/

namespace NoteChart.Text

/-- The code points of the digits zero, one for each script. -/
def digitZeros : List Nat :=
  [48, 1632, 1776, 1984, 2406, 2534, 2662, 2790, 2918, 3046, 3174, 3302, 3430, 3558, 3664, 3792,
   3872, 4160, 4240, 6112, 6160, 6470, 6608, 6784, 6800, 6992, 7088, 7232, 7248, 42528, 43216,
   43264, 43472, 43504, 43600, 44016, 65296, 66720, 68912, 69734, 69872, 69942, 70096, 70384,
   70736, 70864, 71248, 71360, 71472, 71904, 72016, 72784, 73040, 73120, 92768, 92864, 93008,
   120782, 120792, 120802, 120812, 120822, 123200, 123632, 125264, 130032]

/-- The value of a decimal digit of any script. -/
def digit? (c : Char) : Option Nat :=
  (digitZeros.find? fun first ↦ first ≤ c.toNat && c.toNat < first + 10).map (c.toNat - ·)

/-- The value of one of the digits `0` to `9`. -/
def asciiDigit? (c : Char) : Option Nat :=
  if 48 ≤ c.toNat ∧ c.toNat ≤ 57 then some (c.toNat - 48) else none

/-- The number that a list of digit values writes, most significant first. -/
def ofDigits (digits : List Nat) : Nat := digits.foldl (fun n d ↦ 10 * n + d) 0

/-- The most digits that are read as an integer. Zeros in front of the others count. -/
def digitLimit : Nat := 4300

/-- The values of the digits that a text consists of, if it has at least one and nothing else. -/
def digits? (text : List Char) : Option (List Nat) :=
  if text.isEmpty then none else text.mapM digit?

/-- The number that digits write, unless there are more of them than are read. -/
def number? (digits : List Nat) : Option Nat :=
  if digits.length ≤ digitLimit then some (ofDigits digits) else none

/-- The number a text of the digits `0` to `9` writes; the empty text writes none. There is no limit
here. The digits of a real have none; for the notation of patterns and for quoted integers, runs of
more than `digitLimit` digits are left out of account, and are read as the number they write. -/
def asciiNumber? (text : List Char) : Option Nat :=
  if text.isEmpty then none else (text.mapM asciiDigit?).map ofDigits

end NoteChart.Text
