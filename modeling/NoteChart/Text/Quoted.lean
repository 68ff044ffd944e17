import NoteChart.Text.Printable

/-!
# Quoted names

A name in a message stands in quotes, so that blanks and an empty name can be seen. Single quotes
are used, or double ones where that saves escaping. The quote, the backslash and what cannot be
printed are escaped; of the last sort each character is shown by its number, in as few digits as
two, four or eight.
-/

namespace NoteChart.Text

/-- So many hexadecimal digits of a number. -/
def hexDigits (count n : Nat) : List Char :=
  ((List.range count).map fun place ↦ Nat.digitChar (n / Nat.pow 16 place % 16)).reverse

/-- A character of a quoted name. -/
def quotedChar (quote c : Char) : List Char :=
  if c = quote ∨ c = '\\' then ['\\', c]
  else if c = '\n' then ['\\', 'n']
  else if c = '\r' then ['\\', 'r']
  else if c = '\t' then ['\\', 't']
  else if isPrintable c then [c]
  else if c.toNat < 0x100 then '\\' :: 'x' :: hexDigits 2 c.toNat
  else if c.toNat < 0x10000 then '\\' :: 'u' :: hexDigits 4 c.toNat
  else '\\' :: 'U' :: hexDigits 8 c.toNat

/-- The name in quotes. -/
def quoted (name : String) : String :=
  let chars := name.toList
  let quote := if chars.contains '\'' && !chars.contains '"' then '"' else '\''
  String.ofList (quote :: chars.flatMap (quotedChar quote) ++ [quote])

end NoteChart.Text
