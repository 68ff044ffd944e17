import NoteChart.Json.Basic
import NoteChart.Number.Shortest

/-!
# Writing JSON

Two written forms of a value: on one line, and with a line for each item, indented by two blanks a
level. Strings are written as they are, with the quote, the backslash and the control characters
escaped.
-/

namespace NoteChart.Json

/-- A hexadecimal digit. -/
def hexDigit (n : Nat) : Char := if n < 10 then Char.ofNat (48 + n) else Char.ofNat (87 + n)

/-- A character of a string in its written form. -/
def escape (c : Char) : List Char :=
  if c = '"' then ['\\', '"']
  else if c = '\\' then ['\\', '\\']
  else if c = '\n' then ['\\', 'n']
  else if c = '\r' then ['\\', 'r']
  else if c = '\t' then ['\\', 't']
  else if c = '\x08' then ['\\', 'b']
  else if c = '\x0c' then ['\\', 'f']
  else if c.toNat < 0x20 then
    ['\\', 'u', '0', '0', hexDigit (c.toNat / 16), hexDigit (c.toNat % 16)]
  else [c]

/-- A string in quotes. -/
def quote (text : String) : String := "\"" ++ String.ofList (text.toList.flatMap escape) ++ "\""

/-- A real; what is not finite is written as a word. -/
def realText : Binary64 → String
  | .nan => "NaN"
  | .infinite negative => if negative then "-Infinity" else "Infinity"
  | number => number.text

/-- Sets items between an opening and a closing mark. `indent` is the level of the items, none for
a single line. -/
def enclose (opening closing : String) (indent : Option Nat) (items : List String) : String :=
  let line (level : Nat) := "\n" ++ String.ofList (List.replicate (2 * level) ' ')
  if items.isEmpty then opening ++ closing
  else
    match indent with
    | none => opening ++ ", ".intercalate items ++ closing
    | some level =>
      opening ++ line level ++ ("," ++ line level).intercalate items ++ line (level - 1) ++ closing

mutual

/-- The written form of a value; `indent` is the level of its items. -/
def write (indent : Option Nat) : Json → String
  | null => "null"
  | bool value => if value then "true" else "false"
  | int value => toString value
  | real value => realText value
  | string value => quote value
  | array items => enclose "[" "]" indent (writeItems (indent.map (· + 1)) items)
  | object members => enclose "\x7b" "\x7d" indent (writeMembers (indent.map (· + 1)) members)

/-- The written forms of the items of an array. -/
def writeItems (indent : Option Nat) : List Json → List String
  | [] => []
  | item :: rest => write indent item :: writeItems indent rest

/-- The written forms of the members of an object. -/
def writeMembers (indent : Option Nat) : List (String × Json) → List String
  | [] => []
  | (name, value) :: rest => (quote name ++ ": " ++ write indent value) :: writeMembers indent rest

end

/-- The value on one line. -/
def compact (json : Json) : String := json.write none

/-- The value with a line for each item. -/
def indented (json : Json) : String := json.write (some 1)

end NoteChart.Json
