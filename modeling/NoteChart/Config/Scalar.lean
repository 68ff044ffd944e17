import NoteChart.Json.Basic
import NoteChart.Number.Literal
import NoteChart.Text.Blank

/-!
# Scalars in settings

Settings are read leniently. A number may stand in quotes, an integer may be written with a point
and zeros behind it, a switch may be a number or a word. What a quoted number looks like is a
grammar of its own, narrower than the one of commands in its digits (only `0` to `9`) and wider in
its underscores. A quoted integer is read from the outside in: blanks, zeros behind a point, a sign
and zeros in front are taken away one after the other, and `plainInteger?` reads what is left.

Each reader tells why it refuses a value: it is of the wrong sort, or of the right one and cannot
be read.
-/

namespace NoteChart.Config

/-- What a value of a setting should have been and is not, or what is wrong with it. -/
inductive Cause
  /-- A member that has to be there is not. -/
  | missing
  | notText
  | notInteger
  /-- A text does not write an integer. -/
  | integerUnreadable
  /-- A real has a part behind the point. -/
  | integerFractional
  /-- A real is not finite. -/
  | integerNotFinite
  /-- A real is out of the range of reals that are taken for integers. -/
  | integerTooLarge
  | notReal
  /-- A text does not write a real. -/
  | realUnreadable
  | notSwitch
  /-- A number or text is none of those that stand for on or off. -/
  | switchUnreadable
  | notList
  /-- A value is no object, where the members are named by the setting itself. -/
  | notObject
  /-- A value is no object, where the members are those of a section. -/
  | notSection
  /-- A text is none of the names of families. -/
  | unknownFamily
  /-- An integer is below one. -/
  | belowOne
  /-- A real is not above zero. -/
  | notPositive
  /-- A text is none of the words for a direction. -/
  | unknownScroll
  /-- Files of a skin are not named; told are its name, its family and their roles. -/
  | filesMissing (name family : String) (roles : List String)
deriving DecidableEq

/-- What reading a single value comes to. -/
abbrev Scalar (α : Type) := Except Cause α

/-! ### Quoted numbers -/

/-- A blank around a quoted number: any blank but the four information separators. -/
def isOuterBlank (c : Char) : Bool := Text.isBlank c && !(0x1c ≤ c.toNat && c.toNat ≤ 0x1f)

/-- The text without the blanks at its ends. -/
def trimNumber (text : List Char) : List Char := Text.trimBy isOuterBlank text

/-- The text without its underscores, where there are some, none of them at an end or next to
another. -/
def joinGroups? (text : List Char) : Option (List Char) :=
  let doubled := (text.zip (text.drop 1)).contains ('_', '_')
  if text.head? = some '_' ∨ text.getLast? = some '_' ∨ doubled ∨ !text.contains '_' then none
  else some (text.filter (· != '_'))

/-- The text up to a point with zeros behind it and nothing else; the whole text where there is no
such point. -/
def withoutZeroFraction (text : List Char) : List Char :=
  match text.dropWhile (· != '.') with
  | _ :: '0' :: more => if more.all (· == '0') then text.takeWhile (· != '.') else text
  | _ => text

/-- The text without the zeros in front of it and the underscores among them. Where there is nothing
else, the last one stays. -/
def withoutLeadingZeros : List Char → List Char
  | '0' :: rest =>
    match rest.dropWhile fun c ↦ c == '0' || c == '_' with
    | [] => [rest.getLastD '0']
    | significant => significant
  | text => text

/-- The text without a plus in front of it. A minus behind the plus is refused. -/
def withoutPlus? : List Char → Option (List Char)
  | '+' :: '-' :: _ => none
  | '+' :: rest => some rest
  | text => some text

/-- What is left of a number without its leading zeros and the underscores that group its digits. -/
def withoutPadding (text : List Char) : List Char :=
  let significant := withoutLeadingZeros text
  (joinGroups? significant).getD significant

/-- The natural number of digits; no zero stands in front of others. -/
def plainNumber? : List Char → Option Nat
  | '0' :: _ :: _ => none
  | digits => Text.asciiNumber? digits

/-- The integer of a minus or none, and digits. -/
def plainInteger? : List Char → Option Int
  | '-' :: digits => (plainNumber? digits).map fun n ↦ -(n : Int)
  | digits => (plainNumber? digits).map fun n ↦ (n : Int)

/-- The integer a quoted setting writes. A minus stands in front of leading zeros or behind them, a
plus only in front. Settings of more than `Text.digitLimit` characters are left out of account: they
are read here like all others. -/
def quotedInteger? (text : List Char) : Option Int :=
  match withoutZeroFraction (trimNumber text) with
  | '-' :: digits => (plainNumber? (withoutPadding digits)).map fun n ↦ -(n : Int)
  | signed => (withoutPlus? signed).bind fun digits ↦ plainInteger? (withoutPadding digits)

/-- The real a quoted setting writes. With underscores in it there are no blanks around it. -/
def quotedReal? (text : List Char) : Option Binary64 :=
  match Number.real? (trimNumber text) with
  | some number => some number
  | none => (joinGroups? text).bind Number.real?

/-! ### Readers -/

/-- Reads a text. -/
def readText : Json → Scalar String
  | .string text => .ok text
  | _ => .error .notText

/-- One more than the largest integer of 64 bits with a sign. -/
def wordBound : Int := 9223372036854775808

/-- The integer that a real is, strictly between the bounds of 64 bits with a sign. -/
def wholeReal (x : Binary64) : Scalar Int :=
  match x.truncate? with
  | none => .error .integerNotFinite
  | some n =>
    if !x.isWhole then .error .integerFractional
    else if -wordBound < n ∧ n < wordBound then .ok n
    else .error .integerTooLarge

/-- Reads an integer. One that is written as such may have any size. -/
def readInteger : Json → Scalar Int
  | .int n => .ok n
  | .bool b => .ok (if b then 1 else 0)
  | .real x => wholeReal x
  | .string text =>
    match quotedInteger? text.toList with
    | some n => .ok n
    | none => .error .integerUnreadable
  | .null | .array _ | .object _ => .error .notInteger

/-- Reads an integer above zero. -/
def readPositive (json : Json) : Scalar Int := do
  let n ← readInteger json
  if n < 1 then throw .belowOne
  return n

/-- Reads a real. -/
def readReal : Json → Scalar Binary64
  | .int n => let x := Binary64.ofInt n; if x.isFinite then .ok x else .error .notReal
  | .bool b => .ok (.ofInt (if b then 1 else 0))
  | .real x => .ok x
  | .string text =>
    match quotedReal? text.toList with
    | some x => .ok x
    | none => .error .realUnreadable
  | .null | .array _ | .object _ => .error .notReal

/-- Reads a real above zero. What is not a number is not. -/
def readPositiveReal (json : Json) : Scalar Binary64 := do
  let x ← readReal json
  if !x.isPositive then throw .notPositive
  return x

/-- The words for off and on. -/
def switchWords : List (String × Bool) :=
  [("0", false), ("off", false), ("f", false), ("false", false), ("n", false), ("no", false),
    ("1", true), ("on", true), ("t", true), ("true", true), ("y", true), ("yes", true)]

/-- The switch of a number: off for zero, on for one. -/
def switchOfInteger (n : Int) : Scalar Bool :=
  if n = 0 then .ok false else if n = 1 then .ok true else .error .switchUnreadable

/-- Reads a switch: on or off. A number that does not fit 64 bits with a sign is none, and neither
is one with a part behind the point. -/
def readSwitch : Json → Scalar Bool
  | .bool b => .ok b
  | .int n => if -wordBound ≤ n ∧ n < wordBound then switchOfInteger n else .error .notSwitch
  | .real x =>
    match wholeReal x with
    | .ok n => switchOfInteger n
    | .error _ => .error .notSwitch
  | .string text =>
    match Listing.get? (String.ofList (text.toList.map Char.toLower)) switchWords with
    | some b => .ok b
    | none => .error .switchUnreadable
  | .null | .array _ | .object _ => .error .notSwitch

end NoteChart.Config
