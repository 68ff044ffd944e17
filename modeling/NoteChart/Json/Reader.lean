import NoteChart.Json.Basic
import NoteChart.Number.Literal

/-!
# Reading JSON

A reader of JSON texts that says where a text went wrong. Beyond the standard it takes `NaN`,
`Infinity` and `-Infinity` for numbers.

A refusal keeps the part of the text that was still to be read at the fault. Its length is what the
position is computed from, once, at the end; the readers never count. Two faults are told at a place
further back: an unfinished string at its opening quote, and a bad escape at its mark.

Values nest, but an array or an object inside too many others is refused at its bracket, before
anything behind the bracket is looked at. That is the one refusal without a place.

Every level and every item takes a character at least, so twice the length of the text bounds the
depth of calls. `value` counts down from there, and from the number of levels apart from that.
-/

namespace NoteChart.Json

/-- What is wrong with a text. -/
inductive Complaint
  | expectingValue
  | expectingName
  | expectingColon
  | expectingComma
  | extraData
  | unterminatedString
  | controlCharacter
  | badEscape
  | badUnicodeEscape
  | byteOrderMark
deriving DecidableEq

/-- The wording of a complaint. -/
def Complaint.message : Complaint → String
  | expectingValue => "Expecting value"
  | expectingName => "Expecting property name enclosed in double quotes"
  | expectingColon => "Expecting ':' delimiter"
  | expectingComma => "Expecting ',' delimiter"
  | extraData => "Extra data"
  | unterminatedString => "Unterminated string starting at"
  | controlCharacter => "Invalid control character at"
  | badEscape => "Invalid \\escape"
  | badUnicodeEscape => "Invalid \\uXXXX escape"
  | byteOrderMark => "Unexpected UTF-8 BOM (decode using utf-8-sig)"

/-- A value that holds others. -/
inductive Container
  | array
  | object
deriving DecidableEq

/-- The word for it. -/
def Container.name : Container → String
  | array => "array"
  | object => "object"

/-- The wording for a value that is inside too many others. -/
def Container.tooDeepMessage (container : Container) : String :=
  s!"maximum recursion depth exceeded while decoding a JSON {container.name} from a unicode string"

/-- Why a text is refused. -/
inductive Refusal
  /-- Something is wrong with it; the text that remained starts at the place of it. -/
  | malformed (complaint : Complaint) (remaining : List Char)
  /-- A value is inside too many others. -/
  | tooDeep (container : Container)

/-- Refuses a text for what is wrong with it. -/
def refuse {α : Type} (complaint : Complaint) (remaining : List Char) : Except Refusal α :=
  .error (.malformed complaint remaining)

/-- A blank between tokens. -/
def isSpace (c : Char) : Bool := c == ' ' || c == '\t' || c == '\n' || c == '\r'

/-- The text without blanks in front. -/
def skipSpace (text : List Char) : List Char := text.dropWhile isSpace

/-! ### Strings -/

/-- The value of a hexadecimal digit. -/
def hexDigit? (c : Char) : Option Nat :=
  let n := c.toNat
  if 48 ≤ n ∧ n ≤ 57 then some (n - 48)
  else if 65 ≤ n ∧ n ≤ 70 then some (n - 55)
  else if 97 ≤ n ∧ n ≤ 102 then some (n - 87)
  else none

/-- The number of four hexadecimal digits. -/
def hexNumber? (digits : List Char) : Option Nat :=
  (digits.mapM hexDigit?).map (·.foldl (fun n d ↦ 16 * n + d) 0)

/-- Takes the four digits of a unit from the front; `text` starts at its `u`. Something must follow
them. -/
def unit (text : List Char) : Except Refusal (Nat × List Char) :=
  let digits := text.drop 1
  if digits.length < 5 then refuse .badUnicodeEscape text
  else
    match hexNumber? (digits.take 4) with
    | some n => .ok (n, digits.drop 4)
    | none => refuse .badUnicodeEscape text

/-- The unit is the first half of a pair. -/
def isHighHalf (unit : Nat) : Bool := 0xd800 ≤ unit && unit < 0xdc00

/-- The unit is the second half of a pair. -/
def isLowHalf (unit : Nat) : Bool := 0xdc00 ≤ unit && unit < 0xe000

/-- The character of a single unit. Half a pair is none, and the replacement character stands for
it. -/
def unitChar (unit : Nat) : Char :=
  if isHighHalf unit || isLowHalf unit then '\ufffd' else Char.ofNat unit

/-- Takes the character of one unit, or of two that are a pair, from the front; `text` starts at
the first `u`. -/
def unicodeEscape (text : List Char) : Except Refusal (Char × List Char) := do
  let (first, rest) ← unit text
  match rest with
  | '\\' :: 'u' :: more =>
    if isHighHalf first && 6 < rest.length then
      let (second, after) ← unit ('u' :: more)
      if isLowHalf second then
        return (Char.ofNat (0x10000 + (first - 0xd800) * 0x400 + (second - 0xdc00)), after)
      else return (unitChar first, rest)
    else return (unitChar first, rest)
  | _ => return (unitChar first, rest)

/-- The character that a letter behind a backslash stands for. -/
def escaped? : Char → Option Char
  | '"' => some '"'
  | '\\' => some '\\'
  | '/' => some '/'
  | 'b' => some '\x08'
  | 'f' => some '\x0c'
  | 'n' => some '\n'
  | 'r' => some '\r'
  | 't' => some '\t'
  | _ => none

/-- Takes a string from the front; `opening` starts at its opening quote and `text` behind what was
read of it. -/
def stringFrom (opening : List Char) : Nat → List Char → Except Refusal (List Char × List Char)
  | 0, _ | _, [] => refuse .unterminatedString opening
  | fuel + 1, c :: rest =>
    if c = '"' then .ok ([], rest)
    else if c = '\\' then
      match rest with
      | [] => refuse .unterminatedString opening
      | d :: after =>
        if d = 'u' then do
          let (char, after) ← unicodeEscape rest
          let (chars, after) ← stringFrom opening fuel after
          return (char :: chars, after)
        else
          match escaped? d with
          | some char => do
            let (chars, after) ← stringFrom opening fuel after
            return (char :: chars, after)
          | none => refuse .badEscape (c :: rest)
    else if c.toNat < 0x20 then refuse .controlCharacter (c :: rest)
    else do
      let (chars, after) ← stringFrom opening fuel rest
      return (c :: chars, after)

/-- Takes a string from the front; `text` starts behind its opening quote. -/
def quoted (text : List Char) : Except Refusal (String × List Char) :=
  (stringFrom ('"' :: text) (text.length + 1) text).map fun (chars, rest) ↦
    (String.ofList chars, rest)

/-! ### Numbers -/

/-- Splits digits off the front. -/
def digits (text : List Char) : List Char × List Char :=
  (text.takeWhile Number.isDigit, text.dropWhile Number.isDigit)

/-- Takes the digits in front of a point: zero alone, or digits that do not begin with it. -/
def wholePart? : List Char → Option (List Char × List Char)
  | '0' :: rest => some (['0'], rest)
  | text => if (digits text).1.isEmpty then none else some (digits text)

/-- Takes a point and the digits behind it; without digits there is no point to take. -/
def fractionPart : List Char → List Char × List Char
  | '.' :: rest => if (digits rest).1.isEmpty then ([], '.' :: rest) else digits rest
  | text => ([], text)

/-- Takes the mark of an exponent and the exponent; without digits there is none to take. -/
def exponentPart? (text : List Char) : Option (Int × List Char) :=
  match text with
  | c :: rest =>
    if c = 'e' ∨ c = 'E' then
      let (negative, rest) := Number.sign rest
      let (places, rest) := digits rest
      (Text.asciiNumber? places).map fun n ↦ (if negative then -(n : Int) else n, rest)
    else none
  | [] => none

/-- Takes a number from the front. With a point or an exponent it is a real. Integers of more than
`Text.digitLimit` digits are left out of account, and are read as the number they write. -/
def number? (text : List Char) : Option (Json × List Char) :=
  let (negative, unsigned) :=
    match text with
    | '-' :: rest => (true, rest)
    | _ => (false, text)
  match wholePart? unsigned with
  | none => none
  | some (whole, rest) =>
    let (fraction, rest) := fractionPart rest
    let mantissa := Text.ofDigits ((whole ++ fraction).filterMap Text.asciiDigit?)
    match exponentPart? rest with
    | some (exponent, rest) =>
      some (.real (.ofDecimal negative mantissa (exponent - fraction.length)), rest)
    | none =>
      if fraction.isEmpty then some (.int (if negative then -(mantissa : Int) else mantissa), rest)
      else some (.real (.ofDecimal negative mantissa (-fraction.length)), rest)

/-! ### Values -/

/-- Takes a word from the front. -/
def word? (word : String) (text : List Char) : Option (List Char) :=
  if word.toList.isPrefixOf text then some (text.drop word.length) else none

/-- The words that are values. -/
def constants : List (String × Json) :=
  [("null", .null), ("true", .bool true), ("false", .bool false), ("NaN", .real .nan),
    ("Infinity", .real (.infinite false)), ("-Infinity", .real (.infinite true))]

/-- Takes a word that is a value, or a number, from the front. -/
def atom (text : List Char) : Except Refusal (Json × List Char) :=
  match constants.findSome? fun (word, value) ↦ (word? word text).map (value, ·) with
  | some found => .ok found
  | none =>
    match number? text with
    | some found => .ok found
    | none => refuse .expectingValue text

/-- The number of arrays and objects that may be inside one another. -/
def nestingLimit : Nat := 990

mutual

/-- Takes a value from the front; `levels` is how many arrays and objects it may have inside one
another. -/
def value : Nat → Nat → List Char → Except Refusal (Json × List Char)
  | 0, _, text => refuse .expectingValue text
  | fuel + 1, levels, text =>
    match text, levels with
    | '"' :: rest, _ => (quoted rest).map fun (chars, rest) ↦ (.string chars, rest)
    | '[' :: _, 0 => .error (.tooDeep .array)
    | '[' :: rest, levels + 1 =>
      match skipSpace rest with
      | ']' :: after => .ok (.array [], after)
      | start => (items fuel levels start).map fun (items, rest) ↦ (.array items, rest)
    | '\x7b' :: _, 0 => .error (.tooDeep .object)
    | '\x7b' :: rest, levels + 1 =>
      match skipSpace rest with
      | '\x7d' :: after => .ok (.object [], after)
      | start => (members fuel levels [] start).map fun (members, rest) ↦ (.object members, rest)
    | _, _ => atom text

/-- Takes the items of an array, at least one, and the closing bracket. -/
def items : Nat → Nat → List Char → Except Refusal (List Json × List Char)
  | 0, _, text => refuse .expectingValue text
  | fuel + 1, levels, text => do
    let (item, rest) ← value fuel levels text
    match skipSpace rest with
    | ']' :: after => return ([item], after)
    | ',' :: after =>
      let (more, rest) ← items fuel levels (skipSpace after)
      return (item :: more, rest)
    | other => refuse .expectingComma other

/-- Takes the members of an object, at least one, and the closing brace; `before` holds the members
in front. -/
def members : Nat → Nat → Listing Json → List Char → Except Refusal (Listing Json × List Char)
  | 0, _, _, text => refuse .expectingName text
  | fuel + 1, levels, before, text =>
    match text with
    | '"' :: rest => do
      let (name, rest) ← quoted rest
      match skipSpace rest with
      | ':' :: after =>
        let (item, rest) ← value fuel levels (skipSpace after)
        let members' := before.put name item
        match skipSpace rest with
        | '\x7d' :: after => return (members', after)
        | ',' :: after => members fuel levels members' (skipSpace after)
        | other => refuse .expectingComma other
      | other => refuse .expectingColon other
    | _ => refuse .expectingName text

end

/-- Reads a text that is one value and nothing else. -/
def parse (text : List Char) : Except Refusal Json :=
  match text with
  | '\ufeff' :: _ => refuse .byteOrderMark text
  | _ => do
    let (json, rest) ← value (2 * text.length + 2) nestingLimit (skipSpace text)
    match skipSpace rest with
    | [] => return json
    | extra => refuse .extraData extra

/-- The wording of a refusal of a text. A complaint is told with its place: line and column counted
from one, and the number of characters in front. -/
def Refusal.message (text : List Char) : Refusal → String
  | malformed complaint remaining =>
    let before := text.take (text.length - remaining.length)
    let line := (before.filter (· == '\n')).length + 1
    let column := (before.reverse.takeWhile (· != '\n')).length + 1
    s!"{complaint.message}: line {line} column {column} (char {before.length})"
  | tooDeep container => container.tooDeepMessage

end NoteChart.Json
