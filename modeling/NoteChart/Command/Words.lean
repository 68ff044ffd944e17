import NoteChart.Library
import NoteChart.Number.Literal
import NoteChart.Scroll

/-!
# The words of a command

A command is a text of words. Some of them modify the drawing, and all others are the text of the
pattern. What a word means is settled by the first of these that applies: a snap, the name of a
skin, a zoom, a direction, a keymode, pattern text.

A word may have the shape of a snap, a zoom or a keymode and a value that cannot be used. It then
draws a warning, and goes on to the later ones. So a word has one meaning and any number of
warnings.

A snap or a keymode with more digits than are read is another matter. It has neither a meaning nor a
warning, and the command ends with it.
-/

namespace NoteChart.Command

/-- A word with the shape of a modifier and a value that cannot be used. -/
inductive Warning
  | badSnap (word : String)
  | badZoom (word : String)
  | badKeymode (word : String)
deriving DecidableEq

/-- The wording of a warning. -/
def Warning.message : Warning → String
  | badSnap word => s!"\"{word}\" is not a valid snap"
  | badZoom word => s!"\"{word}\" is not a valid zoom option"
  | badKeymode word => s!"\"{word}\" is not a valid keymode"

/-- What a word has to do with one sort of modifier. -/
inductive Attempt (α : Type)
  /-- It does not have the shape. -/
  | otherwise
  /-- It has the shape, and a value that cannot be used. -/
  | unusable
  /-- It has the shape, and more digits than are read. -/
  | overlong
  /-- It has the shape and this value. -/
  | meant (value : α)
deriving DecidableEq

/-- A value that can be used if there is one. -/
def Attempt.ofOption {α : Type} : Option α → Attempt α
  | some value => meant value
  | none => unusable

/-- The endings of ordinals, in the order they are looked for. -/
def ordinalEndings : List String := ["st", "sts", "nd", "nds", "rd", "rds", "th", "ths"]

/-- A snap: an ordinal such as `16ths`, in either case. -/
def snapOf (word : List Char) : Attempt SnapNumber :=
  let lowered := Text.lower word
  match ordinalEndings.find? fun ending ↦ ending.toList.isSuffixOf lowered with
  | none => .otherwise
  | some ending =>
    match Text.digits? (word.take (word.length - ending.length)) with
    | none => .otherwise
    | some digits =>
      match Text.number? digits with
      | none => .overlong
      | some number => .ofOption (SnapNumber.ofNat? number)

/-- A zoom: a real followed by `x`. It must be above zero and finite. -/
def zoomOf (word : List Char) : Attempt Binary64 :=
  if word.getLast? = some 'x' then
    match Number.readReal? word.dropLast with
    | none => .otherwise
    | some zoom => if zoom.isPositive && zoom.isFinite then .meant zoom else .unusable
  else .otherwise

/-- A direction, in either case. -/
def scrollOf? (word : List Char) : Option Scroll :=
  let lowered := String.ofList (Text.lower word)
  if lowered = "up" then some .up
  else if lowered = "down" ∨ lowered = "reverse" then some .down
  else none

/-- A keymode: a number above zero followed by `k` in either case. -/
def keymodeOf (word : List Char) : Attempt Nat :=
  if word.getLast? = some 'k' ∨ word.getLast? = some 'K' then
    match Text.digits? word.dropLast with
    | none => .otherwise
    | some digits =>
      match Text.number? digits with
      | none => .overlong
      | some 0 => .unusable
      | some keymode => .meant keymode
  else .otherwise

/-- What a word means. -/
inductive Meaning
  | snap (number : SnapNumber)
  | skin (skin : NamedSkin)
  | zoom (factor : Binary64)
  | scroll (direction : Scroll)
  | keymode (lanes : Nat)
  | text
deriving DecidableEq

/-- A warning where a value cannot be used. -/
def Attempt.warning {α : Type} (warning : Warning) : Attempt α → List Warning
  | unusable => [warning]
  | otherwise | overlong | meant _ => []

/-- What a word means, and the warnings it draws on the way there. -/
def meaning (library : Library) (word : String) : Except Fault (Meaning × List Warning) :=
  let chars := word.toList
  match snapOf chars with
  | .overlong => .error .tooManyDigits
  | .meant number => .ok (.snap number, [])
  | snap =>
    let warnings := snap.warning (.badSnap word)
    match library.find? word with
    | some skin => .ok (.skin skin, warnings)
    | none =>
      match zoomOf chars with
      | .meant factor => .ok (.zoom factor, warnings)
      | zoom =>
        let warnings := warnings ++ zoom.warning (.badZoom word)
        match scrollOf? chars with
        | some direction => .ok (.scroll direction, warnings)
        | none =>
          match keymodeOf chars with
          | .overlong => .error .tooManyDigits
          | .meant lanes => .ok (.keymode lanes, warnings)
          | keymode => .ok (.text, warnings ++ keymode.warning (.badKeymode word))

end NoteChart.Command
