import NoteChart.Number.Shortest
import NoteChart.PatternText
import NoteChart.Skin.Basic

/-!
# What can go wrong between a text and a drawing

One type for the whole way from a command to a canvas, since a caller shows whatever ended it. The
faults of reading a pattern and of a skin have types of their own and are wrapped.

Faults are of two sorts. A *refusal* answers the person who wrote the command: the pattern is
empty, the picture would be too large. The others say that a caller or a number has left the range
the library works in; `isRefusal` tells them apart.
-/

namespace NoteChart

/-- Why there is no drawing. -/
inductive Fault
  /-- The pattern text has a group that nothing closes. -/
  | unclosed (what : PatternText.Unclosed)
  /-- The skin cannot be loaded or does not show what is asked of it. -/
  | skin (fault : Skin.Fault)
  /-- No skin is there to choose from. -/
  | noSkins
  /-- A snap number is below one. -/
  | snapTooSmall (number : Int)
  /-- A number of lanes is below one. -/
  | keymodeNotPositive (keymode : Int)
  /-- A spacing is zero or below. -/
  | spacingNotPositive (spacing : Binary64)
  /-- No note is to be drawn. -/
  | emptyPattern
  /-- A hold is to be drawn. -/
  | holdsUnsupported
  /-- More sprites would be drawn than allowed. -/
  | tooManySprites (count limit : Int)
  /-- The canvas would be larger than allowed. -/
  | imageTooLarge (width height maxWidth maxHeight : Int)
  /-- A sprite does not lie on the canvas. -/
  | outOfCanvas (spriteWidth spriteHeight : Nat) (x y width height : Int)
  /-- A number is too large for a double, or an infinite one would be needed as an integer. -/
  | numberTooLarge
  /-- What is not a number would be needed as an integer. -/
  | notANumber
  /-- An integer is written with more digits than are read. -/
  | tooManyDigits
deriving DecidableEq

namespace Fault

/-- The wording of a fault; those of numbers have none. -/
def message? : Fault → Option String
  | unclosed what => what.message
  | skin fault => fault.message
  | noSkins => "No noteskins are loaded"
  | snapTooSmall number => s!"Snap number must be at least 1, got {number}"
  | keymodeNotPositive keymode => s!"keymode must be positive, got {keymode}"
  | spacingNotPositive spacing =>
    "vertical_spacing_multiplier must be positive, got " ++ spacing.text
  | emptyPattern => "Given pattern is empty"
  | holdsUnsupported => "Holds are not supported yet"
  | tooManySprites count limit =>
    toString count ++ " sprites would need to be rendered for this pattern, which exceeds the " ++
      s!"limit of {limit}"
  | imageTooLarge _ _ maxWidth maxHeight =>
    s!"Rendered pattern would exceed the limit of {maxWidth}x{maxHeight}"
  | outOfCanvas spriteWidth spriteHeight x y width height =>
    s!"Sprite {spriteWidth}x{spriteHeight} at ({x}, {y}) does not fit a {width}x{height} canvas"
  | numberTooLarge | notANumber | tooManyDigits => none

/-- The fault answers the person who wrote the command. -/
def isRefusal : Fault → Bool
  | unclosed _ | noSkins | emptyPattern | holdsUnsupported | tooManySprites _ _
  | imageTooLarge _ _ _ _ => true
  | skin fault => fault.isRefusal
  | snapTooSmall _ | keymodeNotPositive _ | spacingNotPositive _ | outOfCanvas _ _ _ _ _ _
  | numberTooLarge | notANumber | tooManyDigits => false

end Fault

end NoteChart
