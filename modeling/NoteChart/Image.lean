/-!
# Images

An image is known by where it comes from: a picture that was opened, and what was done to it since.
No pixel is looked at here. Which sprite is drawn, how it was derived and where it stands are
settled by the description alone, and painting is left to whoever reads the description.

The operations keep descriptions short, so that equal pictures made in different ways tend to
have equal descriptions: a copy of the whole picture and a scaling to its own size leave no trace,
and quarter turns that follow each other become one.
-/

namespace NoteChart

/-- Something that was done to an image. -/
inductive ImageStep
  /-- A rectangle was copied out of it: its left upper corner and its sides. -/
  | crop (x y width height : Nat)
  /-- It was turned clockwise by 90, 180 or 270 degrees. -/
  | rotate (degrees : Nat)
  /-- It was turned clockwise about its centre within its own sides, corners cut off. -/
  | turn (degrees : Nat)
  /-- It was scaled to new sides. -/
  | scale (width height : Nat)
deriving DecidableEq

/-- A picture that was opened, the steps taken since, and the sides it has now. -/
structure Image where
  /-- The name of the picture. -/
  source : String
  /-- The width of the picture as it was opened. -/
  sourceWidth : Nat
  /-- The height of the picture as it was opened. -/
  sourceHeight : Nat
  /-- What was done to it, last step first. -/
  history : List ImageStep := []
  /-- The width now. -/
  width : Nat := sourceWidth
  /-- The height now. -/
  height : Nat := sourceHeight
deriving DecidableEq

namespace Image

/-- A picture just opened. -/
def opened (source : String) (width height : Nat) : Image :=
  { source, sourceWidth := width, sourceHeight := height }

/-- The transparent square that stands in for a picture that cannot be read. -/
def blank : Image := opened "blank" 64 64

/-- The copy of a rectangle; of all of it nothing is recorded. -/
def crop (x y width height : Nat) (image : Image) : Image :=
  if x = 0 ∧ y = 0 ∧ width = image.width ∧ height = image.height then image
  else { image with history := .crop x y width height :: image.history, width, height }

/-- The history with a clockwise turn by some multiple of 90 degrees put in front of it. -/
def rotated (degrees : Nat) (history : List ImageStep) : List ImageStep :=
  match history with
  | .rotate before :: rest =>
    if (before + degrees) % 360 = 0 then rest else .rotate ((before + degrees) % 360) :: rest
  | _ => if degrees % 360 = 0 then history else .rotate (degrees % 360) :: history

/-- The image turned clockwise by so many quarter turns; an odd number of them swaps its sides. -/
def quarterTurns (count : Nat) (image : Image) : Image :=
  { image with
    history := rotated (90 * count) image.history
    width := if count % 2 = 0 then image.width else image.height
    height := if count % 2 = 0 then image.height else image.width }

/-- The image turned clockwise about its centre, its sides kept. -/
def turn (degrees : Nat) (image : Image) : Image :=
  { image with history := .turn degrees :: image.history }

/-- The image scaled to a square, of side one at least; a square of that side stays as it is. -/
def scaleTo (side : Nat) (image : Image) : Image :=
  let side := max side 1
  if image.width = side ∧ image.height = side then image
  else { image with history := .scale side side :: image.history, width := side, height := side }

/-! ### Text -/

/-- The written form of a step. -/
def stepText : ImageStep → String
  | .crop x y width height => s!"|crop({x},{y},{width},{height})"
  | .rotate degrees => s!"|rot({degrees})"
  | .turn degrees => s!"|turn({degrees})"
  | .scale width height => s!"|scale({width},{height})"

/-- The written form of an image: the picture with its sides, and the steps in their order. -/
def text (image : Image) : String :=
  image.source ++ s!"({image.sourceWidth}x{image.sourceHeight})" ++
    String.join (image.history.reverse.map stepText)

end Image

end NoteChart
