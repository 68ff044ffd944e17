import NoteChart.Layout

/-!
# Drawing a layout

A canvas holds the sprites of a layout at their pixels, in drawing order. Its size is compared with
the limits before anything is drawn, and each sprite must lie on it. Laid out charts always keep to
that; `Fault.outOfCanvas` is there for layouts made by hand.
-/

namespace NoteChart

/-- An image and the pixel at which its left upper corner is drawn. -/
structure Drawn where
  x : Int
  y : Int
  image : Image
deriving DecidableEq

/-- A picture: its sides and what is drawn on it, in order. -/
structure Canvas where
  width : Int
  height : Int
  drawn : List Drawn
deriving DecidableEq

namespace Layout

/-- A sprite at its pixels on a canvas of the given sides. -/
def drawSprite (layout : Layout) (width height : Int) (sprite : PlacedSprite) :
    Except Fault Drawn := do
  let x := sprite.lane * layout.resolution
  let y ← layout.pixelY sprite.row
  let image := sprite.image
  if x < 0 ∨ y < 0 ∨ width < image.width + x ∨ height < image.height + y then
    throw (.outOfCanvas image.width image.height x y width height)
  return ⟨x, y, image⟩

/-- Draws a layout on a canvas no larger than the limits. -/
def draw (layout : Layout) (maxWidth maxHeight : Int) : Except Fault Canvas := do
  let (width, height) ← layout.canvasSize
  if maxWidth < width ∨ maxHeight < height then
    throw (.imageTooLarge width height maxWidth maxHeight)
  let drawn ← layout.sprites.mapM (layout.drawSprite width height)
  return ⟨width, height, drawn⟩

end Layout

/-- Draws a chart. -/
def Recipe.draw (recipe : Recipe) : Except Fault Canvas := do
  let layout ← recipe.layout
  layout.draw recipe.maxWidth recipe.maxHeight

end NoteChart
