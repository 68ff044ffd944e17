import NoteChart.Fault
import NoteChart.Scroll
import NoteChart.Timeline

/-!
# Laying out a chart

A layout says which sprite stands in which lane and row: the receptors first, so that notes are
drawn on top of them, then the notes in the order of the timeline. Scrolling down turns the rows
around the last one.

Checks come in a fixed order. The recipe is looked at first, then whether there is anything to draw,
then the receptors, the notes one by one, and last the number of sprites. A mine is checked for its
lane as any note is, although all mines look the same.

Rows become pixels by one multiplication with a number between rows of the coarsest snap: a step of
the coarsest snap in the chart is one sprite high, times the zoom. Nothing is drawn here; a chart
too large for a canvas still has a layout.
-/

namespace NoteChart

/-- All that decides a drawing. -/
structure Recipe where
  skin : Skin
  scroll : Scroll
  /-- The number of lanes. -/
  keymode : Int
  /-- The height of a step of the coarsest snap, in sprites. -/
  zoom : Binary64
  segments : List Segment
  /-- The widest and the highest canvas allowed. -/
  maxWidth : Int := 5000
  maxHeight : Int := 10000
  /-- The most sprites allowed, receptors included. -/
  maxSprites : Int := 1000

/-- A sprite in a lane and a row. -/
structure PlacedSprite where
  lane : Int
  row : Int
  image : Image
deriving DecidableEq

/-- The sprites of a chart, in drawing order. -/
structure Layout where
  sprites : List PlacedSprite
  /-- The side of a sprite in pixels. -/
  resolution : Int
  /-- The height of a row in sprites. -/
  rowHeight : Binary64
  /-- The number of the last time step. -/
  highestRow : Nat
deriving DecidableEq

namespace Recipe

/-- The row in which something at a place of the timeline is drawn. -/
def drawnRow (scroll : Scroll) (highest number : Nat) : Int :=
  match scroll with
  | .up => number
  | .down => (highest : Int) - number

/-- The receptor of a lane in its place. -/
def placeReceptor (recipe : Recipe) (highest lane : Nat) : Except Fault PlacedSprite :=
  ((recipe.skin.receptor lane recipe.keymode).mapError .skin).map fun image ↦
    ⟨lane, drawnRow recipe.scroll highest 0, image⟩

/-- The receptors of all lanes. Whether the skin supports their number is asked of the first lane,
before a list of lanes is made. -/
def receptors (recipe : Recipe) (highest : Nat) : Except Fault (List PlacedSprite) := do
  let _ ← recipe.placeReceptor highest 0
  (List.range recipe.keymode.toNat).mapM (recipe.placeReceptor highest)

/-- The sprite of a note in a column and a row of the timeline. -/
def noteImage (recipe : Recipe) (kind : NoteKind) (column : Int) (number : Nat) :
    Except Fault Image :=
  match kind with
  | .tap => (recipe.skin.note column recipe.keymode (.ofRow number)).mapError .skin
  | .mine =>
    ((recipe.skin.checkLane column recipe.keymode).map fun _ ↦ recipe.skin.mine).mapError .skin
  | .hold => .error .holdsUnsupported

/-- A note in its place. -/
def placeNote (recipe : Recipe) (highest : Nat) (note : Note) (number : Nat) :
    Except Fault PlacedSprite :=
  let column := note.lane.columnIn recipe.keymode
  (recipe.noteImage note.kind column number).map fun image ↦
    ⟨column, drawnRow recipe.scroll highest number, image⟩

/-- The smallest snap number of a chart. -/
def smallestSnap? (segments : List Segment) : Option Nat :=
  (segments.map (·.snap.value)).min?

/-- The height of a row in sprites, for the smallest snap number and the zoom. -/
def rowHeight (smallest : Nat) (zoom : Binary64) : Except Fault Binary64 :=
  let steps := Binary64.ofInt smallest
  if steps.isFinite then
    let one := Binary64.ofInt 1
    .ok ((one.div ((Binary64.ofInt Snap.rowsPerMeasure).div steps)).mul zoom)
  else .error .numberTooLarge

/-- Lays out a chart. -/
def layout (recipe : Recipe) : Except Fault Layout := do
  if recipe.keymode ≤ 0 then throw (.keymodeNotPositive recipe.keymode)
  if recipe.zoom.isNonpositive then throw (.spacingNotPositive recipe.zoom)
  let timeline := Timeline.ofSegments recipe.segments
  if timeline.isEmpty then throw .emptyPattern
  let receptors ← recipe.receptors timeline.highest
  let notes ← timeline.notes.mapM fun (note, number) ↦
    recipe.placeNote timeline.highest note number
  let sprites := receptors ++ notes
  if recipe.maxSprites < sprites.length then
    throw (.tooManySprites sprites.length recipe.maxSprites)
  let some smallest := smallestSnap? recipe.segments | throw .emptyPattern
  let rowHeight ← rowHeight smallest recipe.zoom
  return ⟨sprites, recipe.skin.resolution, rowHeight, timeline.highest⟩

end Recipe

namespace Layout

/-- The whole pixels of a length. -/
def wholePixels : Binary64 → Except Fault Int
  | .nan => .error .notANumber
  | .infinite _ => .error .numberTooLarge
  | .finite negative units =>
    let whole : Int := (units / Binary64.unitsPerOne : Nat)
    .ok (if negative then -whole else whole)

/-- What is added before a length is cut to whole pixels, a millionth of a pixel. It keeps 36 rows
of a twelfth each on three whole sprites, where the product falls short of them by a hair. -/
def margin : Binary64 := .ofDecimal false 1 (-6)

/-- The pixel at which a row starts. -/
def pixelY (layout : Layout) (row : Int) : Except Fault Int :=
  let sprites := Binary64.ofInt (row * layout.resolution)
  if sprites.isFinite then wholePixels ((sprites.mul layout.rowHeight).add margin)
  else .error .numberTooLarge

/-- The width and height of the canvas: all lanes up to the last with a sprite, and one sprite
below the start of the last row, so that it is drawn in full. -/
def canvasSize (layout : Layout) : Except Fault (Int × Int) :=
  match (layout.sprites.map (·.lane)).max?, (layout.sprites.map (·.row)).max? with
  | some lane, some row =>
    (layout.pixelY row).map fun y ↦ (layout.resolution * (lane + 1), y + layout.resolution)
  | _, _ => .error .emptyPattern

end Layout

end NoteChart
