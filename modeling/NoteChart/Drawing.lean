import NoteChart.Canvas
import NoteChart.Json.Writer

/-!
# The written form of a drawing

A drawing is written as an object: the sides of the canvas, and for every sprite its pixel and the
description of its image, in drawing order.
-/

namespace NoteChart

/-- What is written for a sprite. -/
def Drawn.json (drawn : Drawn) : Json :=
  .array [.int drawn.x, .int drawn.y, .string drawn.image.text]

namespace Canvas

/-- What is written for a canvas. -/
def json (canvas : Canvas) : Json :=
  .object
    [("width", .int canvas.width), ("height", .int canvas.height),
      ("draws", .array (canvas.drawn.map Drawn.json))]

/-- The text of a drawing. -/
def text (canvas : Canvas) : String := canvas.json.compact

end Canvas

end NoteChart
