/-!
# The direction of scrolling
-/

namespace NoteChart

/-- The side of the picture towards which the notes move. -/
inductive Scroll
  | up
  | down
deriving DecidableEq

/-- The name of a direction in settings. -/
def Scroll.name : Scroll → String
  | up => "up"
  | down => "down"

end NoteChart
