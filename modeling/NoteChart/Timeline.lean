import NoteChart.Pattern
import NoteChart.Stepper

/-!
# The timeline

A chart is a list of segments, each a pattern at a snap of its own. The timeline gives every row of
every segment its number, counted in 192nds of a measure from the start of the chart, so that
segments of different snaps line up.

A walk along the rows carries two numbers, the row of the next time step and the row of the last
one that was passed. The steps that a row reserves are passed at once.
-/

namespace NoteChart

/-- A pattern and the snap of its time steps. -/
structure Segment where
  pattern : Pattern
  snap : SnapNumber
deriving DecidableEq

/-- A row of a pattern with its number on the timeline. -/
structure TimedRow where
  row : Row
  number : Nat
deriving DecidableEq

/-- How far a walk along the timeline has got. -/
structure Walk where
  /-- The number of the next time step. -/
  next : Nat := 0
  /-- The number of the last time step passed, zero before the first. -/
  highest : Nat := 0
deriving DecidableEq

namespace Walk

/-- Passes a row and the steps it reserves. -/
def pass (row : Row) (walk : Walk) (stepper : Stepper) : Walk × Stepper :=
  let (step, stepper) := stepper.next
  let behind := walk.next + step
  if 0 < row.reserved then
    let (skipped, stepper) := stepper.advance (row.reserved - 1)
    let (step, stepper) := stepper.next
    (⟨behind + skipped + step, behind + skipped⟩, stepper)
  else (⟨behind, walk.next⟩, stepper)

/-- Passes the rows of a segment, and numbers them. -/
def passRows (walk : Walk) (stepper : Stepper) : List Row → List TimedRow × Walk
  | [] => ([], walk)
  | row :: rest =>
    let (behind, stepper) := walk.pass row stepper
    let (timed, last) := behind.passRows stepper rest
    (⟨row, walk.next⟩ :: timed, last)

/-- Passes segments, and numbers their rows. Every segment starts a stepper of its own. -/
def passSegments (walk : Walk) : List Segment → List TimedRow × Walk
  | [] => ([], walk)
  | segment :: rest =>
    let (timed, behind) := walk.passRows (.start segment.snap) segment.pattern.rows
    let (more, last) := behind.passSegments rest
    (timed ++ more, last)

end Walk

/-- The rows of a chart in order, and the number of its last time step. -/
structure Timeline where
  rows : List TimedRow
  highest : Nat
deriving DecidableEq

namespace Timeline

/-- The timeline of a chart. -/
def ofSegments (segments : List Segment) : Timeline :=
  let (rows, last) := Walk.passSegments {} segments
  ⟨rows, last.highest⟩

/-- No row of the chart has a note. -/
def isEmpty (timeline : Timeline) : Bool := timeline.rows.all (·.row.notes.isEmpty)

/-- The notes of the chart in order, each with the number of its row. -/
def notes (timeline : Timeline) : List (Note × Nat) :=
  timeline.rows.flatMap fun timed ↦ timed.row.notes.map (·, timed.number)

end Timeline

end NoteChart
