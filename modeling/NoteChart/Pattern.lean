/-!
# Note patterns

The data of the library: lanes, notes, rows and patterns.

A pattern is a list of rows, one row for each time step. Time steps that a hold reserves behind its
row are a *number* on the row, so a hold of a billion rows is as small as a tap. Two rows are alike
when they hold the same notes, whatever their order and however often a note is repeated, and
reserve the same number of steps; `Row.alike` is that comparison, and plain equality stays what it
is for any structure.

The number of lanes is not known while a pattern is read. A lane named by a direction therefore
stays a direction, and is placed in a column only once the keymode is there.
-/

namespace NoteChart

/-- The four arrows. -/
inductive Direction
  | left
  | down
  | up
  | right
deriving DecidableEq

/-- A lane: a column, counted from zero, or an arrow whose column depends on the keymode. -/
inductive Lane
  | column (index : Int)
  | arrow (direction : Direction)
deriving DecidableEq

/-- The column of a lane. With three lanes the order is left, down, right, so the right arrow is
one column further in. -/
def Lane.columnIn (keymode : Int) : Lane → Int
  | .column index => index
  | .arrow .left => 0
  | .arrow .down => 1
  | .arrow .up => 2
  | .arrow .right => if keymode = 3 then 2 else 3

/-- What is to be done with a note. -/
inductive NoteKind
  | tap
  | mine
  | hold
deriving DecidableEq

/-- A note in a lane. The hold length counts rows and is zero for all but holds. -/
structure Note where
  lane : Lane
  kind : NoteKind := .tap
  holdLength : Int := 0
deriving DecidableEq

/-- The hold of a given length in the same lane. -/
def Note.asHold (length : Int) (note : Note) : Note := ⟨note.lane, .hold, length⟩

/-- A time step: its notes as written, and the number of empty steps reserved behind it. -/
structure Row where
  notes : List Note := []
  reserved : Int := 0
deriving DecidableEq

namespace Row

/-- Every note of `a` is one of `b`. -/
def within (a b : Row) : Bool := a.notes.all fun note ↦ b.notes.contains note

/-- The rows hold the same set of notes and reserve the same number of steps. -/
def alike (a b : Row) : Bool := a.within b && b.within a && a.reserved == b.reserved

/-- The rows that are alike to none in front of them: one of each kind. -/
def distinct : List Row → List Row
  | [] => []
  | row :: rest => row :: (distinct rest).filter (!row.alike ·)

end Row

/-- A pattern: its rows in order. -/
structure Pattern where
  rows : List Row := []
deriving DecidableEq

namespace Pattern

/-- Both patterns have as many rows, and these are alike one by one. -/
def alike (a b : Pattern) : Bool :=
  a.rows.length == b.rows.length && (a.rows.zip b.rows).all fun (r, s) ↦ r.alike s

/-- Time steps covered, the reserved ones included. -/
def rowCount (pattern : Pattern) : Int :=
  pattern.rows.foldr (fun row steps ↦ 1 + row.reserved + steps) 0

/-- All notes in the order of their rows. -/
def notes (pattern : Pattern) : List Note := pattern.rows.flatMap (·.notes)

/-- The number of notes, repeated ones counted as often as they stand there. -/
def noteCount (pattern : Pattern) : Nat := pattern.notes.length

/-- Nothing in the pattern would be drawn. -/
def isVisuallyEmpty (pattern : Pattern) : Bool := pattern.noteCount == 0

/-- The highest column of a note, or `-1` where there is none above it. -/
def highestColumn (keymode : Int) (pattern : Pattern) : Int :=
  (pattern.notes.map (·.lane.columnIn keymode)).foldl max (-1)

/-- The keymode that a highest column suggests: one lane more than that, and four lanes at least,
since a pattern such as `2323` is still meant for four. -/
def keymodeFor (highest : Int) : Int := max (highest + 1) 4

/-- The keymode a pattern is most likely meant for. The right arrow counts as the fourth column:
where it lies depends on the keymode being guessed. -/
def keymodeGuess (pattern : Pattern) : Int := keymodeFor (pattern.highestColumn 4)

end Pattern

end NoteChart
