/-!
# Snaps

A measure has 192 rows. The snaps are the nine ways of cutting it into equal steps that have a
colour of their own, from 4ths to 192nds. A row takes the colour of the coarsest snap it lies on,
and a sprite sheet shows eight colours: 64ths and 192nds share the last one.

A pattern is not bound to these nine. What number of steps it cuts a measure into is a
`SnapNumber`, and its steps fall between rows where the number does not divide 192.
-/

namespace NoteChart

/-- A colour class of rows. -/
inductive Snap
  | fourth
  | eighth
  | twelfth
  | sixteenth
  | twentyFourth
  | thirtySecond
  | fortyEighth
  | sixtyFourth
  | oneNinetySecond
deriving DecidableEq

namespace Snap

/-- The rows of a measure. -/
def rowsPerMeasure : Nat := 192

/-- The steps of the snap in a measure. -/
def number : Snap → Nat
  | fourth => 4
  | eighth => 8
  | twelfth => 12
  | sixteenth => 16
  | twentyFourth => 24
  | thirtySecond => 32
  | fortyEighth => 48
  | sixtyFourth => 64
  | oneNinetySecond => 192

/-- The rows from one step of the snap to the next. -/
def interval (snap : Snap) : Nat := rowsPerMeasure / snap.number

/-- All snaps, coarsest first. -/
def all : List Snap :=
  [fourth, eighth, twelfth, sixteenth, twentyFourth, thirtySecond, fortyEighth, sixtyFourth,
    oneNinetySecond]

/-- The snap with a given number of steps. -/
def ofNumber? (number : Int) : Option Snap := all.find? fun snap ↦ (snap.number : Int) == number

/-- The snap whose steps reach the row, where the row stands within its measure. -/
def reaches (row : Int) (snap : Snap) : Bool := row % rowsPerMeasure % snap.interval == 0

/-- The coarsest snap that a row lies on. -/
def ofRow (row : Int) : Snap := (all.find? (reaches row)).getD oneNinetySecond

/-- The place of the snap's colour in a sprite sheet. -/
def textureIndex : Snap → Nat
  | fourth => 0
  | eighth => 1
  | twelfth => 2
  | sixteenth => 3
  | twentyFourth => 4
  | thirtySecond => 5
  | fortyEighth => 6
  | sixtyFourth => 7
  | oneNinetySecond => 7

end Snap

/-- A number of steps in a measure, at least one. -/
structure SnapNumber where
  value : Nat
  value_pos : 0 < value
deriving DecidableEq

namespace SnapNumber

/-- The snap number, if the integer can be one. -/
def ofInt? (number : Int) : Option SnapNumber :=
  if h : 0 < number.toNat then some ⟨number.toNat, h⟩ else none

/-- The snap number of a word of digits: any but zero. -/
def ofNat? (number : Nat) : Option SnapNumber :=
  if h : 0 < number then some ⟨number, h⟩ else none

/-- The number of a coloured snap. -/
def ofSnap (snap : Snap) : SnapNumber := ⟨snap.number, by cases snap <;> decide⟩

/-- Sixteenths, the snap of a pattern that names none. -/
def sixteenths : SnapNumber := ofSnap .sixteenth

end SnapNumber

end NoteChart
