import NoteChart.Snap

/-!
# Stepping through a measure

A step of snap `n` is `192 / n` rows, in general no whole number. A `Stepper` hands out whole rows
and keeps what is left over. The remainder is a number of `n`-ths of a row, so it is a natural
number and nothing is ever rounded: `k` steps from the start come to `⌊192 * k / n⌋` rows,
however they are grouped.

`advance` takes any number of steps at once by a single division. That is how a hold of a billion
rows is passed without a billion steps.
-/

namespace NoteChart

/-- How far the steps of a snap have got between rows. -/
structure Stepper where
  /-- The snap being stepped through. -/
  snap : SnapNumber
  /-- The part of a row not yet handed out, in `snap`-ths of a row. -/
  carry : Nat := 0
deriving DecidableEq

namespace Stepper

/-- A stepper at the start of a measure. -/
def start (snap : SnapNumber) : Stepper := { snap }

/-- Takes so many steps: the whole rows they come to, and the stepper behind them. No steps, or a
negative number of them, change nothing. -/
def advance (steps : Int) (stepper : Stepper) : Nat × Stepper :=
  let total := Snap.rowsPerMeasure * steps.toNat + stepper.carry
  if steps ≤ 0 then (0, stepper)
  else (total / stepper.snap.value, { stepper with carry := total % stepper.snap.value })

/-- Takes one step. -/
def next (stepper : Stepper) : Nat × Stepper := stepper.advance 1

/-- Takes so many steps one by one. -/
def take : Nat → Stepper → List Nat × Stepper
  | 0, stepper => ([], stepper)
  | n + 1, stepper =>
    let (rows, stepper) := stepper.next
    let (more, stepper) := take n stepper
    (rows :: more, stepper)

end Stepper

end NoteChart
