import Mathlib.Data.Rat.Floor
import Mathlib.Tactic
import NoteChart.Proofs.Timeline.Numbers

/-!
# Drift

A step of snap `n` is `192 / n` rows long, and the exact place of a row is the sum of the steps in
front of it. Within a segment the number of a row stays less than a row short of its exact place.
Across segments it does not. Every segment starts a stepper of its own, so the part of a row that
the segment in front of it did not hand out is lost for good, and all later rows are early by it.

`ChartRow.number_add_lost` is the whole account: what a row is short of is the sum of what each
segment in front of it has lost and what its own has not handed out yet. The number is therefore
less than a row off exactly when this sum is below one, for instance where every segment in front
ends on a whole row (`lost_lt_one_of_dvd`). Short segments of a snap that does not divide 192 lose
as much as one likes (`exists_lost_ge`), and naming a snap again within its own segment is enough
for it.
-/

namespace NoteChart

namespace SnapNumber

/-- The length of a step in rows. -/
def exactStep (snap : SnapNumber) : ℚ := Snap.rowsPerMeasure / snap.value

/-- The part of a row that so many steps come to besides whole rows. -/
def lost (snap : SnapNumber) (steps : Nat) : ℚ := Int.fract (steps * snap.exactStep)

theorem mul_exactStep (snap : SnapNumber) (steps : Nat) :
    (steps : ℚ) * snap.exactStep = ((Snap.rowsPerMeasure * steps : ℕ) : ℚ) / (snap.value : ℚ) := by
  rw [exactStep]
  push_cast
  ring

theorem rowsOf_eq_floor (snap : SnapNumber) (steps : Nat) :
    (snap.rowsOf steps : ℤ) = ⌊steps * snap.exactStep⌋ := by
  rw [mul_exactStep, Rat.floor_natCast_div_natCast, rowsOf, Int.natCast_div]

/-- Whole rows and the part of one make the exact length. -/
theorem rowsOf_add_lost (snap : SnapNumber) (steps : Nat) :
    (snap.rowsOf steps : ℚ) + snap.lost steps = steps * snap.exactStep := by
  rw [lost, ← Int.cast_natCast (snap.rowsOf steps), rowsOf_eq_floor]
  exact Int.floor_add_fract _

theorem lost_nonneg (snap : SnapNumber) (steps : Nat) : 0 ≤ snap.lost steps :=
  Int.fract_nonneg _

theorem lost_lt_one (snap : SnapNumber) (steps : Nat) : snap.lost steps < 1 :=
  Int.fract_lt_one _

/-- Nothing is lost where the steps come to whole rows. -/
theorem lost_eq_zero_of_dvd {snap : SnapNumber} {steps : Nat}
    (h : snap.value ∣ Snap.rowsPerMeasure * steps) : snap.lost steps = 0 := by
  obtain ⟨rows, hrows⟩ := h
  have hpos : (snap.value : ℚ) ≠ 0 := Nat.cast_ne_zero.2 snap.value_pos.ne'
  have hwhole : (steps : ℚ) * snap.exactStep = (rows : ℕ) := by
    rw [exactStep, mul_div_assoc', div_eq_iff hpos, mul_comm]
    exact_mod_cast hrows.trans (Nat.mul_comm _ _)
  rw [lost, hwhole, Int.fract_natCast]

end SnapNumber

namespace Segment

/-- The exact length of a segment in rows. -/
def exactLength (segment : Segment) : ℚ := segment.steps * segment.snap.exactStep

/-- What a segment loses at its end. -/
def lost (segment : Segment) : ℚ := segment.snap.lost segment.steps

/-- A segment falls short of its exact length by what its steps lose. -/
theorem extent_add_lost (segment : Segment) :
    (segment.extent : ℚ) + segment.lost = segment.exactLength :=
  segment.snap.rowsOf_add_lost segment.steps

end Segment

/-- The extents and the losses of segments add up to their exact lengths. -/
theorem startBehind_add_lost (segments : List Segment) :
    (startBehind segments : ℚ) + (segments.map Segment.lost).sum =
      (segments.map Segment.exactLength).sum := by
  induction segments with
  | nil => simp
  | cons segment rest ih =>
    rw [startBehind_cons, List.map_cons, List.sum_cons, List.map_cons, List.sum_cons, ← ih,
      ← segment.extent_add_lost]
    push_cast
    ring

theorem lost_sum_nonneg (segments : List Segment) : 0 ≤ (segments.map Segment.lost).sum := by
  refine List.sum_nonneg fun part hpart ↦ ?_
  obtain ⟨segment, -, rfl⟩ := List.mem_map.1 hpart
  exact SnapNumber.lost_nonneg _ _

/-- Segments lose a row each at most. -/
theorem lost_sum_le (segments : List Segment) :
    (segments.map Segment.lost).sum ≤ segments.length := by
  induction segments with
  | nil => simp
  | cons segment rest ih =>
    have hlost : segment.lost < 1 := SnapNumber.lost_lt_one _ _
    rw [List.map_cons, List.sum_cons, List.length_cons]
    push_cast
    linarith

namespace ChartRow

variable {segments : List Segment} (place : ChartRow segments)

/-- The exact place of a row: all steps in front of it, each as long as its own snap makes it. -/
def exact : ℚ :=
  (place.before.map Segment.exactLength).sum +
    stepsIn place.passed * place.segment.snap.exactStep

/-- What a row is short of its exact place. -/
def lost : ℚ :=
  (place.before.map Segment.lost).sum + place.segment.snap.lost (stepsIn place.passed)

/-- **The account of a row.** -/
theorem number_add_lost : (place.number : ℚ) + place.lost = place.exact := by
  rw [number, lost, exact, ← startBehind_add_lost, ← SnapNumber.rowsOf_add_lost]
  push_cast
  ring

theorem lost_nonneg : 0 ≤ place.lost :=
  add_nonneg (lost_sum_nonneg _) (SnapNumber.lost_nonneg _ _)

/-- Every segment in front of a row costs it less than a row, and so does its own. -/
theorem lost_lt : place.lost < place.before.length + 1 :=
  add_lt_add_of_le_of_lt (lost_sum_le _) (SnapNumber.lost_lt_one _ _)

/-- Where all segments in front end on whole rows, a row is short of less than one. -/
theorem lost_lt_one_of_dvd
    (h : ∀ segment ∈ place.before, segment.snap.value ∣ Snap.rowsPerMeasure * segment.steps) :
    place.lost < 1 := by
  have hbefore : (place.before.map Segment.lost).sum = 0 := by
    refine List.sum_eq_zero fun part hpart ↦ ?_
    obtain ⟨segment, hsegment, rfl⟩ := List.mem_map.1 hpart
    exact SnapNumber.lost_eq_zero_of_dvd (h segment hsegment)
  rw [lost, hbefore, zero_add]
  exact SnapNumber.lost_lt_one _ _

/-- **When the numbers keep to their exact places.** The number a row has on the timeline is short
of its exact place by what the segments in front of it lost and its own has not handed out. So it
is less than a row off exactly when that is below one, as it is where all segments in front end on
whole rows. In general it is only below one for each segment up to the row's own. -/
theorem less_than_a_row_off_iff :
    ∃ timed, (Timeline.ofSegments segments).rows[place.index]? = some timed ∧
      timed.row = place.row ∧
      place.exact - timed.number = place.lost ∧
      (|(timed.number : ℚ) - place.exact| < 1 ↔ place.lost < 1) ∧
      0 ≤ place.lost ∧
      place.lost < place.before.length + 1 ∧
      ((∀ segment ∈ place.before,
          segment.snap.value ∣ Snap.rowsPerMeasure * segment.steps) → place.lost < 1) := by
  refine ⟨_, place.getElem?_rows, rfl, ?_, ?_, place.lost_nonneg, place.lost_lt,
    place.lost_lt_one_of_dvd⟩
  · rw [← place.number_add_lost, add_sub_cancel_left]
  · rw [← place.number_add_lost, sub_add_cancel_left, abs_neg, abs_of_nonneg place.lost_nonneg]

end ChartRow

/-! ### Charts cut into short segments -/

/-- A segment of one row. -/
def Segment.ofRow (snap : SnapNumber) (row : Row) : Segment := ⟨{ rows := [row] }, snap⟩

/-- The snap of 128ths, whose step is a row and a half. -/
def SnapNumber.halves : SnapNumber := ⟨128, by decide⟩

/-- One step of three rows and a half loses the half. -/
theorem lost_ofRow_halves {row : Row} (h : row.reserved = 0) :
    (Segment.ofRow .halves row).lost = 1 / 2 := by
  have hlength : ((Segment.ofRow .halves row).steps : ℚ) * SnapNumber.halves.exactStep =
      (1 : ℕ) + 1 / 2 := by
    simp only [Segment.ofRow, Segment.steps, stepsIn_cons, stepsIn_nil, Row.steps, h,
      SnapNumber.exactStep, SnapNumber.halves, Snap.rowsPerMeasure]
    norm_num
  have hhalf : Int.fract (1 / 2 : ℚ) = 1 / 2 := Int.fract_eq_self.2 ⟨by norm_num, by norm_num⟩
  rw [Segment.lost, SnapNumber.lost]
  show Int.fract (((Segment.ofRow .halves row).steps : ℚ) * SnapNumber.halves.exactStep) = 1 / 2
  rw [hlength, Int.fract_natCast_add, hhalf]

/-- **There is no bound on drift.** Each segment of a single 128th loses half a row. -/
theorem exists_lost_ge (bound : Nat) :
    ∃ (segments : List Segment) (place : ChartRow segments), (bound : ℚ) ≤ place.lost := by
  let short := Segment.ofRow .halves {}
  refine ⟨List.replicate (2 * bound) short ++ [short],
    ⟨List.replicate (2 * bound) short, short, [], [], {}, [], rfl, rfl⟩, ?_⟩
  have hown : 0 ≤ SnapNumber.halves.lost (stepsIn []) := SnapNumber.lost_nonneg _ _
  have hlost : short.lost = 1 / 2 := lost_ofRow_halves rfl
  simp only [ChartRow.lost, List.map_replicate, List.sum_replicate, hlost, nsmul_eq_mul]
  push_cast
  calc (bound : ℚ) = 2 * bound * (1 / 2) := by ring
    _ ≤ 2 * bound * (1 / 2) + SnapNumber.halves.lost (stepsIn []) := le_add_of_nonneg_right hown

/-- **A snap named again.** The third of three 128ths stands on row 3, its exact place. With the
snap named again for each of them it stands on row 2, a whole row early. -/
theorem drift_of_split_128ths :
    let note : Row := { notes := [{ lane := .column 0 }] }
    let cut := [Segment.ofRow .halves {}, .ofRow .halves {}, .ofRow .halves note]
    (Timeline.ofSegments [⟨{ rows := [{}, {}, note] }, .halves⟩]).rows[2]? = some ⟨note, 3⟩ ∧
      (Timeline.ofSegments cut).rows[2]? = some ⟨note, 2⟩ ∧
      ¬ ∀ (segments : List Segment) (place : ChartRow segments) (timed : TimedRow),
        (Timeline.ofSegments segments).rows[place.index]? = some timed →
          |(timed.number : ℚ) - place.exact| < 1 := by
  intro note cut
  refine ⟨by decide, by decide, fun hclose ↦ ?_⟩
  let third : ChartRow cut :=
    ⟨[.ofRow .halves {}, .ofRow .halves {}], .ofRow .halves note, [], [], note, [], rfl, rfl⟩
  have hexact : third.exact = 3 := by
    simp only [third, ChartRow.exact, List.map_cons, List.map_nil, Segment.exactLength,
      Segment.ofRow, Segment.steps, stepsIn_cons, stepsIn_nil, Row.steps, SnapNumber.exactStep,
      SnapNumber.halves, Snap.rowsPerMeasure]
    norm_num
  have h := hclose cut third ⟨note, 2⟩ (by decide)
  rw [hexact] at h
  norm_num at h

end NoteChart
