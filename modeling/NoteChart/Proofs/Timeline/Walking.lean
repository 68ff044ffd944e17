import Mathlib.Tactic
import NoteChart.Proofs.Timeline.Numbers

/-!
# Skipped steps are walked steps

A row may reserve steps, and a walk passes them at once. The chart written out has a row for every
step: `Segment.walked` puts the reserved ones there as empty rows. Both charts have one timeline.
Every row keeps its number, and so does the highest step.

Nothing is compared step by step. The closed form of a number asks only how many steps are in front
of a row, and writing a chart out changes none of these counts, so a place in a chart is a place in
the chart written out (`ChartRow.walked`) with the same number by computation.

Where no steps are reserved the highest number is plainly that of the last row, which is how it is
known to be the number of the last step in general.
-/

namespace NoteChart

/-! ### Charts written out -/

/-- A row and the steps it reserves, each as a row of its own. -/
def Row.walked (row : Row) : List Row :=
  { row with reserved := 0 } :: List.replicate row.reserved.toNat {}

/-- A row is written out as one row for each of its steps. -/
theorem Row.length_walked (row : Row) : row.walked.length = row.steps := by
  simp [walked, steps, Nat.add_comm]

theorem Row.stepsIn_walked (row : Row) : stepsIn row.walked = row.steps := by
  simp [walked, stepsIn, steps]

theorem length_flatMap_walked (rows : List Row) :
    (rows.flatMap Row.walked).length = stepsIn rows := by
  simp [List.length_flatMap, stepsIn, Row.length_walked]

@[simp]
theorem stepsIn_flatMap_walked (rows : List Row) :
    stepsIn (rows.flatMap Row.walked) = stepsIn rows := by
  induction rows with
  | nil => rfl
  | cons row rest ih => simp [Row.stepsIn_walked, ih]

namespace Segment

/-- The segment with a row for every step. -/
def walked (segment : Segment) : Segment :=
  { segment with pattern := { rows := segment.pattern.rows.flatMap Row.walked } }

theorem steps_walked (segment : Segment) : segment.walked.steps = segment.steps :=
  stepsIn_flatMap_walked segment.pattern.rows

theorem length_walked (segment : Segment) : segment.walked.pattern.rows.length = segment.steps :=
  length_flatMap_walked segment.pattern.rows

/-- A segment written out reaches as far, since its snap is the same. -/
theorem extent_walked (segment : Segment) : segment.walked.extent = segment.extent := by
  rw [extent, steps_walked]
  rfl

theorem walked_rows_eq_nil_iff (segment : Segment) :
    segment.walked.pattern.rows = [] ↔ segment.pattern.rows = [] := by
  rcases hrows : segment.pattern.rows with - | ⟨row, rest⟩ <;> simp [walked, hrows, Row.walked]

/-- No row of a chart written out reserves steps. -/
theorem reserved_of_mem_walked {segment : Segment} {row : Row}
    (h : row ∈ segment.walked.pattern.rows) : row.reserved = 0 := by
  obtain ⟨source, -, hrow⟩ := List.mem_flatMap.1 h
  rcases List.mem_cons.1 hrow with rfl | hempty
  · rfl
  · rw [List.eq_of_mem_replicate hempty]

end Segment

theorem startBehind_map_walked (segments : List Segment) :
    startBehind (segments.map Segment.walked) = startBehind segments := by
  simp [startBehind, Function.comp_def, Segment.extent_walked]

/-! ### Places -/

namespace ChartRow

variable {segments : List Segment} (place : ChartRow segments)

/-- The steps in front of a place. -/
def stepIndex : Nat := (place.before.map Segment.steps).sum + stepsIn place.passed

/-- The place in the chart written out. -/
def walked : ChartRow (segments.map Segment.walked) where
  before := place.before.map Segment.walked
  segment := place.segment.walked
  behind := place.behind.map Segment.walked
  passed := place.passed.flatMap Row.walked
  row := { place.row with reserved := 0 }
  rest := List.replicate place.row.reserved.toNat {} ++ place.rest.flatMap Row.walked
  segments_eq := by
    rw [congrArg (List.map Segment.walked) place.segments_eq]
    simp
  rows_eq := by simp [Segment.walked, place.rows_eq, Row.walked]

/-- Written out, a row stands behind as many rows as there were steps in front of it. -/
theorem walked_index : place.walked.index = place.stepIndex := by
  simp only [index, walked, stepIndex, List.map_map, Function.comp_def, Segment.length_walked,
    length_flatMap_walked]

/-- **A row keeps its number** when the chart is written out. -/
theorem walked_number : place.walked.number = place.number := by
  simp [number, walked, startBehind_map_walked, Segment.walked]

end ChartRow

/-! ### The highest number -/

namespace Walk

/-- A walk ends in the same place, whether reserved steps are skipped or walked. -/
theorem passSegments_map_walked (walk : Walk) (segments : List Segment) :
    (walk.passSegments (segments.map Segment.walked)).2 = (walk.passSegments segments).2 := by
  induction segments generalizing walk with
  | nil => rfl
  | cons segment rest ih =>
    rw [List.map_cons, passSegments_cons, passSegments_cons, passRows_start, passRows_start]
    simp only [Segment.extent_walked, Segment.steps_walked, Segment.walked_rows_eq_nil_iff, ih]
    rfl

/-- Passing a row that reserves nothing, the walk has its number as the highest. -/
theorem highest_pass_of_not_reserved {row : Row} (h : row.reserved = 0) (walk : Walk)
    (stepper : Stepper) : (walk.pass row stepper).1.highest = walk.next := by
  simp [pass, h]

/-- Behind rows that reserve nothing, the number of the last one is the highest. -/
theorem highest_passRows_of_not_reserved {rows : List Row} (h : ∀ row ∈ rows, row.reserved = 0)
    (walk : Walk) (stepper : Stepper) :
    (walk.passRows stepper rows).2.highest =
      ((walk.passRows stepper rows).1.getLast?.map (·.number)).getD walk.highest := by
  induction rows generalizing walk stepper with
  | nil => rfl
  | cons row rest ih =>
    rw [passRows_cons]
    simp only [ih fun later hlater ↦ h later (List.mem_cons_of_mem _ hlater),
      highest_pass_of_not_reserved (h row List.mem_cons_self), List.getLast?_cons]
    cases (((walk.pass row stepper).1.passRows (walk.pass row stepper).2 rest).1).getLast? <;> rfl

/-- Where nothing is reserved, the highest number is that of the last row. -/
theorem highest_passSegments_of_not_reserved {segments : List Segment}
    (h : ∀ segment ∈ segments, ∀ row ∈ segment.pattern.rows, row.reserved = 0) (walk : Walk) :
    (walk.passSegments segments).2.highest =
      ((walk.passSegments segments).1.getLast?.map (·.number)).getD walk.highest := by
  induction segments generalizing walk with
  | nil => rfl
  | cons segment rest ih =>
    rw [passSegments_cons]
    simp only [ih fun later hlater ↦ h later (List.mem_cons_of_mem _ hlater),
      highest_passRows_of_not_reserved (h segment List.mem_cons_self), List.getLast?_append]
    cases ((walk.passRows (.start segment.snap) segment.pattern.rows).2.passSegments
      rest).1.getLast? <;> rfl

end Walk

namespace Timeline

/-- Writing a chart out leaves its highest number. -/
theorem highest_map_walked (segments : List Segment) :
    (ofSegments (segments.map Segment.walked)).highest = (ofSegments segments).highest := by
  rw [highest_ofSegments, Walk.passSegments_map_walked, highest_ofSegments]

/-- The highest number is that of the last step. -/
theorem highest_eq_last_step (segments : List Segment) :
    (ofSegments segments).highest =
      ((ofSegments (segments.map Segment.walked)).rows.getLast?.map (·.number)).getD 0 := by
  rw [← highest_map_walked, highest_ofSegments]
  refine Walk.highest_passSegments_of_not_reserved ?_ {}
  intro segment hsegment row hrow
  obtain ⟨source, -, rfl⟩ := List.mem_map.1 hsegment
  exact Segment.reserved_of_mem_walked hrow

/-- **Skipping is walking.** The chart written out has a row for every step, and every row of the
chart is one of them under the same number, which is that of the closed form. Both have the same
highest number. It is that of the last step, and no step has a higher one; and the numbers of a
chart never decrease. -/
theorem skipping_eq_walking (segments : List Segment) :
    let timeline := ofSegments segments
    let walked := ofSegments (segments.map Segment.walked)
    timeline.rows.length = (segments.map (·.pattern.rows.length)).sum ∧
      walked.rows.length = (segments.map Segment.steps).sum ∧
      (∀ place : ChartRow segments,
        timeline.rows[place.index]? = some ⟨place.row, place.number⟩ ∧
          walked.rows[place.stepIndex]? = some ⟨{ place.row with reserved := 0 }, place.number⟩) ∧
      timeline.highest = walked.highest ∧
      timeline.highest = (walked.rows.getLast?.map (·.number)).getD 0 ∧
      (∀ step ∈ walked.rows, step.number ≤ timeline.highest) ∧
      (timeline.rows.map (·.number)).Pairwise (· ≤ ·) := by
  refine ⟨?_, ?_, ?_, ?_, ?_, ?_, ?_⟩
  · rw [rows_ofSegments, length_numbered]
  · rw [rows_ofSegments, length_numbered]
    simp only [List.map_map, Function.comp_def, Segment.length_walked]
  · intro place
    refine ⟨place.getElem?_rows, ?_⟩
    rw [← place.walked_index, ← place.walked_number]
    exact place.walked.getElem?_rows
  · exact (highest_map_walked segments).symm
  · exact highest_eq_last_step segments
  · intro step hstep
    rw [← highest_map_walked]
    exact number_le_highest hstep
  · exact sorted_rows segments

end Timeline

end NoteChart
