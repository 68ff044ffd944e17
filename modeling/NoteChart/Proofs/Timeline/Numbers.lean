import Mathlib.Tactic
import NoteChart.Timeline
import NoteChart.Proofs.Stepping

/-!
# Row numbers in closed form

A walk along a chart carries its stepper, its next number and its highest one. None of that is
needed to say where a row stands: behind `c` steps of its segment it has the number at which the
segment starts and `⌊192 * c / n⌋` more, and a segment starts where the whole rows of those in front
of it end. `numbered` is the chart written down that way, and `passSegments_eq` says that the walk
comes to it.

Two facts about a single row carry everything. `pass_behind` is the exact one: from the stepper
behind `c` steps, passing a row leads to the stepper behind its steps as well. The order of the
numbers needs less, only that a pass never leads back (`leads_pass`), and is kept apart.

A place in a chart is a `ChartRow`, a row with all that is in front of it. Statements about every
row of a chart are statements about every `ChartRow`.
-/

namespace NoteChart

/-! ### Steps -/

/-- The time steps a row takes, its own and those it reserves. -/
def Row.steps (row : Row) : Nat := 1 + row.reserved.toNat

/-- The time steps of rows in a line. -/
def stepsIn (rows : List Row) : Nat := (rows.map Row.steps).sum

@[simp]
theorem stepsIn_nil : stepsIn [] = 0 := rfl

@[simp]
theorem stepsIn_cons (row : Row) (rows : List Row) :
    stepsIn (row :: rows) = row.steps + stepsIn rows := by
  simp [stepsIn]

@[simp]
theorem stepsIn_append (front back : List Row) :
    stepsIn (front ++ back) = stepsIn front + stepsIn back := by
  simp [stepsIn]

namespace Segment

/-- The time steps of a segment. -/
def steps (segment : Segment) : Nat := stepsIn segment.pattern.rows

/-- The rows of the timeline that a segment takes up. A part of a row at its end is lost. -/
def extent (segment : Segment) : Nat := segment.snap.rowsOf segment.steps

end Segment

/-- The number at which what stands behind some segments starts. -/
def startBehind (segments : List Segment) : Nat := (segments.map Segment.extent).sum

@[simp]
theorem startBehind_nil : startBehind [] = 0 := rfl

@[simp]
theorem startBehind_cons (segment : Segment) (rest : List Segment) :
    startBehind (segment :: rest) = segment.extent + startBehind rest := by
  simp [startBehind]

/-! ### The closed form -/

/-- Rows of a segment that starts at `base`, `taken` of its steps in front of them. -/
def numberedRows (base : Nat) (snap : SnapNumber) (taken : Nat) : List Row → List TimedRow
  | [] => []
  | row :: rest =>
    ⟨row, base + snap.rowsOf taken⟩ :: numberedRows base snap (taken + row.steps) rest

/-- The rows of segments of which the first starts at `base`. -/
def numbered (base : Nat) : List Segment → List TimedRow
  | [] => []
  | segment :: rest =>
    numberedRows base segment.snap 0 segment.pattern.rows ++ numbered (base + segment.extent) rest

@[simp]
theorem length_numberedRows (base : Nat) (snap : SnapNumber) (taken : Nat) (rows : List Row) :
    (numberedRows base snap taken rows).length = rows.length := by
  induction rows generalizing taken with
  | nil => rfl
  | cons row rest ih => simp [numberedRows, ih]

/-- Rows are numbered on from the steps in front of them. -/
theorem numberedRows_append (base : Nat) (snap : SnapNumber) (taken : Nat) (front back : List Row) :
    numberedRows base snap taken (front ++ back) =
      numberedRows base snap taken front ++
        numberedRows base snap (taken + stepsIn front) back := by
  induction front generalizing taken with
  | nil => rfl
  | cons row rest ih => simp [numberedRows, ih, Nat.add_assoc]

/-- Segments are numbered on from the end of those in front of them. -/
theorem numbered_append (base : Nat) (front back : List Segment) :
    numbered base (front ++ back) =
      numbered base front ++ numbered (base + startBehind front) back := by
  induction front generalizing base with
  | nil => rfl
  | cons segment rest ih => simp [numbered, ih, Nat.add_assoc]

theorem length_numbered (base : Nat) (segments : List Segment) :
    (numbered base segments).length = (segments.map (·.pattern.rows.length)).sum := by
  induction segments generalizing base with
  | nil => rfl
  | cons segment rest ih => simp [numbered, ih]

/-! ### The walk -/

namespace Walk

/-- **One row.** The walk stands behind `taken` steps of a segment that starts at `base`, and so
does the stepper. Behind the row both stand behind its steps too, and the highest number is that of
the last of these steps. -/
theorem pass_behind (base taken highest : Nat) (snap : SnapNumber) (row : Row) :
    pass row ⟨base + snap.rowsOf taken, highest⟩ (.behind snap taken) =
      (⟨base + snap.rowsOf (taken + row.steps), base + snap.rowsOf (taken + row.reserved.toNat)⟩,
        .behind snap (taken + row.steps)) := by
  have hfirst := snap.rowsOf_mono (Nat.le_add_right taken 1)
  by_cases hreserved : 0 < row.reserved
  · -- the steps are taken in three parts: one, all but one of those reserved, one
    have hskip : taken + 1 + (row.reserved - 1).toNat = taken + row.reserved.toNat := by omega
    have hsteps : taken + row.reserved.toNat + 1 = taken + row.steps := by
      rw [Row.steps]
      omega
    have hmiddle := snap.rowsOf_mono (show taken + 1 ≤ taken + row.reserved.toNat by omega)
    have hlast := snap.rowsOf_mono (Nat.le_add_right (taken + row.reserved.toNat) 1)
    simp only [pass, hreserved, if_true, Stepper.next_behind, Stepper.advance_behind, hskip]
    rw [hsteps] at hlast ⊢
    simp only [Prod.mk.injEq, mk.injEq, and_true]
    omega
  · have hnone : row.reserved.toNat = 0 := by omega
    have hsteps : taken + row.steps = taken + 1 := by rw [Row.steps, hnone]
    simp only [pass, hreserved, if_false, Stepper.next_behind, hsteps, hnone, Nat.add_zero,
      Prod.mk.injEq, mk.injEq, and_true]
    omega

/-- The rows behind the first are passed from where the first one leads. -/
theorem passRows_cons (walk : Walk) (stepper : Stepper) (row : Row) (rest : List Row) :
    walk.passRows stepper (row :: rest) =
      let behind := walk.pass row stepper
      let more := behind.1.passRows behind.2 rest
      (⟨row, walk.next⟩ :: more.1, more.2) :=
  rfl

/-- The segments behind the first are passed from where the first one leads. -/
theorem passSegments_cons (walk : Walk) (segment : Segment) (rest : List Segment) :
    walk.passSegments (segment :: rest) =
      let timed := walk.passRows (.start segment.snap) segment.pattern.rows
      let more := timed.2.passSegments rest
      (timed.1 ++ more.1, more.2) :=
  rfl

/-- **The rows of a segment**, by induction from the pass of one row. -/
theorem passRows_behind (base taken highest : Nat) (snap : SnapNumber) (rows : List Row) :
    passRows ⟨base + snap.rowsOf taken, highest⟩ (.behind snap taken) rows =
      (numberedRows base snap taken rows,
        ⟨base + snap.rowsOf (taken + stepsIn rows),
          if rows = [] then highest else base + snap.rowsOf (taken + stepsIn rows - 1)⟩) := by
  induction rows generalizing taken highest with
  | nil => simp [passRows, numberedRows]
  | cons row rest ih =>
    rw [passRows_cons, pass_behind]
    simp only [ih, numberedRows, stepsIn_cons, Nat.add_assoc, reduceCtorEq, if_false]
    rcases rest with - | ⟨next, rest⟩
    · have hlast : taken + row.steps - 1 = taken + row.reserved.toNat := by
        rw [Row.steps]
        omega
      simp [hlast]
    · simp

/-- A segment is passed from a fresh stepper. -/
theorem passRows_start (walk : Walk) (segment : Segment) :
    walk.passRows (.start segment.snap) segment.pattern.rows =
      (numberedRows walk.next segment.snap 0 segment.pattern.rows,
        ⟨walk.next + segment.extent,
          if segment.pattern.rows = [] then walk.highest
          else walk.next + segment.snap.rowsOf (segment.steps - 1)⟩) := by
  have h := passRows_behind walk.next 0 walk.highest segment.snap segment.pattern.rows
  simpa [Stepper.start_eq_behind, Segment.extent, Segment.steps] using h

/-- **The chart**, by induction from its segments. -/
theorem passSegments_eq (walk : Walk) (segments : List Segment) :
    (walk.passSegments segments).1 = numbered walk.next segments := by
  induction segments generalizing walk with
  | nil => rfl
  | cons segment rest ih =>
    rw [passSegments_cons, passRows_start]
    simp only [ih, numbered]

/-! ### Order -/

/-- A walk leads past some rows to another one: nothing of it goes back, and the rows passed stand
in order between the two. The highest number never overtakes the next one. -/
structure Leads (walk : Walk) (timed : List TimedRow) (last : Walk) : Prop where
  next_le : walk.next ≤ last.next
  highest_le : walk.highest ≤ last.highest
  highest_le_next : last.highest ≤ last.next
  sorted : (timed.map (·.number)).Pairwise (· ≤ ·)
  le_number : ∀ row ∈ timed, walk.next ≤ row.number
  number_le : ∀ row ∈ timed, row.number ≤ last.highest

theorem Leads.refl {walk : Walk} (h : walk.highest ≤ walk.next) : Leads walk [] walk where
  next_le := le_rfl
  highest_le := le_rfl
  highest_le_next := h
  sorted := List.Pairwise.nil
  le_number := by simp
  number_le := by simp

/-- Two stretches of a walk make one. -/
theorem Leads.trans {walk middle last : Walk} {front back : List TimedRow}
    (hfront : Leads walk front middle) (hback : Leads middle back last) :
    Leads walk (front ++ back) last where
  next_le := hfront.next_le.trans hback.next_le
  highest_le := hfront.highest_le.trans hback.highest_le
  highest_le_next := hback.highest_le_next
  sorted := by
    rw [List.map_append, List.pairwise_append]
    refine ⟨hfront.sorted, hback.sorted, ?_⟩
    simp only [List.mem_map]
    rintro _ ⟨row, hrow, rfl⟩ _ ⟨later, hlater, rfl⟩
    calc row.number ≤ middle.highest := hfront.number_le row hrow
      _ ≤ middle.next := hfront.highest_le_next
      _ ≤ later.number := hback.le_number later hlater
  le_number := by
    intro row hrow
    rcases List.mem_append.1 hrow with h | h
    · exact hfront.le_number row h
    · exact hfront.next_le.trans (hback.le_number row h)
  number_le := by
    intro row hrow
    rcases List.mem_append.1 hrow with h | h
    · exact (hfront.number_le row h).trans hback.highest_le
    · exact hback.number_le row h

/-- **One row in order.** The last step of a row is not in front of the first, and what stands
behind the row is not in front of its last step. -/
theorem leads_pass {walk : Walk} (h : walk.highest ≤ walk.next) (row : Row) (stepper : Stepper) :
    Leads walk [⟨row, walk.next⟩] (walk.pass row stepper).1 := by
  have hlast : walk.next ≤ (walk.pass row stepper).1.highest := by
    by_cases hreserved : 0 < row.reserved <;> simp only [pass, hreserved, if_true, if_false]
    · omega
    · exact le_rfl
  have hnext : (walk.pass row stepper).1.highest ≤ (walk.pass row stepper).1.next := by
    by_cases hreserved : 0 < row.reserved <;> simp only [pass, hreserved, if_true, if_false] <;>
      exact Nat.le_add_right _ _
  exact {
    next_le := hlast.trans hnext
    highest_le := h.trans hlast
    highest_le_next := hnext
    sorted := List.pairwise_singleton _ _
    le_number := by simp
    number_le := by simpa using hlast }

/-- **A segment in order**, by induction from one row. -/
theorem leads_passRows {walk : Walk} (h : walk.highest ≤ walk.next) (stepper : Stepper)
    (rows : List Row) :
    Leads walk (walk.passRows stepper rows).1 (walk.passRows stepper rows).2 := by
  induction rows generalizing walk stepper with
  | nil => exact .refl h
  | cons row rest ih =>
    have hrow := leads_pass h row stepper
    exact hrow.trans (ih hrow.highest_le_next _)

/-- **A chart in order**, by induction from its segments. -/
theorem leads_passSegments {walk : Walk} (h : walk.highest ≤ walk.next)
    (segments : List Segment) :
    Leads walk (walk.passSegments segments).1 (walk.passSegments segments).2 := by
  induction segments generalizing walk with
  | nil => exact .refl h
  | cons segment rest ih =>
    have hrows := leads_passRows h (.start segment.snap) segment.pattern.rows
    exact hrows.trans (ih hrows.highest_le_next)

end Walk

namespace Timeline

/-- **The rows of a chart** have the numbers that the sums of steps give them. -/
theorem rows_ofSegments (segments : List Segment) :
    (ofSegments segments).rows = numbered 0 segments :=
  Walk.passSegments_eq {} segments

theorem highest_ofSegments (segments : List Segment) :
    (ofSegments segments).highest = (Walk.passSegments {} segments).2.highest :=
  rfl

/-- The numbers of a chart never decrease. -/
theorem sorted_rows (segments : List Segment) :
    ((ofSegments segments).rows.map (·.number)).Pairwise (· ≤ ·) :=
  (Walk.leads_passSegments (le_refl ({} : Walk).highest) segments).sorted

/-- No row has a number above the highest one. -/
theorem number_le_highest {segments : List Segment} {timed : TimedRow}
    (h : timed ∈ (ofSegments segments).rows) : timed.number ≤ (ofSegments segments).highest :=
  (Walk.leads_passSegments (le_refl ({} : Walk).highest) segments).number_le timed h

end Timeline

/-! ### Places -/

/-- A row of a chart, with the segments in front of its own and the rows in front of it there. -/
structure ChartRow (segments : List Segment) where
  before : List Segment
  segment : Segment
  behind : List Segment
  passed : List Row
  row : Row
  rest : List Row
  segments_eq : segments = before ++ segment :: behind
  rows_eq : segment.pattern.rows = passed ++ row :: rest

namespace ChartRow

variable {segments : List Segment} (place : ChartRow segments)

/-- The rows in front of the place. -/
def index : Nat :=
  (place.before.map (·.pattern.rows.length)).sum + place.passed.length

/-- The number of the row in closed form. -/
def number : Nat := startBehind place.before + place.segment.snap.rowsOf (stepsIn place.passed)

/-- **The timeline in closed form.** Every row of a chart stands on the timeline in its turn, with
the number that the steps in front of it come to. -/
theorem getElem?_rows :
    (Timeline.ofSegments segments).rows[place.index]? = some ⟨place.row, place.number⟩ := by
  have hfront : (numbered 0 place.before).length =
      (place.before.map (·.pattern.rows.length)).sum := length_numbered 0 place.before
  rw [Timeline.rows_ofSegments, congrArg (numbered 0) place.segments_eq, numbered_append, index,
    ← hfront,
    List.getElem?_append_right (Nat.le_add_right _ _), Nat.add_sub_cancel_left, numbered,
    place.rows_eq, numberedRows_append, List.append_assoc,
    List.getElem?_append_right (by simp)]
  simp [numberedRows, number]

end ChartRow

end NoteChart
