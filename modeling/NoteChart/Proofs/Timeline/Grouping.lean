import Mathlib.Data.Rat.Floor
import Mathlib.Tactic
import NoteChart.Proofs.Timeline.Drift

/-!
# Steps in any grouping

A stepper may be asked for one step or for any number of them at once, in any order and as often as
one likes. What it has handed out in all depends on the number of steps alone, and so does the
stepper itself. That is `answers_behind`, and it rests on `Stepper.advance_behind` alone: a call
leads from the stepper behind some steps to the one behind some more.

The stepper keeps its remainder as a natural number. Read as a part of a row it is `fraction`, and
in these terms a call hands out the whole rows of what is on hand and keeps the rest
(`rows_answer`, `fraction_answer`). A stretch of steps may start anywhere between two rows, and
that is worth one row at most (`rowsOf_add`).
-/

namespace NoteChart

namespace SnapNumber

/-- Two stretches come to the rows of each, and to one more if their remainders make up a row. -/
theorem rowsOf_add (snap : SnapNumber) (steps more : Nat) :
    snap.rowsOf (steps + more) = snap.rowsOf steps + snap.rowsOf more ∨
      snap.rowsOf (steps + more) = snap.rowsOf steps + snap.rowsOf more + 1 := by
  rw [rowsOf, Nat.mul_add, Nat.add_div snap.value_pos]
  split
  · exact .inr rfl
  · exact .inl rfl

end SnapNumber

namespace Stepper

/-! ### Calls -/

/-- What a stepper can be asked for. -/
inductive Call
  | next
  | advance (steps : Int)
deriving DecidableEq

namespace Call

/-- The steps that a call takes. -/
def steps : Call → Nat
  | next => 1
  | advance steps => steps.toNat

/-- What a call hands out, and the stepper behind it. -/
def answer (stepper : Stepper) : Call → Nat × Stepper
  | next => stepper.next
  | advance steps => stepper.advance steps

end Call

/-- The steps that calls take together. -/
def stepsOf (calls : List Call) : Nat := (calls.map Call.steps).sum

/-- Makes calls one after another. -/
def answers (stepper : Stepper) : List Call → List Nat × Stepper
  | [] => ([], stepper)
  | call :: rest =>
    let (rows, stepper) := call.answer stepper
    let (more, last) := stepper.answers rest
    (rows :: more, last)

theorem answers_cons (stepper : Stepper) (call : Call) (rest : List Call) :
    stepper.answers (call :: rest) =
      ((call.answer stepper).1 :: ((call.answer stepper).2.answers rest).1,
        ((call.answer stepper).2.answers rest).2) :=
  rfl

/-- Steps one by one are as many calls for one step. -/
theorem take_eq_answers (count : Nat) (stepper : Stepper) :
    stepper.take count = stepper.answers (List.replicate count .next) := by
  induction count generalizing stepper with
  | zero => rfl
  | succ count ih =>
    rw [List.replicate_succ, answers_cons]
    show (stepper.next.1 :: (stepper.next.2.take count).1, (stepper.next.2.take count).2) = _
    rw [ih]
    rfl

theorem stepsOf_replicate_next (count : Nat) : stepsOf (List.replicate count .next) = count := by
  simp [stepsOf, Call.steps]

/-- **One call** hands out the rows that its steps are short of. -/
theorem answer_behind (snap : SnapNumber) (taken : Nat) (call : Call) :
    call.answer (behind snap taken) =
      (snap.rowsOf (taken + call.steps) - snap.rowsOf taken, behind snap (taken + call.steps)) := by
  rcases call with - | steps
  · exact next_behind snap taken
  · exact advance_behind snap taken steps

/-- **Any calls**, by induction from one. -/
theorem answers_behind (snap : SnapNumber) (taken : Nat) (calls : List Call) :
    ((behind snap taken).answers calls).1.sum =
        snap.rowsOf (taken + stepsOf calls) - snap.rowsOf taken ∧
      ((behind snap taken).answers calls).2 = behind snap (taken + stepsOf calls) := by
  induction calls generalizing taken with
  | nil => simp [answers, stepsOf]
  | cons call rest ih =>
    obtain ⟨hsum, hlast⟩ := ih (taken + call.steps)
    have hsteps : taken + stepsOf (call :: rest) = taken + call.steps + stepsOf rest := by
      rw [stepsOf, List.map_cons, List.sum_cons, ← stepsOf, Nat.add_assoc]
    have hfirst := snap.rowsOf_mono (Nat.le_add_right taken call.steps)
    have hrest := snap.rowsOf_mono (Nat.le_add_right (taken + call.steps) (stepsOf rest))
    rw [answers_cons, answer_behind, hsteps, List.sum_cons]
    refine ⟨?_, hlast⟩
    show snap.rowsOf (taken + call.steps) - snap.rowsOf taken +
      ((behind snap (taken + call.steps)).answers rest).1.sum = _
    omega

/-! ### Parts of a row -/

/-- What is left over, as a part of a row. -/
def fraction (stepper : Stepper) : ℚ := stepper.carry / stepper.snap.value

/-- The exact rows on hand for some steps, what is left over included. -/
def onHand (stepper : Stepper) (steps : Nat) : ℚ :=
  steps * stepper.snap.exactStep + stepper.fraction

theorem fraction_behind (snap : SnapNumber) (taken : Nat) :
    (behind snap taken).fraction = snap.lost taken := by
  rw [SnapNumber.lost, SnapNumber.mul_exactStep, Int.fract_div_natCast_eq_div_natCast_mod]
  rfl

/-- Behind some steps, what is on hand is all that they and those to come are worth, less the rows
that were handed out. -/
theorem onHand_behind (snap : SnapNumber) (taken steps : Nat) :
    (behind snap taken).onHand steps =
      ((taken + steps : ℕ) : ℚ) * snap.exactStep - snap.rowsOf taken := by
  have htaken := snap.rowsOf_add_lost taken
  rw [onHand, fraction_behind]
  show steps * snap.exactStep + snap.lost taken = _
  push_cast
  linarith

/-- **What a call hands out** are the whole rows on hand. -/
theorem rows_answer (snap : SnapNumber) (taken : Nat) (call : Call) :
    ((call.answer (behind snap taken)).1 : ℤ) = ⌊(behind snap taken).onHand call.steps⌋ := by
  have hmono := snap.rowsOf_mono (Nat.le_add_right taken call.steps)
  rw [answer_behind, onHand_behind, Int.floor_sub_natCast, ← SnapNumber.rowsOf_eq_floor,
    Nat.cast_sub hmono]

/-- **What a call keeps** is the part of a row besides them. -/
theorem fraction_answer (snap : SnapNumber) (taken : Nat) (call : Call) :
    (call.answer (behind snap taken)).2.fraction =
      Int.fract ((behind snap taken).onHand call.steps) := by
  rw [answer_behind, onHand_behind, fraction_behind, Int.fract_sub_natCast, SnapNumber.lost]

/-! ### Any use of a stepper -/

/-- **Steps in any grouping.** However a fresh stepper is used, it has handed out the whole rows of
the steps it took in all, and it is the stepper behind that many steps, whatever calls they were
asked for with. Any number of steps at once is those steps one by one, and no steps or a negative
number of them are nothing. Each call hands out the whole rows on hand and keeps the part of a row
besides them, which is never negative and never a row; and wherever they start, steps come to the
rows they come to from the start of a measure, or to one row more. -/
theorem answers_start_exact (snap : SnapNumber) (calls : List Call) :
    let used := (start snap).answers calls
    let taken := stepsOf calls
    used.1.sum = Snap.rowsPerMeasure * taken / snap.value ∧
      (∀ others, stepsOf others = taken → ((start snap).answers others).2 = used.2) ∧
      (∀ steps : Int,
        used.2.advance steps =
          ((used.2.take steps.toNat).1.sum, (used.2.take steps.toNat).2)) ∧
      (∀ steps ≤ 0, used.2.advance steps = (0, used.2)) ∧
      (∀ call : Call,
        ((call.answer used.2).1 : ℤ) = ⌊call.steps * snap.exactStep + used.2.fraction⌋ ∧
          (call.answer used.2).2.fraction =
            Int.fract (call.steps * snap.exactStep + used.2.fraction)) ∧
      (0 ≤ used.2.fraction ∧ used.2.fraction < 1) ∧
      ∀ more : List Call,
        (used.2.answers more).1.sum = snap.rowsOf (stepsOf more) ∨
          (used.2.answers more).1.sum = snap.rowsOf (stepsOf more) + 1 := by
  intro used taken
  obtain ⟨hsum, hlast⟩ : used.1.sum = snap.rowsOf taken ∧ used.2 = behind snap taken := by
    have h := answers_behind snap 0 calls
    rw [← start_eq_behind, SnapNumber.rowsOf_zero, Nat.sub_zero, Nat.zero_add] at h
    exact h
  rw [hlast]
  refine ⟨hsum, fun others hothers ↦ ?_, fun steps ↦ ?_, fun steps hsteps ↦ ?_, fun call ↦ ?_, ?_,
    fun more ↦ ?_⟩
  · rw [start_eq_behind, (answers_behind snap 0 others).2, hothers, Nat.zero_add]
  · obtain ⟨htaken, hbehind⟩ :=
      answers_behind snap taken (List.replicate steps.toNat .next)
    rw [take_eq_answers, htaken, hbehind, stepsOf_replicate_next, advance_behind]
  · rw [advance, if_pos hsteps]
  · exact ⟨rows_answer snap taken call, fraction_answer snap taken call⟩
  · rw [fraction_behind]
    exact ⟨snap.lost_nonneg taken, snap.lost_lt_one taken⟩
  · rw [(answers_behind snap taken more).1]
    rcases snap.rowsOf_add taken (stepsOf more) with h | h
    · exact .inl (by omega)
    · exact .inr (by omega)

/-- Sevenths, none of which is a whole number of rows. -/
def sevenths : SnapNumber := ⟨7, by decide⟩

/-- Five sevenths asked for in three calls are 137 rows, as they are asked for at once. The next two
are 55 rows, one more than the first two of a measure. -/
theorem answers_start_exact_sevenths :
    let calls := [Call.next, .advance 4, .advance (-3)]
    let behindFive := (⟨sevenths, 1⟩ : Stepper)
    (start sevenths).answers calls = ([27, 110, 0], behindFive) ∧
      ([27, 110, 0] : List Nat).sum = Snap.rowsPerMeasure * 5 / 7 ∧
      ((start sevenths).answers [.advance 5]).2 = behindFive ∧
      behindFive.advance 2 = ((behindFive.take 2).1.sum, (behindFive.take 2).2) ∧
      behindFive.advance (-1) = (0, behindFive) ∧
      (0 ≤ behindFive.fraction ∧ behindFive.fraction < 1) ∧
      (behindFive.answers [.advance 2]).1 = [55] ∧ sevenths.rowsOf 2 = 54 := by
  intro calls behindFive
  obtain ⟨hsum, hstate, hgrouped, hnone, -, hfraction, -⟩ := answers_start_exact sevenths calls
  exact ⟨by decide, hsum, hstate [.advance 5] (by decide), hgrouped 2, hnone (-1) (by decide),
    hfraction, by decide, by decide⟩

end Stepper

end NoteChart
