import Mathlib.Tactic
import NoteChart.Stepper

/-!
# Where the steps of a snap fall

`k` steps of a snap `n` come to `⌊192 * k / n⌋` rows, and the stepper behind them holds the
remainder of that division. The two facts are one: `Stepper.behind` names the stepper that has
handed out exactly `SnapNumber.rowsOf` rows, and taking steps leads from one such stepper to the
next (`advance_behind`). How the steps are grouped does not show in it.
-/

namespace NoteChart

namespace SnapNumber

/-- The whole rows that so many steps of a snap come to. -/
def rowsOf (snap : SnapNumber) (steps : Nat) : Nat := Snap.rowsPerMeasure * steps / snap.value

@[simp]
theorem rowsOf_zero (snap : SnapNumber) : snap.rowsOf 0 = 0 := by
  simp [rowsOf]

/-- More steps come to as many rows at least. -/
theorem rowsOf_mono (snap : SnapNumber) {few many : Nat} (h : few ≤ many) :
    snap.rowsOf few ≤ snap.rowsOf many :=
  Nat.div_le_div_right (Nat.mul_le_mul_left _ h)

end SnapNumber

namespace Stepper

/-- The stepper that has taken so many steps of a snap. -/
def behind (snap : SnapNumber) (taken : Nat) : Stepper :=
  ⟨snap, Snap.rowsPerMeasure * taken % snap.value⟩

/-- A stepper starts behind no steps. -/
theorem start_eq_behind (snap : SnapNumber) : start snap = behind snap 0 := by
  simp [start, behind]

/-- What is on hand for a division is the total less what has been handed out already. -/
private theorem total_eq (snap : SnapNumber) (taken more : Nat) :
    Snap.rowsPerMeasure * more + Snap.rowsPerMeasure * taken % snap.value =
      Snap.rowsPerMeasure * (taken + more) - snap.value * snap.rowsOf taken := by
  have h := Nat.div_add_mod (Snap.rowsPerMeasure * taken) snap.value
  rw [SnapNumber.rowsOf, Nat.mul_add]
  omega

/-- **Steps taken at once.** The rows handed out are those that were still missing, and the
stepper is the one that has taken all the steps, the earlier ones included. -/
theorem advance_behind (snap : SnapNumber) (taken : Nat) (steps : Int) :
    (behind snap taken).advance steps =
      (snap.rowsOf (taken + steps.toNat) - snap.rowsOf taken,
        behind snap (taken + steps.toNat)) := by
  rcases le_or_gt steps 0 with hnone | hsome
  · simp [advance, hnone, Int.toNat_of_nonpos hnone]
  · have hhanded : snap.value * snap.rowsOf taken ≤
        Snap.rowsPerMeasure * (taken + steps.toNat) :=
      (Nat.mul_div_le _ _).trans (Nat.mul_le_mul_left _ (Nat.le_add_right _ _))
    simp only [advance, behind, not_le.2 hsome, if_false, total_eq]
    rw [Nat.sub_mul_div _ _ _, Nat.sub_mul_mod hhanded]
    rfl

/-- One step is an advance by one. -/
theorem next_behind (snap : SnapNumber) (taken : Nat) :
    (behind snap taken).next =
      (snap.rowsOf (taken + 1) - snap.rowsOf taken, behind snap (taken + 1)) :=
  advance_behind snap taken 1

end Stepper

end NoteChart
