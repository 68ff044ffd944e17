import Mathlib.Tactic
import NoteChart.Layout
import NoteChart.Proofs.Number.Rounding
import NoteChart.Proofs.Outcome

/-!
# The pixel of a row

A row becomes a pixel by three roundings: its offset in unscaled pixels becomes a double, this is
multiplied with the height of a row, and a margin is added before the part behind the point is cut
off. `pixelFault?` says which offsets get no pixel and why, and `pixels` says what the others get;
`pixelY_of_fault` and `pixelY_of_none` tie the two to the layout.

Rounding keeps the order, and therefore so does the pixel (`pixels_mono`), and an offset below one
that has a pixel has a pixel too (`pixelFault?_eq_none_of_le`). The margin cannot overflow. It is
less than half the gap below the largest double.
-/

namespace NoteChart

namespace Binary64

/-- The least natural number that is too large for a double, `2 ^ 1024 - 2 ^ 970`. -/
@[irreducible]
def integerLimit : Nat := (2 ^ 54 - 1) * 2 ^ 970

theorem overflowFrom_eq : overflowFrom = integerLimit * unitsPerOne := by
  decide +kernel

theorem unitsPerOne_pos : 0 < unitsPerOne := by
  decide +kernel

/-- The units of the double nearest to a natural number. -/
def natUnits (n : Nat) : Nat := roundUnits (n * unitsPerOne) 1

theorem natUnits_mono {n more : Nat} (h : n ≤ more) : natUnits n ≤ natUnits more :=
  roundUnits_mono Nat.one_pos (Nat.mul_le_mul_right _ h)

theorem natUnits_zero : natUnits 0 = 0 := by
  rw [natUnits, Nat.zero_mul]
  decide

theorem natUnits_pos {n : Nat} (h : 0 < n) : 0 < natUnits n := by
  have hne : n * unitsPerOne / 1 ≠ 0 := by
    rw [Nat.div_one]
    exact (Nat.mul_pos h unitsPerOne_pos).ne'
  exact (Nat.two_pow_pos _).trans_le (pow_log2_le_roundUnits Nat.one_pos hne)

/-- A natural number is rounded with a plus sign. -/
theorem ofInt_natCast_eq (n : Nat) : ofInt (n : Int) = ofUnits false (n * unitsPerOne) 1 := by
  have hsign : decide ((n : Int) < 0) = false := by simp
  rw [ofInt, hsign, Int.natAbs_natCast]

/-- Below the limit a number is rounded to a double. -/
theorem ofInt_natCast {n : Nat} (h : n < integerLimit) :
    ofInt (n : Int) = .finite false (natUnits n) := by
  rw [ofInt_natCast_eq, natUnits]
  refine ofUnits_eq_finite Nat.one_pos ?_ false
  rw [Nat.one_mul, overflowFrom_eq]
  exact Nat.mul_lt_mul_of_pos_right h unitsPerOne_pos

/-- From the limit on a number has no double but infinity. -/
theorem ofInt_natCast_of_le {n : Nat} (h : integerLimit ≤ n) :
    ofInt (n : Int) = .infinite false := by
  rw [ofInt_natCast_eq]
  refine ofUnits_eq_infinite Nat.one_pos ?_ false
  rw [Nat.one_mul, overflowFrom_eq]
  exact Nat.mul_le_mul_right _ h

/-- Integers have a double exactly below the limit. -/
theorem isFinite_ofInt_natCast (n : Nat) : (ofInt (n : Int)).isFinite ↔ n < integerLimit := by
  rcases Nat.lt_or_ge n integerLimit with h | h
  · rw [ofInt_natCast h]
    exact iff_of_true rfl h
  · rw [ofInt_natCast_of_le h]
    exact iff_of_false (by simp [isFinite]) (not_lt.2 h)

/-! ### Signs -/

/-- The number has a minus sign. -/
def isNegative : Binary64 → Bool
  | nan => false
  | infinite negative | finite negative _ => negative

theorem isNonpositive_of_isPositive {number : Binary64} (h : number.isPositive) :
    number.isNonpositive = false := by
  rcases number with - | negative | ⟨negative, units⟩
  · rfl
  · simpa [isPositive, isNonpositive] using h
  · simpa [isPositive, isNonpositive] using h

theorem isNegative_ofUnits (num den : Nat) : (ofUnits false num den).isNegative = false := by
  rw [ofUnits]
  split <;> rfl

/-- A product of numbers without a minus has none, or is not a number. -/
theorem isNegative_mul {a b : Binary64} (ha : a.isNegative = false) (hb : b.isNegative = false) :
    (a.mul b).isNegative = false := by
  rcases a with - | s | ⟨s, units⟩
  · rfl
  all_goals
    obtain rfl : s = false := ha
    rcases b with - | t | ⟨t, more⟩
    · rfl
    all_goals obtain rfl : t = false := hb
  · rfl
  · rw [mul]
    split <;> rfl
  · rw [mul]
    split <;> rfl
  · rw [mul, bne_self_eq_false]
    exact isNegative_ofUnits _ _

theorem isNegative_div {a b : Binary64} (ha : a.isNegative = false) (hb : b.isNegative = false) :
    (a.div b).isNegative = false := by
  rcases a with - | s | ⟨s, units⟩
  · rfl
  all_goals
    obtain rfl : s = false := ha
    rcases b with - | t | ⟨t, more⟩
    · rfl
    all_goals obtain rfl : t = false := hb
  · rfl
  · rfl
  · rfl
  · rw [div, bne_self_eq_false]
    split_ifs
    · rfl
    · rfl
    · exact isNegative_ofUnits _ _

end Binary64

namespace Layout

open Binary64

/-! ### The margin -/

/-- The units of the margin. -/
def marginUnits : Nat := roundUnits (1 * unitsPerOne) (Nat.pow 10 6)

/-- The margin is a double of so many units. -/
theorem margin_eq : margin = .finite false marginUnits := by
  have hshape : margin = ofUnits false (1 * unitsPerOne) (Nat.pow 10 6) := by
    rw [margin, ofDecimal, if_neg (by decide), if_neg (by decide)]
    exact if_neg (by decide)
  rw [hshape]
  exact ofUnits_eq_finite (by decide) (by decide +kernel) false

/-- The margin does not lead out of the format. -/
theorem add_marginUnits_lt {units : Nat} (h : units ≤ largest) :
    units + marginUnits < 1 * overflowFrom := by
  have hroom : largest + marginUnits < 1 * overflowFrom := by decide +kernel
  exact (Nat.add_le_add_right h _).trans_lt hroom

/-! ### Offsets -/

/-- Why an offset that has a double has no pixel at a height of rows, if it has none. -/
def scaledFault? (offset : Nat) : Binary64 → Option Fault
  | .nan => some .notANumber
  | .infinite _ => if offset = 0 then some .notANumber else some .numberTooLarge
  | .finite _ units =>
    if unitsPerOne * overflowFrom ≤ natUnits offset * units then some .numberTooLarge else none

/-- Why an offset in unscaled pixels has no pixel at a height of rows, if it has none. -/
def pixelFault? (height : Binary64) (offset : Nat) : Option Fault :=
  if integerLimit ≤ offset then some .numberTooLarge else scaledFault? offset height

/-- An offset has a pixel where rows have a finite height, and neither the offset nor its product
with that height overflows. -/
theorem pixelFault?_eq_none_iff {height : Binary64} {offset : Nat} :
    pixelFault? height offset = none ↔
      offset < integerLimit ∧ ∃ negative units, height = .finite negative units ∧
        natUnits offset * units < unitsPerOne * overflowFrom := by
  rw [pixelFault?]
  split
  · rename_i hlimit
    simp [not_lt.2 hlimit]
  · rename_i hlimit
    rcases height with - | negative | ⟨negative, units⟩
    · simp [scaledFault?]
    · simp only [scaledFault?]
      split <;> simp
    · simp [scaledFault?, not_le.1 hlimit]

/-- The pixel of an offset, for a height of rows in units. -/
def pixels (units offset : Nat) : Nat :=
  roundUnits (roundUnits (natUnits offset * units) unitsPerOne + marginUnits) 1 / unitsPerOne

/-- Pixels do not fall as offsets rise, since rounding keeps the order. -/
theorem pixels_mono (units : Nat) {offset more : Nat} (h : offset ≤ more) :
    pixels units offset ≤ pixels units more := by
  have hscaled := roundUnits_mono unitsPerOne_pos (Nat.mul_le_mul_right units (natUnits_mono h))
  exact Nat.div_le_div_right (roundUnits_mono Nat.one_pos (Nat.add_le_add_right hscaled _))

/-- Offsets that get a pixel are closed downwards. -/
theorem pixelFault?_eq_none_of_le {height : Binary64} {offset more : Nat} (hle : offset ≤ more)
    (h : pixelFault? height more = none) : pixelFault? height offset = none := by
  obtain ⟨hlimit, negative, units, hheight, hproduct⟩ := pixelFault?_eq_none_iff.1 h
  have hsmaller := Nat.mul_le_mul_right units (natUnits_mono hle)
  exact pixelFault?_eq_none_iff.2
    ⟨hle.trans_lt hlimit, negative, units, hheight, hsmaller.trans_lt hproduct⟩

/-! ### Rows -/

variable {layout : Layout} {row : Int} {offset : Nat}

/-- Where the product is no finite number, the pixel fails with the fault that says so. -/
theorem wholePixels_of_scaledFault {height : Binary64} {fault : Fault}
    (h : scaledFault? offset height = some fault) :
    wholePixels (((Binary64.finite false (natUnits offset)).mul height).add margin) =
      .error fault := by
  rw [margin_eq]
  rcases height with - | negative | ⟨negative, units⟩ <;> rw [scaledFault?] at h
  · cases h
    rfl
  · split at h <;> cases h
    · rename_i hzero
      rw [mul, hzero, natUnits_zero, if_pos rfl, add, wholePixels]
    · rename_i hpos
      have hunits : natUnits offset ≠ 0 := (natUnits_pos (Nat.pos_of_ne_zero hpos)).ne'
      rw [mul, if_neg hunits, add, wholePixels]
  · split at h <;> cases h
    rename_i hover
    rw [mul, ofUnits_eq_infinite unitsPerOne_pos hover, add, wholePixels]

/-- A row whose offset has no pixel fails with the reason. -/
theorem pixelY_of_fault (hoffset : row * layout.resolution = offset) {fault : Fault}
    (h : pixelFault? layout.rowHeight offset = some fault) : layout.pixelY row = .error fault := by
  rw [pixelFault?] at h
  rw [pixelY, hoffset]
  split at h
  · rename_i hlimit
    cases h
    rw [ofInt_natCast_of_le hlimit, isFinite, if_neg Bool.false_ne_true]
  · rename_i hlimit
    rw [ofInt_natCast (not_le.1 hlimit), isFinite, if_pos rfl]
    exact wholePixels_of_scaledFault h

/-- A row whose offset has a pixel is drawn there. -/
theorem pixelY_of_none (hoffset : row * layout.resolution = offset) {units : Nat}
    (hheight : layout.rowHeight = .finite false units)
    (h : pixelFault? layout.rowHeight offset = none) :
    layout.pixelY row = .ok (pixels units offset : Int) := by
  obtain ⟨hlimit, negative, units', hheight', hscaled⟩ := pixelFault?_eq_none_iff.1 h
  cases hheight.symm.trans hheight'
  -- the product is at most the largest double, which leaves room for the margin
  have hmargin := add_marginUnits_lt (roundUnits_le_largest unitsPerOne_pos hscaled)
  rw [pixelY, hoffset, ofInt_natCast hlimit, hheight, mul, bne_self_eq_false,
    ofUnits_eq_finite unitsPerOne_pos hscaled, margin_eq, add, if_pos rfl,
    ofUnits_eq_finite Nat.one_pos hmargin]
  rfl

/-- **The pixel of a row**, where the height of rows is not negative. -/
theorem ends_pixelY (hoffset : row * layout.resolution = offset)
    (hheight : layout.rowHeight.isNegative = false) :
    Ends (fun y ↦ ∃ units, layout.rowHeight = .finite false units ∧ y = (pixels units offset : Int))
      (pixelFault? layout.rowHeight offset) (layout.pixelY row) := by
  rcases hfault : pixelFault? layout.rowHeight offset with - | fault
  · obtain ⟨-, negative, units, hfinite, -⟩ := pixelFault?_eq_none_iff.1 hfault
    rw [hfinite, isNegative] at hheight
    subst hheight
    rw [pixelY_of_none hoffset hfinite hfault]
    exact .ok ⟨units, hfinite, rfl⟩
  · rw [pixelY_of_fault hoffset hfault]
    exact .error fault

end Layout

end NoteChart
