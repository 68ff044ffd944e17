import Mathlib.Tactic
import NoteChart.Number.Binary64

/-!
# Rounding keeps the order

The operations on doubles are exact computations followed by one rounding, so all that is to be
known about them is known about the rounding. Two facts are used. It keeps the order
(`roundUnits_mono`), and it reaches the infinities exactly from `2 ^ 1024 - 2 ^ 970` on, half way
between the largest number of the format and the next power of two (`ofUnits_eq_finite` and
`ofUnits_eq_infinite`).

Within one binade the grid is fixed and rounding to it is division, which keeps the order. Between
two binades the power of two that parts them lies on both grids, and neither side is rounded past
it (`pow_log2_le_roundUnits` and `roundUnits_le_pow_log2_succ`).
-/

namespace NoteChart.Binary64

/-! ### Whole numbers -/

/-- A quotient is not rounded past a whole number it does not exceed by half. -/
theorem roundDiv_le {num den k : Nat} (h : 2 * num < den * (2 * k + 1)) : roundDiv num den ≤ k := by
  have hsplit := Nat.div_add_mod num den
  have hquotient : num / den ≤ k := by
    by_contra hlt
    have hmul : den * (k + 1) ≤ den * (num / den) := Nat.mul_le_mul_left _ (by omega)
    have hright : den * (2 * k + 1) = den * k + den * (k + 1) := by ring
    have hstep : den * k ≤ den * (k + 1) := Nat.mul_le_mul_left _ (Nat.le_succ k)
    omega
  rcases Nat.lt_or_ge (num / den) k with hlt | hge
  · simp only [roundDiv]
    split <;> omega
  · have heq : num / den = k := le_antisymm hquotient hge
    have hright : den * (2 * k + 1) = 2 * (den * k) + den := by ring
    rw [heq] at hsplit
    simp only [roundDiv, heq]
    rw [if_pos (Or.inl (by omega))]

/-- A quotient is not rounded below a whole number it reaches. -/
theorem le_roundDiv {num den k : Nat} (hden : 0 < den) (h : den * k ≤ num) :
    k ≤ roundDiv num den := by
  have hquotient : k ≤ num / den := (Nat.le_div_iff_mul_le hden).2 (by rwa [Nat.mul_comm])
  simp only [roundDiv]
  split <;> omega

theorem roundDiv_mono {num more den : Nat} (hden : 0 < den) (h : num ≤ more) :
    roundDiv num den ≤ roundDiv more den := by
  have hquotient : num / den ≤ more / den := Nat.div_le_div_right h
  have hnum := Nat.div_add_mod num den
  have hmore := Nat.div_add_mod more den
  rcases Nat.lt_or_ge (num / den) (more / den) with hlt | hge
  · calc roundDiv num den ≤ num / den + 1 := by
          simp only [roundDiv]
          split <;> omega
      _ ≤ more / den := hlt
      _ ≤ roundDiv more den := le_roundDiv hden (Nat.mul_div_le more den)
  · -- both have one quotient, and the larger remainder is rounded up if the smaller one is
    have heq : num / den = more / den := le_antisymm hquotient hge
    rw [heq] at hnum
    simp only [roundDiv, heq]
    split <;> split <;> omega

/-! ### Binades -/

/-- A power of two below a number lies on its grid, or is a multiple of it. -/
private theorem pow_eq_mul_spacing (units : Nat) {k : Nat} (h : units.log2 - 52 ≤ k) :
    2 ^ (k - (units.log2 - 52)) * spacing units = 2 ^ k := by
  rw [spacing, Nat.pow_eq, ← Nat.pow_add, Nat.sub_add_cancel h]

theorem spacing_pos (units : Nat) : 0 < spacing units := Nat.two_pow_pos _

/-- Rounding does not lead below the power of two under a number. -/
theorem pow_log2_le_roundUnits {num den : Nat} (hden : 0 < den) (h : num / den ≠ 0) :
    2 ^ (num / den).log2 ≤ roundUnits num den := by
  have hpow := pow_eq_mul_spacing (num / den) (Nat.sub_le (num / den).log2 52)
  rw [roundUnits, ← hpow]
  refine Nat.mul_le_mul_right _ (le_roundDiv (Nat.mul_pos hden (spacing_pos _)) ?_)
  calc den * spacing (num / den) * 2 ^ ((num / den).log2 - ((num / den).log2 - 52))
      = den * 2 ^ (num / den).log2 := by rw [Nat.mul_assoc, Nat.mul_comm (spacing _), hpow]
    _ ≤ den * (num / den) := Nat.mul_le_mul_left _ (Nat.log2_self_le h)
    _ ≤ num := Nat.mul_div_le num den

/-- Rounding does not lead past the power of two above a number. -/
theorem roundUnits_le_pow_log2_succ {num den : Nat} (hden : 0 < den) :
    roundUnits num den ≤ 2 ^ ((num / den).log2 + 1) := by
  have hpow := pow_eq_mul_spacing (num / den) (k := (num / den).log2 + 1) (by omega)
  have hnum : num < den * 2 ^ ((num / den).log2 + 1) := by
    calc num < den * (num / den + 1) := Nat.lt_mul_div_succ num hden
      _ ≤ den * 2 ^ ((num / den).log2 + 1) := Nat.mul_le_mul_left _ Nat.lt_log2_self
  rw [roundUnits, ← hpow]
  refine Nat.mul_le_mul_right _ (roundDiv_le ?_)
  have hright : den * spacing (num / den) * 2 ^ ((num / den).log2 + 1 - ((num / den).log2 - 52)) =
      den * 2 ^ ((num / den).log2 + 1) := by
    rw [Nat.mul_assoc, Nat.mul_comm (spacing _), hpow]
  rw [Nat.mul_add, Nat.mul_left_comm, hright, Nat.mul_one]
  omega

/-- **Rounding keeps the order.** -/
theorem roundUnits_mono {num more den : Nat} (hden : 0 < den) (h : num ≤ more) :
    roundUnits num den ≤ roundUnits more den := by
  have hquotient : num / den ≤ more / den := Nat.div_le_div_right h
  have hlog : (num / den).log2 ≤ (more / den).log2 := by
    rw [Nat.log2_eq_log_two, Nat.log2_eq_log_two]
    exact Nat.log_mono_right hquotient
  rcases Nat.lt_or_ge (num / den).log2 (more / den).log2 with hlt | hge
  · -- different binades, with the power of two at the start of the higher one between them
    have hne : more / den ≠ 0 := by
      intro hzero
      rw [hzero] at hlt
      simp at hlt
    calc roundUnits num den ≤ 2 ^ ((num / den).log2 + 1) := roundUnits_le_pow_log2_succ hden
      _ ≤ 2 ^ (more / den).log2 := Nat.pow_le_pow_right (by decide) hlt
      _ ≤ roundUnits more den := pow_log2_le_roundUnits hden hne
  · have heq : spacing (num / den) = spacing (more / den) := by
      rw [spacing, spacing, le_antisymm hlog hge]
    rw [roundUnits, roundUnits, heq]
    exact Nat.mul_le_mul_right _ (roundDiv_mono (Nat.mul_pos hden (spacing_pos _)) h)

/-! ### Overflow -/

/-- The place of the last of 54 digits that reach up to the power of two where the infinities
begin. -/
@[irreducible]
def overflowPlace : Nat := 2044

/-- The largest number of the format, in units: 53 digits in the highest binade. -/
def largest : Nat := (2 ^ 53 - 1) * 2 ^ (overflowPlace + 1)

/-- The least length, in units, that is rounded to an infinity. It lies half way between the largest
number and the next power of two, and the even one of these is the power. -/
def overflowFrom : Nat := (2 ^ 54 - 1) * 2 ^ overflowPlace

theorem overflow_eq : overflow = 2 ^ (overflowPlace + 54) := by
  decide +kernel

/-- The largest double is below what is rounded to infinity. -/
theorem largest_lt_overflow : largest < overflow := by
  decide +kernel

/-- The highest binade starts below `overflowFrom` and ends above it. -/
private theorem log2_overflowFrom_le {units : Nat} (h : units < overflowFrom) :
    units.log2 ≤ overflowPlace + 53 := by
  rcases Nat.eq_zero_or_pos units with rfl | hpos
  · simp
  · have hend : units < 2 ^ (overflowPlace + 54) := by
      rw [overflowFrom] at h
      rw [Nat.pow_add, Nat.mul_comm]
      exact h.trans_le (Nat.mul_le_mul_right _ (by decide))
    have hlog : units.log2 < overflowPlace + 54 := (Nat.log2_lt hpos.ne').2 hend
    omega

/-- What is below `overflowFrom` is rounded to a number of the format. -/
theorem roundUnits_le_largest {num den : Nat} (hden : 0 < den) (h : num < den * overflowFrom) :
    roundUnits num den ≤ largest := by
  have hunits : num / den < overflowFrom := Nat.div_lt_of_lt_mul h
  rcases Nat.lt_or_ge (num / den).log2 (overflowPlace + 53) with hlow | hhigh
  · calc roundUnits num den ≤ 2 ^ ((num / den).log2 + 1) := roundUnits_le_pow_log2_succ hden
      _ ≤ 2 ^ (52 + (overflowPlace + 1)) := Nat.pow_le_pow_right (by decide) (by omega)
      _ = 2 ^ 52 * 2 ^ (overflowPlace + 1) := Nat.pow_add 2 52 (overflowPlace + 1)
      _ ≤ largest := Nat.mul_le_mul_right _ (by decide)
  · -- in the highest binade rounding is to multiples of `2 ^ (overflowPlace + 1)`
    have hlog : (num / den).log2 - 52 = overflowPlace + 1 := by
      have := log2_overflowFrom_le hunits
      omega
    have hgap : spacing (num / den) = 2 ^ (overflowPlace + 1) := by
      rw [spacing, hlog, Nat.pow_eq]
    have hscale : den * 2 ^ (overflowPlace + 1) * (2 * (2 ^ 53 - 1) + 1) =
        2 * (den * overflowFrom) := by
      rw [overflowFrom, Nat.pow_succ]
      ring
    rw [roundUnits, hgap, largest]
    refine Nat.mul_le_mul_right _ (roundDiv_le ?_)
    rw [hscale]
    exact (Nat.mul_lt_mul_left Nat.two_pos).2 h

/-- The half way point itself is rounded up, to the power of two. -/
private theorem roundUnits_overflowFrom {den : Nat} (hden : 0 < den) :
    roundUnits (den * overflowFrom) den = overflow := by
  have hunits : den * overflowFrom / den = overflowFrom := Nat.mul_div_cancel_left _ hden
  have hlog : overflowFrom.log2 - 52 = overflowPlace + 1 := by
    decide +kernel
  have hgap : spacing (den * overflowFrom / den) = 2 ^ (overflowPlace + 1) := by
    rw [hunits, spacing, hlog, Nat.pow_eq]
  have hhalf : den * 2 ^ (overflowPlace + 1) = 2 * (den * 2 ^ overflowPlace) := by
    rw [Nat.pow_succ]
    ring
  have hsplit : den * overflowFrom =
      den * 2 ^ (overflowPlace + 1) * (2 ^ 53 - 1) + den * 2 ^ overflowPlace := by
    rw [hhalf, overflowFrom]
    ring
  have hstep : 0 < den * 2 ^ overflowPlace := Nat.mul_pos hden (Nat.two_pow_pos _)
  have hquotient : den * overflowFrom / (den * 2 ^ (overflowPlace + 1)) = 2 ^ 53 - 1 := by
    rw [hsplit, Nat.mul_add_div (by omega), Nat.div_eq_of_lt (by omega), Nat.add_zero]
  have hremainder :
      den * overflowFrom % (den * 2 ^ (overflowPlace + 1)) = den * 2 ^ overflowPlace := by
    rw [hsplit, Nat.mul_add_mod, Nat.mod_eq_of_lt (by omega)]
  have hround : roundDiv (den * overflowFrom) (den * 2 ^ (overflowPlace + 1)) = 2 ^ 53 := by
    simp only [roundDiv, hquotient, hremainder]
    rw [if_neg (by omega)]
    norm_num
  have hplace : 53 + (overflowPlace + 1) = overflowPlace + 54 := by omega
  rw [roundUnits, hgap, hround, ← Nat.pow_add, hplace, overflow_eq]

/-- What reaches `overflowFrom` is rounded out of the format. -/
theorem overflow_le_roundUnits {num den : Nat} (hden : 0 < den) (h : den * overflowFrom ≤ num) :
    overflow ≤ roundUnits num den := by
  rw [← roundUnits_overflowFrom hden]
  exact roundUnits_mono hden h

/-- Below the overflow a quotient is rounded to a finite double. -/
theorem ofUnits_eq_finite {num den : Nat} (hden : 0 < den) (h : num < den * overflowFrom)
    (negative : Bool) : ofUnits negative num den = .finite negative (roundUnits num den) := by
  rw [ofUnits]
  exact if_pos ((roundUnits_le_largest hden h).trans_lt largest_lt_overflow)

theorem ofUnits_eq_infinite {num den : Nat} (hden : 0 < den) (h : den * overflowFrom ≤ num)
    (negative : Bool) : ofUnits negative num den = .infinite negative := by
  rw [ofUnits]
  exact if_neg (not_lt.2 (overflow_le_roundUnits hden h))

end NoteChart.Binary64
