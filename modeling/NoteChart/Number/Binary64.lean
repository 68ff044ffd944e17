/-!
# Double precision numbers

Numbers of the format binary64, and the few operations that placing sprites needs: conversion from
integers and decimals, product, quotient, sum, and the way back to integers.

Every finite number of the format is a whole multiple of the smallest positive one, `2 ^ -1074`. A
number is therefore a sign and a count of these units, a natural number, and each operation is an
exact computation with natural numbers followed by one rounding. Nothing is left to a floating
point unit, so what is said about the results, that rounding is monotone and exact where it can be,
is said in the arithmetic of natural numbers.

A count of units is a number of the format when it has at most 53 significant binary digits and is
below `2 ^ 2098`, where the infinities begin.
-/

namespace NoteChart

/-- A number of the format binary64. -/
inductive Binary64
  /-- Not a number. -/
  | nan
  /-- One of the infinities. -/
  | infinite (negative : Bool)
  /-- A sign and a count of units of `2 ^ -1074`. -/
  | finite (negative : Bool) (units : Nat)
deriving DecidableEq

namespace Binary64

/-- The units in one. -/
def unitsPerOne : Nat := Nat.pow 2 1074

/-- The least count of units that is too large for the format. -/
def overflow : Nat := Nat.pow 2 2098

/-! ### Rounding -/

/-- The whole number nearest to `num / den`, the even one of two. -/
def roundDiv (num den : Nat) : Nat :=
  let q := num / den
  let r := num % den
  if 2 * r < den ∨ 2 * r = den ∧ q % 2 = 0 then q else q + 1

/-- The distance between neighbouring numbers of the format at a count of units. -/
def spacing (units : Nat) : Nat := Nat.pow 2 (units.log2 - 52)

/-- The count of units with at most 53 significant digits that is nearest to `num / den`. -/
def roundUnits (num den : Nat) : Nat :=
  let gap := spacing (num / den)
  roundDiv num (den * gap) * gap

/-- The number nearest to `num / den` units, an infinity where that is too large. -/
def ofUnits (negative : Bool) (num den : Nat) : Binary64 :=
  let units := roundUnits num den
  if units < overflow then .finite negative units else .infinite negative

/-! ### Conversion -/

/-- Zero. -/
def zero : Binary64 := .finite false 0

/-- The number nearest to an integer. -/
def ofInt (n : Int) : Binary64 := ofUnits (n < 0) (n.natAbs * unitsPerOne) 1

/-- The number nearest to `digits * 10 ^ exponent`. The two shortcuts spare a power of ten that
could only lead to an infinity or to zero. -/
def ofDecimal (negative : Bool) (digits : Nat) (exponent : Int) : Binary64 :=
  if digits = 0 then .finite negative 0
  else if 0 ≤ exponent then
    if 400 < exponent then .infinite negative
    else ofUnits negative (digits * Nat.pow 10 exponent.toNat * unitsPerOne) 1
  else
    let places := (-exponent).toNat
    if digits.log2 + 1081 < 3 * places then .finite negative 0
    else ofUnits negative (digits * unitsPerOne) (Nat.pow 10 places)

/-- The integer part of a finite number. -/
def truncate? : Binary64 → Option Int
  | nan | infinite _ => none
  | finite negative units =>
    let whole : Int := (units / unitsPerOne : Nat)
    some (if negative then -whole else whole)

/-- The number has no part behind the point. -/
def isWhole : Binary64 → Bool
  | nan | infinite _ => false
  | finite _ units => units % unitsPerOne == 0

/-- The number is above zero. -/
def isPositive : Binary64 → Bool
  | nan => false
  | infinite negative => !negative
  | finite negative units => !negative && units != 0

/-- The number is zero or below. This is not the denial of `isPositive`: of what is not a number
neither holds. -/
def isNonpositive : Binary64 → Bool
  | nan => false
  | infinite negative => negative
  | finite negative units => negative || units == 0

/-- The number is finite. -/
def isFinite : Binary64 → Bool
  | nan | infinite _ => false
  | finite _ _ => true

/-! ### Arithmetic -/

/-- The product. -/
def mul : Binary64 → Binary64 → Binary64
  | nan, _ | _, nan => nan
  | infinite s, infinite t => infinite (s != t)
  | infinite s, finite t units | finite t units, infinite s =>
    if units = 0 then nan else infinite (s != t)
  | finite s a, finite t b => ofUnits (s != t) (a * b) unitsPerOne

/-- The quotient. -/
def div : Binary64 → Binary64 → Binary64
  | nan, _ | _, nan => nan
  | infinite _, infinite _ => nan
  | infinite s, finite t _ => infinite (s != t)
  | finite s _, infinite t => finite (s != t) 0
  | finite s a, finite t b =>
    if b = 0 then if a = 0 then nan else infinite (s != t)
    else ofUnits (s != t) (a * unitsPerOne) b

/-- The sum. -/
def add : Binary64 → Binary64 → Binary64
  | nan, _ | _, nan => nan
  | infinite s, infinite t => if s = t then infinite s else nan
  | infinite s, finite _ _ | finite _ _, infinite s => infinite s
  | finite s a, finite t b =>
    if s = t then ofUnits s (a + b) 1
    else if a = b then zero
    else if b < a then ofUnits s (a - b) 1
    else ofUnits t (b - a) 1

/-! ### Encoding -/

/-- The 64 bits of a number: the sign, eleven bits of exponent, and the digits behind the leading
one. Counting upwards in the format is counting upwards in these bits. -/
def toBits : Binary64 → Nat
  | nan => 0x7ff8000000000000
  | infinite negative => 0x7ff0000000000000 + (if negative then Nat.pow 2 63 else 0)
  | finite negative units =>
    let scale := units.log2 - 52
    scale * Nat.pow 2 52 + units / Nat.pow 2 scale + (if negative then Nat.pow 2 63 else 0)

end Binary64

end NoteChart
