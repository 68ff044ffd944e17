import NoteChart.Number.Binary64

/-!
# The shortest decimal of a number

A double is written with the fewest significant digits that read back as it, and among those with
the digits nearest to it. All reals in an interval around a number read back as it; the interval
reaches half way to both neighbours, and its ends belong to it when the number's own last binary
digit is even, since a tie goes to the even one.

For one digit, two digits and so on, the two points next to the number on the decimal grid of that
fineness are tried. If any point of the grid lies in the interval, one of these two does, and with
seventeen digits one always does.

The bounds of the interval are counted in quarters of a unit: below a power of two the neighbour is
only half as far.
-/

namespace NoteChart

namespace Binary64

/-- The decimal exponent of the leading digit of a positive count of units. The scaling by a power
of ten makes a whole number of it with all its leading digits. -/
def leadingExponent (units : Nat) : Int :=
  (Nat.toDigits 10 (units * Nat.pow 10 400 / unitsPerOne)).length - 401

/-- The ends of the interval that reads back as a count of units, in quarters of a unit. -/
def readsBackFrom (units : Nat) : Nat × Nat :=
  let gap := spacing units
  let below := if 1 < gap ∧ units = Nat.pow 2 units.log2 then gap else 2 * gap
  (4 * units - below, 4 * units + 2 * gap)

/-- The digit of a count of units that rounding looks at is even. -/
def isEvenAt (units : Nat) : Bool := units / spacing units % 2 == 0

/-- The point `digits * 10 ^ place` of the decimal grid reads back as the count of units. -/
def readsBack (units digits : Nat) (place : Int) : Bool :=
  let (low, high) := readsBackFrom units
  let num := 4 * digits * Nat.pow 10 place.toNat * unitsPerOne
  let den := Nat.pow 10 (-place).toNat
  if isEvenAt units then low * den ≤ num && num ≤ high * den
  else low * den < num && num < high * den

/-- The point of the grid at `place` that is nearest to a count of units and reads back as it. -/
def nearestAt? (units : Nat) (place : Int) : Option Nat :=
  let num := units * Nat.pow 10 (-place).toNat
  let den := unitsPerOne * Nat.pow 10 place.toNat
  let below := num / den
  let past := num % den
  let order :=
    if 2 * past < den ∨ 2 * past = den ∧ below % 2 = 0 then [below, below + 1]
    else [below + 1, below]
  order.find? fun digits ↦ readsBack units digits place

/-- The shortest decimal of a positive count of units, as digits and the place of the last one. -/
def shortest (units : Nat) : Nat × Int :=
  let lead := leadingExponent units
  let places := (List.range 17).map fun (n : Nat) ↦ lead - (n : Int)
  match places.findSome? fun place ↦ (nearestAt? units place).map (·, place) with
  | some found => found
  | none => (units, 0)

/-- Leaves out trailing zeros; `fuel` bounds their number. -/
def withoutTrailingZeros : Nat → Nat × Int → Nat × Int
  | 0, decimal => decimal
  | fuel + 1, (digits, place) =>
    if digits % 10 = 0 then withoutTrailingZeros fuel (digits / 10, place + 1) else (digits, place)

/-! ### Text -/

/-- A text of so many zeros. -/
def zeros (count : Nat) : String := String.ofList (List.replicate count '0')

/-- The text of a finite positive number. A point is written from the fourth place behind it to the
sixteenth in front of it, an exponent of two digits or more beyond. -/
def decimalText (units : Nat) : String :=
  let (digits, place) := withoutTrailingZeros 20 (shortest units)
  let text := toString digits
  let point : Int := text.length + place
  if -4 < point ∧ point ≤ 16 then
    if 0 ≤ place then text ++ zeros place.toNat ++ ".0"
    else if 0 < point then
      String.ofList (text.toList.take point.toNat) ++ "." ++
        String.ofList (text.toList.drop point.toNat)
    else "0." ++ zeros (-point).toNat ++ text
  else
    let mantissa :=
      match text.toList with
      | [] => ""
      | [digit] => String.singleton digit
      | digit :: rest => String.singleton digit ++ "." ++ String.ofList rest
    let exponent := toString (point - 1).natAbs
    mantissa ++ (if point - 1 < 0 then "e-" else "e+") ++
      (if exponent.length < 2 then "0" else "") ++ exponent

/-- The text of a number. -/
def text : Binary64 → String
  | nan => "nan"
  | infinite negative => if negative then "-inf" else "inf"
  | finite negative units =>
    (if negative then "-" else "") ++ (if units = 0 then "0.0" else decimalText units)

end Binary64

end NoteChart
