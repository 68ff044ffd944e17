/-!
# Sets of characters

A property of the Unicode standard is a set of code points that comes in runs. A `CodePoints` lists
the boundaries of the runs in ascending order: the first code point of a run, the first one behind
it, the first one of the next run, and so on. A character is in the set when an odd number of
boundaries lies at or below it.
-/

namespace NoteChart.Text

/-- A set of code points, as the ascending boundaries of its runs. -/
structure CodePoints where
  /-- First code point of a run and first code point behind it, in turn. -/
  boundaries : List Nat

namespace CodePoints

/-- Membership below a list of boundaries, where `inside` says on which side of the first one the
search stands. -/
def crossing (n : Nat) : Bool → List Nat → Bool
  | inside, [] => inside
  | inside, b :: rest => if n < b then inside else crossing n (!inside) rest

/-- The character is in the set. -/
def contains (set : CodePoints) (c : Char) : Bool := crossing c.toNat false set.boundaries

end CodePoints

end NoteChart.Text
