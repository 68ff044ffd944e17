import NoteChart.Listing
import NoteChart.Number.Binary64

/-!
# JSON values

The values of a settings file. Integers and reals are kept apart, as they are written: `1` is an
integer and `1.0` a real. Members of an object stand in the order of their first entry, and a
member entered again replaces the value.
-/

namespace NoteChart

/-- A JSON value. -/
inductive Json
  | null
  | bool (value : Bool)
  | int (value : Int)
  | real (value : Binary64)
  | string (value : String)
  | array (items : List Json)
  | object (members : List (String × Json))

namespace Json

/-- A member of an object. -/
def member? (name : String) : Json → Option Json
  | object members => Listing.get? name members
  | _ => none

end Json

end NoteChart
