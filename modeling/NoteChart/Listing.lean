/-!
# Listings

A listing holds values under names, in the order in which the names were first entered. Entering a
name again replaces its value and keeps its place.

A list of pairs is the whole structure: the order is part of what is answered, and listings are
short.
-/

namespace NoteChart

/-- Values under names, in the order of first entry. -/
abbrev Listing (α : Type) := List (String × α)

namespace Listing

variable {α : Type}

/-- The value under a name. -/
def get? (name : String) : Listing α → Option α
  | [] => none
  | (key, value) :: rest => if key = name then some value else get? name rest

/-- Enters a value under a name. -/
def put (name : String) (value : α) : Listing α → Listing α
  | [] => [(name, value)]
  | (key, old) :: rest =>
    if key = name then (key, value) :: rest else (key, old) :: put name value rest

/-- The names, in order. -/
def names (listing : Listing α) : List String := listing.map Prod.fst

/-- The value entered last under a name is found, and other names keep theirs. -/
theorem get?_put (name other : String) (value : α) (listing : Listing α) :
    get? other (listing.put name value) =
      if name = other then some value else get? other listing := by
  induction listing with
  | nil => simp [put, get?]
  | cons entry rest ih =>
    obtain ⟨key, old⟩ := entry
    by_cases hk : key = name
    · subst hk
      by_cases ho : key = other <;> simp [put, get?, ho]
    · by_cases ho : key = other
      · subst ho
        simp [put, get?, hk, Ne.symm hk]
      · simp [put, get?, hk, ho, ih]

/-- A name entered again keeps its place, a new one goes to the end. -/
theorem names_put (name : String) (value : α) (listing : Listing α) :
    (listing.put name value).names =
      if name ∈ listing.names then listing.names else listing.names ++ [name] := by
  induction listing with
  | nil => simp [put, names]
  | cons entry rest ih =>
    obtain ⟨key, old⟩ := entry
    by_cases hk : key = name
    · subst hk
      simp [put, names]
    · have hk' : ¬ name = key := fun h ↦ hk h.symm
      by_cases hm : name ∈ names rest
      · have hput : (put name value rest).names = names rest := by rw [ih, if_pos hm]
        simp only [put, if_neg hk, names, List.map_cons, List.mem_cons] at *
        simp [hk', hm, hput]
      · have hput : (put name value rest).names = names rest ++ [name] := by rw [ih, if_neg hm]
        simp only [put, if_neg hk, names, List.map_cons, List.mem_cons] at *
        simp [hk', hm, hput]

end Listing

end NoteChart
