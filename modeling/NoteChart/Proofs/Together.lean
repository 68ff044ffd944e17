import Mathlib.Data.List.Forall2
import Mathlib.Tactic.Common

/-!
# Computations that end together

Two computations can be compared without a word on where either of them ends. `Together` says that
they end with the same fault, or both with a value, and then how the two values are related. So it
rules out that one of them goes on where the other is stopped.

As with `Ends`, the rules follow a computation from step to step. The two computations take their
steps side by side, each from what its own step before came to (`Together.bind`), and over two lists
they take them member by member (`Together.mapM`). The lists need not be the same.
-/

namespace NoteChart

variable {ε α β γ η : Type}

/-- Both results are one and the same fault, or both are values, and these are related. -/
inductive Together (related : α → β → Prop) : Except ε α → Except ε β → Prop
  | error (fault : ε) : Together related (.error fault) (.error fault)
  | ok {first : α} {second : β} (h : related first second) :
      Together related (.ok first) (.ok second)

namespace Together

variable {related : α → β → Prop} {further : γ → η → Prop} {one : Except ε α} {other : Except ε β}

/-- A computation ends together with itself. -/
theorem refl (result : Except ε α) : Together (· = ·) result result := by
  cases result with
  | error fault => exact .error fault
  | ok value => exact .ok rfl

theorem map (h : Together related one other) {f : α → γ} {g : β → η}
    (hvalues : ∀ first second, related first second → further (f first) (g second)) :
    Together further (one.map f) (other.map g) := by
  cases h with
  | error fault => exact .error fault
  | ok hrelated => exact .ok (hvalues _ _ hrelated)

theorem imp (h : Together related one other) {weaker : α → β → Prop}
    (hvalues : ∀ first second, related first second → weaker first second) :
    Together weaker one other := by
  cases h with
  | error fault => exact .error fault
  | ok hrelated => exact .ok (hvalues _ _ hrelated)

/-- The values are those that the computations end with. -/
theorem self (h : Together related one other) :
    Together (fun first second ↦ related first second ∧ one = .ok first ∧ other = .ok second)
      one other := by
  cases h with
  | error fault => exact .error fault
  | ok hrelated => exact .ok ⟨hrelated, rfl, rfl⟩

/-- One computation, of whose value two things are made. -/
theorem map_self (result : Except ε α) {f : α → γ} {g : α → η}
    (hvalues : ∀ value, further (f value) (g value)) :
    Together further (result.map f) (result.map g) :=
  (refl result).map fun value _ hsame ↦ hsame ▸ hvalues value

/-- **Two steps in a line.** -/
theorem bind (h : Together related one other) {f : α → Except ε γ} {g : β → Except ε η}
    (hnext : ∀ first second, related first second → Together further (f first) (g second)) :
    Together further (one >>= f) (other >>= g) := by
  cases h with
  | error fault => exact .error fault
  | ok hrelated => exact hnext _ _ hrelated

/-- **The steps over two lists**, by induction on them. -/
theorem mapM {ι κ : Type} {f : ι → Except ε α} {g : κ → Except ε β} {list : List ι}
    {others : List κ}
    (h : List.Forall₂ (fun member another ↦ Together related (f member) (g another)) list others) :
    Together (List.Forall₂ related) (list.mapM f) (others.mapM g) := by
  induction h with
  | nil => exact .ok .nil
  | cons hfirst _ ih =>
    rw [List.mapM_cons, List.mapM_cons]
    refine hfirst.bind fun first second hrelated ↦ ?_
    exact ih.bind fun rest others hrest ↦ .ok (.cons hrelated hrest)

end Together

end NoteChart
