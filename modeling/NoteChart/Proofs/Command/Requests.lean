import Mathlib.Tactic.Common
import NoteChart.Proofs.Command.Filing
import NoteChart.Proofs.Library.Registry

/-!
# What a request can ask for

A command is any text at all, and yet a request never asks for what cannot be drawn with: its zoom
is above zero, its keymode has a lane, its skin is one of the library. The words see to that one by
one. A word whose value cannot be used means something else, and so the promise is kept from word to
word (`usable_taken`) and holds of a request as a whole, where there is one
(`Request.ends_ofText_usable`).
-/

namespace NoteChart

namespace Command

variable {library : Library}

/-! ### Words -/

/-- A chart can be drawn with what a word means. -/
def Meaning.Usable (library : Library) : Meaning → Prop
  | skin named => library.Has named
  | zoom factor => factor.isPositive
  | keymode lanes => 0 < lanes
  | snap _ | scroll _ | text => True

/-- A zoom that is taken is above zero. -/
theorem isPositive_of_zoomOf {word : List Char} {zoom : Binary64} (h : zoomOf word = .meant zoom) :
    zoom.isPositive := by
  rw [zoomOf] at h
  split at h
  · split at h
    · cases h
    · split at h
      · rename_i husable
        cases h
        exact (Bool.and_eq_true_iff.1 husable).1
      · cases h
  · cases h

/-- A keymode that is taken has a lane. -/
theorem pos_of_keymodeOf {word : List Char} {keymode : Nat} (h : keymodeOf word = .meant keymode) :
    0 < keymode := by
  rw [keymodeOf] at h
  split at h
  · split at h
    · cases h
    · split at h
      · cases h
      · cases h
      · rename_i hne _
        cases h
        exact Nat.pos_of_ne_zero hne
  · cases h

theorem Attempt.eq_meant_of_value? {α : Type} {attempt : Attempt α} {value : α}
    (h : attempt.value? = some value) : attempt = .meant value := by
  cases attempt <;> simp_all [Attempt.value?]

/-- Whatever a word means as a modifier of one sort can be used. -/
theorem usable_meaning? {modifier : Modifier} {library : Library} {word : String}
    {meaning : Meaning} (h : modifier.meaning? library word = some meaning) :
    meaning.Usable library := by
  cases modifier <;> obtain ⟨value, hvalue, rfl⟩ := Option.map_eq_some_iff.1 h
  case snap | scroll => trivial
  case skin => exact Library.has_of_find? hvalue
  case zoom => exact isPositive_of_zoomOf (Attempt.eq_meant_of_value? hvalue)
  case keymode => exact pos_of_keymodeOf (Attempt.eq_meant_of_value? hvalue)

/-- **A word.** -/
theorem usable_classify (library : Library) (word : String) :
    (classify library word).Usable library := by
  rcases hfirst : Modifier.all.findSome? (·.meaning? library word) with - | meaning <;>
    rw [classify, hfirst]
  · trivial
  · obtain ⟨modifier, -, hmeaning⟩ := List.exists_of_findSome?_eq_some hfirst
    exact usable_meaning? hmeaning

/-! ### Requests -/

/-- A chart can be drawn with what a request asks for. -/
structure Request.Usable (library : Library) (request : Request) : Prop where
  zoom_positive : request.zoom.isPositive
  keymode_pos : ∀ lanes ∈ request.keymode, 0 < lanes
  has_skin : ∀ named ∈ request.skin, library.Has named

namespace Draft

/-- Closing the last segment touches nothing else. -/
theorem usable_finish {draft : Draft} (h : draft.request.Usable library) :
    draft.finish.Usable library := by
  rw [finish]
  split
  · exact h
  · exact ⟨h.zoom_positive, h.keymode_pos, h.has_skin⟩

/-- A meaning that can be used leaves a request that can. -/
theorem usable_apply {draft : Draft} (h : draft.request.Usable library) (word : String)
    {meaning : Meaning} (hmeaning : meaning.Usable library) :
    (draft.apply word meaning).request.Usable library := by
  cases meaning with
  | snap _ => exact usable_finish h
  | skin named =>
    refine ⟨h.zoom_positive, h.keymode_pos, ?_⟩
    rintro _ ⟨⟩
    exact hmeaning
  | zoom _ => exact ⟨hmeaning, h.keymode_pos, h.has_skin⟩
  | scroll _ => exact ⟨h.zoom_positive, h.keymode_pos, h.has_skin⟩
  | keymode lanes =>
    refine ⟨h.zoom_positive, ?_, h.has_skin⟩
    rintro _ ⟨⟩
    exact hmeaning
  | text => exact h

/-- **One word more.** -/
theorem usable_taken {draft : Draft} (h : draft.request.Usable library) (word : String) :
    (draft.taken library word).request.Usable library := by
  have happly := usable_apply h word (usable_classify library word)
  exact ⟨happly.zoom_positive, happly.keymode_pos, happly.has_skin⟩

end Draft

/-- **A request** can be drawn with, if the zoom can that holds where no word names one; by
induction from one word. -/
theorem Request.ends_ofText_usable (library : Library) (snap : Int) {zoom : Binary64}
    (hzoom : zoom.isPositive) (scroll : Scroll) (text : String) :
    Ends (Usable library) (digitFault? library (wordsOf text))
      (Request.ofText library snap zoom scroll text) := by
  refine (ends_ofText library snap zoom scroll text).imp ?_
  rintro _ rfl
  refine Draft.usable_finish ?_
  -- the request of the draft stays usable from word to word
  refine List.foldlRecOn (motive := fun draft : Draft ↦ draft.request.Usable library) _ _ ?_ ?_
  · exact ⟨hzoom, by simp [start], by simp [start]⟩
  · intro draft h word _
    exact Draft.usable_taken h word

end Command

end NoteChart
