import NoteChart.Config.Members
import NoteChart.Proofs.Config.Validated

/-!
# Valid entries

What can be relied on in an entry of the list of skins that was found valid: its sides are above
zero, and each role of its family has a file. Other roles may have files too, and nothing is known
of what the files are.

The entries of valid settings are valid, those of the stock skins included, which are never read
from anywhere (`Validated.skins`).
-/

namespace NoteChart.Config

namespace Checked

variable {α β : Type}

theorem bind_eq_valid_iff {x : Checked α} {check : α → Checked β} {settings : β} :
    x.bind check = .valid settings ↔ ∃ value, x = .valid value ∧ check value = .valid settings := by
  cases x <;> simp [bind]

theorem map_eq_valid_iff {f : α → β} {x : Checked α} {settings : β} :
    x.map f = .valid settings ↔ ∃ value, x = .valid value ∧ f value = settings := by
  cases x <;> simp [map]

end Checked

theorem pos_of_readPositive {json : Json} {number : Int} (h : readPositive json = .ok number) :
    0 < number := by
  rw [readPositive] at h
  rcases hread : readInteger json with cause | value <;> rw [hread] at h
  · cases h
  · by_cases hsmall : value < 1
    · simp [bind, Except.bind, hsmall, throw, throwThe, MonadExceptOf.throw] at h
    · simp only [bind, Except.bind, hsmall, if_false] at h
      cases h
      omega

/-- A member that has to be there was read. -/
theorem valid_required {α : Type} {name : String} {value : α} {read : Json → Checked α}
    {members : Members} (h : required name read members = .valid value) :
    ∃ json, read json = .valid value := by
  rw [required] at h
  split at h
  · exact ⟨_, Checked.within_eq_valid_iff.1 h⟩
  · cases h

/-- What was read from a value that may be null was read from one that is not, if it is anything. -/
theorem valid_nullable {α : Type} {json : Json} {value : α} {read : Json → Checked α}
    (h : nullable read json = .valid (some value)) : ∃ json, read json = .valid value := by
  unfold nullable at h
  split at h
  · cases h
  · obtain ⟨read, hread, hsome⟩ := Checked.map_eq_valid_iff.1 h
    cases hsome
    exact ⟨_, hread⟩

/-- Every value of a list that was read was read on its own. -/
theorem readItems_valid {α : Type} {read : Json → Checked α} {index : Nat} {items : List Json}
    {values : List α} (h : readItems read index items = .valid values) :
    ∀ value ∈ values, ∃ json, read json = .valid value := by
  induction items generalizing index values with
  | nil =>
    cases h
    exact List.forall_mem_nil _
  | cons item rest ih =>
    obtain ⟨_, more, hfirst, hmore, rfl⟩ := Checked.andThen_eq_valid_iff.1 h
    obtain ⟨first, hread, rfl⟩ := Checked.map_eq_valid_iff.1 hfirst
    exact List.forall_mem_cons.2 ⟨⟨item, Checked.within_eq_valid_iff.1 hread⟩, ih hmore⟩

namespace SkinEntry

/-- The entry was read and found valid. -/
def Validated (entry : SkinEntry) : Prop := ∃ members, readEntry members = .valid entry

/-- What validation promises of an entry. -/
structure Sound (entry : SkinEntry) : Prop where
  resolution_pos : 0 < entry.resolution
  resizeTo_pos : ∀ side ∈ entry.resizeTo, 0 < side
  missingRoles_eq : entry.missingRoles = []

/-- An entry that passes the check of its files has one for every role. -/
theorem eq_of_checkFiles {entry checked : SkinEntry} (h : checkFiles entry = .valid checked) :
    checked = entry ∧ entry.missingRoles = [] := by
  rw [checkFiles] at h
  split at h
  · rename_i hmissing
    cases h
    exact ⟨rfl, hmissing⟩
  · cases h

/-- **A valid entry** has sides above zero, and its files are named. -/
theorem Validated.sound {entry : SkinEntry} (h : entry.Validated) : entry.Sound := by
  obtain ⟨members, h⟩ := h
  obtain ⟨_, hread, hfiles⟩ := Checked.bind_eq_valid_iff.1 h
  obtain ⟨rfl, hmissing⟩ := eq_of_checkFiles hfiles
  -- the members are read in order, so the last argument comes off first
  obtain ⟨_, upsideDown, hsix, -, rfl⟩ := Checked.andThen_eq_valid_iff.1 hread
  obtain ⟨_, resizeTo, hfive, hresize, rfl⟩ := Checked.andThen_eq_valid_iff.1 hsix
  obtain ⟨_, files, hfour, -, rfl⟩ := Checked.andThen_eq_valid_iff.1 hfive
  obtain ⟨_, resolution, hthree, hresolution, rfl⟩ := Checked.andThen_eq_valid_iff.1 hfour
  obtain ⟨_, family, htwo, -, rfl⟩ := Checked.andThen_eq_valid_iff.1 hthree
  obtain ⟨_, aliases, hone, -, rfl⟩ := Checked.andThen_eq_valid_iff.1 htwo
  obtain ⟨_, name, hnone, -, rfl⟩ := Checked.andThen_eq_valid_iff.1 hone
  cases hnone
  refine ⟨?_, ?_, hmissing⟩
  · obtain ⟨json, hjson⟩ := valid_required hresolution
    exact pos_of_readPositive (Checked.ofScalar_eq_valid_iff.1 hjson)
  · rintro side (rfl : resizeTo = some side)
    rcases valid_optional hresize with hnone | ⟨json, hjson⟩
    · cases hnone
    · obtain ⟨json, hside⟩ := valid_nullable hjson
      exact pos_of_readPositive (Checked.ofScalar_eq_valid_iff.1 hside)

/-- The file of a role is known. -/
theorem Sound.exists_file {entry : SkinEntry} (h : entry.Sound) {role : Role}
    (hrole : role ∈ entry.family.roles) :
    ∃ file, Listing.get? role.name entry.files = some file := by
  have hfile := List.filter_eq_nil_iff.1 h.missingRoles_eq role hrole
  rcases hget : Listing.get? role.name entry.files with - | file
  · simp [file?, hget] at hfile
  · exact ⟨file, rfl⟩

end SkinEntry

/-- The stock skins are valid entries as they are written. -/
theorem validated_stockSkins : ∀ entry ∈ stockSkins, entry.Validated := by
  have hread : ∀ entry ∈ stockSkins, readEntry entry.members = .valid entry := by
    simp only [stockSkins, List.forall_mem_cons]
    exact ⟨rfl, rfl, rfl, rfl, rfl, rfl, rfl, rfl, List.forall_mem_nil _⟩
  exact fun entry hentry ↦ ⟨_, hread entry hentry⟩

/-- **The skins of valid settings** are valid entries. -/
theorem Validated.skins {config : Config} (h : config.Validated) :
    ∀ entry ∈ config.skins, entry.Validated := by
  obtain ⟨members, h⟩ := h
  rcases valid_optional (ofMembers_eq_valid_iff.1 h).skins with hstock | ⟨json, hjson⟩
  · exact hstock ▸ validated_stockSkins
  · cases json with
    | array items =>
      intro entry hentry
      obtain ⟨item, hitem⟩ := readItems_valid hjson entry hentry
      cases item with
      | object members => exact ⟨members, hitem⟩
      | _ => cases hitem
    | _ => cases hjson

end NoteChart.Config
