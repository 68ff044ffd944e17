import Mathlib.Tactic.Common
import NoteChart.Config.Validation

/-!
# What validation promises

Settings that were read are valid, and each value among them was let through by its reader or is a
default. The readers collect issues instead of stopping at one, so a valid whole is traced back to
valid parts: `andThen_eq_valid_iff` undoes one argument, and `valid_optional` says where the value
of a member may come from.
-/

namespace NoteChart.Config

namespace Checked

variable {α β : Type}

theorem andThen_eq_valid_iff {f : Checked (α → β)} {x : Checked α} {settings : β} :
    f.andThen x = .valid settings ↔
      ∃ make value, f = .valid make ∧ x = .valid value ∧ make value = settings := by
  cases f <;> cases x <;> simp [andThen]

/-- Where a value stands does not matter to whether it is valid. -/
theorem within_eq_valid_iff {step : Step} {x : Checked α} {settings : α} :
    x.within step = .valid settings ↔ x = .valid settings := by
  cases x <;> simp [within]

theorem ofScalar_eq_valid_iff {x : Scalar α} {value : α} :
    ofScalar x = .valid value ↔ x = .ok value := by
  cases x <;> simp [ofScalar, issue]

end Checked

/-- A member has its default or was read. -/
theorem valid_optional {α : Type} {name : String} {default value : α} {read : Json → Checked α}
    {members : Members} (h : optional name default read members = .valid value) :
    value = default ∨ ∃ json, read json = .valid value := by
  rw [optional] at h
  split at h
  · exact .inr ⟨_, Checked.within_eq_valid_iff.1 h⟩
  · cases h
    exact .inl rfl

theorem isPositive_of_readPositiveReal {json : Json} {number : Binary64}
    (h : readPositiveReal json = .ok number) : number.isPositive := by
  rw [readPositiveReal] at h
  rcases hread : readReal json with cause | value <;> rw [hread] at h
  · cases h
  · by_cases hpositive : value.isPositive
    · simp only [bind, Except.bind, hpositive] at h
      cases h
      exact hpositive
    · simp [bind, Except.bind, hpositive, throw, throwThe, MonadExceptOf.throw] at h

theorem isPositive_of_eq_default {zoom : Binary64} (h : zoom = ({} : Defaults).zoom) :
    zoom.isPositive := by
  rw [h]
  decide +kernel

/-- The default zoom is above zero, given or not. -/
theorem isPositive_of_readDefaults {members : Members} {defaults : Defaults}
    (h : readDefaults members = .valid defaults) : defaults.zoom.isPositive := by
  obtain ⟨_, scroll, hfirst, -, rfl⟩ := Checked.andThen_eq_valid_iff.1 h
  obtain ⟨_, zoom, hsecond, hzoom, rfl⟩ := Checked.andThen_eq_valid_iff.1 hfirst
  obtain ⟨_, snap, hthird, -, rfl⟩ := Checked.andThen_eq_valid_iff.1 hsecond
  cases hthird
  rcases valid_optional hzoom with hdefault | ⟨json, hjson⟩
  · exact isPositive_of_eq_default hdefault
  · exact isPositive_of_readPositiveReal (Checked.ofScalar_eq_valid_iff.1 hjson)

/-- Settings are made up of what was read for each of their members. -/
structure MadeOf (members : Members) (config : Config) : Prop where
  render : optional "render" {} (inSection readLimits) members = .valid config.render
  defaults : optional "defaults" {} (inSection readDefaults) members = .valid config.defaults
  assetsDirectory :
    (optional "assets_dir" none (nullable (scalar readDirectory)) members).map Option.join =
      .valid config.assetsDirectory
  skins : optional "noteskins" stockSkins (readList (inSection readEntry)) members =
    .valid config.skins

/-- Settings are valid exactly if each section of the object was read as what they have in its
place. -/
theorem ofMembers_eq_valid_iff {members : Members} {config : Config} :
    ofMembers members = .valid config ↔ MadeOf members config := by
  constructor
  · intro h
    -- the members are read in order, so the last argument comes off first
    obtain ⟨_, skins, hthree, hskins, rfl⟩ := Checked.andThen_eq_valid_iff.1 h
    obtain ⟨_, directory, htwo, hdirectory, rfl⟩ := Checked.andThen_eq_valid_iff.1 hthree
    obtain ⟨_, defaults, hone, hdefaults, rfl⟩ := Checked.andThen_eq_valid_iff.1 htwo
    obtain ⟨_, limits, hnone, hlimits, rfl⟩ := Checked.andThen_eq_valid_iff.1 hone
    cases hnone
    exact ⟨hlimits, hdefaults, hdirectory, hskins⟩
  · rintro ⟨hlimits, hdefaults, hdirectory, hskins⟩
    rw [ofMembers, hlimits, hdefaults, hdirectory, hskins]
    rfl

/-- The settings were read and found valid. -/
def Validated (config : Config) : Prop := ∃ members, ofMembers members = .valid config

/-- **The zoom of valid settings** is above zero. -/
theorem Validated.isPositive_zoom {config : Config} (h : config.Validated) :
    config.defaults.zoom.isPositive := by
  obtain ⟨members, h⟩ := h
  rcases valid_optional (ofMembers_eq_valid_iff.1 h).defaults with hdefault | ⟨json, hjson⟩
  · exact isPositive_of_eq_default (congrArg Defaults.zoom hdefault)
  · cases json with
    | object members => exact isPositive_of_readDefaults hjson
    | _ => cases hjson

end NoteChart.Config
