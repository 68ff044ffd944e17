import Mathlib.Data.List.DropRight
import NoteChart.Proofs.Config.Entries
import NoteChart.Proofs.Config.Misplaced
import NoteChart.Proofs.Outcome
import NoteChart.Report

/-!
# Settings that are read back

Validation changes what it reads. Directions have several words and are kept under one, a directory
loses the blanks around it or is none at all, numbers may have been in quotes, and what was left out
is filled in. Of valid settings nothing is left to change, so they are written as an object that
reads as these settings.

This needs no more than what validation promises of each value. `Sound` lists the promises. All that
was found valid keeps them (`Validated.sound`), and what keeps them is read back from its members,
section by section (`Sound.ofMembers_members`).
-/

namespace NoteChart

namespace Text

theorem trimBy_eq (drop : Char → Bool) (text : List Char) :
    trimBy drop text = (text.dropWhile drop).rdropWhile drop := rfl

/-- A text that was trimmed has nothing to be trimmed. -/
theorem trimBy_trimBy (drop : Char → Bool) (text : List Char) :
    trimBy drop (trimBy drop text) = trimBy drop text := by
  have hfront : (trimBy drop text).dropWhile drop = trimBy drop text := by
    rw [trimBy_eq]
    rcases hrest : (text.dropWhile drop).rdropWhile drop with - | ⟨first, rest⟩
    · rfl
    -- what is left begins as it did before its end was dropped
    · obtain ⟨tail, htail⟩ := List.rdropWhile_prefix drop (text.dropWhile drop)
      rw [hrest, List.cons_append] at htail
      have hfirst : ¬drop first := by
        have hhead := List.head?_dropWhile_not drop text
        rw [← htail] at hhead
        exact Bool.not_eq_true _ ▸ hhead
      exact List.dropWhile_cons_of_neg hfirst
  rw [trimBy_eq _ (trimBy drop text), hfront, trimBy_eq, List.rdropWhile_idempotent]

end Text

namespace Config

/-! ### Promises -/

/-- What validation promises of limits. -/
structure Limits.Sound (limits : Limits) : Prop where
  maxImageWidth_pos : 0 < limits.maxImageWidth
  maxImageHeight_pos : 0 < limits.maxImageHeight
  maxSprites_pos : 0 < limits.maxSprites

/-- What validation promises of what holds by default. -/
structure Defaults.Sound (defaults : Defaults) : Prop where
  snap_pos : 0 < defaults.snap
  isPositive_zoom : defaults.zoom.isPositive

/-- What validation promises of settings. -/
structure Sound (config : Config) : Prop where
  render : config.render.Sound
  defaults : config.defaults.Sound
  trimmed : ∀ directory ∈ config.assetsDirectory,
    directory.toList ≠ [] ∧ Text.trim directory.toList = directory.toList
  skins : ∀ entry ∈ config.skins, entry.Sound

/-- A number that has to be above zero is so by default as well. -/
theorem pos_of_optional {name : String} {standard number : Int} {members : Members}
    (hstandard : 0 < standard)
    (h : optional name standard (scalar readPositive) members = .valid number) : 0 < number := by
  rcases valid_optional h with rfl | ⟨json, hjson⟩
  · exact hstandard
  · exact pos_of_readPositive (Checked.ofScalar_eq_valid_iff.1 hjson)

/-- What holds of a section by default and whenever it is read holds of it. -/
theorem of_optional_inSection {α : Type} {name : String} {standard value : α}
    {read : Members → Checked α} {members : Members} {promise : α → Prop}
    (hstandard : promise standard)
    (hread : ∀ inner value, read inner = .valid value → promise value)
    (h : optional name standard (inSection read) members = .valid value) : promise value := by
  rcases valid_optional h with rfl | ⟨json, hjson⟩
  · exact hstandard
  · cases json with
    | object inner => exact hread inner value hjson
    | _ => cases hjson

/-- Limits that were found valid are above zero, given or not. -/
theorem sound_of_readLimits {members : Members} {limits : Limits}
    (h : readLimits members = .valid limits) : limits.Sound := by
  obtain ⟨_, sprites, hfirst, hsprites, rfl⟩ := Checked.andThen_eq_valid_iff.1 h
  obtain ⟨_, height, hsecond, hheight, rfl⟩ := Checked.andThen_eq_valid_iff.1 hfirst
  obtain ⟨_, width, hthird, hwidth, rfl⟩ := Checked.andThen_eq_valid_iff.1 hsecond
  cases hthird
  exact ⟨pos_of_optional (by decide) hwidth, pos_of_optional (by decide) hheight,
    pos_of_optional (by decide) hsprites⟩

theorem sound_of_readDefaults {members : Members} {defaults : Defaults}
    (h : readDefaults members = .valid defaults) : defaults.Sound := by
  have hzoom := isPositive_of_readDefaults h
  obtain ⟨_, scroll, hfirst, -, rfl⟩ := Checked.andThen_eq_valid_iff.1 h
  obtain ⟨_, zoom, hsecond, -, rfl⟩ := Checked.andThen_eq_valid_iff.1 hfirst
  obtain ⟨_, snap, hthird, hsnap, rfl⟩ := Checked.andThen_eq_valid_iff.1 hsecond
  cases hthird
  exact ⟨pos_of_optional (by decide) hsnap, hzoom⟩

/-- A directory that was found valid has no blanks around it and is not empty. -/
theorem trimmed_of_readDirectory {json : Json} {directory : String}
    (h : readDirectory json = .ok (some directory)) :
    directory.toList ≠ [] ∧ Text.trim directory.toList = directory.toList := by
  rw [readDirectory] at h
  rcases htext : readText json with cause | text <;> rw [htext] at h
  · cases h
  · simp only [bind, Except.bind] at h
    split at h
    · cases h
    · rename_i hne
      cases h
      rw [String.toList_ofList]
      exact ⟨hne, Text.trimBy_trimBy _ _⟩

/-- **Valid settings** keep all promises. -/
theorem Validated.sound {config : Config} (h : config.Validated) : config.Sound where
  render := by
    obtain ⟨members, h⟩ := h
    exact of_optional_inSection ⟨by decide, by decide, by decide⟩
      (fun _ _ ↦ sound_of_readLimits) (ofMembers_eq_valid_iff.1 h).render
  defaults := by
    obtain ⟨members, h⟩ := h
    exact of_optional_inSection ⟨by decide, isPositive_of_eq_default rfl⟩
      (fun _ _ ↦ sound_of_readDefaults) (ofMembers_eq_valid_iff.1 h).defaults
  trimmed := by
    obtain ⟨members, h⟩ := h
    intro directory hdirectory
    obtain ⟨read, hread, hjoin⟩ :=
      Checked.map_eq_valid_iff.1 (ofMembers_eq_valid_iff.1 h).assetsDirectory
    rw [hdirectory, Option.join_eq_some_iff] at hjoin
    rcases valid_optional hread with hdefault | ⟨json, hjson⟩
    · rw [hdefault] at hjoin
      cases hjoin
    · rw [hjoin] at hjson
      obtain ⟨text, htext⟩ := valid_nullable hjson
      exact trimmed_of_readDirectory (Checked.ofScalar_eq_valid_iff.1 htext)
  skins := fun entry hentry ↦ (h.skins entry hentry).sound

/-! ### Reading back -/

theorem scalar_readPositive {number : Int} (h : 0 < number) :
    scalar readPositive (.int number) = .valid number := by
  have hlarge : ¬number < 1 := by omega
  simp [scalar, readPositive, readInteger, bind, Except.bind, hlarge, pure, Except.pure,
    Checked.ofScalar]

theorem scalar_readPositiveReal {number : Binary64} (h : number.isPositive) :
    scalar readPositiveReal (.real number) = .valid number := by
  simp [scalar, readPositiveReal, readReal, bind, Except.bind, h, pure, Except.pure,
    Checked.ofScalar]

theorem scalar_readScroll (scroll : Scroll) :
    scalar readScroll (.string scroll.name) = .valid scroll := by
  cases scroll <;> rfl

theorem scalar_readFamily (family : Family) :
    scalar readFamily (.string family.name) = .valid family := by
  cases family <;> rfl

/-- A directory is read back from its text, if that is trimmed. -/
theorem scalar_readDirectory {directory : String} (hne : directory.toList ≠ [])
    (htrimmed : Text.trim directory.toList = directory.toList) :
    scalar readDirectory (.string directory) = .valid (some directory) := by
  obtain ⟨first, rest, hchars⟩ := List.exists_cons_of_ne_nil hne
  have hofList : String.ofList (first :: rest) = directory := by
    rw [← hchars, String.ofList_toList]
  rw [hchars] at htrimmed
  simp [scalar, readDirectory, readText, bind, Except.bind, htrimmed, hchars, hofList, pure,
    Except.pure, Checked.ofScalar]

/-- What each item is written as reads as the item, and so does the list. -/
theorem readList_map {α : Type} {read : Json → Checked α} {write : α → Json} {values : List α}
    (h : ∀ value ∈ values, read (write value) = .valid value) :
    readList read (.array (values.map write)) = .valid values := by
  have hitems (index : Nat) : readItems read index (values.map write) = .valid values := by
    induction values generalizing index with
    | nil => rfl
    | cons value rest ih =>
      obtain ⟨hfirst, hrest⟩ := List.forall_mem_cons.1 h
      rw [List.map_cons, readItems, hfirst, ih hrest]
      rfl
  exact hitems 0

/-- Files are written under their roles. -/
theorem readListing_map (files : Listing String) :
    readListing (scalar readText) (.object (files.map fun (role, file) ↦ (role, .string file))) =
      .valid files := by
  show readMembers _ _ = _
  induction files with
  | nil => rfl
  | cons entry rest ih =>
    rw [List.map_cons, readMembers, ih]
    rfl

/-- A member that was written reads as its value. -/
theorem optional_of_read {α : Type} {name : String} {default value : α} {read : Json → Checked α}
    {members : Members} {json : Json} (hget : Listing.get? name members = some json)
    (hread : read json = .valid value) : optional name default read members = .valid value := by
  rw [optional, hget]
  simp only [hread, Checked.within]

theorem required_of_read {α : Type} {name : String} {value : α} {read : Json → Checked α}
    {members : Members} {json : Json} (hget : Listing.get? name members = some json)
    (hread : read json = .valid value) : required name read members = .valid value := by
  rw [required, hget]
  simp only [hread, Checked.within]

/-- Limits are read back from their members. -/
theorem Limits.Sound.readLimits_members {limits : Limits} (h : limits.Sound) :
    readLimits limits.members = .valid limits := by
  rw [readLimits, optional_of_read rfl (scalar_readPositive h.maxImageWidth_pos),
    optional_of_read rfl (scalar_readPositive h.maxImageHeight_pos),
    optional_of_read rfl (scalar_readPositive h.maxSprites_pos)]
  rfl

/-- The defaults are read back from their members. -/
theorem Defaults.Sound.readDefaults_members {defaults : Defaults} (h : defaults.Sound) :
    readDefaults defaults.members = .valid defaults := by
  rw [readDefaults, optional_of_read rfl (scalar_readPositive h.snap_pos),
    optional_of_read rfl (scalar_readPositiveReal h.isPositive_zoom),
    optional_of_read rfl (scalar_readScroll defaults.scroll)]
  rfl

/-- An entry is read back from its members. -/
theorem SkinEntry.Sound.readEntry_members {entry : SkinEntry} (h : entry.Sound) :
    readEntry entry.members = .valid entry := by
  have haliases : readList (scalar readText) (.array (entry.aliases.map .string)) =
      .valid entry.aliases := readList_map fun _ _ ↦ rfl
  have hresize : optional "resize_to" none (nullable (scalar readPositive)) entry.members =
      .valid entry.resizeTo := by
    refine optional_of_read rfl ?_
    rcases hside : entry.resizeTo with - | side
    · rfl
    · have hread := scalar_readPositive (h.resizeTo_pos side hside)
      simp only [nullable, hread, Checked.map]
  have hfiles : checkFiles entry = .valid entry := by rw [checkFiles, h.missingRoles_eq]
  rw [readEntry, required_of_read rfl (show scalar readText (.string entry.name) = _ from rfl),
    optional_of_read rfl haliases, required_of_read rfl (scalar_readFamily entry.family),
    required_of_read rfl (scalar_readPositive h.resolution_pos),
    required_of_read rfl (readListing_map entry.files), hresize,
    optional_of_read rfl (show scalar readSwitch (.bool entry.upsideDown) = _ from rfl)]
  exact hfiles

/-- **Settings that keep all promises** are read back from their members. -/
theorem Sound.ofMembers_members {config : Config} (h : config.Sound) :
    ofMembers config.members = .valid config := by
  refine ofMembers_eq_valid_iff.2 ⟨?_, ?_, ?_, ?_⟩
  · exact optional_of_read rfl h.render.readLimits_members
  · exact optional_of_read rfl h.defaults.readDefaults_members
  · refine Checked.map_eq_valid_iff.2 ⟨config.assetsDirectory.map some, optional_of_read rfl ?_, ?_⟩
    · rcases hdirectory : config.assetsDirectory with - | directory
      · rfl
      · obtain ⟨hne, htrimmed⟩ := h.trimmed directory hdirectory
        simp only [nullable, scalar_readDirectory hne htrimmed, Checked.map, Option.map_some]
    · cases config.assetsDirectory <;> rfl
  · exact optional_of_read rfl (readList_map fun entry hentry ↦
      (h.skins entry hentry).readEntry_members)

/-! ### What is printed -/

/-- **Valid settings are read back** from the object that they are written as: by validation, by
loading it from a file where the environment has nothing to say, and from the report on settings
that were loaded. -/
theorem reads_back_of_valid {members : Members} {config : Config}
    (h : ofMembers members = .valid config) :
    ofMembers config.members = .valid config ∧
    (∀ host path loaded, LoadedFrom host path loaded → host.environment.OverridesNothing →
      readFile host path = .ok config.members → loaded = .ok config) ∧
    ∀ host path?, load host = .ok (config, path?) → ∃ printed,
      Listing.get? "config" (report host).members = some (.object printed) ∧
        ofMembers printed = .valid config := by
  have hback : ofMembers config.members = .valid config :=
    (Validated.sound ⟨members, h⟩).ofMembers_members
  refine ⟨hback, fun host path loaded hfrom hsilent hfile ↦ ?_, fun host path? hload ↦ ?_⟩
  · rw [hfrom.eq_ofMembers hsilent hfile,
      withoutMisplaced_eq_self (isMisplaced_of_valid hback), hback]
  · refine ⟨config.members, ?_, hback⟩
    rw [report, hload]
    rfl

/-- The settings, if they are valid. -/
def Checked.settings? {α : Type} : Checked α → Option α
  | valid settings => some settings
  | invalid _ => none

theorem Checked.settings?_eq_some_iff {α : Type} {x : Checked α} {settings : α} :
    x.settings? = some settings ↔ x = .valid settings := by
  cases x <;> simp [settings?]

/-- Members in which all that can be written in several ways is not written as it is kept. -/
def loosely : Members :=
  [("render", .object [("max_sprites", .string " 05_0.0 ")]),
    ("defaults", .object [("zoom", .string "inf"), ("scroll", .string " DownScroll "),
      ("snap", .bool true)]),
    ("assets_dir", .string " skins "),
    ("noteskins", .array
      [.object [("upside_down", .string "Yes"), ("resize_to", .real (.ofInt 64)),
        ("name", .string ""), ("family", .string "bar"), ("sprite_resolution", .int 128),
        ("files", .object [("cover", .string ""), ("mine", .string "m"), ("notes", .string "n"),
          ("receptor", .string "r")])]])]

/-- The settings that these members come to. -/
def strictly : Config where
  render := { maxSprites := 50 }
  defaults := { snap := 1, zoom := .infinite false, scroll := .down }
  assetsDirectory := some "skins"
  skins :=
    [{ name := ""
       family := .bar
       resolution := 128
       files := [("cover", ""), ("mine", "m"), ("notes", "n"), ("receptor", "r")]
       resizeTo := some 64
       upsideDown := true }]

/-- They are read back, and so are the defaults that are printed where there is no file. -/
theorem reads_back_of_valid_loosely :
    ofMembers loosely = .valid strictly ∧ ofMembers strictly.members = .valid strictly ∧
    load numberForLimits = .ok ({}, none) ∧
    ∃ printed, Listing.get? "config" (report numberForLimits).members = some (.object printed) ∧
      ofMembers printed = .valid {} := by
  have hvalid : ofMembers loosely = .valid strictly :=
    Checked.settings?_eq_some_iff.1 (by decide +kernel)
  have hdefault : ofMembers [] = .valid {} := Checked.settings?_eq_some_iff.1 (by decide +kernel)
  have hload : load numberForLimits = .ok ({}, none) := by decide +kernel
  obtain ⟨hback, -, -⟩ := reads_back_of_valid hvalid
  obtain ⟨-, -, hreport⟩ := reads_back_of_valid hdefault
  exact ⟨hvalid, hback, hload, hreport numberForLimits none hload⟩

end Config

end NoteChart
