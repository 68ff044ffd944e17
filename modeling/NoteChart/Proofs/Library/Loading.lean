import NoteChart.Proofs.Config.Entries
import NoteChart.Proofs.Library.Registry
import NoteChart.Proofs.Skin.Sheets
import NoteChart.Run

/-!
# Loading a library

A library is loaded from a list of entries, and some of them may be beyond repair: a file that is
missing or too small, whatever its entry says of it. Such a skin is left out and put on a list, and
nothing else of it remains.

What an entry comes to does not depend on the entries around it (`loadAlone`), and a valid one comes
to a skin or to the fault of a sheet that is too small, which is a refusal
(`isRefusal_of_loadAlone`). So one entry more adds its skin or adds to the list (`addEntry_eq`), and
the library of all entries is that of the ones that load, by induction on the list (`load_eq`).
-/

namespace NoteChart.Library

open Config (SkinEntry)

variable (assets : Skin.Assets) (directory : Path)

/-! ### One entry -/

/-- What loading an entry comes to, on its own. -/
def loadAlone (entry : SkinEntry) : Except Skin.Fault Skin :=
  (loadEntry assets directory entry).outcome.1

/-- The addition to a library that an entry comes to, if it loads. -/
def addition? (entry : SkinEntry) : Option Addition :=
  match loadAlone assets directory entry with
  | .ok skin => some ⟨entry.name, skin, entry.aliases⟩
  | .error _ => none

/-- The name of an entry that does not load, and the reason. -/
def broken? (entry : SkinEntry) : Option (String × Skin.Fault) :=
  match loadAlone assets directory entry with
  | .ok _ => none
  | .error fault => some (entry.name, fault)

/-- The paths of the pictures of an entry that cannot be read. -/
def unreadable (entry : SkinEntry) : List String := (loadEntry assets directory entry).outcome.2

variable {entry : SkinEntry} {entries : List SkinEntry}

/-- An entry is loaded unless its sheets are too small. -/
theorem ends_loadEntry (h : entry.Sound) :
    Skin.Loader.Ends (fun _ ↦ True)
      (Skin.tooSmallUnless
        (assets.Suffice entry.family entry.resolution.toNat (filePath directory entry)))
      (loadEntry assets directory entry) := by
  have hnamed : (entry.family.roles.find? fun role ↦
      (Listing.get? role.name entry.files).isNone) = none := by
    refine List.find?_eq_none.2 fun role hrole ↦ ?_
    obtain ⟨file, hfile⟩ := h.exists_file hrole
    simp [hfile]
  have hload := Skin.ends_load h.resolution_pos assets entry.family (filePath directory entry)
  simp only [loadEntry, hnamed]
  refine (hload.bind fun skin _ ↦ ?_).congr Option.or_none
  split
  · rename_i side hside
    -- the side that is asked for is one of the entry, and so above zero
    have hresize := Skin.ends_resize (h.resizeTo_pos side hside) skin
    exact (Skin.Loader.Ends.ofExcept hresize).bind fun resized _ ↦ .pure trivial
  · exact .pure trivial

/-- **A sound entry** loads, or a sheet of it is too small. -/
theorem ends_loadAlone (h : entry.Sound) :
    Ends (fun _ ↦ True)
      (Skin.tooSmallUnless
        (assets.Suffice entry.family entry.resolution.toNat (filePath directory entry)))
      (loadAlone assets directory entry) :=
  ends_loadEntry assets directory h []

/-- What keeps an entry from being loaded is no breakdown. -/
theorem isRefusal_of_loadAlone (h : entry.Sound) {fault : Skin.Fault}
    (hfault : loadAlone assets directory entry = .error fault) : fault.isRefusal := by
  have hsome := (ends_loadAlone assets directory h).error_iff.1 hfault
  rw [Skin.tooSmallUnless] at hsome
  split at hsome
  · cases hsome
  · cases hsome
    rfl

/-- **One entry more** adds its skin, or is put on the list of those left out. -/
theorem addEntry_eq (h : entry.Sound) (loaded : Loaded) :
    loaded.addEntry assets directory entry =
      .ok
        { library := (addition? assets directory entry).toList.foldl enter loaded.library
          skipped := loaded.skipped ++ (broken? assets directory entry).toList
          unreadable := loaded.unreadable ++ unreadable assets directory entry } := by
  rw [addition?, broken?, unreadable]
  rcases hentry : loadAlone assets directory entry with fault | skin
  · have hrefusal := isRefusal_of_loadAlone assets directory h hentry
    rw [loadAlone] at hentry
    simp [Loaded.addEntry, hentry, hrefusal]
  · rw [loadAlone] at hentry
    simp [Loaded.addEntry, hentry, enter]

/-! ### All entries -/

/-- **All entries**, by induction from one. -/
theorem foldlM_addEntry (h : ∀ entry ∈ entries, entry.Sound) (loaded : Loaded) :
    entries.foldlM (Loaded.addEntry assets directory) loaded =
      .ok
        { library := (entries.filterMap (addition? assets directory)).foldl enter loaded.library
          skipped := loaded.skipped ++ entries.filterMap (broken? assets directory)
          unreadable := loaded.unreadable ++ entries.flatMap (unreadable assets directory) } := by
  induction entries generalizing loaded with
  | nil => simp [pure, Except.pure]
  | cons entry rest ih =>
    obtain ⟨hentry, hrest⟩ := List.forall_mem_cons.1 h
    rw [List.foldlM_cons, addEntry_eq assets directory hentry]
    refine (ih hrest _).trans ?_
    rcases haddition : addition? assets directory entry with - | addition <;>
      rcases hbroken : broken? assets directory entry with - | reason <;>
        simp [haddition, hbroken]

/-- A library is what the entries that load add to it, and the others are left out. -/
theorem load_eq (h : ∀ entry ∈ entries, entry.Sound) :
    load assets directory entries =
      .ok
        { library := ofAdditions (entries.filterMap (addition? assets directory))
          skipped := entries.filterMap (broken? assets directory)
          unreadable := entries.flatMap (unreadable assets directory) } :=
  foldlM_addEntry assets directory h {}

/-- Entries that do not load may as well not be there. -/
theorem filterMap_addition?_filter {keep : SkinEntry → Bool}
    (h : ∀ entry ∈ entries, (addition? assets directory entry).isSome → keep entry) :
    (entries.filter keep).filterMap (addition? assets directory) =
      entries.filterMap (addition? assets directory) := by
  rw [List.filterMap_filter]
  refine List.filterMap_congr fun entry hentry ↦ ?_
  split
  · rfl
  · rename_i hdropped
    rcases hnone : addition? assets directory entry with - | addition
    · rfl
    · exact absurd (h entry hentry (by rw [hnone]; rfl)) hdropped

/-- What is loaded from a list of entries, whichever of them are broken. -/
structure LeavesOutBroken (entries : List SkinEntry) (loaded : Loaded) : Prop where
  /-- An entry that does not load is refused. -/
  refused : ∀ entry ∈ entries, ∀ fault, loadAlone assets directory entry = .error fault →
    fault.isRefusal
  /-- What the others come to is added, in the order of the list. -/
  library_eq : loaded.library = ofAdditions (entries.filterMap (addition? assets directory))
  /-- The refused ones are told, with the reason. -/
  skipped_eq : loaded.skipped = entries.filterMap (broken? assets directory)

theorem leavesOutBroken_of_load (h : ∀ entry ∈ entries, entry.Sound) {loaded : Loaded}
    (hload : load assets directory entries = .ok loaded) :
    LeavesOutBroken assets directory entries loaded := by
  rw [load_eq assets directory h] at hload
  cases hload
  exact ⟨fun entry hentry _ ↦ isRefusal_of_loadAlone assets directory (h entry hentry), rfl, rfl⟩

end NoteChart.Library

namespace NoteChart.Run

open Library

variable {host : Host} {config : Config} {directory : Path}

/-- Loading does not fail for entries that keep what validation promises. -/
theorem loadLibrary_of_sound
    (hdirectory : host.assetsDirectory config.assetsDirectory = .ok directory)
    (hsound : ∀ entry ∈ config.skins, entry.Sound) (assets : Skin.Assets) :
    ∃ loaded, loadLibrary host assets config = .ok loaded ∧
      load assets directory config.skins = .ok loaded := by
  refine ⟨_, ?_, load_eq assets directory hsound⟩
  rw [loadLibrary, hdirectory]
  simp only [load_eq assets directory hsound]
  rfl

/-- **A broken skin does no harm.** Of valid entries the library is loaded that the ones that load
make up, whatever the pictures are; and without the broken ones it is the same. -/
theorem loadLibrary_leavesOutBroken (hvalid : ∀ entry ∈ config.skins, entry.Validated)
    (hdirectory : host.assetsDirectory config.assetsDirectory = .ok directory)
    (assets : Skin.Assets) :
    ∃ loaded, loadLibrary host assets config = .ok loaded ∧
      LeavesOutBroken assets directory config.skins loaded ∧
      ∀ keep : Config.SkinEntry → Bool,
        (∀ entry ∈ config.skins, (addition? assets directory entry).isSome → keep entry) →
        ∃ fewer, loadLibrary host assets { config with skins := config.skins.filter keep } =
            .ok fewer ∧ fewer.library = loaded.library := by
  have hsound entry (hentry : entry ∈ config.skins) := (hvalid entry hentry).sound
  obtain ⟨loaded, hloaded, hload⟩ := loadLibrary_of_sound hdirectory hsound assets
  have hbroken := leavesOutBroken_of_load assets directory hsound hload
  refine ⟨loaded, hloaded, hbroken, fun keep hkeep ↦ ?_⟩
  let kept : Config := { config with skins := config.skins.filter keep }
  have hkept : ∀ entry ∈ kept.skins, entry.Sound := fun entry hentry ↦
    hsound entry (List.mem_of_mem_filter hentry)
  have hsame : host.assetsDirectory kept.assetsDirectory = .ok directory := hdirectory
  obtain ⟨fewer, hfewer, hloadFewer⟩ := loadLibrary_of_sound hsame hkept assets
  refine ⟨fewer, hfewer, ?_⟩
  rw [(leavesOutBroken_of_load assets directory hkept hloadFewer).library_eq, hbroken.library_eq,
    filterMap_addition?_filter assets directory hkeep]

/-- A host without any files. -/
def bareHost : Host where
  workingDirectory := ⟨"/", ["work"]⟩
  programDirectory := ⟨"/", ["program"]⟩
  home? _ := none
  environment _ := none
  look _ := .nothing

/-- Without any pictures only one of the stock skins is loaded, the one that is not cut from
sheets. -/
theorem loadLibrary_leavesOutBroken_bareHost :
    (∀ entry ∈ Config.stockSkins, entry.Validated) ∧
    bareHost.assetsDirectory none = .ok ⟨"/", ["program", "assets", "noteskin"]⟩ ∧
    ∃ loaded, loadLibrary bareHost ⟨fun _ ↦ none⟩ {} = .ok loaded ∧
      loaded.library.names = ["eobaner"] ∧
      loaded.skipped = ["dbz", "wafles", "lambda", "delta-note", "sbz", "mbz", "rustmania"].map
        fun name ↦ (name, Skin.Fault.textureMapTooSmall) := by
  have hdirectory : bareHost.assetsDirectory none =
      .ok ⟨"/", ["program", "assets", "noteskin"]⟩ := by decide +kernel
  have hvalid : ∀ entry ∈ ({} : Config).skins, entry.Validated := Config.validated_stockSkins
  obtain ⟨loaded, hloaded, hbroken, -⟩ :=
    loadLibrary_leavesOutBroken hvalid hdirectory ⟨fun _ ↦ none⟩
  refine ⟨Config.validated_stockSkins, hdirectory, loaded, hloaded, ?_, ?_⟩
  · rw [hbroken.library_eq]
    decide +kernel
  · rw [hbroken.skipped_eq]
    decide +kernel

end NoteChart.Run
