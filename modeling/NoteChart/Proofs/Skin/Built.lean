import Mathlib.Tactic
import NoteChart.Skin.Loading

/-!
# Skins that were built

A skin is loaded, and may then be resized and turned upside down any number of times. `Built` are
the skins that come about in this way. All of them are `WellFormed`: every sprite is a square of
the skin's side, and the table has the sprites its family asks for.

The shape of the table is settled when the files are opened, and nothing done to a table as a whole
changes it. The squares come from the last step of loading, which scales whatever was opened, so
nothing has to be known about the files. A `Loader` opens them one after another, and what it
returns is followed from bind to bind by `Loader.Returns`.
-/

namespace NoteChart

namespace Skin

/-! ### Loading -/

namespace Loader

variable {α β : Type}

/-- Whatever the loader returns has the property. -/
def Returns (property : α → Prop) (loader : Loader α) : Prop :=
  ∀ unreadable value, (loader.run.run unreadable).1 = .ok value → property value

theorem Returns.pure {property : α → Prop} {value : α} (h : property value) :
    Returns property (pure value) := by
  intro unreadable returned hreturned
  cases hreturned
  exact h

/-- **Two loads in a line.** The second may rely on what is promised of the first. -/
theorem Returns.bind {middle : α → Prop} {property : β → Prop} {loader : Loader α}
    {next : α → Loader β} (hloader : Returns middle loader)
    (hnext : ∀ value, middle value → Returns property (next value)) :
    Returns property (loader >>= next) := by
  intro unreadable returned hreturned
  rcases hfirst : loader.run.run unreadable with ⟨fault | value, later⟩ <;>
    simp only [ExceptT.run_bind, StateT.run_bind, hfirst] at hreturned
  · cases hreturned
  · exact hnext value (hloader unreadable value (by rw [hfirst])) later returned hreturned

theorem Returns.ofExcept {property : α → Prop} {result : Except Fault α}
    (h : ∀ value, result = .ok value → property value) : Returns property (ofExcept result) :=
  fun _ value hvalue ↦ h value hvalue

/-- Nothing is claimed of what is returned. -/
theorem Returns.any (loader : Loader α) : Returns (fun _ ↦ True) loader :=
  fun _ _ _ ↦ trivial

/-- A loader run over a list returns a list of its length. -/
theorem Returns.mapM (step : α → Loader β) (list : List α) :
    Returns (fun values ↦ values.length = list.length) (list.mapM step) := by
  induction list with
  | nil => exact .pure rfl
  | cons first rest ih =>
    rw [List.mapM_cons]
    refine (Returns.any _).bind fun value _ ↦ ih.bind fun values hvalues ↦ .pure ?_
    rw [List.length_cons, List.length_cons, hvalues]

end Loader

/-! ### The shape of a table -/

end Skin

/-- The orientations that a family keeps of a sprite. -/
def Family.orientationCount : Family → Nat
  | ldur6k => 6
  | ldurMono => 4
  | pump => 5
  | bar => 1

/-- The rows of notes that a family keeps. -/
def Family.colourRows : Family → Nat
  | ldur6k | pump | bar => Skin.colourCount
  | ldurMono => 1

namespace Skin

/-- The table has as many sprites as its family asks for. -/
structure Sprites.Fits (sprites : Sprites) (family : Family) : Prop where
  receptors_length : sprites.receptors.length = family.orientationCount
  notes_length : sprites.notes.length = family.colourRows
  row_length : ∀ row ∈ sprites.notes, row.length = family.orientationCount

/-- What is done to every sprite leaves the shape of the table as it is. -/
theorem Sprites.Fits.map {sprites : Sprites} {family : Family} (h : sprites.Fits family)
    (change : Image → Image) : (sprites.map change).Fits family where
  receptors_length := by rw [Sprites.map, List.length_map, h.receptors_length]
  notes_length := by rw [Sprites.map, List.length_map, h.notes_length]
  row_length := by
    intro row hrow
    obtain ⟨source, hsource, rfl⟩ := List.mem_map.1 hrow
    rw [List.length_map, h.row_length source hsource]

/-- A sheet gives a sprite for each colour, or none at all. -/
theorem length_colours {side : Nat} {sheet : Image} {sprites : List Image}
    (h : colours side sheet = .ok sprites) : sprites.length = colourCount := by
  simp only [colours] at h
  split at h <;> cases h
  rw [List.length_take]
  omega

theorem returns_openColours (assets : Assets) (side : Nat) (path : String) :
    Loader.Returns (fun sprites ↦ sprites.length = colourCount) (openColours assets side path) :=
  (Loader.Returns.any _).bind fun _ _ ↦ .ofExcept fun _ ↦ length_colours

/-- **The files of a family fill its table.** -/
theorem returns_openSprites (assets : Assets) (family : Family) (side : Nat)
    (path : Role → String) :
    Loader.Returns (·.Fits family) (openSprites assets family side path) := by
  -- what is in the files does not matter, only how many sprites are cut from them
  cases family with
  | ldur6k =>
    refine (Loader.Returns.any _).bind fun _ _ ↦ (Loader.Returns.any _).bind fun _ _ ↦
      (returns_openColours _ _ _).bind fun notes hnotes ↦ .pure ⟨rfl, ?_, ?_⟩
    · exact (List.length_map _).trans hnotes
    · intro row hrow
      obtain ⟨note, -, rfl⟩ := List.mem_map.1 hrow
      rfl
  | ldurMono =>
    refine (Loader.Returns.mapM _ _).bind fun receptors hreceptors ↦
      (Loader.Returns.mapM _ _).bind fun notes hnotes ↦
        (Loader.Returns.any _).bind fun _ _ ↦ .pure ⟨hreceptors, rfl, ?_⟩
    intro row hrow
    cases List.mem_singleton.1 hrow
    exact hnotes
  | pump =>
    refine (Loader.Returns.any _).bind fun _ _ ↦ (Loader.Returns.any _).bind fun _ _ ↦
      (Loader.Returns.any _).bind fun _ _ ↦ (returns_openColours _ _ _).bind fun center hcenter ↦
        (returns_openColours _ _ _).bind fun corner hcorner ↦ .pure ⟨rfl, ?_, ?_⟩
    · rw [List.length_zipWith, hcenter, hcorner, Nat.min_self]
      rfl
    · intro row hrow
      rw [← List.map_uncurry_zip_eq_zipWith] at hrow
      obtain ⟨pair, -, rfl⟩ := List.mem_map.1 hrow
      rfl
  | bar =>
    refine (Loader.Returns.any _).bind fun _ _ ↦
      (returns_openColours _ _ _).bind fun notes hnotes ↦
        (Loader.Returns.any _).bind fun _ _ ↦ .pure ⟨rfl, ?_, ?_⟩
    · exact (List.length_map _).trans hnotes
    · intro row hrow
      obtain ⟨note, -, rfl⟩ := List.mem_map.1 hrow
      rfl

/-! ### Well-formed skins -/

end Skin

/-- The skin is a table of squares of one side. -/
structure Skin.WellFormed (skin : Skin) : Prop where
  resolution_pos : 0 < skin.resolution
  square : ∀ image ∈ skin.sprites.toList,
    image.width = skin.resolution ∧ image.height = skin.resolution
  fits : skin.sprites.Fits skin.family

namespace Skin

theorem Sprites.toList_map (change : Image → Image) (sprites : Sprites) :
    (sprites.map change).toList = sprites.toList.map change := by
  simp [toList, map, List.map_flatten]

/-- Scaled to a side, a table of any images is one of squares. -/
theorem WellFormed.scaled {family : Family} {sprites : Sprites} (hfits : sprites.Fits family)
    {side : Nat} (hside : 0 < side) :
    WellFormed ⟨family, side, sprites.map (Image.scaleTo side)⟩ where
  resolution_pos := hside
  square := by
    intro image himage
    rw [Sprites.toList_map] at himage
    obtain ⟨source, -, rfl⟩ := List.mem_map.1 himage
    have hmax : max side 1 = side := max_eq_left hside
    -- a square of that side is left alone, anything else becomes one
    simp only [Image.scaleTo, hmax]
    split
    · assumption
    · exact ⟨rfl, rfl⟩
  fits := hfits.map _

/-- Sprites that fit a family make a skin of it, with a side above zero. -/
theorem wellFormed_of_assemble {family : Family} {resolution : Int} {sprites : Sprites}
    {skin : Skin} (hfits : sprites.Fits family)
    (h : assemble family resolution sprites = .ok skin) : skin.WellFormed := by
  rw [assemble] at h
  split at h <;> cases h
  exact .scaled hfits (by omega)

/-- What is loaded is well-formed, whatever was found in the files. -/
theorem returns_load (assets : Assets) (family : Family) (resolution : Int)
    (path : Role → String) : Loader.Returns WellFormed (load assets family resolution path) :=
  (returns_openSprites _ _ _ _).bind fun _ hfits ↦
    .ofExcept fun _ ↦ wellFormed_of_assemble hfits

theorem WellFormed.resize {skin changed : Skin} {resolution : Int} (h : skin.WellFormed)
    (hresize : skin.resize resolution = .ok changed) : changed.WellFormed := by
  rw [Skin.resize] at hresize
  split at hresize <;> cases hresize
  exact .scaled h.fits (by omega)

theorem WellFormed.flip {skin : Skin} (h : skin.WellFormed) : skin.flip.WellFormed where
  resolution_pos := h.resolution_pos
  square := by
    intro image himage
    rw [Skin.flip, Sprites.toList_map] at himage
    obtain ⟨source, hsource, rfl⟩ := List.mem_map.1 himage
    exact h.square source hsource
  fits := h.fits.map _

/-- The skins there can be: loaded, and then resized and turned upside down any number of
times. -/
inductive Built : Skin → Prop
  | load {assets : Assets} {family : Family} {resolution : Int} {path : Role → String}
      {skin : Skin} (h : (Skin.load assets family resolution path).outcome.1 = .ok skin) :
      Built skin
  | resize {skin changed : Skin} {resolution : Int} (h : Built skin)
      (hresize : skin.resize resolution = .ok changed) : Built changed
  | flip {skin : Skin} (h : Built skin) : Built skin.flip

/-- **Built skins are well-formed**, by induction on what was done to them. -/
theorem Built.wellFormed {skin : Skin} (h : skin.Built) : skin.WellFormed := by
  induction h with
  | load h => exact returns_load _ _ _ _ [] _ h
  | resize _ hresize ih => exact ih.resize hresize
  | flip _ ih => exact ih.flip

end Skin

end NoteChart
