import NoteChart.Proofs.Skin.Lookup
import NoteChart.Proofs.Skin.Turns

/-!
# Setting up a skin

A skin that was loaded can be resized and turned upside down, as often as one likes. Each of these
is done to its table as a whole, so a skin behind any number of changes is the loaded one with the
same done to every sprite (`setUp_eq`). No lookup can tell more than that: which place of the table
is shown depends on the family alone, and what stands there went through all the changes in their
order (`note_map`, `receptor_map`).

A change may be refused, and then the skin stays as it was. Upside down twice is not upside down at
all, which is a fact about pictures that were opened and not about any picture (`Image.Settled`).
-/

namespace NoteChart

/-- An image scaled to a side is not scaled again. -/
theorem Image.scaleTo_scaleTo (side : Nat) (image : Image) :
    (image.scaleTo side).scaleTo side = image.scaleTo side := by
  have hsquare : (image.scaleTo side).width = max side 1 ∧
      (image.scaleTo side).height = max side 1 := by
    simp only [scaleTo]
    split
    · assumption
    · exact ⟨rfl, rfl⟩
  rw [scaleTo, if_pos hsquare]

namespace Skin

/-! ### Changes -/

/-- What can be done to a skin as a whole. -/
inductive Change
  | resize (resolution : Int)
  | flip
deriving DecidableEq

namespace Change

/-- The skin with the change made, or why it is refused. -/
def apply (skin : Skin) : Change → Except Fault Skin
  | resize resolution => skin.resize resolution
  | flip => .ok skin.flip

/-- The side of the sprites behind the change, where it sets one. -/
def side? : Change → Option Int
  | resize resolution => if 0 < resolution then some resolution else none
  | flip => none

/-- What the change does to each sprite. One that is refused does nothing. -/
def onSprite : Change → Image → Image
  | resize resolution => if 0 < resolution then Image.scaleTo resolution.toNat else id
  | flip => Image.quarterTurns 2

/-- What changes do to each sprite, one after another. -/
def onSpriteAll (changes : List Change) (sprite : Image) : Image :=
  changes.foldl (fun sprite change ↦ change.onSprite sprite) sprite

end Change

/-- The skin behind a change; one that is refused leaves it as it was. -/
def behind (skin : Skin) (change : Change) : Skin :=
  match change.apply skin with
  | .ok changed => changed
  | .error _ => skin

/-- The skin behind changes, one after another. -/
def setUp (skin : Skin) (changes : List Change) : Skin := changes.foldl behind skin

/-! ### Tables -/

theorem Sprites.map_id (sprites : Sprites) : sprites.map id = sprites := by
  simp [map]

theorem Sprites.map_map (sprites : Sprites) (first second : Image → Image) :
    (sprites.map first).map second = sprites.map fun sprite ↦ second (first sprite) := by
  simp [map, Function.comp_def]

theorem Sprites.map_congr {sprites : Sprites} {first second : Image → Image}
    (h : ∀ sprite ∈ sprites.toList, first sprite = second sprite) :
    sprites.map first = sprites.map second := by
  simp only [toList, List.forall_mem_cons, List.forall_mem_append, List.forall_mem_flatten] at h
  obtain ⟨hmine, hnotes, hreceptors⟩ := h
  rw [map, map, hmine, List.map_congr_left hreceptors]
  exact congrArg (Sprites.mk _ · _)
    (List.map_congr_left fun row hrow ↦ List.map_congr_left (hnotes row hrow))

/-- **One change.** It does the same to every sprite, and sets the side or leaves it. -/
theorem behind_eq (skin : Skin) (change : Change) :
    skin.behind change =
      ⟨skin.family, (change.side?.map Int.toNat).getD skin.resolution,
        skin.sprites.map change.onSprite⟩ := by
  cases change with
  | resize resolution =>
    rcases lt_or_ge 0 resolution with hpos | hnonpos
    · simp [behind, Change.apply, Skin.resize, Change.side?, Change.onSprite, hpos, not_le.2 hpos]
    · simp [behind, Change.apply, Skin.resize, Change.side?, Change.onSprite, hnonpos,
        not_lt.2 hnonpos, Sprites.map_id]
  | flip => rfl

/-- The side of the sprites behind changes: the last that was set, if any was. -/
def sideBehind (resolution : Nat) (changes : List Change) : Nat :=
  ((changes.filterMap Change.side?).getLast?.map Int.toNat).getD resolution

/-- The first change sets the side unless a later one does. -/
theorem sideBehind_cons (resolution : Nat) (change : Change) (rest : List Change) :
    sideBehind resolution (change :: rest) =
      sideBehind ((change.side?.map Int.toNat).getD resolution) rest := by
  rcases hside : change.side? with - | side
  · rw [sideBehind, List.filterMap_cons_none hside]
    rfl
  · rw [sideBehind, sideBehind, List.filterMap_cons_some hside, List.getLast?_cons]
    cases (rest.filterMap Change.side?).getLast? <;> rfl

/-- **Any number of changes**, by induction from one. -/
theorem setUp_eq (skin : Skin) (changes : List Change) :
    skin.setUp changes =
      ⟨skin.family, sideBehind skin.resolution changes,
        skin.sprites.map (Change.onSpriteAll changes)⟩ := by
  induction changes generalizing skin with
  | nil => exact congrArg (Skin.mk _ _) skin.sprites.map_id.symm
  | cons change rest ih =>
    rw [setUp, List.foldl_cons, ← setUp, ih, behind_eq, Sprites.map_map, sideBehind_cons]
    rfl

/-! ### Lookups -/

section Lookup

variable (skin : Skin) (resolution : Nat) (change : Image → Image) (lane keymode : Int)

theorem spriteAt_map (sprites : List Image) (index : Nat) :
    spriteAt (sprites.map change) index = (spriteAt sprites index).map change := by
  rw [spriteAt, spriteAt, List.getElem?_map]
  cases sprites[index]? <;> rfl

/-- A note of a changed table is the changed note. -/
theorem note_map (snap : Snap) :
    note ⟨skin.family, resolution, skin.sprites.map change⟩ lane keymode snap =
      (skin.note lane keymode snap).map change := by
  have horientation : orientation ⟨skin.family, resolution, skin.sprites.map change⟩ lane keymode =
      skin.orientation lane keymode := rfl
  rw [note, note, horientation]
  rcases skin.orientation lane keymode with fault | index
  · rfl
  -- one row serves every snap, and of several the snap takes one
  rcases hnotes : skin.sprites.notes with - | ⟨row, - | ⟨second, rest⟩⟩
  · simp [Sprites.map, hnotes, Except.map]
  · simp [Sprites.map, hnotes, spriteAt_map]
  · simp only [Sprites.map, hnotes, List.map_cons]
    rw [← List.map_cons, ← List.map_cons, List.getElem?_map]
    cases (row :: second :: rest)[snap.textureIndex]? with
    | none => rfl
    | some colour => exact spriteAt_map change colour index

/-- A receptor of a changed table is the changed receptor. -/
theorem receptor_map :
    receptor ⟨skin.family, resolution, skin.sprites.map change⟩ lane keymode =
      (skin.receptor lane keymode).map change := by
  have horientation : orientation ⟨skin.family, resolution, skin.sprites.map change⟩ lane keymode =
      skin.orientation lane keymode := rfl
  rw [receptor, receptor, horientation]
  rcases skin.orientation lane keymode with fault | index
  · rfl
  rcases hreceptors : skin.sprites.receptors with - | ⟨shared, - | ⟨second, rest⟩⟩
  · simp [Sprites.map, hreceptors, spriteAt, Except.map]
  · simp [Sprites.map, hreceptors, Except.map]
  · simp only [Sprites.map, hreceptors, List.map_cons]
    exact spriteAt_map change (shared :: second :: rest) index

end Lookup

/-- The image is one of the sprites of the skin, or what it shows for a note, a receptor or a
mine. -/
inductive Shows (skin : Skin) : Image → Prop
  | sprite {image : Image} (h : image ∈ skin.sprites.toList) : Shows skin image
  | note {lane keymode : Int} {snap : Snap} {image : Image}
      (h : skin.note lane keymode snap = .ok image) : Shows skin image
  | receptor {lane keymode : Int} {image : Image} (h : skin.receptor lane keymode = .ok image) :
      Shows skin image
  | mine : Shows skin skin.mine

/-- A well-formed skin shows squares of its side. -/
theorem WellFormed.square_of_shows {skin : Skin} (h : skin.WellFormed) {image : Image}
    (himage : skin.Shows image) :
    image.width = skin.resolution ∧ image.height = skin.resolution := by
  refine h.square image ?_
  cases himage with
  | sprite hmem => exact hmem
  | note hnote => exact (h.ends_note _ _ _).good_of_ok hnote
  | receptor hreceptor => exact (h.ends_receptor _ _).good_of_ok hreceptor
  | mine => exact List.mem_cons_self

/-! ### What changes keep -/

/-- A skin that was changed is built, be the change refused or not. -/
theorem Built.behind {skin : Skin} (h : skin.Built) (change : Change) :
    (skin.behind change).Built := by
  rw [Skin.behind]
  rcases happly : change.apply skin with fault | changed
  · exact h
  · cases change with
    | resize resolution => exact .resize h happly
    | flip =>
      cases happly
      exact .flip h

/-- A skin that is set up is built. -/
theorem Built.setUp {skin : Skin} (h : skin.Built) (changes : List Change) :
    (skin.setUp changes).Built :=
  List.foldlRecOn changes _ h fun _ hskin change _ ↦ hskin.behind change

/-- A change leaves a settled sprite settled. -/
theorem Change.settled_onSprite {image : Image} (h : image.Settled) (change : Change) :
    (change.onSprite image).Settled := by
  cases change with
  | resize resolution =>
    rw [onSprite]
    split
    · exact h.scaleTo _
    · exact h
  | flip => exact h.quarterTurns 2

/-- Sprites stay settled whatever is done to a skin. -/
theorem settled_setUp {skin : Skin} (h : skin.sprites.Settled) (changes : List Change) :
    (skin.setUp changes).sprites.Settled := by
  rw [setUp_eq]
  exact h.map fun himage ↦ List.foldlRecOn changes _ himage fun _ hsprite change _ ↦
    change.settled_onSprite hsprite

/-! ### Changes made twice -/

/-- Upside down twice is as it was. -/
theorem flip_flip {skin : Skin} (h : skin.sprites.Settled) : skin.flip.flip = skin := by
  have hturned : ∀ sprite ∈ skin.sprites.toList,
      (sprite.quarterTurns 2).quarterTurns 2 = id sprite := fun sprite hsprite ↦ by
    rw [(h sprite hsprite).quarterTurns_quarterTurns, (h sprite hsprite).quarterTurns_four, id]
  simp only [flip, Sprites.map_map, Sprites.map_congr hturned, Sprites.map_id]

/-- A side set again is the same side. -/
theorem behind_resize_again (skin : Skin) (resolution : Int) :
    (skin.behind (.resize resolution)).behind (.resize resolution) =
      skin.behind (.resize resolution) := by
  have hside : sideBehind skin.resolution [.resize resolution, .resize resolution] =
      sideBehind skin.resolution [.resize resolution] := by
    rw [sideBehind_cons, sideBehind_cons, sideBehind_cons]
    rcases (Change.resize resolution).side? with - | side <;> rfl
  have hsprite (sprite : Image) :
      (Change.resize resolution).onSprite ((Change.resize resolution).onSprite sprite) =
        (Change.resize resolution).onSprite sprite := by
    rw [Change.onSprite]
    split
    · exact sprite.scaleTo_scaleTo _
    · rfl
  change skin.setUp [.resize resolution, .resize resolution] = skin.setUp [.resize resolution]
  rw [setUp_eq, setUp_eq, hside]
  exact congrArg (Skin.mk _ _) (Sprites.map_congr fun sprite _ ↦ hsprite sprite)

/-! ### The skin behind a setup -/

/-- A skin that was loaded has the side it was loaded with, which is above zero. -/
theorem returns_resolution_load (assets : Assets) (family : Family) (resolution : Int)
    (path : Role → String) :
    Loader.Returns (fun skin ↦ 0 < resolution ∧ skin.resolution = resolution.toNat)
      (load assets family resolution path) := by
  refine (Loader.Returns.any _).bind fun sprites _ ↦ .ofExcept fun skin hskin ↦ ?_
  rw [assemble] at hskin
  split at hskin <;> cases hskin
  exact ⟨by omega, rfl⟩

/-- The side behind changes, as they set it. -/
theorem natCast_sideBehind {resolution : Int} (h : 0 < resolution) (changes : List Change) :
    (sideBehind resolution.toNat changes : Int) =
      (changes.filterMap Change.side?).getLast?.getD resolution := by
  rw [sideBehind]
  rcases hlast : (changes.filterMap Change.side?).getLast? with - | side
  · exact Int.toNat_of_nonneg h.le
  · obtain ⟨change, -, hside⟩ := List.mem_filterMap.1 (List.mem_of_getLast? hlast)
    refine Int.toNat_of_nonneg ?_
    cases change with
    | resize asked =>
      rw [Change.side?] at hside
      split at hside <;> cases hside
      omega
    | flip => cases hside

/-- What a skin is behind changes to one that was loaded at some resolution. -/
structure SetUpFrom (loaded : Skin) (resolution : Int) (changes : List Change) (skin : Skin) :
    Prop where
  /-- The side is the last that was set, or else that of loading. -/
  resolution_eq :
    (skin.resolution : Int) = (changes.filterMap Change.side?).getLast?.getD resolution
  /-- All that is shown is a square of that side. -/
  square : ∀ image, skin.Shows image →
    image.width = skin.resolution ∧ image.height = skin.resolution
  /-- Every sprite is in its place, and has been through all changes in their order. -/
  sprites_eq :
    skin.sprites.toList = loaded.sprites.toList.map (Change.onSpriteAll changes)
  note_eq : ∀ lane keymode snap, skin.note lane keymode snap =
    (loaded.note lane keymode snap).map (Change.onSpriteAll changes)
  receptor_eq : ∀ lane keymode, skin.receptor lane keymode =
    (loaded.receptor lane keymode).map (Change.onSpriteAll changes)
  mine_eq : skin.mine = Change.onSpriteAll changes loaded.mine
  checkLane_eq : ∀ lane keymode, skin.checkLane lane keymode = loaded.checkLane lane keymode
  /-- A side below one is refused, and the skin stays as it was. -/
  resize_refused : ∀ side ≤ 0,
    skin.resize side = .error (.resolutionNotPositive side) ∧ skin.behind (.resize side) = skin
  resize_accepted : ∀ side > 0, skin.resize side = .ok (skin.behind (.resize side))
  resize_again : ∀ side,
    (skin.behind (.resize side)).behind (.resize side) = skin.behind (.resize side)
  flip_flip : skin.flip.flip = skin

/-- **Setting up a skin.** Whatever is done to a skin that was loaded from opened pictures, in
whatever order, it reaches every sprite and leaves each in its place, and all that the skin shows
are squares of its side. -/
theorem setUpFrom_of_load {assets : Assets} {family : Family} {resolution : Int}
    {path : Role → String} {loaded : Skin} (hassets : assets.Opened)
    (hload : (load assets family resolution path).outcome.1 = .ok loaded)
    (changes : List Change) : SetUpFrom loaded resolution changes (loaded.setUp changes) := by
  obtain ⟨hpos, hresolution⟩ := returns_resolution_load assets family resolution path [] _ hload
  have hbuilt : (loaded.setUp changes).Built := Built.setUp (.load hload) changes
  have hsettled : (loaded.setUp changes).sprites.Settled :=
    settled_setUp (returns_settled_load hassets family resolution path [] _ hload) changes
  refine {
    resolution_eq := ?_
    square := fun image himage ↦ hbuilt.wellFormed.square_of_shows himage
    sprites_eq := ?_
    note_eq := fun lane keymode snap ↦ ?_
    receptor_eq := fun lane keymode ↦ ?_
    mine_eq := ?_
    checkLane_eq := fun lane keymode ↦ ?_
    resize_refused := fun side hside ↦ ?_
    resize_accepted := fun side hside ↦ ?_
    resize_again := behind_resize_again _
    flip_flip := Skin.flip_flip hsettled }
  · rw [setUp_eq, hresolution]
    exact natCast_sideBehind hpos changes
  · rw [setUp_eq, Sprites.toList_map]
  · rw [setUp_eq, note_map]
  · rw [setUp_eq, receptor_map]
  · rw [setUp_eq]
    rfl
  · rw [setUp_eq]
    rfl
  · simp [behind, Change.apply, resize, hside]
  · simp [behind, Change.apply, resize, not_le.2 hside]

/-- Pictures of 64 by 64 pixels, but for one that cannot be read. -/
def squarePictures : Assets where
  image? path := if path = "mine" then none else some (.opened path 64 64)

/-- The arrows cut from them, with a side of 8. -/
def squareArrows : Skin where
  family := .ldur6k
  resolution := 8
  sprites :=
    { receptors := arrowOrientations ((Image.opened "receptor" 64 64).scaleTo 8)
      notes := (List.range 8).map fun row ↦
        arrowOrientations ((Image.opened "notes" 64 64).crop 24 (row * 8) 8 8)
      mine := Image.blank.scaleTo 8 }

theorem opened_squarePictures : squarePictures.Opened := by
  intro path image himage
  simp only [squarePictures] at himage
  split at himage <;> cases himage
  exact ⟨path, 64, 64, rfl⟩

/-- Made smaller, not made to vanish, and turned upside down, arrows are told by two steps more. -/
theorem setUpFrom_of_load_squareArrows :
    squarePictures.Opened ∧
    (load squarePictures .ldur6k 8 Role.name).outcome.1 = .ok squareArrows ∧
    SetUpFrom squareArrows 8 [.resize 4, .resize 0, .flip]
      (squareArrows.setUp [.resize 4, .resize 0, .flip]) ∧
    (squareArrows.setUp [.resize 4, .resize 0, .flip]).resolution = 4 ∧
    (squareArrows.setUp [.resize 4, .resize 0, .flip]).note 0 4 .eighth =
      .ok ⟨"notes", 64, 64,
        [.rotate 180, .scale 4 4, .rotate 90, .crop 24 8 8 8], 4, 4⟩ := by
  have hload : (load squarePictures .ldur6k 8 Role.name).outcome.1 = .ok squareArrows := rfl
  have h := setUpFrom_of_load opened_squarePictures hload [.resize 4, .resize 0, .flip]
  exact ⟨opened_squarePictures, hload, h, rfl, by decide +kernel⟩

end Skin

end NoteChart
