import NoteChart.Image
import NoteChart.Snap
import NoteChart.Skin.Family

/-!
# Skins

A skin is a table of square sprites of one side length: receptors and coloured notes by orientation,
and a mine. All families have the same table, some with a single row of notes (no colours) or a
single receptor (one for all lanes), so whatever is done to a skin as a whole is done to a table and
reaches every sprite.

A lookup checks the lane first and the keymode after it. Behind these two checks the table has a
sprite for every question; `Fault.spriteMissing` is there so that this is a statement about skins
and not a default value.
-/

namespace NoteChart

namespace Skin

/-- Why a skin cannot be loaded, changed or asked. -/
inductive Fault
  /-- The family cannot show so many lanes. -/
  | keymodeUnsupported (keymode : Int)
  /-- There is no such lane; it is told counted from one. -/
  | laneInvalid (lane keymode : Int)
  /-- A sheet is smaller than the sprites to be cut from it. -/
  | textureMapTooSmall
  /-- A side length below one was asked for. -/
  | resolutionNotPositive (resolution : Int)
  /-- No file is named for a role of the family. -/
  | roleMissing (role : Role)
  /-- The table has no sprite at a place. -/
  | spriteMissing
deriving DecidableEq

namespace Fault

/-- The wording of a fault. -/
def message : Fault → String
  | keymodeUnsupported keymode => s!"{keymode}k not supported by selected noteskin"
  | laneInvalid lane keymode => s!"Lane {lane} is invalid in {keymode}k"
  | textureMapTooSmall => "Noteskin's texture map doesn't contain all required textures"
  | resolutionNotPositive resolution => s!"sprite_resolution must be positive, got {resolution}"
  | roleMissing role => s!"No file is named for {role.name}"
  | spriteMissing => "Noteskin has no sprite in that place"

/-- The fault lies with the skin or the question put to it, as opposed to a caller that did not
keep to what it had promised. -/
def isRefusal : Fault → Bool
  | keymodeUnsupported _ | laneInvalid _ _ | textureMapTooSmall => true
  | resolutionNotPositive _ | roleMissing _ | spriteMissing => false

end Fault

/-- The sprites of a skin. -/
structure Sprites where
  /-- The receptors by orientation, or the one that serves all lanes. -/
  receptors : List Image
  /-- The notes by colour and orientation; a single row where the skin has no colours. -/
  notes : List (List Image)
  /-- The mine. -/
  mine : Image
deriving DecidableEq

namespace Sprites

/-- Every sprite: the mine, the notes row by row, the receptors. -/
def toList (sprites : Sprites) : List Image :=
  sprites.mine :: (sprites.notes.flatten ++ sprites.receptors)

/-- The sprites with the same done to each. -/
def map (change : Image → Image) (sprites : Sprites) : Sprites where
  receptors := sprites.receptors.map change
  notes := sprites.notes.map (·.map change)
  mine := change sprites.mine

end Sprites

end Skin

/-- A skin: its family, the side of its sprites, and the sprites. -/
structure Skin where
  family : Family
  resolution : Nat
  sprites : Skin.Sprites
deriving DecidableEq

namespace Skin

/-- The skin of some pictures, all scaled to one side length. -/
def assemble (family : Family) (resolution : Int) (sprites : Sprites) : Except Fault Skin :=
  if resolution ≤ 0 then .error (.resolutionNotPositive resolution)
  else
    .ok
      { family, resolution := resolution.toNat
        sprites := sprites.map (Image.scaleTo resolution.toNat) }

/-- The skin can show so many lanes. -/
def supports (skin : Skin) (keymode : Int) : Bool := skin.family.supports keymode

/-! ### Lookup -/

/-- The orientation that a lane shows. -/
def orientation (skin : Skin) (lane keymode : Int) : Except Fault Nat :=
  if lane < 0 ∨ keymode ≤ lane then .error (.laneInvalid (lane + 1) keymode)
  else if !skin.supports keymode then .error (.keymodeUnsupported keymode)
  else
    match skin.family.orientation? keymode lane.toNat with
    | some index => .ok index
    | none => .error .spriteMissing

/-- The sprite at a place of a list, if the list is that long. -/
def spriteAt (sprites : List Image) (index : Nat) : Except Fault Image :=
  match sprites[index]? with
  | some sprite => .ok sprite
  | none => .error .spriteMissing

/-- The sprite of a note in a lane. A skin without colours shows the same for every snap. -/
def note (skin : Skin) (lane keymode : Int) (snap : Snap) : Except Fault Image :=
  match skin.orientation lane keymode with
  | .error fault => .error fault
  | .ok index =>
    match skin.sprites.notes with
    | [colourless] => spriteAt colourless index
    | coloured =>
      match coloured[snap.textureIndex]? with
      | some row => spriteAt row index
      | none => .error .spriteMissing

/-- The receptor of a lane. -/
def receptor (skin : Skin) (lane keymode : Int) : Except Fault Image :=
  match skin.orientation lane keymode with
  | .error fault => .error fault
  | .ok index =>
    match skin.sprites.receptors with
    | [shared] => .ok shared
    | several => spriteAt several index

/-- The mine, the same in every lane. -/
def mine (skin : Skin) : Image := skin.sprites.mine

/-- The lane is one that the skin can show. -/
def checkLane (skin : Skin) (lane keymode : Int) : Except Fault Unit :=
  (skin.orientation lane keymode).map fun _ ↦ ()

/-! ### Change -/

/-- The skin with all sprites scaled to another side length. -/
def resize (resolution : Int) (skin : Skin) : Except Fault Skin :=
  if resolution ≤ 0 then .error (.resolutionNotPositive resolution)
  else
    .ok
      { skin with
        resolution := resolution.toNat
        sprites := skin.sprites.map (Image.scaleTo resolution.toNat) }

/-- The skin with all sprites upside down. -/
def flip (skin : Skin) : Skin := { skin with sprites := skin.sprites.map (Image.quarterTurns 2) }

end Skin

end NoteChart
