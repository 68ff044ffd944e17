import NoteChart.Skin.Basic

/-!
# Loading skins

The sprites of a skin are cut from sheets. A sheet of notes is a grid whose columns are the frames
of an animation and whose rows are the colours; only the middle column is used. A receptor or a mine
is a single row of square frames, and only the middle frame is used.

Files are opened one after the other, each family in its own order, and a file that cannot be read
is a blank. What could not be read is part of the outcome of loading, also when loading fails, so a
`Loader` carries the record along beneath the faults.
-/

namespace NoteChart.Skin

/-- The pictures there are: what is found when a path is opened. -/
structure Assets where
  image? : String → Option Image

/-- A computation that opens files. Its state are the paths of those that could not be read, in
the order they were opened. -/
abbrev Loader := ExceptT Fault (StateM (List String))

/-- Opens a file. One that cannot be read is put on record and is blank. -/
def openImage (assets : Assets) (path : String) : Loader Image :=
  match assets.image? path with
  | some image => pure image
  | none => do
    modify (· ++ [path])
    return .blank

/-! ### Sheets -/

/-- The sprites in the middle column of a sheet, from top to bottom. -/
def middleColumn (side : Nat) (sheet : Image) : List Image :=
  if side = 0 ∨ sheet.width / side = 0 then []
  else
    let x := (sheet.width / side - 1) / 2 * side
    (List.range (sheet.height / side)).map fun row ↦ sheet.crop x (row * side) side side

/-- The middle frame of a row of square frames. -/
def middleFrame (strip : Image) : Except Fault Image :=
  match middleColumn strip.height strip with
  | frame :: _ => .ok frame
  | [] => .error .textureMapTooSmall

/-- The number of colours in a sheet of notes. -/
def colourCount : Nat := 8

/-- The colours of a sheet of notes, coarsest snap first. -/
def colours (side : Nat) (sheet : Image) : Except Fault (List Image) :=
  let sprites := middleColumn side sheet
  if sprites.length < colourCount then .error .textureMapTooSmall
  else .ok (sprites.take colourCount)

/-- A step of loading that opens nothing. -/
def Loader.ofExcept {α : Type} (result : Except Fault α) : Loader α := ExceptT.mk (pure result)

/-- Opens a row of frames and takes the middle one. -/
def openFrame (assets : Assets) (path : String) : Loader Image := do
  Loader.ofExcept (middleFrame (← openImage assets path))

/-- Opens a sheet of notes and takes its colours. -/
def openColours (assets : Assets) (side : Nat) (path : String) : Loader (List Image) := do
  Loader.ofExcept (colours side (← openImage assets path))

/-! ### Orientations -/

/-- The six orientations of an arrow drawn pointing down: left, down, up, right, up-left and
up-right. -/
def arrowOrientations (down : Image) : List Image :=
  [down.quarterTurns 1, down, down.quarterTurns 2, down.quarterTurns 3, down.turn 135,
    down.turn 225]

/-- The five panels: four corners, one picture turned by quarters, around the centre. -/
def panelOrientations (center corner : Image) : List Image :=
  [corner, corner.quarterTurns 1, center, corner.quarterTurns 2, corner.quarterTurns 3]

/-! ### Families

In each of these `path` names the file of a role. -/

/-- The sprites of a skin of arrows. -/
def openArrows (assets : Assets) (side : Nat) (path : Role → String) : Loader Sprites := do
  let mine ← openFrame assets (path .mine)
  let receptor ← openFrame assets (path .receptor)
  let notes ← openColours assets side (path .notes)
  return ⟨arrowOrientations (receptor.scaleTo side), notes.map arrowOrientations, mine⟩

/-- The sprites of a skin that has a picture for each direction. -/
def openDirections (assets : Assets) (path : Role → String) : Loader Sprites := do
  let receptors ← [Role.leftReceptor, .downReceptor, .upReceptor, .rightReceptor].mapM
    fun role ↦ openImage assets (path role)
  let notes ← [Role.leftNote, .downNote, .upNote, .rightNote].mapM
    fun role ↦ openImage assets (path role)
  let mine ← openImage assets (path .mine)
  return ⟨receptors, [notes], mine⟩

/-- The sprites of a skin of panels. -/
def openPanels (assets : Assets) (side : Nat) (path : Role → String) : Loader Sprites := do
  let mine ← openFrame assets (path .mine)
  let centerReceptor ← openFrame assets (path .centerReceptor)
  let cornerReceptor ← openFrame assets (path .cornerReceptor)
  let centerNotes ← openColours assets side (path .centerNotes)
  let cornerNotes ← openColours assets side (path .cornerNotes)
  return ⟨panelOrientations (centerReceptor.scaleTo side) (cornerReceptor.scaleTo side),
    List.zipWith panelOrientations centerNotes cornerNotes, mine⟩

/-- The sprites of a skin of bars. -/
def openBars (assets : Assets) (side : Nat) (path : Role → String) : Loader Sprites := do
  let receptor ← openFrame assets (path .receptor)
  let notes ← openColours assets side (path .notes)
  let mine ← openFrame assets (path .mine)
  return ⟨[receptor], notes.map ([·]), mine⟩

/-- The sprites of a skin of some family. -/
def openSprites (assets : Assets) (family : Family) (side : Nat) (path : Role → String) :
    Loader Sprites :=
  match family with
  | .ldur6k => openArrows assets side path
  | .ldurMono => openDirections assets path
  | .pump => openPanels assets side path
  | .bar => openBars assets side path

/-- Loads a skin whose sprites have a side of `resolution`. -/
def load (assets : Assets) (family : Family) (resolution : Int) (path : Role → String) :
    Loader Skin := do
  Loader.ofExcept
    (assemble family resolution (← openSprites assets family resolution.toNat path))

/-- What loading comes to: the skin or a fault, and the paths that could not be read. -/
def Loader.outcome {α : Type} (loader : Loader α) : Except Fault α × List String :=
  loader.run.run []

end NoteChart.Skin
