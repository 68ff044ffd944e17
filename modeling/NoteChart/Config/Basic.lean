import NoteChart.Listing
import NoteChart.Number.Binary64
import NoteChart.Scroll
import NoteChart.Skin.Family

/-!
# Settings

What can be set: limits on a drawing, what holds until a command says otherwise, where pictures are
found, and the skins there are. Every setting has a default, so that no file is needed; the default
skins are the eight of the stock assets.
-/

namespace NoteChart.Config

/-- Limits on a drawing. -/
structure Limits where
  maxImageWidth : Int := 5000
  maxImageHeight : Int := 10000
  maxSprites : Int := 1000
deriving DecidableEq

/-- What holds for a command that does not say otherwise. -/
structure Defaults where
  snap : Int := 16
  zoom : Binary64 := .ofInt 1
  scroll : Scroll := .up
deriving DecidableEq

/-- A skin to be loaded. -/
structure SkinEntry where
  name : String
  /-- Other names it is found by. -/
  aliases : List String := []
  family : Family
  /-- The side of the sprites in its sheets. -/
  resolution : Int
  /-- The files by role. Roles the family does not need may be there too. -/
  files : Listing String
  /-- The side its sprites are scaled to after loading. -/
  resizeTo : Option Int := none
  /-- Its sprites are turned upside down after loading. -/
  upsideDown : Bool := false
deriving DecidableEq

namespace SkinEntry

/-- The file of a role; an empty name is none. -/
def file? (role : Role) (entry : SkinEntry) : Option String :=
  match Listing.get? role.name entry.files with
  | some "" | none => none
  | some name => some name

/-- The roles of the family that have no file. -/
def missingRoles (entry : SkinEntry) : List Role :=
  entry.family.roles.filter fun role ↦ (entry.file? role).isNone

end SkinEntry

/-! ### The stock skins -/

/-- A stock skin of arrows, whose files are named after it. -/
def stockArrows (name : String) (resolution : Int) : SkinEntry where
  name
  family := .ldur6k
  resolution
  files :=
    [("notes", name ++ "-notes.png"), ("receptor", name ++ "-receptor.png"),
      ("mine", name ++ "-mine.png")]

/-- A stock skin of bars. Bars share the mine of the first stock skin. -/
def stockBars (name aka : String) : SkinEntry where
  name
  aliases := [aka]
  family := .bar
  resolution := 64
  files :=
    [("notes", name ++ "-notes.png"), ("receptor", name ++ "-receptor.png"),
      ("mine", "dbz-mine.png")]

/-- The skins there are if none are set. The last one was drawn the wrong way round. -/
def stockSkins : List SkinEntry :=
  [{ stockArrows "dbz" 64 with aliases := ["dividebyzero"] },
    { stockArrows "wafles" 64 with aliases := ["wafles3"] },
    { stockArrows "lambda" 128 with aliases := ["default"], resizeTo := some 64 },
    { name := "delta-note"
      aliases := ["delta"]
      family := .pump
      resolution := 64
      files :=
        [("center_notes", "deltanote-center-notes.png"),
          ("center_receptor", "deltanote-center-receptor.png"),
          ("corner_notes", "deltanote-corner-notes.png"),
          ("corner_receptor", "deltanote-corner-receptor.png"),
          ("mine", "deltanote-mine.png")] },
    stockBars "sbz" "subtractbyzero",
    stockBars "mbz" "multiplybyzero",
    { name := "eobaner"
      family := .ldurMono
      resolution := 120
      files :=
        [("left_note", "eobaner-note-left.png"), ("left_receptor", "eobaner-receptor-left.png"),
          ("down_note", "eobaner-note-down.png"), ("down_receptor", "eobaner-receptor-down.png"),
          ("up_note", "eobaner-note-up.png"), ("up_receptor", "eobaner-receptor-up.png"),
          ("right_note", "eobaner-note-right.png"),
          ("right_receptor", "eobaner-receptor-right.png"), ("mine", "eobaner-mine.png")] },
    { stockArrows "rustmania" 224 with upsideDown := true }]

end NoteChart.Config

namespace NoteChart

/-- The settings. -/
structure Config where
  render : Config.Limits := {}
  defaults : Config.Defaults := {}
  /-- The directory of the pictures, if it is not the one of the stock assets. -/
  assetsDirectory : Option String := none
  skins : List Config.SkinEntry := Config.stockSkins
deriving DecidableEq

end NoteChart
