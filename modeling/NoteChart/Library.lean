import NoteChart.Config.Basic
import NoteChart.Fault
import NoteChart.Listing
import NoteChart.Path
import NoteChart.Skin.Loading
import NoteChart.Text.Alphanumeric
import NoteChart.Text.Lowercase

/-!
# Libraries of skins

A library holds skins under their names and knows them by further names as well. Names are looked up
by their letters and numerals alone, in lower case, so `Delta Note` finds `delta-note`.

The index maps such a key to a *name*, not to a skin. A skin entered again under its name is found
by every key the old one had. A library only ever grows, so a name in the index is always that of a
skin.

A skin that cannot be loaded is left out, and what else there is gets loaded: it is put on a list of
the skipped ones with the reason.
-/

namespace NoteChart

/-- A skin and the name it has in a library. -/
structure NamedSkin where
  name : String
  skin : Skin
deriving DecidableEq

/-- What a name is looked up by: its letters and numerals, in lower case. -/
def lookupKey (name : String) : String :=
  String.ofList ((Text.lower name.toList).filter Text.isAlphanumeric)

/-- Skins by name, and the keys they are found by. -/
structure Library where
  skins : Listing Skin := []
  /-- The name that a key stands for. -/
  index : Listing String := []
deriving DecidableEq

namespace Library

/-- The names of the skins, in the order they were first entered. -/
def names (library : Library) : List String := library.skins.names

/-- Enters a skin under a name. It is found by that name and by its other names from now on. -/
def add (name : String) (skin : Skin) (aliases : List String) (library : Library) : Library where
  skins := library.skins.put name skin
  index :=
    (name :: aliases).foldl (fun index known ↦ index.put (lookupKey known) name) library.index

/-- The skin of exactly this name. -/
def get? (name : String) (library : Library) : Option NamedSkin :=
  (Listing.get? name library.skins).map (⟨name, ·⟩)

/-- The skin that a name finds. -/
def find? (name : String) (library : Library) : Option NamedSkin :=
  (Listing.get? (lookupKey name) library.index).bind library.get?

/-! ### Defaults -/

/-- The skin for any keymode that has none of its own. -/
def fallbackName : String := "sbz"

/-- The name of the skin that a keymode is best shown with. -/
def preferredName (keymode : Int) : String :=
  if keymode = 3 ∨ keymode = 4 ∨ keymode = 6 ∨ keymode = 8 then "dbz"
  else if keymode = 5 ∨ keymode = 10 then "delta-note"
  else fallbackName

/-- The skin for a keymode: the preferred one or else the fallback, if the library has them; of
other skins the first that supports the keymode, or else the first of all. -/
def defaultFor (keymode : Int) (library : Library) : Except Fault NamedSkin :=
  match library.get? (preferredName keymode), library.get? fallbackName with
  | some preferred, _ => .ok preferred
  | none, some fallback => .ok fallback
  | none, none =>
    match library.skins.find? fun (_, skin) ↦ skin.supports keymode with
    | some (name, skin) => .ok ⟨name, skin⟩
    | none =>
      match library.skins with
      | (name, skin) :: _ => .ok ⟨name, skin⟩
      | [] => .error .noSkins

/-! ### Loading -/

/-- The path of the file of a role, in the directory of the pictures. -/
def filePath (directory : Path) (entry : Config.SkinEntry) (role : Role) : String :=
  (directory.child ((Listing.get? role.name entry.files).getD "")).toString

/-- Loads the skin of an entry, resized and turned as the entry says. -/
def loadEntry (assets : Skin.Assets) (directory : Path) (entry : Config.SkinEntry) :
    Skin.Loader Skin := do
  match entry.family.roles.find? fun role ↦ (Listing.get? role.name entry.files).isNone with
  | some role => throw (.roleMissing role)
  | none =>
    let skin ← Skin.load assets entry.family entry.resolution (filePath directory entry)
    let skin ← match entry.resizeTo with
      | some side => Skin.Loader.ofExcept (skin.resize side)
      | none => pure skin
    return if entry.upsideDown then skin.flip else skin

/-- A library that was loaded. -/
structure Loaded where
  library : Library := {}
  /-- The entries left out, and why. -/
  skipped : List (String × Skin.Fault) := []
  /-- The paths that could not be read. -/
  unreadable : List String := []

/-- Adds the skin of an entry to what was loaded before, or skips it. -/
def Loaded.addEntry (assets : Skin.Assets) (directory : Path) (loaded : Loaded)
    (entry : Config.SkinEntry) : Except Skin.Fault Loaded :=
  let (result, unreadable) := (loadEntry assets directory entry).outcome
  let unreadable := loaded.unreadable ++ unreadable
  match result with
  | .ok skin =>
    .ok { loaded with library := loaded.library.add entry.name skin entry.aliases, unreadable }
  | .error fault =>
    if fault.isRefusal then
      .ok { loaded with skipped := loaded.skipped ++ [(entry.name, fault)], unreadable }
    else .error fault

/-- Loads the skins of a list of entries, in order. -/
def load (assets : Skin.Assets) (directory : Path) (entries : List Config.SkinEntry) :
    Except Skin.Fault Loaded :=
  entries.foldlM (Loaded.addEntry assets directory) {}

end Library

end NoteChart
