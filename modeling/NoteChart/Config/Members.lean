import NoteChart.Config.Basic
import NoteChart.Json.Basic

/-!
# Settings as members of an object

The object that the settings are written as: every section with every member, in the order of the
settings. Reading it back gives the settings again.
-/

namespace NoteChart.Config

/-- The members of the limits. -/
def Limits.members (limits : Limits) : Listing Json :=
  [("max_image_width", .int limits.maxImageWidth), ("max_image_height", .int limits.maxImageHeight),
    ("max_sprites", .int limits.maxSprites)]

/-- The members of what holds by default. -/
def Defaults.members (defaults : Defaults) : Listing Json :=
  [("snap", .int defaults.snap), ("zoom", .real defaults.zoom),
    ("scroll", .string defaults.scroll.name)]

/-- The members of an entry of the list of skins. -/
def SkinEntry.members (entry : SkinEntry) : Listing Json :=
  [("name", .string entry.name), ("aliases", .array (entry.aliases.map .string)),
    ("family", .string entry.family.name), ("sprite_resolution", .int entry.resolution),
    ("files", .object (entry.files.map fun (role, file) ↦ (role, .string file))),
    ("resize_to", match entry.resizeTo with
      | some side => .int side
      | none => .null),
    ("upside_down", .bool entry.upsideDown)]

/-- The members of the settings. -/
def members (config : Config) : Listing Json :=
  [("render", .object config.render.members), ("defaults", .object config.defaults.members),
    ("assets_dir", match config.assetsDirectory with
      | some directory => .string directory
      | none => .null),
    ("noteskins", .array (config.skins.map fun entry ↦ .object entry.members))]

end NoteChart.Config
