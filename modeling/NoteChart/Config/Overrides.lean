import NoteChart.Json.Basic
import NoteChart.Number.Literal
import NoteChart.Text.Blank

/-!
# Settings from the environment

Five settings can be overridden by environment variables. A variable that is unset or blank leaves
its setting alone, and so does one for a number that does not read as an integer; the blanks around
a value do not matter.

The two sections that hold such settings are made when the file has none, and a value in their place
that is no section gives way to one.
-/

namespace NoteChart.Config

/-- The variables of an environment that are set. -/
abbrev Environment := String → Option String

/-- The variables that are asked for: the overrides, and two that say where settings are found. -/
def variableNames : List String :=
  ["PATTERN_DRAW_CONFIG_PATH", "PATTERN_DRAW_MAX_IMAGE_WIDTH", "PATTERN_DRAW_MAX_IMAGE_HEIGHT",
    "PATTERN_DRAW_MAX_SPRITES", "PATTERN_DRAW_DEFAULT_SCROLL", "PATTERN_DRAW_ASSETS_DIR",
    "XDG_CONFIG_HOME"]

/-- The value of a variable without the blanks around it, if anything is left. -/
def Environment.text? (environment : Environment) (name : String) : Option String :=
  match Text.trim ((environment name).getD "").toList with
  | [] => none
  | text => some (String.ofList text)

/-- The value of a variable, if it reads as an integer. -/
def Environment.integer? (environment : Environment) (name : String) : Option Int :=
  (environment.text? name).bind fun text ↦ Number.readInteger? text.toList

/-- The section of a name, empty where there is none. -/
def sectionOf (name : String) (settings : Listing Json) : Listing Json :=
  match Listing.get? name settings with
  | some (.object members) => members
  | _ => []

/-- Enters a value that there may be. -/
def putSome (name : String) (value : Option Json) (settings : Listing Json) : Listing Json :=
  match value with
  | some value => settings.put name value
  | none => settings

/-- The limits with what the environment says. -/
def overrideLimits (environment : Environment) (limits : Listing Json) : Listing Json :=
  limits
    |> putSome "max_image_width" ((environment.integer? "PATTERN_DRAW_MAX_IMAGE_WIDTH").map .int)
    |> putSome "max_image_height" ((environment.integer? "PATTERN_DRAW_MAX_IMAGE_HEIGHT").map .int)
    |> putSome "max_sprites" ((environment.integer? "PATTERN_DRAW_MAX_SPRITES").map .int)

/-- What holds by default, with what the environment says. -/
def overrideDefaults (environment : Environment) (defaults : Listing Json) : Listing Json :=
  defaults |> putSome "scroll" ((environment.text? "PATTERN_DRAW_DEFAULT_SCROLL").map .string)

/-- The settings with what the environment says. -/
def override (environment : Environment) (settings : Listing Json) : Listing Json :=
  settings
    |>.put "render" (.object (overrideLimits environment (sectionOf "render" settings)))
    |>.put "defaults" (.object (overrideDefaults environment (sectionOf "defaults" settings)))
    |> putSome "assets_dir" ((environment.text? "PATTERN_DRAW_ASSETS_DIR").map .string)

end NoteChart.Config
