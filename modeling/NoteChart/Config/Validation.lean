import NoteChart.Config.Basic
import NoteChart.Config.Scalar
import NoteChart.Text.Lowercase
import NoteChart.Text.Quoted

/-!
# Validating settings

Settings are read from the members of an object. All that is wrong is told at once, in the order
of the settings, each issue with the way to the value it is about. A section is checked as a whole
only when each of its members is valid.

`Checked` collects issues where an exception would stop at the first: `andThen` looks at both sides.
Members that no setting is named after are passed over.
-/

namespace NoteChart.Config

/-! ### Issues -/

/-- A step on the way to a value. -/
inductive Step
  | member (name : String)
  | item (index : Nat)
deriving DecidableEq

/-- Something that is wrong, and the way to it. -/
structure Issue where
  location : List Step
  cause : Cause
deriving DecidableEq

/-- The short name of a cause. -/
def Cause.code : Cause → String
  | missing => "missing"
  | notText => "string_type"
  | notInteger => "int_type"
  | integerUnreadable => "int_parsing"
  | integerFractional => "int_from_float"
  | integerNotFinite => "finite_number"
  | integerTooLarge => "int_parsing_size"
  | notReal => "float_type"
  | realUnreadable => "float_parsing"
  | notSwitch => "bool_type"
  | switchUnreadable => "bool_parsing"
  | notList => "list_type"
  | notObject => "dict_type"
  | notSection => "model_type"
  | unknownFamily => "literal_error"
  | belowOne => "greater_than_equal"
  | notPositive => "greater_than"
  | unknownScroll | filesMissing _ _ _ => "value_error"

/-- The wording of a cause that is a rule of the settings themselves. -/
def Cause.explanation? : Cause → Option String
  | unknownScroll => some "Value error, scroll must be one of: up, down"
  | filesMissing name family roles =>
    some ("Value error, noteskin " ++ Text.quoted name ++ s!" ({family}) is missing files: " ++
      ", ".intercalate roles)
  | _ => none

/-- Settings that were read, or all that is wrong with them. -/
inductive Checked (α : Type)
  | valid (settings : α)
  | invalid (issues : List Issue)

namespace Checked

variable {α β : Type}

/-- Applies a function to settings that are valid. -/
def map (f : α → β) : Checked α → Checked β
  | valid x => valid (f x)
  | invalid issues => invalid issues

/-- Gives a function the next of its arguments; the issues of both sides are told. -/
def andThen (f : Checked (α → β)) (x : Checked α) : Checked β :=
  match f, x with
  | valid f, valid x => valid (f x)
  | valid _, invalid issues => invalid issues
  | invalid issues, valid _ => invalid issues
  | invalid first, invalid second => invalid (first ++ second)

/-- Checks settings that are valid as a whole. -/
def bind (x : Checked α) (check : α → Checked β) : Checked β :=
  match x with
  | valid x => check x
  | invalid issues => invalid issues

/-- The same with its issues a step further in. -/
def within (step : Step) : Checked α → Checked α
  | valid x => valid x
  | invalid issues =>
    invalid (issues.map fun issue ↦ { issue with location := step :: issue.location })

/-- An issue with the value itself. -/
def issue (cause : Cause) : Checked α := invalid [⟨[], cause⟩]

/-- A single value that was read, as settings. -/
def ofScalar : Scalar α → Checked α
  | .ok x => valid x
  | .error cause => issue cause

end Checked

/-! ### Members -/

/-- The members of an object. -/
abbrev Members := Listing Json

/-- Reads a member that may be left out. -/
def optional {α : Type} (name : String) (default : α) (read : Json → Checked α)
    (members : Members) : Checked α :=
  match Listing.get? name members with
  | some value => (read value).within (.member name)
  | none => .valid default

/-- Reads a member that has to be there. -/
def required {α : Type} (name : String) (read : Json → Checked α) (members : Members) : Checked α :=
  match Listing.get? name members with
  | some value => (read value).within (.member name)
  | none => (Checked.issue .missing).within (.member name)

/-- Reads a section from its members. -/
def inSection {α : Type} (read : Members → Checked α) : Json → Checked α
  | .object members => read members
  | _ => Checked.issue .notSection

/-- Reads items, the first of which stands at `index`. -/
def readItems {α : Type} (read : Json → Checked α) (index : Nat) : List Json → Checked (List α)
  | [] => .valid []
  | item :: rest =>
    (((read item).within (.item index)).map List.cons).andThen (readItems read (index + 1) rest)

/-- Reads a list. -/
def readList {α : Type} (read : Json → Checked α) : Json → Checked (List α)
  | .array items => readItems read 0 items
  | _ => Checked.issue .notList

/-- Reads the members of an object, whatever their names. -/
def readMembers {α : Type} (read : Json → Checked α) : Members → Checked (Listing α)
  | [] => .valid []
  | (name, value) :: rest =>
    (((read value).within (.member name)).map fun value more ↦ (name, value) :: more).andThen
      (readMembers read rest)

/-- Reads an object whose members have names of their own. -/
def readListing {α : Type} (read : Json → Checked α) : Json → Checked (Listing α)
  | .object members => readMembers read members
  | _ => Checked.issue .notObject

/-- Reads a value that may be null. -/
def nullable {α : Type} (read : Json → Checked α) : Json → Checked (Option α)
  | .null => .valid none
  | value => (read value).map some

/-- A reader of single values as one of settings. -/
def scalar {α : Type} (read : Json → Scalar α) (json : Json) : Checked α := .ofScalar (read json)

/-! ### Sections -/

/-- Reads the limits. -/
def readLimits (members : Members) : Checked Limits :=
  let standard : Limits := {}
  Checked.valid Limits.mk
    |>.andThen (optional "max_image_width" standard.maxImageWidth (scalar readPositive) members)
    |>.andThen (optional "max_image_height" standard.maxImageHeight (scalar readPositive) members)
    |>.andThen (optional "max_sprites" standard.maxSprites (scalar readPositive) members)

/-- The direction that a word names. -/
def scrollOf? (word : String) : Option Scroll :=
  let word := String.ofList (Text.lower (Text.trim word.toList))
  if word = "up" ∨ word = "upscroll" then some .up
  else if word = "down" ∨ word = "downscroll" ∨ word = "reverse" then some .down
  else none

/-- Reads a direction. -/
def readScroll (json : Json) : Scalar Scroll := do
  match scrollOf? (← readText json) with
  | some scroll => return scroll
  | none => throw .unknownScroll

/-- Reads what holds by default. -/
def readDefaults (members : Members) : Checked Defaults :=
  let standard : Defaults := {}
  Checked.valid Defaults.mk
    |>.andThen (optional "snap" standard.snap (scalar readPositive) members)
    |>.andThen (optional "zoom" standard.zoom (scalar readPositiveReal) members)
    |>.andThen (optional "scroll" standard.scroll (scalar readScroll) members)

/-- Reads a family. -/
def readFamily : Json → Scalar Family
  | .string name =>
    match Family.ofName? name with
    | some family => .ok family
    | none => .error .unknownFamily
  | _ => .error .unknownFamily

/-- The entry, if it names the files its family needs. -/
def checkFiles (entry : SkinEntry) : Checked SkinEntry :=
  match entry.missingRoles with
  | [] => .valid entry
  | roles => Checked.issue (.filesMissing entry.name entry.family.name (roles.map Role.name))

/-- Reads an entry of the list of skins. -/
def readEntry (members : Members) : Checked SkinEntry :=
  Checked.valid SkinEntry.mk
    |>.andThen (required "name" (scalar readText) members)
    |>.andThen (optional "aliases" [] (readList (scalar readText)) members)
    |>.andThen (required "family" (scalar readFamily) members)
    |>.andThen (required "sprite_resolution" (scalar readPositive) members)
    |>.andThen (required "files" (readListing (scalar readText)) members)
    |>.andThen (optional "resize_to" none (nullable (scalar readPositive)) members)
    |>.andThen (optional "upside_down" false (scalar readSwitch) members)
    |>.bind checkFiles

/-- Reads the directory of the pictures. A blank name is none. -/
def readDirectory (json : Json) : Scalar (Option String) := do
  match Text.trim (← readText json).toList with
  | [] => return none
  | name => return some (String.ofList name)

/-- Reads the settings from the members of an object. -/
def ofMembers (members : Members) : Checked Config :=
  Checked.valid Config.mk
    |>.andThen (optional "render" {} (inSection readLimits) members)
    |>.andThen (optional "defaults" {} (inSection readDefaults) members)
    |>.andThen
      ((optional "assets_dir" none (nullable (scalar readDirectory)) members).map Option.join)
    |>.andThen (optional "noteskins" stockSkins (readList (inSection readEntry)) members)

end NoteChart.Config
