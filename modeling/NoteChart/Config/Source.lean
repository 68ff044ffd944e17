import NoteChart.Config.Validation
import NoteChart.Host
import NoteChart.Json.Reader
import NoteChart.Text.Utf8

/-!
# Where settings come from

A file of settings is named by the caller, else by an environment variable, else it is the first one
found in the working directory and in the directory for settings, if there is such a directory. With
no file at all the settings are the defaults. The environment overrides a few of them in any case,
and only then they are validated.

`load` says which file it was and what is wrong with it, if anything.
-/

namespace NoteChart.Config

/-- Why there are no settings. -/
inductive LoadFault
  /-- A path cannot be the path of a file. -/
  | nullInPath
  /-- There is no such file. -/
  | fileMissing (path : Path)
  /-- A path leads on from something that is no directory. -/
  | beyondFile (path : Path)
  /-- The path of a file to be read is too long. -/
  | tooLong (path : Path)
  /-- A file is looked for at a path that is too long. -/
  | candidateTooLong (path : Path)
  /-- A directory is there instead of a file. -/
  | isDirectory (path : Path)
  /-- The file is no text. -/
  | notText (fault : Text.Utf8Fault)
  /-- The text is no JSON. -/
  | notJson (path : Path) (complaint : String)
  /-- A value in the file is inside too many others. -/
  | tooDeep (container : Json.Container)
  /-- The value is no object. -/
  | notObject (path : Path)
  /-- Settings are not valid; the path is that of the file, if there is one. -/
  | invalid (path : Option Path) (issues : List Issue)
deriving DecidableEq

namespace LoadFault

/-- Why a file could not be read, in the words of the system. -/
def systemMessage (number : Nat) (reason : String) (path : Path) : String :=
  s!"[Errno {number}] {reason}: " ++ Text.quoted path.toString

/-- The wording of a fault in reading a file that is there. -/
def unreadable (path : Path) (cause : String) : String :=
  s!"Failed to read config file: {path.toString}. Error: {cause}"

/-- The way to a value, its steps joined by points. -/
def locationText (location : List Step) : String :=
  ".".intercalate (location.map fun
    | .member name => name
    | .item index => toString index)

/-- An issue in a line of its own. -/
def issueText (issue : Issue) : String :=
  s!"{locationText issue.location}: {issue.cause.code}" ++
    match issue.cause.explanation? with
    | some explanation => s!" ({explanation})"
    | none => ""

/-- The first line on settings that are not valid. -/
def invalidText (path : Option Path) : String :=
  "Config validation failed for " ++ (path.map Path.toString).getD "defaults" ++ ":"

/-- The wording of a fault. -/
def message : LoadFault → String
  | nullInPath => "embedded null byte"
  | fileMissing path => systemMessage 2 "No such file or directory" path
  | beyondFile path => unreadable path (systemMessage 20 "Not a directory" path)
  | tooLong path => unreadable path (systemMessage 36 "File name too long" path)
  | candidateTooLong path => systemMessage 36 "File name too long" path
  | isDirectory path => unreadable path (systemMessage 21 "Is a directory" path)
  | notText fault => fault.message
  | notJson path complaint =>
    s!"Config file is not valid JSON: {path.toString}. Error: {complaint}"
  | tooDeep container => container.tooDeepMessage
  | notObject path => s!"Config file root must be a JSON object: {path.toString}"
  | invalid path issues => "\n".intercalate (invalidText path :: issues.map issueText)

end LoadFault

/-- The directory for settings: in the one that the environment names for them, or else below the
home directory. Only an absolute path counts; there may be none. -/
def settingsDirectory? (host : Host) : Option Path :=
  let named := (host.environment "XDG_CONFIG_HOME").map Path.ofString
  let below := (host.home? "").map fun home ↦ (Path.ofHome home).child ".config"
  ((named.toList ++ below.toList).find? Path.isAbsolute).map (·.child "PatternDraw")

/-- The places where a file of settings is looked for, in order. -/
def candidates (host : Host) : List Path :=
  host.workingDirectory.child "pattern_draw_config.json" ::
    ((settingsDirectory? host).map (·.child "config.json")).toList

/-- The first of some paths that something is found at, if there is one. -/
def firstFound? (host : Host) : List Path → Except LoadFault (Option Path)
  | [] => .ok none
  | path :: rest =>
    match host.pathExists? path with
    | some true => .ok (some path)
    | some false => firstFound? host rest
    | none => .error (.candidateTooLong path)

/-- The file of settings that a host has, if it has one. A file that the environment names need not
be there. -/
def locate? (host : Host) : Except LoadFault (Option Path) :=
  match host.environment.text? "PATTERN_DRAW_CONFIG_PATH" with
  | some name => .ok (some (.ofString name))
  | none => firstFound? host (candidates host)

/-- Reads the members of the object in a file. -/
def readFile (host : Host) (path : Path) : Except LoadFault (Listing Json) :=
  if path.hasNull then .error .nullInPath
  else
    match host.find path with
    | .nothing => .error (.fileMissing path)
    | .beyondFile => .error (.beyondFile path)
    | .tooLong => .error (.tooLong path)
    | .directory => .error (.isDirectory path)
    | .file bytes =>
      match Text.decodeUtf8 bytes with
      | .error fault => .error (.notText fault)
      | .ok text =>
        let text := Text.unifyLines text
        match Json.parse text with
        | .error (.tooDeep container) => .error (.tooDeep container)
        | .error refusal => .error (.notJson path (refusal.message text))
        | .ok (.object members) => .ok members
        | .ok _ => .error (.notObject path)

/-- The settings of some members with what the environment says; `path` is the file they are
from. -/
def ofSource (host : Host) (path : Option Path) (members : Listing Json) :
    Except LoadFault Config :=
  match ofMembers (override host.environment members) with
  | .valid config => .ok config
  | .invalid issues => .error (.invalid path issues)

/-- Loads the settings from a file, or without one. -/
def loadFrom (host : Host) (path : Option Path) : Except LoadFault Config :=
  match path with
  | none => ofSource host none []
  | some file =>
    match readFile host file with
    | .ok members => ofSource host path members
    | .error fault => .error fault

/-- Loads the settings of a host, and tells which file they are from. -/
def load (host : Host) : Except LoadFault (Config × Option Path) := do
  let path ← locate? host
  let config ← loadFrom host path
  return (config, path)

end NoteChart.Config
