import NoteChart.Config.Overrides
import NoteChart.Path

/-!
# The host

What the library asks of the machine it runs on: a few directories, the environment, and what is
found at a path. A host is a value, so whatever is loaded from one is a function of it; the command
line fills a host in from the machine, and a test from a table.
-/

namespace NoteChart

/-- What is found at a path. -/
inductive Found
  /-- Nothing. -/
  | nothing
  /-- The path leads on from something that is no directory. -/
  | beyondFile
  /-- The path, or a name in it, is too long. -/
  | tooLong
  | directory
  | file (bytes : List UInt8)
deriving DecidableEq

/-- Why the directory of the pictures is not known. -/
inductive AssetsFault
  /-- It starts from a home that is not known. -/
  | homeUnknown
  /-- It starts from the home of a user whose name has a null character in it. -/
  | nullInUser
  /-- It cannot be looked for in the working directory, since its path is too long. -/
  | tooLong
deriving DecidableEq

/-- The surroundings of a run. -/
structure Host where
  /-- The directory that relative paths start from. -/
  workingDirectory : Path
  /-- The directory of the program, which holds the stock assets. -/
  programDirectory : Path
  /-- The home directory of a user, as it is written; the empty name is the user who runs the
  program. -/
  home? : String → Option String
  environment : Config.Environment
  /-- What is found at an absolute path without names that are too long. -/
  look : Path → Found

namespace Host

/-- What is found at an absolute path, no matter how long it is as a whole. What is in front of a
name that is too long decides whether that is noticed. -/
def lookThrough (host : Host) (path : Path) : Found :=
  match path.beforeLongName? with
  | none => host.look path
  | some before =>
    match host.look before with
    | .nothing => .nothing
    | .file _ | .beyondFile => .beyondFile
    | .directory | .tooLong => .tooLong

/-- What is found at a path. -/
def find (host : Host) (path : Path) : Found :=
  if path.isTooLong then .tooLong
  else host.lookThrough (host.workingDirectory.join path)

/-- Whether something is found at a path; not known if the path is too long. Nothing is ever found
where there is a null character. -/
def pathExists? (host : Host) (path : Path) : Option Bool :=
  if path.hasNull then some false
  else
    match host.find path with
    | .directory | .file _ => some true
    | .nothing | .beyondFile => some false
    | .tooLong => none

/-- The directory of the pictures, for the one that is set, if any. A relative one is looked for in
the working directory and is otherwise taken to be in the directory of the program. -/
def assetsDirectory (host : Host) (configured : Option String) : Except AssetsFault Path :=
  match configured with
  | none | some "" => .ok ((host.programDirectory.child "assets").child "noteskin")
  | some name =>
    let path := Path.ofString name
    if (path.homeUser?.getD "").toList.contains '\x00' then .error .nullInUser
    else
      match path.expandHome? host.home? with
      | none => .error .homeUnknown
      | some directory =>
        if directory.isAbsolute then .ok directory
        else
          let here := host.workingDirectory.join directory
          match host.pathExists? here with
          | some true => .ok here
          | some false => .ok (host.programDirectory.join directory)
          | none => .error .tooLong

end Host

end NoteChart
