import NoteChart.Drawing
import NoteChart.Png
import NoteChart.Run

/-!
# The program

Looks at the machine, makes a run of it, and does what the run says: prints, and writes the drawing.
Files are looked at before the run that asks for them: those that may hold settings first, and once
the settings are known, those of the skins.
-/

namespace NoteChart.Program

/-- Looks at a path. -/
def lookAt (path : Path) : IO Found := do
  try
    let real ← IO.FS.realPath path.toString
    if ← real.isDir then return .directory
    return .file (← IO.FS.readBinFile real).toList
  catch
    | .noFileOrDirectory _ _ _ => return .nothing
    | _ => return .beyondFile

/-- What is found at some paths, and in front of names in them that are too long. -/
def lookAtAll (host : Host) (paths : List Path) : IO (Listing Found) := do
  let paths := paths.flatMap fun path ↦
    let path := host.workingDirectory.join path
    path :: path.beforeLongName?.toList
  paths.mapM fun path ↦ do return (path.toString, ← lookAt path)

/-- The host with what is found at some paths. -/
def withPaths (host : Host) (paths : List Path) : IO Host := do
  let found ← lookAtAll host paths
  return { host with
    look := fun path ↦ (Listing.get? path.toString found).getD (host.look path) }

/-- The host before any path is looked at. -/
def host : IO Host := do
  let environment ← Config.variableNames.mapM fun name ↦ do return (name, ← IO.getEnv name)
  let home ← IO.getEnv "HOME"
  return {
    workingDirectory := .ofString (← IO.currentDir).toString
    programDirectory := .ofString (← IO.appDir).toString
    home? := fun user ↦ if user = "" then home else none
    environment := fun name ↦ (Listing.get? name environment).join
    look := fun _ ↦ .nothing }

/-- The pictures of the files that some skins name. -/
def assets (directory : Path) (skins : List Config.SkinEntry) : IO Skin.Assets := do
  let paths := skins.flatMap fun entry ↦
    entry.family.roles.map fun role ↦ Library.filePath directory entry role
  let sides ← paths.mapM fun path ↦ do
    match ← lookAt (.ofString path) with
    | .file bytes => return (path, Png.sides? bytes)
    | _ => return (path, none)
  return { image? := fun path ↦
    (Listing.get? path sides).join.map fun (width, height) ↦ .opened path width height }

/-- The settings that some arguments ask for, where a run gets as far as that. -/
def settings? (host : Host) (arguments : List String) : Option Config :=
  match CommandLine.ofArguments arguments with
  | .run arguments => (Run.settings host arguments).toOption
  | .misuse | .usage => none

/-- The paths that some arguments name, and those on the way to the file to be written. -/
def namedPaths (host : Host) (arguments : List String) : List Path :=
  match CommandLine.ofArguments arguments with
  | .run arguments =>
    let output := (arguments.output?.map Path.ofString).toList
    (arguments.config?.map Path.ofString).toList ++ output.flatMap host.placesTo
  | .misuse | .usage => []

/-- Makes a run of the machine. -/
def run (arguments : List String) : IO (Except Breakdown Run) := do
  let host ← host
  let host ← withPaths host
    (namedPaths host arguments ++ Config.candidates host ++
      (Config.locate? host).toOption.join.toList)
  match settings? host arguments with
  | none => return Run.ofArguments host ⟨fun _ ↦ none⟩ arguments
  | some config =>
    let host ← withPaths host ((config.assetsDirectory.map Path.ofString).toList)
    match host.assetsDirectory config.assetsDirectory with
    | .error _ => return Run.ofArguments host ⟨fun _ ↦ none⟩ arguments
    | .ok directory => return Run.ofArguments host (← assets directory config.skins) arguments

/-- Writes a drawing, and makes the directories on the way to it. -/
def write (file : Path) (canvas : Canvas) : IO Unit := do
  IO.FS.createDirAll file.directory.toString
  IO.FS.writeFile file.toString canvas.text

/-- Does what a run says. -/
def finish (run : Run) : IO Unit := do
  for (name, fault) in run.skipped do
    IO.eprintln s!"Skipping {name}: {fault.message}"
  match run.outcome with
  | .misuse => IO.eprintln CommandLine.usageText
  | .drawn file canvas _ _ => write file canvas
  | .usage | .refused _ | .help => pure ()
  IO.print run.outcome.printed

end NoteChart.Program

/-- Runs the program. -/
def main (arguments : List String) : IO UInt32 := do
  match ← NoteChart.Program.run arguments with
  | .error breakdown =>
    IO.eprintln breakdown.message
    return 1
  | .ok run =>
    NoteChart.Program.finish run
    return run.outcome.exitStatus.toUInt32
