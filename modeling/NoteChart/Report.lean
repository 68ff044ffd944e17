import NoteChart.Config.Members
import NoteChart.Config.Source
import NoteChart.Json.Writer

/-!
# Reports

What is printed at the end of a run: an object that says whether all went well, and either the fault
or what came of it. The exit status goes with it.
-/

namespace NoteChart

/-- The object printed at the end of a run, and the exit status. -/
structure Report where
  exitStatus : Nat
  members : Listing Json

namespace Report

/-- The report of a run that went well. -/
def success (members : Listing Json) : Report := ⟨0, ("ok", .bool true) :: members⟩

/-- The report of a run that did not. -/
def failure (message : String) : Report := ⟨2, [("ok", .bool false), ("error", .string message)]⟩

/-- The printed form. -/
def text (report : Report) : String := (Json.object report.members).indented

end Report

namespace Config

/-- The report on the settings in force, and on the file they are from. -/
def report (host : Host) : Report :=
  match load host with
  | .error fault => .failure fault.message
  | .ok (config, path) =>
    .success
      [("config_path", match path with
          | some path => .string path.toString
          | none => .null),
        ("config", .object config.members)]

end Config

end NoteChart
