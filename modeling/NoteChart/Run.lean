import NoteChart.Command.Answer
import NoteChart.CommandLine
import NoteChart.Output
import NoteChart.Report

/-!
# Runs of the program

From the arguments to what is printed and written: the arguments are understood, the settings and
the skins are loaded, the command is answered, and a drawing goes to its file.

A run is a function of the host, the pictures and the arguments. Nothing is printed or written here;
a run says what is to be.

What is wrong with the arguments, with the settings or with the command is an outcome of a run. A
`Breakdown` is something else: the run ends without an outcome.
-/

namespace NoteChart

/-- The words in which a fault answers the person who wrote the command, if that is what it does. -/
def Fault.refusal? (fault : Fault) : Option String :=
  if fault.isRefusal then fault.message? else none

/-- Why a run ends without an outcome. -/
inductive Breakdown
  /-- The directory of the pictures is not known. -/
  | assets (fault : AssetsFault)
  /-- Something did not go as the program expects. -/
  | fault (fault : Fault)
  /-- The drawing has no file to be written to. -/
  | outputUnnamed
  /-- The drawing cannot be written. -/
  | output (fault : OutputFault)
deriving DecidableEq

/-- The wording of a breakdown. -/
def Breakdown.message : Breakdown → String
  | assets .homeUnknown => "The home directory is not known."
  | assets .nullInUser => "The name of a user has a null character in it."
  | assets .tooLong => "The path of the directory of the pictures is too long."
  | fault cause => cause.message?.getD "A number cannot be used as an integer."
  | outputUnnamed => "The file to be written has no name."
  | output (.isDirectory path) => "Is a directory: " ++ path.toString
  | output (.directoryIsFile path) => "File exists: " ++ path.toString
  | output (.beyondFile path) => "Not a directory: " ++ path.toString
  | output (.nullInName _) => "A name has a null character in it."
  | output (.tooLong path) => "File name too long: " ++ path.toString
  | output (.tooDeep path) => "Too many directories to be made from here on: " ++ path.toString

/-- What a run comes to. -/
inductive Outcome
  /-- The arguments cannot be understood. -/
  | misuse
  /-- It was asked how the program is used. -/
  | usage
  /-- The settings cannot be used, or the command cannot be drawn. -/
  | refused (message : String)
  | help
  | drawn (file : Path) (canvas : Canvas) (keymode : Int) (warnings : List Command.Warning)
deriving DecidableEq

namespace Outcome

/-- The report of a run; one that ends in a text has none. -/
def report? : Outcome → Option Report
  | misuse | usage | help => none
  | refused message => some (.failure message)
  | drawn file canvas keymode warnings =>
    some <| .success
      [("output_path", .string file.toString), ("width", .int canvas.width),
        ("height", .int canvas.height), ("keymode", .int keymode),
        ("warnings", .array (warnings.map fun warning ↦ .string warning.message))]

/-- What is printed, line ends included. Arguments that cannot be understood are complained about
elsewhere. -/
def printed (outcome : Outcome) : String :=
  match outcome with
  | misuse => ""
  | usage => CommandLine.usageText ++ "\n"
  | help => Command.helpText ++ "\n"
  | refused _ | drawn _ _ _ _ => ((outcome.report?.map Report.text).getD "") ++ "\n"

/-- The exit status. -/
def exitStatus : Outcome → Nat
  | misuse | refused _ => 2
  | usage | help | drawn _ _ _ _ => 0

end Outcome

/-- A run that has come to its end. -/
structure Run where
  outcome : Outcome
  /-- The skins left out, and why. -/
  skipped : List (String × Skin.Fault) := []
  /-- The pictures that could not be read. -/
  unreadable : List String := []

namespace Run

/-- The settings of a run: those of the file that the arguments name, or else those of the host. -/
def settings (host : Host) (arguments : CommandLine.Arguments) : Except Config.LoadFault Config :=
  match arguments.config? with
  | none => (Config.load host).map (·.1)
  | some name => Config.loadFrom host (some (.ofString name))

/-- Answers the command of a run. -/
def answer (host : Host) (library : Library) (config : Config)
    (arguments : CommandLine.Arguments) : Except Breakdown Outcome :=
  match Command.answer library config (" ".intercalate arguments.words) with
  | .error fault =>
    match fault.refusal? with
    | some message => .ok (.refused message)
    | none => .error (.fault fault)
  | .ok .help => .ok .help
  | .ok (.drawing canvas keymode warnings) =>
    match arguments.output? with
    | none => .error .outputUnnamed
    | some name =>
      let file := Path.ofString name
      ((host.outputPlace file).mapError .output).map fun _ ↦ .drawn file canvas keymode warnings

/-- Loads the skins of some settings. -/
def loadLibrary (host : Host) (assets : Skin.Assets) (config : Config) :
    Except Breakdown Library.Loaded :=
  match host.assetsDirectory config.assetsDirectory with
  | .error fault => .error (.assets fault)
  | .ok directory =>
    (Library.load assets directory config.skins).mapError fun fault ↦ .fault (.skin fault)

/-- A run of the program. -/
def ofArguments (host : Host) (assets : Skin.Assets) (arguments : List String) :
    Except Breakdown Run :=
  match CommandLine.ofArguments arguments with
  | .misuse => .ok { outcome := .misuse }
  | .usage => .ok { outcome := .usage }
  | .run arguments =>
    match settings host arguments with
    | .error fault => .ok { outcome := .refused fault.message }
    | .ok config => do
      let loaded ← loadLibrary host assets config
      let outcome ← answer host loaded.library config arguments
      return { outcome, skipped := loaded.skipped, unreadable := loaded.unreadable }

end Run

end NoteChart
