import NoteChart.Text.DecimalDigit

/-!
# The command line

The arguments of a run: the words of a command, and options among them.

* `-o FILE` or `--output FILE` names the file to be written;
* `--config FILE` names a file of settings;
* `-v` or `--verbose` asks for more to be told;
* `-h` or `--help` asks how the program is used.

A long option may be cut short as long as it cannot be taken for another, and may carry its value
behind an equals sign. Short options may be run together, the last of them with its value; an equals
sign may stand behind the first of them only. An attached value of two dashes is none at all.

Behind two dashes nothing is an option. A negative number is no option, and neither is an argument
with a blank in it that is not one already.

All words of the command stand together; words in a second place are refused. So is what is left
over in any other way.
-/

namespace NoteChart.CommandLine

/-- What an option is for. -/
inductive Switch
  | usage
  | output
  | config
  | verbose
deriving DecidableEq

/-- The option takes a value. -/
def Switch.takesValue : Switch → Bool
  | output | config => true
  | usage | verbose => false

/-- The short names. -/
def shortNames : List (Char × Switch) := [('h', .usage), ('o', .output), ('v', .verbose)]

/-- The long names, without their dashes. -/
def longNames : List (String × Switch) :=
  [("help", .usage), ("output", .output), ("config", .config), ("verbose", .verbose)]

/-- What the options of one argument come to. -/
inductive Options
  /-- There is text behind them that none of them takes. -/
  | broken
  /-- All of them are complete: these, each with its value or an empty one. -/
  | complete (settings : List (Switch × String))
  /-- The last one takes its value from the next argument. -/
  | open (settings : List (Switch × String)) (last : Switch)
deriving DecidableEq

/-- What an argument is by itself. -/
inductive Token
  /-- A word, or the value of an option in front of it. -/
  | word (text : String)
  /-- The two dashes that end the options. -/
  | dashes
  /-- An option, or several by their short names. -/
  | options (options : Options)
  /-- It looks like an option and is none. -/
  | unknown
  /-- It is short for more than one option. -/
  | ambiguous
deriving DecidableEq

/-! ### Options -/

/-- Puts a setting in front. -/
def Options.cons (setting : Switch × String) : Options → Options
  | broken => broken
  | complete settings => complete (setting :: settings)
  | .open settings last => .open (setting :: settings) last

/-- An option without a text attached to it. -/
def Options.bare (switch : Switch) : Options :=
  if switch.takesValue then .open [] switch else .complete [(switch, "")]

/-- An option with a text behind an equals sign, all of which is its value. -/
def Options.withValue (switch : Switch) (value : List Char) : Options :=
  if switch.takesValue then .complete [(switch, String.ofList value)] else .broken

/-- A short option with the text attached to it: its value, or further short options. -/
def Options.ofShort (switch : Switch) : List Char → Options
  | [] => bare switch
  | c :: rest =>
    if switch.takesValue then withValue switch (c :: rest)
    else
      match shortNames.find? fun (short, _) ↦ short == c with
      | none => .broken
      | some (_, next) => (ofShort next rest).cons (switch, "")

/-- The options of an argument that starts with a short one: behind that, an equals sign is passed
over, but then some text has to follow if the option takes no value. -/
def Options.ofFirstShort (switch : Switch) : List Char → Options
  | ['='] => withValue switch []
  | '=' :: text => ofShort switch text
  | text => ofShort switch text

/-- How the program is used. -/
def usageText : String :=
  "\n".intercalate
    ["usage: notechart [-h] [-o OUTPUT] [--config CONFIG] [-v] pattern [pattern ...]",
      "",
      "Draws a note pattern.",
      "",
      "  pattern              pattern text and modifiers, e.g. \"16ths [13]4[32]1 down\"",
      "  -h, --help           print this text",
      "  -o, --output OUTPUT  the file to be written",
      "  --config CONFIG      the file of settings",
      "  -v, --verbose        tell more"]

/-! ### Tokens -/

/-- A text split at its first equals sign, if it has one. -/
def splitEquals (text : List Char) : List Char × Option (List Char) :=
  match text.dropWhile (· != '=') with
  | [] => (text, none)
  | _ :: value => (text.takeWhile (· != '='), some value)

/-- The long option that a name, or the beginning of one, stands for. -/
def longToken (text : List Char) : Option Token :=
  let (name, value?) := splitEquals text
  match longNames.filter fun (long, _) ↦ name.isPrefixOf long.toList with
  | [] => none
  | [(_, switch)] =>
    match value? with
    | none => some (.options (.bare switch))
    | some value => some (.options (.withValue switch value))
  | _ => some .ambiguous

/-- The short option that `c :: rest` starts with. -/
def shortToken (c : Char) (rest : List Char) : Option Token :=
  (shortNames.find? fun (short, _) ↦ short == c).map fun (_, switch) ↦
    .options (.ofFirstShort switch rest)

/-- The text behind a dash is a number: digits, or a point with digits behind it. -/
def isNumber (text : List Char) : Bool :=
  let isDigit (c : Char) := (Text.digit? c).isSome
  let text := if text.getLast? = some '\n' then text.dropLast else text
  match text.dropWhile isDigit with
  | [] => !text.isEmpty
  | '.' :: places => !places.isEmpty && places.all isDigit
  | _ => false

/-- What an argument is by itself, in front of two dashes. -/
def token (text : String) : Token :=
  match text.toList with
  | '-' :: '-' :: [] => .dashes
  | '-' :: c :: rest =>
    let known := if c = '-' then longToken rest else shortToken c rest
    match known with
    | some token => token
    | none => if isNumber (c :: rest) || rest.contains ' ' || c = ' ' then .word text else .unknown
  | _ => .word text

/-- What the arguments are by themselves. -/
def tokens : List String → List Token
  | [] => []
  | text :: rest =>
    match token text with
    | .dashes => .dashes :: rest.map .word
    | token => token :: tokens rest

/-! ### Arguments -/

/-- The arguments of a run. -/
structure Arguments where
  words : List String := []
  /-- The file to be written; none where the option for it came without a name. -/
  output? : Option String := some "pattern.png"
  /-- The file of settings, if one is named. -/
  config? : Option String := none
  verbose : Bool := false
deriving DecidableEq

/-- What the arguments come to. -/
inductive Request
  /-- They cannot be understood. -/
  | misuse
  /-- They ask how the program is used. -/
  | usage
  | run (arguments : Arguments)
deriving DecidableEq

/-- The file that a value names: two dashes name none. -/
def fileName? (value : String) : Option String := if value = "--" then none else some value

/-- Takes the value of an option in. A file of settings is not named by an empty value either. -/
def Arguments.set (switch : Switch) (value : String) (arguments : Arguments) : Arguments :=
  match switch with
  | .usage => arguments
  | .output => { arguments with output? := fileName? value }
  | .config => { arguments with config? := (fileName? value).filter (· != "") }
  | .verbose => { arguments with verbose := true }

/-- How far the arguments have been read. -/
structure Progress where
  arguments : Arguments := {}
  /-- The words of the command have been read. -/
  wordsDone : Bool := false
  /-- Something was left over. -/
  leftOver : Bool := false

namespace Progress

/-- Takes settings in, unless one of them asks how the program is used. -/
def setAll (settings : List (Switch × String)) (progress : Progress) : Option Progress :=
  if settings.any (·.1 = .usage) then none
  else
    some
      { progress with
        arguments :=
          settings.foldl (fun arguments (switch, value) ↦ arguments.set switch value)
            progress.arguments }

/-- Takes a place of words in: the first one holds the command, any other is left over. Without a
word, two dashes are left over as well. -/
def takeWords (words : List String) (progress : Progress) : Progress :=
  if progress.wordsDone || words.isEmpty then { progress with leftOver := true }
  else
    { progress with
      arguments := { progress.arguments with words }
      wordsDone := true }

end Progress

/-- The words at the front of some tokens, and the tokens behind them. Two dashes among them are
passed over, once. -/
def splitWords : List Token → List String × List Token
  | .word text :: rest =>
    let (words, behind) := splitWords rest
    (text :: words, behind)
  | .dashes :: rest => splitWords rest
  | tokens => ([], tokens)

/-- Splitting off words leaves no more tokens than there were. -/
theorem splitWords_length (tokens : List Token) :
    (splitWords tokens).2.length ≤ tokens.length := by
  fun_induction splitWords tokens with
  | case1 text rest words behind h ih =>
    simp only [h] at ih
    simp only [List.length_cons]
    omega
  | case2 rest ih =>
    simp only [List.length_cons]
    omega
  | case3 => exact Nat.le_refl _

/-- The settings of some options, the last one's value taken from the tokens behind them; and the
tokens behind. -/
def Options.settle : Options → List Token → Option (List (Switch × String) × List Token)
  | broken, _ => none
  | complete settings, rest => some (settings, rest)
  | .open settings last, .word value :: rest => some (settings ++ [(last, value)], rest)
  | .open .., _ => none

/-- Settling options leaves no more tokens than there were. -/
theorem Options.settle_length {options : Options} {tokens rest : List Token}
    {settings : List (Switch × String)} (h : options.settle tokens = some (settings, rest)) :
    rest.length ≤ tokens.length := by
  fun_cases Options.settle options tokens <;> simp_all [Options.settle]

/-- Reads tokens from the front. -/
def read (progress : Progress) : List Token → Request
  | [] =>
    if progress.wordsDone && !progress.leftOver then .run progress.arguments else .misuse
  | .unknown :: rest => read { progress with leftOver := true } rest
  | .ambiguous :: _ => .misuse
  | .options options :: rest =>
    match h : options.settle rest with
    | none => .misuse
    | some (settings, behind) =>
      have := Options.settle_length h
      match progress.setAll settings with
      | none => .usage
      | some progress => read progress behind
  | .word text :: rest =>
    have := splitWords_length rest
    read (progress.takeWords (text :: (splitWords rest).1)) (splitWords rest).2
  | .dashes :: rest =>
    have := splitWords_length rest
    read (progress.takeWords (splitWords rest).1) (splitWords rest).2
termination_by tokens => tokens.length

/-- Reads the arguments of a run. -/
def ofArguments (arguments : List String) : Request :=
  let tokens := tokens arguments
  if tokens.contains .ambiguous then .misuse else read {} tokens

end NoteChart.CommandLine
