import NoteChart.Canvas
import NoteChart.Command.Request
import NoteChart.Config.Basic

/-!
# Answering a command

A command is answered by a drawing with the warnings of its words, by the help text, or by the fault
that kept it from being drawn. A keymode that no word names is guessed from the pattern, and a skin
that no word names is the library's choice for the keymode.
-/

namespace NoteChart

/-- The keymode that segments are most likely meant for, if they have a note in any column. -/
def guessKeymode (segments : List Segment) : Except Fault Int :=
  let highest := (segments.map (·.pattern.highestColumn 4)).foldl max (-1)
  if highest < 0 then .error .emptyPattern else .ok (Pattern.keymodeFor highest)

namespace Command

/-- The help text. -/
def helpText : String :=
  "\n".intercalate
    ["Visualize a note pattern.",
      "",
      "Lanes are digits (`1234`), `(12)` for lane 12, or `L` `D` `U` `R`. " ++
        "Put chords in brackets: `[13]4[32]1`.",
      "`0` or `[]` is an empty row, `m3` is a mine.",
      "",
      "Add any of these words anywhere:",
      "- a snap like `16ths` or `12ths` (applies to everything after it)",
      "- a noteskin: dbz, wafles, lambda, delta-note, sbz, mbz, eobaner, rustmania",
      "- a zoom like `2x`",
      "- `up` or `down` for the scroll direction",
      "- a keymode like `6k`",
      "",
      "Example: `16ths [12]34 24ths 1234 down 2x`"]

/-- The answer to a command. -/
inductive Answer
  | help
  | drawing (canvas : Canvas) (keymode : Int) (warnings : List Warning)
deriving DecidableEq

/-- The command asks for help. -/
def asksForHelp (text : String) : Bool :=
  Text.lower (Text.trim text.toList) == ['h', 'e', 'l', 'p']

/-- Reads the pattern texts of a request. -/
def readSegments (segments : List TextSegment) : Except Fault (List Segment) :=
  segments.mapM fun segment ↦
    ((Pattern.parse segment.text).mapError Fault.unclosed).map fun pattern ↦
      ⟨pattern, segment.snap⟩

/-- What a request comes to be drawn from, and the keymode. -/
def recipe (library : Library) (limits : Config.Limits) (request : Request) :
    Except Fault Recipe := do
  let segments ← readSegments request.segments
  let keymode ← match request.keymode with
    | some keymode => pure (keymode : Int)
    | none => guessKeymode segments
  let chosen ← match request.skin with
    | some skin => pure skin
    | none => library.defaultFor keymode
  return {
    skin := chosen.skin
    scroll := request.scroll
    keymode
    zoom := request.zoom
    segments
    maxWidth := limits.maxImageWidth
    maxHeight := limits.maxImageHeight
    maxSprites := limits.maxSprites }

/-- Answers a command. -/
def answer (library : Library) (config : Config) (text : String) : Except Fault Answer := do
  if asksForHelp text then return .help
  let defaults := config.defaults
  let request ← Request.ofText library defaults.snap defaults.zoom defaults.scroll text
  let recipe ← recipe library config.render request
  let canvas ← recipe.draw
  return .drawing canvas recipe.keymode request.warnings

end Command

end NoteChart
