import NoteChart.Command.Words

/-!
# Requests

A request is what the words of a command come to: segments of pattern text, each with its snap, and
the modifiers. A snap starts a new segment, and a segment without text is none. Of several modifiers
of one sort the last one holds.
-/

namespace NoteChart.Command

/-- Pattern text and the snap of its rows. -/
structure TextSegment where
  text : String
  snap : SnapNumber
deriving DecidableEq

/-- What a command asks for. -/
structure Request where
  segments : List TextSegment := []
  skin : Option NamedSkin := none
  keymode : Option Nat := none
  zoom : Binary64
  scroll : Scroll
  warnings : List Warning := []
deriving DecidableEq

/-- A request in the making: the words so far, the snap in force, and the text since that snap. -/
structure Draft where
  request : Request
  snap : SnapNumber
  text : String := ""
deriving DecidableEq

namespace Draft

/-- The request with the text since the last snap as a segment, if there is any. -/
def finish (draft : Draft) : Request :=
  if draft.text = "" then draft.request
  else
    { draft.request with segments := draft.request.segments ++ [⟨draft.text, draft.snap⟩] }

/-- Takes the meaning of a word in. -/
def apply (draft : Draft) (word : String) : Meaning → Draft
  | .snap snap => { request := draft.finish, snap }
  | .skin skin => { draft with request := { draft.request with skin := some skin } }
  | .zoom zoom => { draft with request := { draft.request with zoom } }
  | .scroll scroll => { draft with request := { draft.request with scroll } }
  | .keymode keymode => { draft with request := { draft.request with keymode := some keymode } }
  | .text => { draft with text := draft.text ++ word }

/-- Takes the warnings of a word in. -/
def warn (draft : Draft) (warnings : List Warning) : Draft :=
  { draft with
    request := { draft.request with warnings := draft.request.warnings ++ warnings } }

/-- Takes a word in. -/
def take (library : Library) (draft : Draft) (word : String) : Except Fault Draft := do
  let (meaning, warnings) ← meaning library word
  return (draft.apply word meaning).warn warnings

end Draft

namespace Request

/-- The request of a command. The defaults hold until a word says otherwise; a default snap below
one gives way to sixteenths. There is no request if a word has more digits than are read. -/
def ofText (library : Library) (defaultSnap : Int) (defaultZoom : Binary64)
    (defaultScroll : Scroll) (text : String) : Except Fault Request :=
  let start : Draft :=
    { request := { zoom := defaultZoom, scroll := defaultScroll }
      snap := (SnapNumber.ofInt? defaultSnap).getD .sixteenths }
  (((Text.words text.toList).map String.ofList).foldlM (Draft.take library) start).map
    Draft.finish

end Request

end NoteChart.Command
