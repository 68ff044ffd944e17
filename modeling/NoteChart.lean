import NoteChart.Text.Blank
import NoteChart.Text.DecimalDigit
import NoteChart.Text.Alphanumeric
import NoteChart.Text.Lowercase
import NoteChart.Text.Printable
import NoteChart.PatternText
import NoteChart.Stepper
import NoteChart.Image
import NoteChart.Skin.Loading
import NoteChart.Number.Shortest
import NoteChart.Number.Literal
import NoteChart.Listing
import NoteChart.Canvas
import NoteChart.Json.Reader
import NoteChart.Json.Writer
import NoteChart.Text.Utf8
import NoteChart.Text.Quoted
import NoteChart.Path
import NoteChart.Config.Members
import NoteChart.Config.Source
import NoteChart.Command.Answer
import NoteChart.Main
import NoteChart.Proofs.Timeline.Walking
import NoteChart.Proofs.Timeline.Drift
import NoteChart.Proofs.Layout.Placement
import NoteChart.Proofs.Layout.Overflow
import NoteChart.Proofs.Command.Answers
import NoteChart.Proofs.PatternText.Delimiters
import NoteChart.Proofs.PatternText.Seam
import NoteChart.Proofs.PatternText.Written
import NoteChart.Proofs.PatternText.LetterCase
import NoteChart.Proofs.PatternText.Progress
import NoteChart.Proofs.Layout.Verdict
import NoteChart.Proofs.Layout.Mirror
import NoteChart.Proofs.Skin.Setup
import NoteChart.Proofs.Command.Classes
import NoteChart.Proofs.Command.Filing
import NoteChart.Proofs.Layout.Lanes
import NoteChart.Proofs.Command.Guess
import NoteChart.Proofs.Config.Entries
import NoteChart.Proofs.Skin.Sheets
import NoteChart.Proofs.Library.Loading
import NoteChart.Proofs.Config.Misplaced
import NoteChart.Proofs.Timeline.Grouping
import NoteChart.Proofs.Skin.Columns
import NoteChart.Proofs.Layout.Interchange
import NoteChart.Proofs.Layout.Silence
import NoteChart.Proofs.Skin.Cuts
import NoteChart.Proofs.Command.Unlettered
import NoteChart.Proofs.Config.Overridden
import NoteChart.Proofs.Config.Reread
