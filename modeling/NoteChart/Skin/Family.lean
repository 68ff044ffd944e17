/-!
# Families of skins

A family says which files a skin is made of, which keymodes it can show, and which of its sprites
belongs to a lane. The four families are fixed; a skin is one of them with files filled in.
-/

namespace NoteChart

/-- What a file contributes to a skin. -/
inductive Role
  | notes
  | receptor
  | mine
  | leftNote
  | leftReceptor
  | downNote
  | downReceptor
  | upNote
  | upReceptor
  | rightNote
  | rightReceptor
  | centerNotes
  | centerReceptor
  | cornerNotes
  | cornerReceptor
deriving DecidableEq

/-- The name of a role in a configuration. -/
def Role.name : Role → String
  | notes => "notes"
  | receptor => "receptor"
  | mine => "mine"
  | leftNote => "left_note"
  | leftReceptor => "left_receptor"
  | downNote => "down_note"
  | downReceptor => "down_receptor"
  | upNote => "up_note"
  | upReceptor => "up_receptor"
  | rightNote => "right_note"
  | rightReceptor => "right_receptor"
  | centerNotes => "center_notes"
  | centerReceptor => "center_receptor"
  | cornerNotes => "corner_notes"
  | cornerReceptor => "corner_receptor"

/-- The four kinds of skin. -/
inductive Family
  /-- Arrows in eight colours, two of them diagonal. -/
  | ldur6k
  /-- One picture for each of four arrows, without colours. -/
  | ldurMono
  /-- A centre panel and four corners, in eight colours. -/
  | pump
  /-- Bars in eight colours, the same in every lane. -/
  | bar
deriving DecidableEq

namespace Family

/-- All families. -/
def all : List Family := [ldur6k, ldurMono, pump, bar]

/-- The name of a family in a configuration. -/
def name : Family → String
  | ldur6k => "ldur_6k"
  | ldurMono => "ldur_mono"
  | pump => "pump"
  | bar => "bar"

/-- The family of a name. -/
def ofName? (name : String) : Option Family := all.find? (·.name == name)

/-- The roles whose files a skin of the family needs. -/
def roles : Family → List Role
  | ldur6k | bar => [.notes, .receptor, .mine]
  | ldurMono =>
    [.leftNote, .leftReceptor, .downNote, .downReceptor, .upNote, .upReceptor, .rightNote,
      .rightReceptor, .mine]
  | pump => [.centerNotes, .centerReceptor, .cornerNotes, .cornerReceptor, .mine]

/-- The family can show so many lanes. A bar is the same in every lane, so nothing bounds their
number. -/
def supports (keymode : Int) : Family → Bool
  | ldur6k => keymode == 3 || keymode == 4 || keymode == 6 || keymode == 8
  | ldurMono => keymode == 3 || keymode == 4 || keymode == 8
  | pump => keymode == 5 || keymode == 10
  | bar => true

/-- The sprite of a lane, as its place among the orientations of the family. Six lanes are left,
up-left, down, up, up-right and right; three are left, down and right; more lanes than a family has
orientations repeat them. -/
def orientation? (keymode : Int) (lane : Nat) : Family → Option Nat
  | ldur6k =>
    if keymode = 6 then [0, 4, 1, 2, 5, 3][lane]?
    else if keymode = 3 then [0, 1, 3][lane]?
    else some (lane % 4)
  | ldurMono => if keymode = 3 then [0, 1, 3][lane]? else some (lane % 4)
  | pump => some (lane % 5)
  | bar => some 0

end Family

end NoteChart
