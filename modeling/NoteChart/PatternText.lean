import NoteChart.Pattern
import NoteChart.Text.Blank
import NoteChart.Text.DecimalDigit

/-!
# The written form of patterns

* `1234` are four rows of one note, the digits being lanes counted from one;
* `[13]` is a chord, `(12)` lane twelve, and `L` `D` `U` `R` in either case are the arrows;
* `0`, `[]` and `()` are empty rows;
* `m3` is a mine;
* `3x4` is a hold of four rows, `[13]x4` makes holds of the whole chord, and an empty row with such
  a suffix stands for that many empty rows.

The form is lenient: a character that means nothing is skipped, so that a typing error spoils one
note and not the picture. It is strict in one point, a bracket or parenthesis that nothing closes.

Groups do not nest. Where a second opener stands before the first closer, the group ends in front of
that opener, so `[12[34]` are the chords `[12]` and `[34]`. The search for the end of a group looks
through all that follows, and all that follows is therefore what every step hands on: a step takes
something from the front and returns the rest, which is shorter. That is all the two loops need to
end.

Lanes and lengths of holds are numbers of any size. Runs of more than `Text.digitLimit` digits are
left out of account: here they are read like all others.
-/

namespace NoteChart.PatternText

/-- A group that nothing closes. -/
inductive Unclosed
  | bracket
  | parenthesis
deriving DecidableEq

/-- The wording of the refusal. -/
def Unclosed.message : Unclosed → String
  | bracket => "Missing closing bracket"
  | parenthesis => "Missing closing parenthesis"

/-! ### Groups -/

/-- Splits what follows an opener into the inside of the group and the rest. The group ends behind
the first closer or in front of the next opener, whichever comes first; there is none where neither
comes. -/
def splitGroup? (opener closer : Char) : List Char → Option (List Char × List Char)
  | [] => none
  | c :: rest =>
    if c = closer then some ([], rest)
    else if c = opener then some ([], c :: rest)
    else (splitGroup? opener closer rest).map fun (inside, after) ↦ (c :: inside, after)

/-- The inside of a group and what follows it; `text` starts behind the opener. -/
def group (opener closer : Char) (unclosed : Unclosed) (text : List Char) :
    Except Unclosed (List Char × List Char) :=
  match splitGroup? opener closer text with
  | some split => .ok split
  | none => .error unclosed

/-- The number in parentheses, and what follows them; `text` starts behind the opening one. Blanks
around the number do not matter, anything else makes it no number. -/
def groupedNumber (text : List Char) : Except Unclosed (Option Nat × List Char) :=
  (group '(' ')' .parenthesis text).map fun (inside, rest) ↦
    (Text.asciiNumber? (Text.trim inside), rest)

/-! ### Hold suffixes -/

/-- A hold that has a length: one row at least. -/
def holdOf : Option Nat → Option Nat
  | some (n + 1) => some (n + 1)
  | _ => none

/-- Takes a hold suffix, `x4` or `x(4)`, from the front. A suffix that names no length is taken as
well and makes no hold; an `x` that no number follows is no suffix. -/
def holdSuffix (text : List Char) : Except Unclosed (Option Nat × List Char) :=
  match text with
  | x :: '(' :: rest =>
    if x = 'x' ∨ x = 'X' then
      (groupedNumber rest).map fun (number, rest) ↦ (holdOf number, rest)
    else .ok (none, text)
  | x :: rest =>
    if x = 'x' ∨ x = 'X' then
      match rest.takeWhile (Text.asciiDigit? · |>.isSome) with
      | [] => .ok (none, text)
      | digits =>
        .ok (holdOf (Text.asciiNumber? digits), rest.dropWhile (Text.asciiDigit? · |>.isSome))
    else .ok (none, text)
  | [] => .ok (none, [])

/-! ### Notes -/

/-- What stands where a lane is expected. -/
inductive Place
  /-- A lane. -/
  | lane (lane : Lane)
  /-- The mark of an empty step: zero, or parentheses without a number. -/
  | gap
  /-- A character that means nothing. -/
  | stray
deriving DecidableEq

/-- The place a number names; lanes are written counted from one. -/
def Place.ofNumber : Option Nat → Place
  | some (n + 1) => .lane (.column n)
  | _ => .gap

/-- The arrow a letter names. -/
def Place.ofLetter (c : Char) : Place :=
  if c = 'l' ∨ c = 'L' then .lane (.arrow .left)
  else if c = 'd' ∨ c = 'D' then .lane (.arrow .down)
  else if c = 'u' ∨ c = 'U' then .lane (.arrow .up)
  else if c = 'r' ∨ c = 'R' then .lane (.arrow .right)
  else .stray

/-- Takes a lane from the front of `c :: rest`. -/
def place (c : Char) (rest : List Char) : Except Unclosed (Place × List Char) :=
  if c = '(' then (groupedNumber rest).map fun (number, rest) ↦ (.ofNumber number, rest)
  else
    match Text.asciiDigit? c with
    | some digit => .ok (.ofNumber (some digit), rest)
    | none => .ok (.ofLetter c, rest)

/-- What a step inside a chord, or outside of one, has read. -/
inductive Slot
  /-- A note. -/
  | note (note : Note)
  /-- An empty step that spans so many rows, zero where no hold suffix says. -/
  | gap (span : Nat)
  /-- Nothing. -/
  | skipped
deriving DecidableEq

namespace Slot

/-- The rows a slot spans by a hold suffix of its own, zero without one. -/
def span : Slot → Int
  | note n => n.holdLength
  | gap n => n
  | skipped => 0

/-- The note of a slot. -/
def note? : Slot → Option Note
  | note n => some n
  | _ => none

/-- The slot that a place and its hold suffix make. -/
def make (kind : NoteKind) (place : Place) (hold : Option Nat) : Slot :=
  match place, hold with
  | .stray, _ => .skipped
  | .gap, hold => .gap (hold.getD 0)
  | .lane l, none => .note ⟨l, kind, 0⟩
  | .lane l, some length => .note ⟨l, .hold, length⟩

end Slot

/-- Takes a lane with its hold suffix from the front of `c :: rest`. -/
def lanedSlot (kind : NoteKind) (c : Char) (rest : List Char) :
    Except Unclosed (Slot × List Char) := do
  let (place, rest) ← place c rest
  let (hold, rest) ← holdSuffix rest
  return (.make kind place hold, rest)

/-- Takes a note from the front of `c :: rest`. The mark of a mine with no lane behind it is
skipped alone. -/
def slot (c : Char) (rest : List Char) : Except Unclosed (Slot × List Char) :=
  if c = 'm' ∨ c = 'M' then
    match rest with
    | [] => .ok (.skipped, [])
    | d :: after => if d = '[' then .ok (.skipped, rest) else lanedSlot .mine d after
  else lanedSlot .tap c rest

/-! ### Progress -/

/-- Splitting at the end of a group leaves no more than there was, the inside included. -/
theorem splitGroup?_length {opener closer : Char} {text inside rest : List Char}
    (h : splitGroup? opener closer text = some (inside, rest)) :
    inside.length + rest.length ≤ text.length := by
  induction text generalizing inside with
  | nil => simp [splitGroup?] at h
  | cons c text ih =>
    rw [splitGroup?] at h
    split at h
    · cases h
      simp
    · split at h
      · cases h
        simp
      · obtain ⟨split, hsplit, heq⟩ := Option.map_eq_some_iff.1 h
        cases heq
        have := ih hsplit
        simp only [List.length_cons]
        omega

/-- A group and what follows it are no longer than the text behind the opener. -/
theorem group_length {opener closer : Char} {unclosed : Unclosed} {text inside rest : List Char}
    (h : group opener closer unclosed text = .ok (inside, rest)) :
    inside.length + rest.length ≤ text.length := by
  rw [group] at h
  split at h
  · rename_i hsplit
    cases h
    exact splitGroup?_length hsplit
  · cases h

/-- A number in parentheses leaves no more than there was. -/
theorem groupedNumber_length {text rest : List Char} {number : Option Nat}
    (h : groupedNumber text = .ok (number, rest)) : rest.length ≤ text.length := by
  rw [groupedNumber] at h
  cases hg : group '(' ')' .parenthesis text with
  | error e => simp [hg, Except.map] at h
  | ok split =>
    obtain ⟨inside, after⟩ := split
    simp only [hg, Except.map, Except.ok.injEq, Prod.mk.injEq] at h
    have := group_length hg
    rw [← h.2]
    omega

/-- A hold suffix, or none, leaves no more than there was. -/
theorem holdSuffix_length {text rest : List Char} {hold : Option Nat}
    (h : holdSuffix text = .ok (hold, rest)) : rest.length ≤ text.length := by
  unfold holdSuffix at h
  split at h
  · rename_i x after
    split at h
    · cases hg : groupedNumber after with
      | error e => simp [hg, Except.map] at h
      | ok pair =>
        obtain ⟨number, after⟩ := pair
        simp only [hg, Except.map, Except.ok.injEq, Prod.mk.injEq] at h
        have := groupedNumber_length hg
        rw [← h.2]
        simp only [List.length_cons]
        omega
    · cases h
      exact Nat.le_refl _
  · rename_i x after _
    split at h
    · split at h
      · cases h
        exact Nat.le_refl _
      · cases h
        have := (List.dropWhile_sublist (fun c ↦ (Text.asciiDigit? c).isSome)
          (l := after)).length_le
        simp only [List.length_cons]
        omega
    · cases h
      exact Nat.le_refl _
  · cases h
    exact Nat.le_refl _

/-- A lane leaves no more than there was behind its first character. -/
theorem place_length {c : Char} {text rest : List Char} {p : Place}
    (h : place c text = .ok (p, rest)) : rest.length ≤ text.length := by
  rw [place] at h
  split at h
  · cases hg : groupedNumber text with
    | error e => simp [hg, Except.map] at h
    | ok pair =>
      obtain ⟨number, after⟩ := pair
      simp only [hg, Except.map, Except.ok.injEq, Prod.mk.injEq] at h
      have := groupedNumber_length hg
      rw [← h.2]
      omega
  · split at h <;> cases h <;> exact Nat.le_refl _

/-- A lane with its suffix leaves no more than there was behind its first character. -/
theorem lanedSlot_length {kind : NoteKind} {c : Char} {text rest : List Char} {s : Slot}
    (h : lanedSlot kind c text = .ok (s, rest)) : rest.length ≤ text.length := by
  unfold lanedSlot at h
  cases hp : place c text with
  | error e => simp [hp, bind, Except.bind] at h
  | ok pair =>
    obtain ⟨p, behind⟩ := pair
    simp only [hp, bind, Except.bind] at h
    cases hs : holdSuffix behind with
    | error e => simp [hs] at h
    | ok suffix =>
      obtain ⟨hold, after⟩ := suffix
      simp only [hs, pure, Except.pure, Except.ok.injEq, Prod.mk.injEq] at h
      have h1 := place_length hp
      have h2 := holdSuffix_length hs
      rw [← h.2]
      omega

/-- A step takes at least the character it starts from. -/
theorem slot_length {c : Char} {text rest : List Char} {s : Slot}
    (h : slot c text = .ok (s, rest)) : rest.length ≤ text.length := by
  unfold slot at h
  split at h
  · split at h
    · cases h
      exact Nat.le_refl _
    · split at h
      · cases h
        exact Nat.le_refl _
      · have := lanedSlot_length h
        simp only [List.length_cons]
        omega
  · exact lanedSlot_length h

/-! ### Rows -/

/-- The slots of a chord, from the text inside its brackets. -/
def slots : List Char → Except Unclosed (List Slot)
  | [] => .ok []
  | c :: text =>
    match _h : slot c text with
    | .error e => .error e
    | .ok (s, rest) => (slots rest).map (s :: ·)
termination_by text => text.length
decreasing_by
  have := slot_length _h
  simp only [List.length_cons]
  omega

/-- The steps that a span of rows reserves behind the first of them. -/
def reservedBy (span : Int) : Int := max 0 (span - 1)

/-- The longest of some spans, zero at least. -/
def longest (spans : List Int) : Int := spans.foldl max 0

/-- The row of a chord: its notes, all made holds where a suffix follows the brackets. The steps
reserved are those of the longest span in sight. -/
def chord (slots : List Slot) (hold : Option Nat) : Row :=
  let notes := slots.filterMap Slot.note?
  let span := longest (slots.map Slot.span)
  match hold with
  | none => ⟨notes, reservedBy span⟩
  | some length => ⟨notes.map (Note.asHold length), reservedBy (max span length)⟩

/-- The row that a slot outside of brackets makes, if it makes one. -/
def rowOf : Slot → Option Row
  | .note note => some ⟨[note], reservedBy note.holdLength⟩
  | .gap span => some ⟨[], reservedBy span⟩
  | .skipped => none

/-- Takes a row from the front of `c :: rest`, or something that makes none. -/
def row (c : Char) (rest : List Char) : Except Unclosed (Option Row × List Char) :=
  if c = '[' then do
    let (inside, rest) ← group '[' ']' .bracket rest
    let slots ← slots inside
    let (hold, rest) ← holdSuffix rest
    return (some (chord slots hold), rest)
  else (slot c rest).map fun (slot, rest) ↦ (rowOf slot, rest)

/-- A row leaves no more than there was behind its first character, so that the rows come to an
end. -/
theorem row_length {c : Char} {text rest : List Char} {r : Option Row}
    (h : row c text = .ok (r, rest)) : rest.length ≤ text.length := by
  unfold row at h
  split at h
  · cases hg : group '[' ']' .bracket text with
    | error e => simp [hg, bind, Except.bind] at h
    | ok split =>
      obtain ⟨inside, behind⟩ := split
      simp only [hg, bind, Except.bind] at h
      cases hs : slots inside with
      | error e => simp [hs] at h
      | ok found =>
        simp only [hs] at h
        cases hx : holdSuffix behind with
        | error e => simp [hx] at h
        | ok suffix =>
          obtain ⟨hold, after⟩ := suffix
          simp only [hx, pure, Except.pure, Except.ok.injEq, Prod.mk.injEq] at h
          have h1 := group_length hg
          have h2 := holdSuffix_length hx
          rw [← h.2]
          omega
  · cases hs : slot c text with
    | error e => simp [hs, Except.map] at h
    | ok pair =>
      obtain ⟨s, after⟩ := pair
      simp only [hs, Except.map, Except.ok.injEq, Prod.mk.injEq] at h
      have := slot_length hs
      rw [← h.2]
      omega

/-- The rows of a text. -/
def rows : List Char → Except Unclosed (List Row)
  | [] => .ok []
  | c :: text =>
    match _h : row c text with
    | .error e => .error e
    | .ok (r, rest) => (rows rest).map (r.toList ++ ·)
termination_by text => text.length
decreasing_by
  have := row_length _h
  simp only [List.length_cons]
  omega

end NoteChart.PatternText

namespace NoteChart

/-- Reads a pattern from its written form. -/
def Pattern.parse (text : String) : Except PatternText.Unclosed Pattern :=
  (PatternText.rows text.toList).map fun rows ↦ { rows }

end NoteChart
