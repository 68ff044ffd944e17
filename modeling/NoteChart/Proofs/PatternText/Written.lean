import NoteChart.Proofs.PatternText.WellFormed

/-!
# Writing rows

Well-formed rows have a written form (`Row.written`): a chord in brackets, its notes in their order,
and behind them, where the row reserves steps, an empty step with a hold suffix that spans them.
Reading gives the rows back as they were, also the order of their notes. So the well-formed rows are
all that can be read, and no two lists of them have one written form.

Every number stands in parentheses. With that, nothing in the written form of a note can be taken
for a part of the next one, and a note is read with anything behind it that is no hold suffix
(`slots_written_append`).
-/

namespace NoteChart

/-! ### The written form -/

/-- The letter of an arrow, a small or a capital one. -/
def Direction.letter (capital : Bool) : Direction → Char
  | left => if capital then 'L' else 'l'
  | down => if capital then 'D' else 'd'
  | up => if capital then 'U' else 'u'
  | right => if capital then 'R' else 'r'

namespace PatternText

/-- A number in parentheses. -/
def grouped (n : Nat) : List Char := '(' :: (Nat.toDigits 10 n ++ [')'])

/-- A hold suffix. -/
def suffix (length : Nat) : List Char := 'x' :: grouped length

end PatternText

/-- A lane: its number counted from one, or its letter. -/
def Lane.written (capital : Bool) : Lane → List Char
  | column index => PatternText.grouped (index + 1).toNat
  | arrow direction => [direction.letter capital]

/-- A note: the mark of a mine, the lane, the suffix of a hold. -/
def Note.written (capital : Bool) (note : Note) : List Char :=
  match note.kind with
  | .tap => note.lane.written capital
  | .mine => 'm' :: note.lane.written capital
  | .hold => note.lane.written capital ++ PatternText.suffix note.holdLength.toNat

namespace Row

/-- The notes of a row, and an empty step that spans the row and what it reserves. -/
def inside (capital : Bool) (row : Row) : List Char :=
  row.notes.flatMap (Note.written capital) ++
    if 0 < row.reserved then '0' :: PatternText.suffix (row.reserved + 1).toNat else []

/-- A row, always as a chord. -/
def written (capital : Bool) (row : Row) : List Char := '[' :: (row.inside capital ++ [']'])

end Row

/-- The rows of a pattern, one behind the other. -/
def Pattern.written (capital : Bool) (pattern : Pattern) : String :=
  String.ofList (pattern.rows.flatMap (Row.written capital))

namespace PatternText

variable {capital : Bool} {text more : List Char}

/-! ### Numbers -/

/-- The digits that numbers are written in are those that are read. -/
theorem asciiDigit?_of_isDigit {c : Char} (h : c.isDigit) :
    Text.asciiDigit? c = some (c.toNat - '0'.toNat) := by
  have hbounds : 48 ≤ c.toNat ∧ c.toNat ≤ 57 := by
    simpa [Char.isDigit, UInt32.le_iff_toNat_le] using h
  rw [Text.asciiDigit?, if_pos hbounds]
  rfl

theorem isDigit_of_mem_toDigits {n : Nat} {c : Char} (h : c ∈ Nat.toDigits 10 n) : IsDigit c := by
  rw [IsDigit, asciiDigit?_of_isDigit (Nat.isDigit_of_mem_toDigits (by decide) (by decide) h)]
  rfl

/-- **Decimals** read back. -/
theorem asciiNumber?_toDigits (n : Nat) : Text.asciiNumber? (Nat.toDigits 10 n) = some n := by
  have hdigits : (Nat.toDigits 10 n).mapM Text.asciiDigit? =
      some ((Nat.toDigits 10 n).map fun c ↦ c.toNat - '0'.toNat) := by
    have hall : ∀ c ∈ Nat.toDigits 10 n,
        Text.asciiDigit? c = (some (c.toNat - '0'.toNat) : Option Nat) := fun c hc ↦
      asciiDigit?_of_isDigit (Nat.isDigit_of_mem_toDigits (by decide) (by decide) hc)
    generalize Nat.toDigits 10 n = digits at hall
    induction digits with
    | nil => rfl
    | cons c digits ih =>
      obtain ⟨hc, hrest⟩ := List.forall_mem_cons.1 hall
      rw [List.mapM_cons, hc, ih hrest]
      rfl
  have hvalue : Text.ofDigits ((Nat.toDigits 10 n).map fun c ↦ c.toNat - '0'.toNat) = n :=
    calc Text.ofDigits ((Nat.toDigits 10 n).map fun c ↦ c.toNat - '0'.toNat)
        = Nat.ofDigitChars 10 (Nat.toDigits 10 n) 0 := by
          rw [Text.ofDigits, List.foldl_map, Nat.ofDigitChars]
      _ = n := Nat.ofDigitChars_ten_toDigits
  have hne : (Nat.toDigits 10 n).isEmpty = false := by simp
  rw [Text.asciiNumber?, hne, hdigits]
  exact congrArg some hvalue

/-- No digit is a blank, and so none is trimmed. -/
theorem isBlank_of_isDigit {c : Char} (h : IsDigit c) : Text.isBlank c = false := by
  have hbounds : 48 ≤ c.toNat ∧ c.toNat ≤ 57 := by
    by_contra hout
    rw [IsDigit, Text.asciiDigit?, if_neg hout] at h
    cases h
  simp [Text.isBlank]
  omega

/-- There is nothing to trim from a text without blanks. -/
theorem trim_of_not_isBlank (h : ∀ c ∈ text, Text.isBlank c = false) : Text.trim text = text := by
  have hdrop {list : List Char} (hlist : ∀ c ∈ list, Text.isBlank c = false) :
      list.dropWhile Text.isBlank = list := by
    rcases list with - | ⟨c, rest⟩
    · rfl
    · rw [List.dropWhile_cons, hlist c List.mem_cons_self]
      rfl
  rw [Text.trim, Text.trimBy, hdrop h, hdrop fun c hc ↦ h c (List.mem_reverse.1 hc),
    List.reverse_reverse]

/-- **A number in parentheses** reads back. -/
theorem groupedNumber_toDigits (n : Nat) (more : List Char) :
    groupedNumber (Nat.toDigits 10 n ++ ')' :: more) = .ok (some n, more) := by
  have hplain : ∀ c ∈ Nat.toDigits 10 n, c ≠ '(' ∧ c ≠ ')' := by
    intro c hc
    have hdigit := isDigit_of_mem_toDigits hc
    exact ⟨ne_of_isDigit hdigit (by decide), ne_of_isDigit hdigit (by decide)⟩
  have htrim : Text.trim (Nat.toDigits 10 n) = Nat.toDigits 10 n :=
    trim_of_not_isBlank fun c hc ↦ isBlank_of_isDigit (isDigit_of_mem_toDigits hc)
  rw [groupedNumber, group_closed hplain]
  show Except.ok (Text.asciiNumber? (Text.trim (Nat.toDigits 10 n)), more) = _
  rw [htrim, asciiNumber?_toDigits]

/-- The length of a hold is read back. -/
theorem holdSuffix_suffix {length : Nat} (h : 1 ≤ length) (more : List Char) :
    holdSuffix (suffix length ++ more) = .ok (some length, more) := by
  obtain ⟨n, rfl⟩ := Nat.exists_eq_add_of_le' h
  rw [suffix, grouped, List.cons_append, List.cons_append, List.append_assoc,
    holdSuffix_grouped (.inl rfl), List.singleton_append, groupedNumber_toDigits]
  rfl

/-! ### Notes -/

/-- **A lane** reads back, with anything behind it, and cannot be taken for anything else. -/
theorem exists_lane_written {l : Lane} (h : l.WellFormed) (capital : Bool) :
    ∃ c text, l.written capital = c :: text ∧ c ≠ '[' ∧ ¬IsMineMark c ∧ ¬IsHoldMark c ∧
      ∀ more, place c (text ++ more) = .ok (.lane l, more) := by
  cases l with
  | column index =>
    refine ⟨'(', Nat.toDigits 10 (index + 1).toNat ++ [')'], rfl, by decide, by decide, by decide,
      fun more ↦ ?_⟩
    obtain ⟨n, rfl⟩ := Int.eq_ofNat_of_zero_le h
    rw [place_opener, List.append_assoc, List.singleton_append, groupedNumber_toDigits]
    rfl
  | arrow direction =>
    refine ⟨direction.letter capital, [], rfl, ?_⟩
    cases direction <;> cases capital <;>
      exact ⟨by decide, by decide, by decide, fun more ↦ rfl⟩

/-- A slot is what its lane and its suffix are read as. -/
theorem lanedSlot_of_place {kind : NoteKind} {c : Char} {p : Place} {behind : List Char}
    {hold : Option Nat} (hplace : place c text = .ok (p, behind))
    (hhold : holdSuffix behind = .ok (hold, more)) :
    lanedSlot kind c text = .ok (.make kind p hold, more) := by
  rw [lanedSlot_eq, hplace]
  show (holdSuffix behind >>= fun held ↦ pure (Slot.make kind p held.1, held.2)) = _
  rw [hhold]
  rfl

/-- **A note** reads back with anything behind it but a hold suffix. -/
theorem slots_written_append {note : Note} (h : note.WellFormed) (hmore : ¬Begins IsHoldMark more) :
    slots (note.written capital ++ more) = (slots more).map (.note note :: ·) := by
  obtain ⟨c, text, hwritten, hbracket, hmine, -, hplace⟩ := exists_lane_written h.lane capital
  have hread {c : Char} {text : List Char} (hslot : slot c text = .ok (.note note, more)) :
      slots (c :: text) = (slots more).map (.note note :: ·) := by
    rw [slots_cons, hslot]
    rfl
  have hunmarked := holdSuffix_unmarked hmore
  obtain ⟨l, kind, length⟩ := note
  cases kind with
  | tap =>
    have hlength : length = 0 := h.length_eq_zero nofun
    subst hlength
    rw [Note.written, hwritten, List.cons_append]
    refine hread ?_
    rw [slot_of_not_mark hmine, lanedSlot_of_place (hplace more) hunmarked]
    rfl
  | mine =>
    have hlength : length = 0 := h.length_eq_zero nofun
    subst hlength
    rw [Note.written, hwritten, List.cons_append, List.cons_append]
    refine hread ?_
    rw [slot_mark_cons (.inl rfl) hbracket, lanedSlot_of_place (hplace more) hunmarked]
    rfl
  | hold =>
    have hlength : 1 ≤ length := h.length_pos rfl
    obtain ⟨n, rfl⟩ := Int.eq_ofNat_of_zero_le (show 0 ≤ length by omega)
    have hhold := holdSuffix_suffix (Int.ofNat_le.1 hlength) more
    rw [Note.written, hwritten, List.append_assoc, List.cons_append]
    refine hread ?_
    rw [slot_of_not_mark hmine]
    exact lanedSlot_of_place (hplace _) hhold

/-- What is written of a note does not begin like a hold suffix. -/
theorem not_begins_written {note : Note} (h : note.WellFormed) (more : List Char) :
    ¬Begins IsHoldMark (note.written capital ++ more) := by
  obtain ⟨c, text, hwritten, -, -, hmark, -⟩ := exists_lane_written h.lane capital
  rw [Note.written]
  split
  · rwa [hwritten, List.cons_append, begins_cons]
  · rw [List.cons_append, begins_cons]
    decide
  · rwa [hwritten, List.cons_append, List.cons_append, begins_cons]

/-- The notes of a row are read back as slots, one after the other. -/
theorem slots_flatMap_written {notes : List Note} (h : ∀ note ∈ notes, note.WellFormed)
    (hmore : ¬Begins IsHoldMark more) :
    slots (notes.flatMap (Note.written capital) ++ more) =
      (slots more).map (notes.map .note ++ ·) := by
  induction notes with
  | nil =>
    rw [List.flatMap_nil, List.nil_append]
    cases slots more <;> rfl
  | cons note notes ih =>
    obtain ⟨hnote, hnotes⟩ := List.forall_mem_cons.1 h
    have hbehind : ¬Begins IsHoldMark (notes.flatMap (Note.written capital) ++ more) := by
      rcases notes with - | ⟨next, notes⟩
      · exact hmore
      · rw [List.flatMap_cons, List.append_assoc]
        exact not_begins_written (hnotes next List.mem_cons_self) _
    rw [List.flatMap_cons, List.append_assoc, slots_written_append hnote hbehind, ih hnotes]
    cases slots more <;> rfl

/-! ### Rows -/

/-- The slots that are written of a row. -/
def slotsOf (row : Row) : List Slot :=
  row.notes.map .note ++ if 0 < row.reserved then [.gap (row.reserved + 1).toNat] else []

/-- **An empty step** with a hold suffix reads back. -/
theorem slots_gap {length : Nat} (h : 1 ≤ length) :
    slots ('0' :: suffix length) = .ok [.gap length] := by
  have hplace : place '0' (suffix length) = .ok (.gap, suffix length) := rfl
  have hhold : holdSuffix (suffix length) = .ok (some length, []) := by
    rw [← holdSuffix_suffix h [], List.append_nil]
  have hgap : slot '0' (suffix length) = .ok (.gap length, []) := by
    rw [slot_of_not_mark (by decide)]
    exact lanedSlot_of_place hplace hhold
  rw [slots_cons, hgap]
  show (slots []).map (Slot.gap length :: ·) = _
  rw [slots_nil]
  rfl

/-- The inside of a chord is read back as the slots of its row. -/
theorem slots_inside {row : Row} (h : row.WellFormed) :
    slots (row.inside capital) = .ok (slotsOf row) := by
  rw [Row.inside, slotsOf]
  split
  · rename_i hreserved
    have hlength : 1 ≤ (row.reserved + 1).toNat := by omega
    rw [slots_flatMap_written h.notes (by rw [begins_cons]; decide), slots_gap hlength]
    rfl
  · rw [slots_flatMap_written h.notes (not_begins_nil _), slots_nil]
    rfl

/-- **The longest span** written of a row is what the row covers, one step more than it reserves. -/
theorem reservedBy_longest_slotsOf {row : Row} (h : row.WellFormed) :
    reservedBy (longest ((slotsOf row).map Slot.span)) = row.reserved := by
  have hreserved := h.reserved_nonneg
  have hupper : longest ((slotsOf row).map Slot.span) ≤ row.reserved + 1 := by
    refine longest_le_iff.2 ⟨by omega, fun span hspan ↦ ?_⟩
    obtain ⟨s, hs, rfl⟩ := List.mem_map.1 hspan
    rcases List.mem_append.1 hs with hmem | hgap
    · obtain ⟨note, hnote, rfl⟩ := List.mem_map.1 hmem
      have hfits := h.holds_fit note hnote
      show note.holdLength ≤ _
      omega
    · split at hgap
      · cases List.mem_singleton.1 hgap
        show ((row.reserved + 1).toNat : Int) ≤ _
        omega
      · cases hgap
  have hlower : 0 < row.reserved → row.reserved + 1 ≤ longest ((slotsOf row).map Slot.span) := by
    intro hpos
    refine le_longest (List.mem_map.2 ⟨.gap (row.reserved + 1).toNat, ?_, ?_⟩)
    · rw [slotsOf, if_pos hpos]
      exact List.mem_append_right _ (List.mem_singleton_self _)
    · exact Int.toNat_of_nonneg (by omega)
  rw [reservedBy]
  omega

/-- The slots of a row make the row again. -/
theorem chord_slotsOf {row : Row} (h : row.WellFormed) : chord (slotsOf row) none = row := by
  have hnotes : (slotsOf row).filterMap Slot.note? = row.notes := by
    have hgap (p : Prop) [Decidable p] (span : Nat) :
        (if p then [Slot.gap span] else []).filterMap Slot.note? = [] := by
      split <;> rfl
    rw [slotsOf, List.filterMap_append, hgap, List.append_nil, List.filterMap_map]
    exact List.filterMap_some
  rw [chord, hnotes, reservedBy_longest_slotsOf h]

theorem flat_grouped (n : Nat) : Flat (grouped n) := by
  intro c hc
  rw [grouped, List.mem_cons, List.mem_append, List.mem_singleton] at hc
  obtain rfl | hc | rfl := hc
  · decide
  · have hdigit := isDigit_of_mem_toDigits hc
    exact ⟨ne_of_isDigit hdigit (by decide), ne_of_isDigit hdigit (by decide)⟩
  · decide

theorem Flat.append {front back : List Char} (hfront : Flat front) (hback : Flat back) :
    Flat (front ++ back) :=
  List.forall_mem_append.2 ⟨hfront, hback⟩

theorem Flat.cons {c : Char} (hc : c ≠ '[' ∧ c ≠ ']') (h : Flat text) : Flat (c :: text) :=
  List.forall_mem_cons.2 ⟨hc, h⟩

theorem flat_suffix (length : Nat) : Flat (suffix length) :=
  .cons (by decide) (flat_grouped length)

theorem flat_lane_written (l : Lane) : Flat (l.written capital) := by
  cases l with
  | column index => exact flat_grouped _
  | arrow direction =>
    refine .cons ?_ (List.forall_mem_nil _)
    cases direction <;> cases capital <;> decide

/-- A note has no bracket in it, and so may stand inside a chord. -/
theorem flat_note_written (note : Note) : Flat (note.written capital) := by
  rw [Note.written]
  split
  · exact flat_lane_written note.lane
  · exact .cons (by decide) (flat_lane_written note.lane)
  · exact (flat_lane_written note.lane).append (flat_suffix _)

/-- There are no brackets inside a row, so that its own are found. -/
theorem flat_inside (row : Row) : Flat (row.inside capital) := by
  refine .append ?_ ?_
  · intro c hc
    obtain ⟨note, -, hnote⟩ := List.mem_flatMap.1 hc
    exact flat_note_written note c hnote
  · split
    · exact .cons (by decide) (flat_suffix _)
    · exact List.forall_mem_nil _

/-- **A row** reads back with anything behind it but a hold suffix. -/
theorem rows_written_append {row : Row} (h : row.WellFormed) (hmore : ¬Begins IsHoldMark more) :
    rows (row.written capital ++ more) = (rows more).map (row :: ·) := by
  have hrow : PatternText.row '[' (row.inside capital ++ ']' :: more) = .ok (some row, more) := by
    rw [row_bracket, group_closed (flat_inside row)]
    show (do
      let found ← slots (row.inside capital)
      let held ← holdSuffix more
      return (some (chord found held.1), held.2)) = _
    rw [slots_inside h, holdSuffix_unmarked hmore]
    show Except.ok (some (chord (slotsOf row) none), more) = _
    rw [chord_slotsOf h]
  rw [Row.written, List.cons_append, List.append_assoc, List.singleton_append, rows_cons, hrow]
  rfl

/-- **The rows of a pattern** read back, by induction from row to row. -/
theorem rows_flatMap_written {list : List Row} (h : ∀ row ∈ list, row.WellFormed) :
    rows (list.flatMap (Row.written capital)) = .ok list := by
  induction list with
  | nil => exact rows_nil
  | cons row list ih =>
    obtain ⟨hrow, hlist⟩ := List.forall_mem_cons.1 h
    have hbehind : ¬Begins IsHoldMark (list.flatMap (Row.written capital)) := by
      rcases list with - | ⟨next, list⟩
      · exact not_begins_nil _
      · rw [List.flatMap_cons, Row.written, List.cons_append, begins_cons]
        decide
    rw [List.flatMap_cons, rows_written_append hrow hbehind, ih hlist]
    rfl

end PatternText

/-- **What can be read** are the well-formed rows. Whatever text is read, its rows are well-formed;
and well-formed rows are read from what is written of them, in small letters or in capital ones. -/
theorem wellFormed_of_parse_and_parse_written :
    (∀ (text : String) (pattern : Pattern), Pattern.parse text = .ok pattern →
      ∀ row ∈ pattern.rows, row.WellFormed) ∧
    ∀ (capital : Bool) (pattern : Pattern), (∀ row ∈ pattern.rows, row.WellFormed) →
      Pattern.parse (pattern.written capital) = .ok pattern := by
  constructor
  · intro text pattern hparse
    have hrows : PatternText.Returns (fun pattern : Pattern ↦ ∀ row ∈ pattern.rows, row.WellFormed)
        (Pattern.parse text) :=
      (PatternText.returns_rows text.toList).map fun _ hfound ↦ hfound
    exact hrows pattern hparse
  · intro capital pattern hrows
    rw [Pattern.parse, Pattern.written, String.toList_ofList,
      PatternText.rows_flatMap_written hrows]
    rfl

/-- A hold beside a mine, in a row that reserves more than the hold needs, and a tap. -/
def holdMineTap : Pattern where
  rows :=
    [⟨[⟨.column 11, .hold, 3⟩, ⟨.arrow .up, .mine, 0⟩], 4⟩, ⟨[⟨.column 0, .tap, 0⟩], 0⟩]

/-- A row with a hold, a mine and a tap that reserves more steps than its hold needs, and another
one. -/
theorem parse_holdMineTap_written :
    holdMineTap.written true = "[(12)x(3)mU0x(5)][(1)]" ∧
    Pattern.parse "[(12)x(3)mU0x(5)][(1)]" = .ok holdMineTap ∧
    Pattern.parse "[(12)x3mu0]x51" =
      .ok ⟨[⟨[⟨.column 11, .hold, 51⟩, ⟨.arrow .up, .hold, 51⟩], 50⟩]⟩ ∧
    (∀ row ∈ holdMineTap.rows, row.WellFormed) ∧
    Row.WellFormed ⟨[⟨.column 11, .hold, 51⟩, ⟨.arrow .up, .hold, 51⟩], 50⟩ := by
  have hwritten : holdMineTap.written true = "[(12)x(3)mU0x(5)][(1)]" := by decide +kernel
  have hrows : ∀ row ∈ holdMineTap.rows, row.WellFormed := by decide
  have hparse : Pattern.parse "[(12)x3mu0]x51" =
      .ok ⟨[⟨[⟨.column 11, .hold, 51⟩, ⟨.arrow .up, .hold, 51⟩], 50⟩]⟩ := by
    decide +kernel
  have hread := wellFormed_of_parse_and_parse_written.2 true holdMineTap hrows
  rw [hwritten] at hread
  have hchord := wellFormed_of_parse_and_parse_written.1 _ _ hparse
  exact ⟨hwritten, hread, hparse, hrows, hchord _ List.mem_cons_self⟩

end NoteChart
