import NoteChart.Proofs.PatternText.Reading

/-!
# What can be read

Notes and rows have fields that depend on each other: a tap has no length, and a row reserves as
many steps as its longest hold needs. The types do not say so, and a row built by hand need not keep
to it. Reading does. Every row that comes out of a text is `WellFormed`, whatever the text is.

A hold may get its length from a suffix of its own, or from one behind the brackets that overwrites
it, and the longest of all spans in sight is what the row reserves. So the invariant goes with the
slots of a chord (`Slot.WellFormed`), and a chord is well-formed with a suffix and without
(`chord_wellFormed`).
-/

/-- The greatest of some values, started from another, is bounded as all of them are. -/
theorem List.foldl_max_le_iff {values : List Int} {start bound : Int} :
    values.foldl max start ≤ bound ↔ start ≤ bound ∧ ∀ value ∈ values, value ≤ bound := by
  induction values generalizing start with
  | nil => simp
  | cons value rest ih => rw [foldl_cons, ih, forall_mem_cons, max_le_iff, and_assoc]

namespace NoteChart

/-- A column is counted from zero. -/
def Lane.WellFormed : Lane → Prop
  | column index => 0 ≤ index
  | arrow _ => True

/-- Holds have a length, and nothing else has. -/
structure Note.WellFormed (note : Note) : Prop where
  lane : note.lane.WellFormed
  length_pos : note.kind = .hold → 1 ≤ note.holdLength
  length_eq_zero : note.kind ≠ .hold → note.holdLength = 0

/-- The notes of a row are well-formed, and their holds fit into the steps of the row. -/
structure Row.WellFormed (row : Row) : Prop where
  notes : ∀ note ∈ row.notes, note.WellFormed
  reserved_nonneg : 0 ≤ row.reserved
  holds_fit : ∀ note ∈ row.notes, note.holdLength - 1 ≤ row.reserved

instance : DecidablePred Lane.WellFormed
  | .column index => inferInstanceAs (Decidable (0 ≤ index))
  | .arrow _ => inferInstanceAs (Decidable True)

instance : DecidablePred Note.WellFormed := fun note ↦
  decidable_of_iff
    (note.lane.WellFormed ∧ (note.kind = .hold → 1 ≤ note.holdLength) ∧
      (note.kind ≠ .hold → note.holdLength = 0))
    ⟨fun ⟨lane, pos, zero⟩ ↦ ⟨lane, pos, zero⟩, fun h ↦ ⟨h.lane, h.length_pos, h.length_eq_zero⟩⟩

instance : DecidablePred Row.WellFormed := fun row ↦
  decidable_of_iff
    ((∀ note ∈ row.notes, note.WellFormed) ∧ 0 ≤ row.reserved ∧
      ∀ note ∈ row.notes, note.holdLength - 1 ≤ row.reserved)
    ⟨fun ⟨notes, nonneg, fit⟩ ↦ ⟨notes, nonneg, fit⟩,
      fun h ↦ ⟨h.notes, h.reserved_nonneg, h.holds_fit⟩⟩

namespace PatternText

/-! ### Slots -/

theorem holdOf_pos {number : Option Nat} {length : Nat} (h : holdOf number = some length) :
    1 ≤ length := by
  rcases number with - | - | n
  · cases h
  · cases h
  · cases h
    omega

/-- A hold suffix names a length of one row at least, if it names any. -/
theorem returns_holdSuffix (text : List Char) :
    Returns (fun held ↦ ∀ length, held.1 = some length → 1 ≤ length) (holdSuffix text) := by
  have hnone : ∀ length, (none : Option Nat) = some length → 1 ≤ length := by
    rintro length ⟨⟩
  cases holdStart text with
  | unmarked h =>
    rw [holdSuffix_unmarked h]
    exact .ok hnone
  | grouped hx =>
    rw [holdSuffix_grouped hx]
    exact Returns.map (.any _) fun split _ length hlength ↦ holdOf_pos hlength
  | counted hx hne hdigits hrest =>
    rw [holdSuffix_counted hx hne hdigits hrest]
    exact .ok fun length hlength ↦ holdOf_pos hlength
  | bare hx hrest =>
    rw [holdSuffix_bare hx hrest]
    exact .ok hnone

/-- The lane at a place, if there is one, is well-formed. -/
def Place.WellFormed (p : Place) : Prop := ∀ l, p = .lane l → l.WellFormed

/-- A lane that is counted from one has a column; zero is none. -/
theorem Place.wellFormed_ofNumber (number : Option Nat) : (Place.ofNumber number).WellFormed := by
  rintro l hl
  rcases number with - | - | n
  · cases hl
  · cases hl
  · cases hl
    exact Int.natCast_nonneg n

theorem Place.wellFormed_ofLetter (c : Char) : (Place.ofLetter c).WellFormed := by
  intro l hl
  rw [Place.ofLetter] at hl
  split_ifs at hl <;> cases hl <;> trivial

/-- A lane that is read is well-formed, whichever way it is written. -/
theorem returns_place (c : Char) (text : List Char) :
    Returns (fun placed ↦ placed.1.WellFormed) (place c text) := by
  by_cases hc : c = '('
  · subst hc
    rw [place_opener]
    exact Returns.map (.any _) fun split _ ↦ Place.wellFormed_ofNumber split.1
  rw [place, if_neg hc]
  cases Text.asciiDigit? c with
  | none => exact .ok (Place.wellFormed_ofLetter c)
  | some digit => exact .ok (Place.wellFormed_ofNumber (some digit))

/-- The note of a slot, if it has one, is well-formed. -/
def Slot.WellFormed (s : Slot) : Prop := ∀ note, s.note? = some note → note.WellFormed

/-- A slot with a lane and a length, or without, is well-formed, but for holds that are marked as
such. -/
theorem Slot.wellFormed_make {kind : NoteKind} (hkind : kind ≠ .hold) {p : Place}
    (hp : p.WellFormed) {hold : Option Nat} (hhold : ∀ length, hold = some length → 1 ≤ length) :
    (Slot.make kind p hold).WellFormed := by
  intro note hnote
  rcases p with l | - | -
  · have hlane : l.WellFormed := hp l rfl
    rcases hold with - | length <;> cases hnote
    · exact ⟨hlane, fun h ↦ absurd h hkind, fun _ ↦ rfl⟩
    · exact ⟨hlane, fun _ ↦ Int.ofNat_le.2 (hhold length rfl), fun h ↦ absurd rfl h⟩
  · cases hnote
  · cases hnote

theorem returns_lanedSlot {kind : NoteKind} (hkind : kind ≠ .hold) (c : Char) (text : List Char) :
    Returns (fun read ↦ read.1.WellFormed) (lanedSlot kind c text) := by
  rw [lanedSlot_eq]
  refine (returns_place c text).bind fun placed hplaced ↦ ?_
  refine (returns_holdSuffix placed.2).bind fun held hheld ↦ .ok ?_
  exact Slot.wellFormed_make hkind hplaced hheld

/-- **A note** that is read is well-formed. -/
theorem returns_slot (c : Char) (text : List Char) :
    Returns (fun read ↦ read.1.WellFormed) (slot c text) := by
  have hskipped : Slot.skipped.WellFormed := by
    rintro note ⟨⟩
  cases slotStart c text with
  | unmarked hc =>
    rw [slot_of_not_mark hc]
    exact returns_lanedSlot (by decide) c text
  | last hc =>
    rw [slot_mark_nil hc]
    exact .ok hskipped
  | bracket hc =>
    rw [slot_mark_bracket hc]
    exact .ok hskipped
  | @mine d text hc hd =>
    rw [slot_mark_cons hc hd]
    exact returns_lanedSlot (by decide) d text

/-- **The slots of a chord**, by induction from one to the next. -/
theorem returns_slots (text : List Char) :
    Returns (fun found ↦ ∀ s ∈ found, s.WellFormed) (slots text) := by
  induction text using slots.induct with
  | case1 =>
    rw [slots_nil]
    exact .ok (List.forall_mem_nil _)
  | case2 c text unclosed hslot =>
    rw [slots_cons, hslot]
    exact .error unclosed
  | case3 c text first rest hslot ih =>
    have hfirst : first.WellFormed := returns_slot c text _ hslot
    rw [slots_cons, hslot]
    exact Returns.map ih fun found hfound ↦ List.forall_mem_cons.2 ⟨hfirst, hfound⟩

/-! ### Rows -/

theorem longest_le_iff {spans : List Int} {bound : Int} :
    longest spans ≤ bound ↔ 0 ≤ bound ∧ ∀ span ∈ spans, span ≤ bound :=
  List.foldl_max_le_iff

theorem le_longest {spans : List Int} {span : Int} (h : span ∈ spans) : span ≤ longest spans :=
  (longest_le_iff.1 le_rfl).2 span h

/-- A slot reserves steps for its note by the length of that. -/
theorem Slot.span_eq_of_note? {s : Slot} {note : Note} (h : s.note? = some note) :
    s.span = note.holdLength := by
  cases s <;> cases h
  rfl

/-- **A chord** is well-formed if its slots are, with a hold suffix behind it or without. -/
theorem chord_wellFormed {found : List Slot} (hfound : ∀ s ∈ found, s.WellFormed)
    {hold : Option Nat} (hhold : ∀ length, hold = some length → 1 ≤ length) :
    (chord found hold).WellFormed := by
  have hnotes (note : Note) (hnote : note ∈ found.filterMap Slot.note?) :
      note.WellFormed ∧ note.holdLength ≤ longest (found.map Slot.span) := by
    obtain ⟨s, hs, hsnote⟩ := List.mem_filterMap.1 hnote
    refine ⟨hfound s hs note hsnote, le_longest ?_⟩
    exact List.mem_map.2 ⟨s, hs, Slot.span_eq_of_note? hsnote⟩
  rcases hold with - | length
  · refine ⟨fun note hnote ↦ (hnotes note hnote).1, le_max_left _ _, fun note hnote ↦ ?_⟩
    have hspan := (hnotes note hnote).2
    exact le_max_of_le_right (by omega)
  · have hlength : (1 : Int) ≤ length := Int.ofNat_le.2 (hhold length rfl)
    -- all notes become holds of this length, and their lanes stay
    have hholds (note : Note)
        (hnote : note ∈ (found.filterMap Slot.note?).map (Note.asHold length)) :
        note.WellFormed ∧ note.holdLength = length := by
      obtain ⟨source, hsource, rfl⟩ := List.mem_map.1 hnote
      exact ⟨⟨(hnotes source hsource).1.lane, fun _ ↦ hlength, fun h ↦ absurd rfl h⟩, rfl⟩
    refine ⟨fun note hnote ↦ (hholds note hnote).1, le_max_left _ _, fun note hnote ↦ ?_⟩
    have hspan := (hholds note hnote).2
    have hmax := le_max_right (longest (found.map Slot.span)) (length : Int)
    exact le_max_of_le_right (by omega)

theorem rowOf_wellFormed {s : Slot} (hs : s.WellFormed) {row : Row} (hrow : rowOf s = some row) :
    row.WellFormed := by
  rcases s with note | span | -
  · cases hrow
    have hnote : note.WellFormed := hs note rfl
    refine ⟨by simpa using hnote, le_max_left _ _, ?_⟩
    simp [reservedBy]
  · cases hrow
    exact ⟨List.forall_mem_nil _, le_max_left _ _, List.forall_mem_nil _⟩
  · cases hrow

/-- **A row** that is read is well-formed. -/
theorem returns_row (c : Char) (text : List Char) :
    Returns (fun read ↦ ∀ found, read.1 = some found → found.WellFormed) (row c text) := by
  by_cases hc : c = '['
  · subst hc
    rw [row_bracket]
    refine Returns.bind (.any _) fun split _ ↦ ?_
    refine (returns_slots split.1).bind fun found hfound ↦ ?_
    refine (returns_holdSuffix split.2).bind fun held hheld ↦ .ok ?_
    rintro _ ⟨⟩
    exact chord_wellFormed hfound hheld
  · rw [row_of_ne hc]
    exact (returns_slot c text).map fun read hread found ↦ rowOf_wellFormed hread

/-- **The rows of a text**, by induction from one to the next. -/
theorem returns_rows (text : List Char) :
    Returns (fun found ↦ ∀ row ∈ found, row.WellFormed) (rows text) := by
  induction text using rows.induct with
  | case1 =>
    rw [rows_nil]
    exact .ok (List.forall_mem_nil _)
  | case2 c text unclosed hrow =>
    rw [rows_cons, hrow]
    exact .error unclosed
  | case3 c text first rest hrow ih =>
    have hfirst := returns_row c text _ hrow
    rw [rows_cons, hrow]
    refine Returns.map ih fun found hfound row hmem ↦ ?_
    rcases List.mem_append.1 hmem with hrowmem | hrest
    · exact hfirst row (Option.mem_toList.1 hrowmem)
    · exact hfound row hrest

end PatternText

end NoteChart
