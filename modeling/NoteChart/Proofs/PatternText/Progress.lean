import NoteChart.Proofs.Outcome
import NoteChart.Proofs.PatternText.Reading

/-!
# Progress

Two loops read a text, one over its rows and one over the slots of each chord. Both hand on what
they have not read, and neither counts its turns. That they end is up to the reader they repeat: in
every turn it has to find something to take (`slotFrom?_cons`) and to leave less than there was
(`Advances`), also in one that comes to nothing.

`Runs` is such a loop, turn by turn. A run is finite, and to say that a loop ends is to say that it
has one (`Runs.exists_of_cons`). Since a turn takes a character at least, it has no more turns than
the text has characters. For what is gathered on the way the same account is kept by weight: where
the reader gives no more than it takes, the loop does not either (`Runs.returns_sum_le`). So a
pattern is no larger than its text (`reading_advances`). The rows that a hold reserves are a number
in its row, and weigh nothing.
-/

namespace NoteChart.PatternText

variable {α β : Type} {c : Char} {text : List Char}

/-! ### Turns -/

/-- The text is refused, or what is left of it is a suffix and shorter. -/
inductive Advances (text : List Char) : Except Unclosed (α × List Char) → Prop
  | refused (unclosed : Unclosed) : Advances text (.error unclosed)
  | ahead {value : α} {rest : List Char} (hrest : rest <:+ text)
      (hshorter : rest.length < text.length) : Advances text (.ok (value, rest))

/-- A reader that starts behind a character has passed that character at least. -/
theorem Advances.of_leaves {result : Except Unclosed (α × List Char)} (h : Leaves text result) :
    Advances (c :: text) result := by
  rcases result with unclosed | ⟨value, rest⟩
  · exact .refused unclosed
  · have hrest : rest <:+ text := h _ rfl
    exact .ahead (hrest.trans (List.suffix_cons c text)) (Nat.lt_succ_of_le hrest.length_le)

/-- A lane needs a character to be read from. -/
def lanedSlotFrom? (kind : NoteKind) : List Char → Option (Except Unclosed (Slot × List Char))
  | [] => none
  | c :: rest => some (lanedSlot kind c rest)

/-- A slot from a text that may have come to its end, the mark of a mine being taken off before it
is seen what follows. -/
def slotFrom? (text : List Char) : Option (Except Unclosed (Slot × List Char)) :=
  if Begins IsMineMark text then
    if text.tail = [] ∨ Begins (· = '[') text.tail then some (.ok (.skipped, text.tail))
    else lanedSlotFrom? .mine text.tail
  else lanedSlotFrom? .tap text

/-- **A slot** finds its characters, in every text that is not empty. -/
theorem slotFrom?_cons (c : Char) (text : List Char) :
    slotFrom? (c :: text) = some (slot c text) := by
  rcases slotStart c text with hc | hc | @⟨text, hc⟩ | @⟨d, text, hc, hd⟩
  · rw [slotFrom?, if_neg (mt begins_cons.1 hc), slot_of_not_mark hc, lanedSlotFrom?]
  · rw [slotFrom?, if_pos (begins_cons.2 hc), if_pos (.inl rfl), slot_mark_nil hc]
    rfl
  · rw [slotFrom?, if_pos (begins_cons.2 hc), if_pos (.inr (begins_cons.2 rfl)),
      slot_mark_bracket hc]
    rfl
  · have hbehind : ¬(d :: text = [] ∨ Begins (· = '[') (d :: text)) := by
      simpa using hd
    rw [slotFrom?, if_pos (begins_cons.2 hc), List.tail_cons, if_neg hbehind, slot_mark_cons hc hd,
      lanedSlotFrom?]

/-! ### Loops -/

/-- A reader is given the first character apart from the others: there is one. -/
abbrev Reader (α : Type) := Char → List Char → Except Unclosed (α × List Char)

/-- The loop that repeats a reader until nothing is left of the text, or the reader refuses it: the
number of its turns, and what it gathers from the values that are read. -/
inductive Runs (reader : Reader α) (gather : α → List β) :
    List Char → Nat → Except Unclosed (List β) → Prop
  | finished : Runs reader gather [] 0 (.ok [])
  | refused {c : Char} {text : List Char} {unclosed : Unclosed}
      (h : reader c text = .error unclosed) : Runs reader gather (c :: text) 1 (.error unclosed)
  | turn {c : Char} {text rest : List Char} {value : α} {turns : Nat}
      {result : Except Unclosed (List β)} (h : reader c text = .ok (value, rest))
      (hrest : Runs reader gather rest turns result) :
      Runs reader gather (c :: text) (turns + 1) (result.map (gather value ++ ·))

namespace Runs

variable {reader : Reader α} {gather : α → List β} {turns : Nat}
  {result : Except Unclosed (List β)}

/-- **A loop ends**, by induction on the length of what is left. It is given by its equations. -/
theorem exists_of_cons (hreader : ∀ c text, Leaves text (reader c text))
    {loop : List Char → Except Unclosed (List β)} (hnil : loop [] = .ok [])
    (hcons : ∀ c text, loop (c :: text) =
      reader c text >>= fun read ↦ (loop read.2).map (gather read.1 ++ ·))
    (text : List Char) : ∃ turns ≤ text.length, Runs reader gather text turns (loop text) := by
  induction hlength : text.length using Nat.strong_induction_on generalizing text with
  | _ length ih =>
    rcases text with - | ⟨c, text⟩
    · rw [hnil]
      exact ⟨0, Nat.zero_le _, .finished⟩
    rw [List.length_cons] at hlength
    rcases hread : reader c text with unclosed | ⟨value, rest⟩
    · rw [hcons, hread]
      exact ⟨1, by omega, .refused hread⟩
    · have hrest : rest.length ≤ text.length := (hreader c text _ hread).length_le
      obtain ⟨turns, hturns, hrun⟩ := ih rest.length (by omega) rest rfl
      rw [hcons, hread]
      exact ⟨turns + 1, by omega, .turn hread hrun⟩

/-- A loop gathers no more than its turns, if each gives one thing at most. -/
theorem returns_length_le (h : Runs reader gather text turns result)
    (hgather : ∀ value, (gather value).length ≤ 1) :
    Returns (fun found ↦ found.length ≤ turns) result := by
  induction h with
  | finished => exact .ok (Nat.zero_le _)
  | refused => exact .error _
  | @turn c text rest value turns result h _ ih =>
    have hvalue := hgather value
    refine ih.map fun found hfound ↦ ?_
    rw [List.length_append]
    omega

/-- **What a loop gathers** weighs no more than the text, if that is so of each turn. -/
theorem returns_sum_le (h : Runs reader gather text turns result) {weight : β → Nat}
    (hreader : ∀ c text, Returns
      (fun read ↦ ((gather read.1).map weight).sum + read.2.length ≤ text.length + 1)
      (reader c text)) :
    Returns (fun found ↦ (found.map weight).sum ≤ text.length) result := by
  induction h with
  | finished => exact .ok (Nat.zero_le _)
  | refused => exact .error _
  | @turn c text rest value turns result h _ ih =>
    have hturn : ((gather value).map weight).sum + rest.length ≤ text.length + 1 :=
      hreader c text _ h
    refine ih.map fun found hfound ↦ ?_
    rw [List.map_append, List.sum_append, List.length_cons]
    omega

end Runs

/-! ### Chords -/

/-- The loop over slots comes to its end within as many turns as there are characters. -/
theorem exists_runs_slots (text : List Char) :
    ∃ turns ≤ text.length, Runs slot (fun s ↦ [s]) text turns (slots text) :=
  Runs.exists_of_cons leaves_slot slots_nil slots_cons text

/-- No text has more slots than characters. -/
theorem returns_length_slots (text : List Char) :
    Returns (fun found ↦ found.length ≤ text.length) (slots text) := by
  obtain ⟨turns, hturns, hrun⟩ := exists_runs_slots text
  have hlength := hrun.returns_length_le fun _ ↦ Nat.le_refl 1
  exact fun found hfound ↦ (hlength found hfound).trans hturns

/-- A chord has no more notes than slots. -/
theorem length_notes_chord_le (found : List Slot) (hold : Option Nat) :
    (chord found hold).notes.length ≤ found.length := by
  rcases hold with - | length
  · exact List.length_filterMap_le _ _
  · rw [chord, List.length_map]
    exact List.length_filterMap_le _ _

/-! ### Rows -/

theorem exists_runs_rows (text : List Char) :
    ∃ turns ≤ text.length, Runs row Option.toList text turns (rows text) :=
  Runs.exists_of_cons leaves_row rows_nil rows_cons text

theorem returns_length_rows (text : List Char) :
    Returns (fun found ↦ found.length ≤ text.length) (rows text) := by
  obtain ⟨turns, hturns, hrun⟩ := exists_runs_rows text
  have hlength := hrun.returns_length_le fun _ ↦ Option.length_toList_le
  exact fun found hfound ↦ (hlength found hfound).trans hturns

/-- The notes of a row that is read are no more than the characters it takes. -/
theorem returns_length_notes_row (c : Char) (text : List Char) :
    Returns (fun read ↦ (read.1.toList.map (·.notes.length)).sum + read.2.length ≤ text.length + 1)
      (row c text) := by
  by_cases hc : c = '['
  · subst hc
    rw [row_bracket]
    refine Returns.bind (fun _ hgroup ↦ group_length hgroup) fun split hsplit ↦ ?_
    refine (returns_length_slots split.1).bind fun found hfound ↦ ?_
    refine (leaves_holdSuffix split.2).bind fun held hheld ↦ .ok ?_
    have hnotes := length_notes_chord_le found held.1
    have hrest := hheld.length_le
    simp only [Option.toList_some, List.map_cons, List.map_nil, List.sum_singleton]
    omega
  · rw [row_of_ne hc]
    refine (leaves_slot c text).map fun read hread ↦ ?_
    have hrest := hread.length_le
    rcases read with ⟨note | span | -, rest⟩
    · simpa [rowOf, Nat.add_comm] using hrest
    · simpa [rowOf] using Nat.le_succ_of_le hrest
    · simpa [rowOf] using Nat.le_succ_of_le hrest

/-- No text has more notes than characters, all rows taken together. -/
theorem returns_length_notes_rows (text : List Char) :
    Returns (fun found ↦ (found.flatMap (·.notes)).length ≤ text.length) (rows text) := by
  obtain ⟨turns, -, hrun⟩ := exists_runs_rows text
  simpa only [List.length_flatMap] using hrun.returns_sum_le returns_length_notes_row

/-- **Reading gets on, and gives no more than it takes.** A row and a slot that are read from a text
that is not empty leave a shorter suffix of it or refuse it, and a slot never looks for a character
behind the end. So the loops over them have no more turns than the text has characters. A pattern
has no more rows than its text has characters, and no more notes, however long its holds. -/
theorem reading_advances :
    (∀ c text, Advances (c :: text) (row c text)) ∧
    (∀ c text, slotFrom? (c :: text) = some (slot c text) ∧ Advances (c :: text) (slot c text)) ∧
    (∀ text, ∃ turns ≤ text.length, Runs row Option.toList text turns (rows text)) ∧
    (∀ text, ∃ turns ≤ text.length, Runs slot (fun s ↦ [s]) text turns (slots text)) ∧
    ∀ (text : String) (pattern : Pattern), Pattern.parse text = .ok pattern →
      pattern.rows.length ≤ text.length ∧ pattern.noteCount ≤ text.length := by
  refine ⟨fun c text ↦ .of_leaves (leaves_row c text), fun c text ↦ ?_, exists_runs_rows,
    exists_runs_slots, fun text pattern hparse ↦ ?_⟩
  · exact ⟨slotFrom?_cons c text, .of_leaves (leaves_slot c text)⟩
  · obtain ⟨found, hrows, rfl⟩ := exists_of_map_eq_ok hparse
    rw [← String.length_toList]
    exact ⟨returns_length_rows _ found hrows, returns_length_notes_rows _ found hrows⟩

/-- A chord held for a billion rows. -/
def longHold : Pattern where
  rows := [⟨[⟨.column 0, .hold, 1000000000⟩, ⟨.column 1, .hold, 1000000000⟩], 999999999⟩]

/-- A long hold is one row and two notes, however many steps it reserves. -/
theorem reading_advances_longHold :
    Pattern.parse "[12]x1000000000" = .ok longHold ∧ longHold.rowCount = 1000000000 ∧
    longHold.rows.length ≤ "[12]x1000000000".length ∧
    longHold.noteCount ≤ "[12]x1000000000".length := by
  have hparse : Pattern.parse "[12]x1000000000" = .ok longHold := by decide +kernel
  exact ⟨hparse, by decide, reading_advances.2.2.2.2 _ _ hparse⟩

end NoteChart.PatternText
