import NoteChart.Proofs.PatternText.Reading

/-!
# Which texts are read

Reading a text goes from group to group, and looks for the end of each in all that follows. Whether
it succeeds can be told without that, by a scan that takes one character after another and remembers
only what is open (`Enclosure`). `parse_eq_scan` says that the two agree, in their refusals as well.

The proof follows the readers. Each of them hands on a rest, and scanning the text comes to scanning
that rest, or ends with the refusal of the reader. In this form (`scan_slot`, `scan_row`) one reader
after another is a matter of binds. The inside of brackets is the one part that is read as a text of
its own. There are no brackets in it, so the scan goes through it as it would outside, only with a
bracket open as well (`Enclosure.inBracket`).
-/

namespace NoteChart.PatternText

/-- What is open at a place in a text. -/
inductive Enclosure
  /-- Nothing. -/
  | top
  /-- A parenthesis. -/
  | paren
  /-- A bracket. -/
  | bracket
  /-- A parenthesis in a bracket. -/
  | bracketParen
deriving DecidableEq

namespace Enclosure

/-- What is open behind a character. A parenthesis has to be closed before its bracket is, and
before another bracket is opened. -/
def step : Enclosure → Char → Except Unclosed Enclosure
  | top, c => .ok (if c = '[' then bracket else if c = '(' then paren else top)
  | paren, c => .ok (if c = ')' then top else paren)
  | bracket, c => .ok (if c = ']' then top else if c = '(' then bracketParen else bracket)
  | bracketParen, c =>
    if c = '[' ∨ c = ']' then .error .parenthesis
    else .ok (if c = ')' then bracket else bracketParen)

/-- The end of a text. -/
def finish : Enclosure → Except Unclosed Unit
  | top => .ok ()
  | paren => .error .parenthesis
  | bracket | bracketParen => .error .bracket

/-- Looks through a text for a group that nothing closes. -/
def scan : Enclosure → List Char → Except Unclosed Unit
  | state, [] => state.finish
  | state, c :: text => state.step c >>= (scan · text)

variable {state : Enclosure} {c : Char} {text inside rest : List Char}

theorem scan_cons (state : Enclosure) (c : Char) (text : List Char) :
    state.scan (c :: text) = state.step c >>= (scan · text) :=
  rfl

/-- One character. -/
theorem scan_cons_of_step {next : Enclosure} (h : state.step c = .ok next) :
    state.scan (c :: text) = next.scan text := by
  rw [scan_cons, h]
  rfl

/-- Characters that change nothing. -/
theorem scan_append_of_step (h : ∀ c ∈ inside, state.step c = .ok state) :
    state.scan (inside ++ rest) = state.scan rest := by
  induction inside with
  | nil => rfl
  | cons c inside ih =>
    obtain ⟨hc, hinside⟩ := List.forall_mem_cons.1 h
    rw [List.cons_append, scan_cons_of_step hc, ih hinside]

theorem step_top_of_ne (hbracket : c ≠ '[') (hparen : c ≠ '(') : top.step c = .ok top := by
  rw [step, if_neg hbracket, if_neg hparen]

theorem scan_top_opener (text : List Char) : top.scan ('(' :: text) = paren.scan text := rfl

theorem scan_top_bracket (text : List Char) : top.scan ('[' :: text) = bracket.scan text := rfl

/-! ### Parentheses -/

private theorem map_bind {α β γ : Type} (result : Except Unclosed α) (f : α → β)
    (next : β → Except Unclosed γ) :
    result.map f >>= next = result >>= fun value ↦ next (f value) := by
  cases result <;> rfl

/-- A group in parentheses that is cut short leaves a text that begins with another one, so that it
makes no difference to the scan. -/
theorem scan_paren (text : List Char) :
    paren.scan text = group '(' ')' .parenthesis text >>= fun split ↦ top.scan split.2 := by
  have hkeep {inside : List Char} (h : ∀ c ∈ inside, c ≠ '(' ∧ c ≠ ')') :
      ∀ c ∈ inside, paren.step c = .ok paren := by
    intro c hc
    rw [step, if_neg (h c hc).2]
  cases groupEnd '(' ')' text with
  | closed h =>
    rw [group_closed h, scan_append_of_step (hkeep h)]
    rfl
  | cut h =>
    rw [group_cut (by decide) h, scan_append_of_step (hkeep h)]
    rfl
  | missing h =>
    have hend : paren.scan (text ++ []) = paren.scan [] := scan_append_of_step (hkeep h)
    rw [List.append_nil] at hend
    rw [group_missing h, hend]
    rfl

/-- The scan passes a number in parentheses as the reader does. -/
theorem scan_groupedNumber (text : List Char) :
    top.scan ('(' :: text) = groupedNumber text >>= fun split ↦ top.scan split.2 := by
  rw [scan_top_opener, scan_paren, groupedNumber, map_bind]

theorem step_top_of_isHoldMark (hc : IsHoldMark c) : top.step c = .ok top := by
  obtain rfl | rfl := hc <;> rfl

theorem step_top_of_isMineMark (hc : IsMineMark c) : top.step c = .ok top := by
  obtain rfl | rfl := hc <;> rfl

theorem step_top_of_isDigit (hc : IsDigit c) : top.step c = .ok top := by
  have hbracket : c ≠ '[' := ne_of_isDigit hc (by decide)
  have hparen : c ≠ '(' := ne_of_isDigit hc (by decide)
  exact step_top_of_ne hbracket hparen

/-- The scan passes the suffix of a hold as the reader does, and is not misled by a mark that is
none. -/
theorem scan_holdSuffix (text : List Char) :
    top.scan text = holdSuffix text >>= fun held ↦ top.scan held.2 := by
  cases holdStart text with
  | unmarked h =>
    rw [holdSuffix_unmarked h]
    rfl
  | grouped hx =>
    rw [holdSuffix_grouped hx, scan_cons_of_step (step_top_of_isHoldMark hx), scan_groupedNumber,
      map_bind]
  | counted hx hne hdigits hrest =>
    rw [holdSuffix_counted hx hne hdigits hrest, scan_cons_of_step (step_top_of_isHoldMark hx),
      scan_append_of_step fun d hd ↦ step_top_of_isDigit (hdigits d hd)]
    rfl
  | bare hx hrest =>
    rw [holdSuffix_bare hx hrest]
    rfl

/-- The scan passes a lane as the reader does. -/
theorem scan_place (hc : c ≠ '[') (text : List Char) :
    top.scan (c :: text) = place c text >>= fun placed ↦ top.scan placed.2 := by
  by_cases hparen : c = '('
  · subst hparen
    rw [place_opener, scan_groupedNumber, map_bind]
  · obtain ⟨p, hp⟩ := exists_place hparen
    rw [hp, scan_cons_of_step (step_top_of_ne hc hparen)]
    rfl

theorem scan_lanedSlot (kind : NoteKind) (hc : c ≠ '[') (text : List Char) :
    top.scan (c :: text) = lanedSlot kind c text >>= fun read ↦ top.scan read.2 := by
  rw [scan_place hc, lanedSlot_eq, bind_assoc]
  refine bind_congr fun placed ↦ ?_
  rw [scan_holdSuffix, bind_assoc]
  rfl

/-- **A note.** -/
theorem scan_slot (hc : c ≠ '[') (text : List Char) :
    top.scan (c :: text) = slot c text >>= fun read ↦ top.scan read.2 := by
  cases slotStart c text with
  | unmarked hmark => rw [slot_of_not_mark hmark, scan_lanedSlot .tap hc]
  | last hmark =>
    rw [slot_mark_nil hmark, scan_cons_of_step (step_top_of_isMineMark hmark)]
    rfl
  | bracket hmark =>
    rw [slot_mark_bracket hmark, scan_cons_of_step (step_top_of_isMineMark hmark)]
    rfl
  | mine hmark hd =>
    rw [slot_mark_cons hmark hd, scan_cons_of_step (step_top_of_isMineMark hmark),
      scan_lanedSlot .mine hd]

/-! ### Brackets -/

/-- **The slots of a chord**, by induction from one slot to the next. -/
theorem scan_slots (h : Flat text) : top.scan text = (slots text).map fun _ ↦ () := by
  induction text using slots.induct with
  | case1 =>
    rw [slots_nil]
    rfl
  | case2 c text unclosed hslot =>
    rw [scan_slot (h c List.mem_cons_self).1, slots_cons, hslot]
    rfl
  | case3 c text found rest hslot ih =>
    have hrest : Flat rest := fun d hd ↦
      h d (List.mem_cons_of_mem c ((leaves_slot c text _ hslot).subset hd))
    rw [scan_slot (h c List.mem_cons_self).1, slots_cons, hslot]
    show top.scan rest = ((slots rest).map (found :: ·)).map fun _ ↦ ()
    rw [ih hrest]
    cases slots rest <;> rfl

/-- The same with a bracket open. -/
def inBracket : Enclosure → Enclosure
  | top | bracket => bracket
  | paren | bracketParen => bracketParen

/-- What a character does outside of brackets it does inside. -/
theorem exists_step_inBracket (hstate : state = top ∨ state = paren)
    (hc : c ≠ '[' ∧ c ≠ ']') :
    ∃ next, (next = top ∨ next = paren) ∧ state.step c = .ok next ∧
      state.inBracket.step c = .ok next.inBracket := by
  obtain rfl | rfl := hstate
  · by_cases hparen : c = '('
    · subst hparen
      exact ⟨paren, .inr rfl, rfl, rfl⟩
    · exact ⟨top, .inl rfl, by simp [step, hc, hparen], by simp [step, inBracket, hc, hparen]⟩
  · by_cases hparen : c = ')'
    · subst hparen
      exact ⟨top, .inl rfl, rfl, rfl⟩
    · exact ⟨paren, .inr rfl, by simp [step, hparen], by simp [step, inBracket, hc, hparen]⟩

/-- The inside of a bracket is scanned as a text of its own, up to the bracket that ends it. -/
theorem scan_inBracket (hstate : state = top ∨ state = paren) (hinside : Flat inside)
    (hrest : Begins (fun c ↦ c = '[' ∨ c = ']') rest) :
    state.inBracket.scan (inside ++ rest) = state.scan inside >>= fun _ ↦ bracket.scan rest := by
  induction inside generalizing state with
  | nil =>
    obtain rfl | rfl := hstate
    · rfl
    · rcases rest with - | ⟨c, rest⟩
      · exact absurd hrest (not_begins_nil _)
      · obtain rfl | rfl := begins_cons.1 hrest <;> rfl
  | cons c inside ih =>
    obtain ⟨hc, hinside⟩ := List.forall_mem_cons.1 hinside
    obtain ⟨next, hnext, hstep, hstepIn⟩ := exists_step_inBracket hstate hc
    rw [List.cons_append, scan_cons_of_step hstepIn, scan_cons_of_step hstep, ih hnext hinside]

/-- A bracket that nothing follows but flat text is never closed. -/
theorem scan_inBracket_of_flat (hstate : state = top ∨ state = paren) (h : Flat text) :
    state.inBracket.scan text = .error .bracket := by
  induction text generalizing state with
  | nil => obtain rfl | rfl := hstate <;> rfl
  | cons c text ih =>
    obtain ⟨hc, htext⟩ := List.forall_mem_cons.1 h
    obtain ⟨next, hnext, -, hstepIn⟩ := exists_step_inBracket hstate hc
    rw [scan_cons_of_step hstepIn, ih hnext htext]

/-- The scan goes through a chord as the reader does: the group is taken first, and then its
slots. -/
theorem scan_bracket (text : List Char) :
    bracket.scan text = (do
      let split ← group '[' ']' .bracket text
      let _ ← slots split.1
      top.scan split.2) := by
  have hslots (inside : List Char) (h : Flat inside) (result : Except Unclosed Unit) :
      (top.scan inside >>= fun _ ↦ result) = (slots inside >>= fun _ ↦ result) := by
    rw [scan_slots h]
    cases slots inside <;> rfl
  cases groupEnd '[' ']' text with
  | @closed inside rest h =>
    have hscan : bracket.scan (inside ++ ']' :: rest) =
        top.scan inside >>= fun _ ↦ bracket.scan (']' :: rest) :=
      scan_inBracket (.inl rfl) h (begins_cons.2 (.inr rfl))
    rw [group_closed h]
    exact hscan.trans (hslots inside h _)
  | @cut inside rest h =>
    have hscan : bracket.scan (inside ++ '[' :: rest) =
        top.scan inside >>= fun _ ↦ bracket.scan ('[' :: rest) :=
      scan_inBracket (.inl rfl) h (begins_cons.2 (.inl rfl))
    rw [group_cut (by decide) h]
    exact hscan.trans (hslots inside h _)
  | missing h =>
    rw [group_missing h]
    exact scan_inBracket_of_flat (.inl rfl) h

/-! ### Rows -/

/-- **A row.** -/
theorem scan_row (c : Char) (text : List Char) :
    top.scan (c :: text) = row c text >>= fun read ↦ top.scan read.2 := by
  by_cases hc : c = '['
  · subst hc
    rw [scan_top_bracket, scan_bracket, row_bracket]
    simp only [bind_assoc, pure_bind]
    refine bind_congr fun split ↦ bind_congr fun _ ↦ ?_
    exact scan_holdSuffix split.2
  · rw [scan_slot hc, row_of_ne hc, map_bind]

/-- **The rows of a text**, by induction from one row to the next. -/
theorem scan_rows (text : List Char) : top.scan text = (rows text).map fun _ ↦ () := by
  induction text using rows.induct with
  | case1 =>
    rw [rows_nil]
    rfl
  | case2 c text unclosed hrow =>
    rw [scan_row, rows_cons, hrow]
    rfl
  | case3 c text found rest hrow ih =>
    rw [scan_row, rows_cons, hrow]
    show top.scan rest = ((rows rest).map (found.toList ++ ·)).map fun _ ↦ ()
    rw [ih]
    cases rows rest <;> rfl

end Enclosure

/-- **Which texts are read.** A text is read or refused as the scan says, and for the same
reason. -/
theorem parse_eq_scan (text : String) :
    (Pattern.parse text).map (fun _ ↦ ()) = Enclosure.top.scan text.toList := by
  rw [Enclosure.scan_rows, Pattern.parse]
  cases rows text.toList <;> rfl

end NoteChart.PatternText
