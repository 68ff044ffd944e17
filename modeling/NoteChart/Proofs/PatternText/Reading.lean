import Mathlib.Tactic
import NoteChart.PatternText

/-!
# How a text is read

Two things in the notation look far ahead: a group, whose end may be anywhere, and a hold suffix,
whose number may have any length. For both there is a list of the ways in which a text can go on
(`GroupEnd`, `HoldStart`), complete by `groupEnd` and `holdStart`, and one equation of the reader
for each way. The mark of a mine, which looks one character ahead, has its list as well
(`SlotStart`). Whatever is proved about texts is proved along these lists, and no later proof opens
one of the readers.

The other readers are put together from these, and hand on what they do not take. That this is a
suffix of what they were given (`Leaves`) goes through a whole reader bind by bind.
-/

namespace NoteChart.PatternText

/-! ### Characters -/

/-- The mark in front of the length of a hold. -/
abbrev IsHoldMark (c : Char) : Prop := c = 'x' ∨ c = 'X'

/-- The mark in front of the lane of a mine. -/
abbrev IsMineMark (c : Char) : Prop := c = 'm' ∨ c = 'M'

/-- One of the digits `0` to `9`. -/
abbrev IsDigit (c : Char) : Prop := (Text.asciiDigit? c).isSome

theorem ne_of_isDigit {c d : Char} (hc : IsDigit c) (hd : ¬IsDigit d) : c ≠ d := by
  rintro rfl
  exact hd hc

theorem ne_bracket_of_isMineMark {c : Char} (hc : IsMineMark c) : c ≠ '[' := by
  rintro rfl
  revert hc
  decide

/-- The text has a first character, and it is of the kind. -/
def Begins (kind : Char → Prop) (text : List Char) : Prop := ∃ c ∈ text.head?, kind c

@[simp]
theorem not_begins_nil (kind : Char → Prop) : ¬Begins kind [] := by
  simp [Begins]

@[simp]
theorem begins_cons {kind : Char → Prop} {c : Char} {text : List Char} :
    Begins kind (c :: text) ↔ kind c := by
  simp [Begins]

instance (kind : Char → Prop) [DecidablePred kind] : DecidablePred (Begins kind)
  | [] => isFalse (not_begins_nil kind)
  | _ :: _ => decidable_of_iff _ begins_cons.symm

/-! ### Groups -/

/-- The ways in which the text behind an opener can go on: to a closer, to another opener, or to
neither of them. -/
inductive GroupEnd (opener closer : Char) : List Char → Prop
  | closed {inside rest : List Char} (h : ∀ c ∈ inside, c ≠ opener ∧ c ≠ closer) :
      GroupEnd opener closer (inside ++ closer :: rest)
  | cut {inside rest : List Char} (h : ∀ c ∈ inside, c ≠ opener ∧ c ≠ closer) :
      GroupEnd opener closer (inside ++ opener :: rest)
  | missing {text : List Char} (h : ∀ c ∈ text, c ≠ opener ∧ c ≠ closer) :
      GroupEnd opener closer text

/-- A group ends in one of the three ways, by induction on the text behind the opener. -/
theorem groupEnd (opener closer : Char) (text : List Char) : GroupEnd opener closer text := by
  induction text with
  | nil => exact .missing (by simp)
  | cons c text ih =>
    by_cases hcloser : c = closer
    · subst hcloser
      exact .closed (List.forall_mem_nil _)
    by_cases hopener : c = opener
    · subst hopener
      exact .cut (List.forall_mem_nil _)
    have hcons {inside : List Char} (h : ∀ d ∈ inside, d ≠ opener ∧ d ≠ closer) :
        ∀ d ∈ c :: inside, d ≠ opener ∧ d ≠ closer :=
      List.forall_mem_cons.2 ⟨⟨hopener, hcloser⟩, h⟩
    cases ih with
    | closed h => exact .closed (hcons h)
    | cut h => exact .cut (hcons h)
    | missing h => exact .missing (hcons h)

/-- A text without brackets, such as the inside of a chord is. -/
def Flat (text : List Char) : Prop := ∀ c ∈ text, c ≠ '[' ∧ c ≠ ']'

section Groups

variable {opener closer : Char} {unclosed : Unclosed} {inside rest : List Char}

/-- Nothing in front of the end of a group matters to where it is. -/
theorem splitGroup?_append (h : ∀ c ∈ inside, c ≠ opener ∧ c ≠ closer) (text : List Char) :
    splitGroup? opener closer (inside ++ text) =
      (splitGroup? opener closer text).map fun split ↦ (inside ++ split.1, split.2) := by
  induction inside with
  | nil => simp
  | cons c inside ih =>
    obtain ⟨⟨hopener, hcloser⟩, hinside⟩ := List.forall_mem_cons.1 h
    rw [List.cons_append, splitGroup?, if_neg hcloser, if_neg hopener, ih hinside, Option.map_map]
    rfl

/-- A group ends at a closer, and what follows the closer is left. -/
theorem group_closed (h : ∀ c ∈ inside, c ≠ opener ∧ c ≠ closer) :
    group opener closer unclosed (inside ++ closer :: rest) = .ok (inside, rest) := by
  simp [group, splitGroup?_append h, splitGroup?]

/-- A group ends in front of a second opener, which is left. -/
theorem group_cut (hne : opener ≠ closer) (h : ∀ c ∈ inside, c ≠ opener ∧ c ≠ closer) :
    group opener closer unclosed (inside ++ opener :: rest) = .ok (inside, opener :: rest) := by
  simp [group, splitGroup?_append h, splitGroup?, hne]

/-- A group without an end is refused. -/
theorem group_missing {text : List Char} (h : ∀ c ∈ text, c ≠ opener ∧ c ≠ closer) :
    group opener closer unclosed text = .error unclosed := by
  have hsplit := splitGroup?_append h []
  rw [List.append_nil] at hsplit
  rw [group, hsplit]
  rfl

end Groups

/-! ### Hold suffixes -/

/-- The ways in which a text can begin as far as a hold suffix goes: with no mark, with a mark and a
number in parentheses, with a mark and digits, or with a mark that neither follows. -/
inductive HoldStart : List Char → Prop
  | unmarked {text : List Char} (h : ¬Begins IsHoldMark text) : HoldStart text
  | grouped {x : Char} {text : List Char} (hx : IsHoldMark x) : HoldStart (x :: '(' :: text)
  | counted {x : Char} {digits rest : List Char} (hx : IsHoldMark x) (hne : digits ≠ [])
      (hdigits : ∀ d ∈ digits, IsDigit d) (hrest : ¬Begins IsDigit rest) :
      HoldStart (x :: (digits ++ rest))
  | bare {x : Char} {rest : List Char} (hx : IsHoldMark x)
      (hrest : ¬Begins (fun c ↦ IsDigit c ∨ c = '(') rest) : HoldStart (x :: rest)

/-- A text is digits and something that does not begin with one. -/
theorem exists_digits (text : List Char) :
    ∃ digits rest, text = digits ++ rest ∧ (∀ d ∈ digits, IsDigit d) ∧ ¬Begins IsDigit rest := by
  induction text with
  | nil => exact ⟨[], [], rfl, by simp, not_begins_nil _⟩
  | cons c text ih =>
    by_cases hc : IsDigit c
    · obtain ⟨digits, rest, rfl, hdigits, hrest⟩ := ih
      exact ⟨c :: digits, rest, rfl, List.forall_mem_cons.2 ⟨hc, hdigits⟩, hrest⟩
    · exact ⟨[], c :: text, rfl, by simp, by simpa using hc⟩

/-- Every text begins in one of the four ways. -/
theorem holdStart (text : List Char) : HoldStart text := by
  by_cases hmark : Begins IsHoldMark text
  swap
  · exact .unmarked hmark
  rcases text with - | ⟨x, text⟩
  · exact absurd hmark (not_begins_nil _)
  have hx : IsHoldMark x := begins_cons.1 hmark
  by_cases hopener : Begins (· = '(') text
  · rcases text with - | ⟨c, text⟩
    · exact absurd hopener (not_begins_nil _)
    · cases begins_cons.1 hopener
      exact .grouped hx
  obtain ⟨digits, rest, rfl, hdigits, hrest⟩ := exists_digits text
  by_cases hne : digits = []
  · subst hne
    refine .bare hx ?_
    rintro ⟨c, hc, hdigit | hparen⟩
    · exact hrest ⟨c, hc, hdigit⟩
    · exact hopener ⟨c, hc, hparen⟩
  · exact .counted hx hne hdigits hrest

section HoldSuffix

variable {x : Char} {text digits rest : List Char}

theorem takeWhile_digits (hdigits : ∀ d ∈ digits, IsDigit d) (hrest : ¬Begins IsDigit rest) :
    (digits ++ rest).takeWhile (Text.asciiDigit? · |>.isSome) = digits := by
  rw [List.takeWhile_append_of_pos hdigits]
  rcases rest with - | ⟨c, rest⟩
  · simp
  · have hc : (Text.asciiDigit? c).isSome = false := by simpa using hrest
    simp [hc]

theorem dropWhile_digits (hdigits : ∀ d ∈ digits, IsDigit d) (hrest : ¬Begins IsDigit rest) :
    (digits ++ rest).dropWhile (Text.asciiDigit? · |>.isSome) = rest := by
  rw [List.dropWhile_append_of_pos hdigits]
  rcases rest with - | ⟨c, rest⟩
  · rfl
  · have hc : (Text.asciiDigit? c).isSome = false := by simpa using hrest
    simp [hc]

/-- Without a mark there is no suffix, and nothing is taken. -/
theorem holdSuffix_unmarked (h : ¬Begins IsHoldMark text) : holdSuffix text = .ok (none, text) := by
  rw [holdSuffix.eq_def]
  split
  · rw [if_neg (mt begins_cons.2 h)]
  · rw [if_neg (mt begins_cons.2 h)]
  · rfl

/-- Behind a mark a parenthesis opens a number, and both are taken. -/
theorem holdSuffix_grouped (hx : IsHoldMark x) :
    holdSuffix (x :: '(' :: text) =
      (groupedNumber text).map fun split ↦ (holdOf split.1, split.2) := by
  rw [holdSuffix, if_pos hx]

/-- Behind a mark digits are a number, and both are taken. -/
theorem holdSuffix_counted (hx : IsHoldMark x) (hne : digits ≠ [])
    (hdigits : ∀ d ∈ digits, IsDigit d) (hrest : ¬Begins IsDigit rest) :
    holdSuffix (x :: (digits ++ rest)) = .ok (holdOf (Text.asciiNumber? digits), rest) := by
  obtain ⟨d, more, rfl⟩ := List.exists_cons_of_ne_nil hne
  -- what follows the mark is a digit, so it is not an opener
  have hopener (text : List Char) (heq : d :: more ++ rest = '(' :: text) : False := by
    obtain ⟨rfl, -⟩ := List.cons.inj heq
    exact ne_of_isDigit (hdigits _ List.mem_cons_self) (by decide) rfl
  rw [holdSuffix.eq_2 _ _ hopener, if_pos hx, takeWhile_digits hdigits hrest,
    dropWhile_digits hdigits hrest]

/-- A mark that no number follows is no suffix and stays where it is. -/
theorem holdSuffix_bare (hx : IsHoldMark x)
    (hrest : ¬Begins (fun c ↦ IsDigit c ∨ c = '(') rest) :
    holdSuffix (x :: rest) = .ok (none, x :: rest) := by
  have hopener (text : List Char) (heq : rest = '(' :: text) : False := by
    subst heq
    exact hrest (begins_cons.2 (.inr rfl))
  have hdigit : ¬Begins IsDigit rest := fun ⟨c, hc, hdigit⟩ ↦ hrest ⟨c, hc, .inl hdigit⟩
  have hnone := takeWhile_digits (List.forall_mem_nil _) hdigit
  rw [List.nil_append] at hnone
  rw [holdSuffix.eq_2 _ _ hopener, if_pos hx, hnone]

end HoldSuffix

/-! ### The loops, step by step -/

theorem slots_nil : slots [] = .ok [] := by
  rw [slots]

/-- The slots of a text are the first one and those of what it leaves. -/
theorem slots_cons (c : Char) (text : List Char) :
    slots (c :: text) = slot c text >>= fun read ↦ (slots read.2).map (read.1 :: ·) := by
  rw [slots]
  split <;> rename_i h <;> rw [h] <;> rfl

theorem rows_nil : rows [] = .ok [] := by
  rw [rows]

/-- The rows of a text are the first one, if it is any, and those of what it leaves. -/
theorem rows_cons (c : Char) (text : List Char) :
    rows (c :: text) = row c text >>= fun read ↦ (rows read.2).map (read.1.toList ++ ·) := by
  rw [rows]
  split <;> rename_i h <;> rw [h] <;> rfl

/-! ### What is returned -/

variable {α β : Type}

/-- Whatever is returned has the property. -/
def Returns (good : α → Prop) (result : Except Unclosed α) : Prop :=
  ∀ value, result = .ok value → good value

namespace Returns

variable {good : α → Prop} {better : β → Prop} {result : Except Unclosed α}

theorem ok {value : α} (h : good value) : Returns good (.ok value) := by
  rintro _ ⟨⟩
  exact h

theorem error (unclosed : Unclosed) : Returns good (.error unclosed) := by
  rintro _ ⟨⟩

/-- What is returned may be changed, if the change keeps to what is promised. -/
theorem map (h : Returns good result) {f : α → β} (hf : ∀ value, good value → better (f value)) :
    Returns better (result.map f) := by
  cases result with
  | error unclosed => exact .error unclosed
  | ok value => exact .ok (hf value (h value rfl))

/-- A second step may rely on what is promised of the first. -/
theorem bind (h : Returns good result) {next : α → Except Unclosed β}
    (hnext : ∀ value, good value → Returns better (next value)) :
    Returns better (result >>= next) := by
  cases result with
  | error unclosed => exact .error unclosed
  | ok value => exact hnext value (h value rfl)

/-- Nothing is claimed of what is returned. -/
theorem any (result : Except Unclosed α) : Returns (fun _ ↦ True) result :=
  fun _ _ ↦ trivial

end Returns

/-- What is left over is a suffix of the text. -/
def Leaves (text : List Char) (result : Except Unclosed (α × List Char)) : Prop :=
  Returns (fun read ↦ read.2 <:+ text) result

/-- Reading a group leaves a suffix of the text: what is behind a closer, or a second opener and
what is behind that. -/
theorem leaves_group {opener closer : Char} {unclosed : Unclosed} (hne : opener ≠ closer)
    (text : List Char) : Leaves text (group opener closer unclosed text) := by
  cases groupEnd opener closer text with
  | closed h =>
    rw [group_closed h]
    exact .ok ((List.suffix_cons closer _).trans (List.suffix_append _ _))
  | cut h =>
    rw [group_cut hne h]
    exact .ok (List.suffix_append _ _)
  | missing h =>
    rw [group_missing h]
    exact .error unclosed

theorem leaves_groupedNumber (text : List Char) : Leaves text (groupedNumber text) :=
  Returns.map (leaves_group (by decide) text) fun _ h ↦ h

/-- The suffix of a hold leaves a suffix of the text, all of it where there is none. -/
theorem leaves_holdSuffix (text : List Char) : Leaves text (holdSuffix text) := by
  cases holdStart text with
  | unmarked h =>
    rw [holdSuffix_unmarked h]
    exact .ok List.suffix_rfl
  | @grouped x text hx =>
    rw [holdSuffix_grouped hx]
    refine Returns.map (leaves_groupedNumber text) fun split hsplit ↦ ?_
    exact hsplit.trans ⟨[x, '('], rfl⟩
  | @counted x digits rest hx hne hdigits hrest =>
    rw [holdSuffix_counted hx hne hdigits hrest]
    exact .ok ⟨x :: digits, rfl⟩
  | bare hx hrest =>
    rw [holdSuffix_bare hx hrest]
    exact .ok List.suffix_rfl

/-- Behind a parenthesis stands the number of a lane. -/
theorem place_opener (text : List Char) :
    place '(' text = (groupedNumber text).map fun split ↦ (.ofNumber split.1, split.2) := by
  rw [place, if_pos rfl]

/-- All but a parenthesis is one character, and what follows it does not matter. -/
theorem exists_place {c : Char} (hc : c ≠ '(') : ∃ p, ∀ text, place c text = .ok (p, text) := by
  rcases hdigit : Text.asciiDigit? c with - | digit
  · exact ⟨.ofLetter c, fun text ↦ by simp [place, hc, hdigit]⟩
  · exact ⟨.ofNumber (some digit), fun text ↦ by simp [place, hc, hdigit]⟩

/-- What names a lane leaves a suffix of the text behind its first character. -/
theorem leaves_place (c : Char) (text : List Char) : Leaves text (place c text) := by
  by_cases hc : c = '('
  · subst hc
    rw [place_opener]
    exact Returns.map (leaves_groupedNumber text) fun _ h ↦ h
  · obtain ⟨p, hp⟩ := exists_place hc
    rw [hp]
    exact .ok List.suffix_rfl

/-- A slot with a lane is read in two steps: the lane, and what may hold it. -/
theorem lanedSlot_eq (kind : NoteKind) (c : Char) (text : List Char) :
    lanedSlot kind c text = (do
      let placed ← place c text
      let held ← holdSuffix placed.2
      return (.make kind placed.1 held.1, held.2)) :=
  rfl

theorem leaves_lanedSlot (kind : NoteKind) (c : Char) (text : List Char) :
    Leaves text (lanedSlot kind c text) := by
  refine Returns.bind (leaves_place c text) fun placed hplaced ↦ ?_
  refine Returns.bind (leaves_holdSuffix placed.2) fun held hheld ↦ .ok ?_
  exact hheld.trans hplaced

/-- The ways in which a step can start: with a character that is not the mark of a mine, or with the
mark, be it at the end of the text, in front of a bracket, or in front of something else. -/
inductive SlotStart (c : Char) : List Char → Prop
  | unmarked {text : List Char} (hc : ¬IsMineMark c) : SlotStart c text
  | last (hc : IsMineMark c) : SlotStart c []
  | bracket {text : List Char} (hc : IsMineMark c) : SlotStart c ('[' :: text)
  | mine {d : Char} {text : List Char} (hc : IsMineMark c) (hd : d ≠ '[') : SlotStart c (d :: text)

/-- Every slot begins in one of the four ways. -/
theorem slotStart (c : Char) (text : List Char) : SlotStart c text := by
  by_cases hc : IsMineMark c
  swap
  · exact .unmarked hc
  rcases text with - | ⟨d, text⟩
  · exact .last hc
  by_cases hd : d = '['
  · subst hd
    exact .bracket hc
  · exact .mine hc hd

section Slot

variable {c d : Char} {text : List Char}

theorem slot_of_not_mark (hc : ¬IsMineMark c) : slot c text = lanedSlot .tap c text := by
  rw [slot.eq_def, if_neg hc]

theorem slot_mark_nil (hc : IsMineMark c) : slot c [] = .ok (.skipped, []) := by
  rw [slot, if_pos hc]

/-- A mark does not reach over the bracket of a chord. -/
theorem slot_mark_bracket (hc : IsMineMark c) :
    slot c ('[' :: text) = .ok (.skipped, '[' :: text) := by
  rw [slot, if_pos hc]
  rfl

/-- Behind a mark stands the lane of a mine. -/
theorem slot_mark_cons (hc : IsMineMark c) (hd : d ≠ '[') :
    slot c (d :: text) = lanedSlot .mine d text := by
  rw [slot, if_pos hc]
  exact if_neg hd

end Slot

theorem leaves_slot (c : Char) (text : List Char) : Leaves text (slot c text) := by
  cases slotStart c text with
  | unmarked hc =>
    rw [slot_of_not_mark hc]
    exact leaves_lanedSlot .tap c text
  | last hc =>
    rw [slot_mark_nil hc]
    exact .ok List.suffix_rfl
  | bracket hc =>
    rw [slot_mark_bracket hc]
    exact .ok List.suffix_rfl
  | @mine d text hc hd =>
    rw [slot_mark_cons hc hd]
    intro read hread
    exact (leaves_lanedSlot .mine d text read hread).trans (List.suffix_cons d text)

/-- Behind a bracket stands a chord: a group, the slots inside it and a suffix for all of them. -/
theorem row_bracket (text : List Char) :
    row '[' text = (do
      let split ← group '[' ']' .bracket text
      let found ← slots split.1
      let held ← holdSuffix split.2
      return (some (chord found held.1), held.2)) := by
  rw [row, if_pos rfl]

/-- Without a bracket a row is one slot. -/
theorem row_of_ne {c : Char} (hc : c ≠ '[') (text : List Char) :
    row c text = (slot c text).map fun read ↦ (rowOf read.1, read.2) := by
  rw [row, if_neg hc]

theorem leaves_row (c : Char) (text : List Char) : Leaves text (row c text) := by
  by_cases hc : c = '['
  · subst hc
    rw [row_bracket]
    refine Returns.bind (leaves_group (by decide) text) fun split hsplit ↦ ?_
    refine Returns.bind (.any _) fun found _ ↦ ?_
    refine Returns.bind (leaves_holdSuffix split.2) fun held hheld ↦ .ok ?_
    exact hheld.trans hsplit
  · rw [row_of_ne hc]
    exact Returns.map (leaves_slot c text) fun _ h ↦ h

end NoteChart.PatternText
