import NoteChart.Proofs.Outcome
import NoteChart.Proofs.PatternText.Reading

/-!
# Texts side by side

A text written behind another is read as if it stood alone, unless the two join at the seam: a hold
suffix may find its number on the other side, or a mine its lane. `Seam` names the beginnings that
are safe behind a given end, and `parse_append` says that it names enough of them.

What a reader takes from the front does not depend on what stands behind the text, although it looks
through all of it. A group that has an end has the same end with more text behind it, and a text
that is read has an end for each of its groups. So every reader returns the same with more text
behind, and hands that on as well (`Extends`); the seam matters only to the hold suffix, and only to
one that reaches the end. The mark of a mine at the very end is the exception. It is skipped alone,
but in front of more text it takes the next character along, and then that one has to be a stray.
-/

namespace NoteChart.PatternText

/-- A letter that names an arrow. -/
abbrev IsArrowLetter (c : Char) : Prop := c ∈ ['l', 'L', 'd', 'D', 'u', 'U', 'r', 'R']

/-- A character that means nothing by itself. The mark of a hold is one of them. -/
abbrev IsStray (c : Char) : Prop :=
  ¬IsDigit c ∧ c ≠ '[' ∧ c ≠ '(' ∧ ¬IsMineMark c ∧ ¬IsArrowLetter c

/-- The text has a last character, and it is of the kind. -/
def EndsIn (kind : Char → Prop) (text : List Char) : Prop := ∃ c ∈ text.getLast?, kind c

/-- Nothing at the beginning of `back` completes anything at the end of `front`. -/
structure Seam (front back : List Char) : Prop where
  /-- A hold suffix has to stand directly behind its note. -/
  no_mark : ¬Begins IsHoldMark back
  /-- A mine takes the lane that follows it. -/
  behind_mine : EndsIn IsMineMark front →
    ¬Begins (fun c ↦ IsDigit c ∨ c = '(' ∨ IsMineMark c ∨ IsArrowLetter c) back
  /-- The mark of a hold takes the number that follows it. -/
  behind_mark : EndsIn IsHoldMark front → ¬Begins (fun c ↦ IsDigit c ∨ c = '(') back
  /-- The length of a hold takes the digits that follow it. -/
  behind_length : ∀ passed x digits, front = passed ++ x :: digits → IsHoldMark x → digits ≠ [] →
    (∀ d ∈ digits, IsDigit d) → ¬Begins IsDigit back

variable {α β : Type} {front back text rest more : List Char} {c d x : Char}

theorem EndsIn.of_suffix {kind : Char → Prop} (h : EndsIn kind rest) (hrest : rest <:+ text) :
    EndsIn kind text := by
  obtain ⟨c, hc, hkind⟩ := h
  obtain ⟨passed, rfl⟩ := hrest
  exact ⟨c, by rw [List.getLast?_append, Option.mem_def.1 hc]; rfl, hkind⟩

theorem endsIn_singleton {kind : Char → Prop} (h : kind c) : EndsIn kind [c] := ⟨c, rfl, h⟩

/-- Only the end of the text in front matters. -/
theorem Seam.of_suffix (h : Seam front back) (hrest : rest <:+ front) : Seam rest back where
  no_mark := h.no_mark
  behind_mine hends := h.behind_mine (hends.of_suffix hrest)
  behind_mark hends := h.behind_mark (hends.of_suffix hrest)
  behind_length := by
    rintro passed x digits rfl hx hne hdigits
    obtain ⟨before, rfl⟩ := hrest
    exact h.behind_length (before ++ passed) x digits (by simp) hx hne hdigits

theorem Seam.tail (h : Seam (c :: text) back) : Seam text back :=
  h.of_suffix (List.suffix_cons c text)

/-- A text begins as its front does, unless that is empty. -/
theorem Begins.append {kind : Char → Prop} (h : Begins kind (text ++ more)) :
    Begins kind text ∨ text = [] ∧ Begins kind more := by
  rcases text with - | ⟨c, text⟩
  · exact .inr ⟨rfl, h⟩
  · rw [List.cons_append, begins_cons] at h
    exact .inl (begins_cons.2 h)

/-! ### More text behind -/

/-- Where one result is a value and a rest, the other is the same value and a rest with more text
behind it. -/
def Extends (more : List Char) (result extended : Except Unclosed (α × List Char)) : Prop :=
  ∀ value rest, result = .ok (value, rest) → extended = .ok (value, rest ++ more)

namespace Extends

theorem ok (value : α) (rest : List Char) :
    Extends more (.ok (value, rest)) (.ok (value, rest ++ more)) := by
  rintro _ _ ⟨⟩
  rfl

theorem error (unclosed : Unclosed) (extended : Except Unclosed (α × List Char)) :
    Extends more (.error unclosed) extended := by
  rintro _ _ ⟨⟩

variable {result extended : Except Unclosed (α × List Char)}

theorem map (h : Extends more result extended) (f : α → β) :
    Extends more (result.map fun read ↦ (f read.1, read.2))
      (extended.map fun read ↦ (f read.1, read.2)) := by
  rcases result with unclosed | ⟨value, rest⟩
  · exact .error unclosed _
  · rw [h value rest rfl]
    exact .ok (f value) rest

/-- **Two readers in a line** leave what follows alone if both do. -/
theorem bind (h : Extends more result extended)
    {next : α × List Char → Except Unclosed (β × List Char)}
    (hnext : ∀ value rest, result = .ok (value, rest) →
      Extends more (next (value, rest)) (next (value, rest ++ more))) :
    Extends more (result >>= next) (extended >>= next) := by
  rcases result with unclosed | ⟨value, rest⟩
  · exact .error unclosed _
  · rw [h value rest rfl]
    exact hnext value rest rfl

end Extends

/-- **The end of a group** is where it was. -/
theorem extends_group {opener closer : Char} (hne : opener ≠ closer) (unclosed : Unclosed)
    (text more : List Char) :
    Extends more (group opener closer unclosed text)
      (group opener closer unclosed (text ++ more)) := by
  cases groupEnd opener closer text with
  | @closed inside rest h =>
    rw [List.append_assoc, List.cons_append, group_closed h, group_closed h]
    exact .ok inside rest
  | @cut inside rest h =>
    rw [List.append_assoc, List.cons_append, group_cut hne h, group_cut hne h]
    exact .ok inside (opener :: rest)
  | missing h =>
    rw [group_missing h]
    exact .error unclosed _

theorem extends_groupedNumber (text more : List Char) :
    Extends more (groupedNumber text) (groupedNumber (text ++ more)) :=
  (extends_group (by decide) .parenthesis text more).map fun inside ↦
    Text.asciiNumber? (Text.trim inside)

/-- **A hold suffix** ends where it did, unless the text goes on in the middle of it. -/
theorem extends_holdSuffix (h : Seam text more) :
    Extends more (holdSuffix text) (holdSuffix (text ++ more)) := by
  cases holdStart text with
  | unmarked hmark =>
    have hmore : ¬Begins IsHoldMark (text ++ more) := fun hbegins ↦
      hbegins.append.elim hmark fun hmore ↦ h.no_mark hmore.2
    rw [holdSuffix_unmarked hmark, holdSuffix_unmarked hmore]
    exact .ok none text
  | @grouped x text hx =>
    rw [List.cons_append, List.cons_append, holdSuffix_grouped hx, holdSuffix_grouped hx]
    exact (extends_groupedNumber text more).map holdOf
  | @counted x digits rest hx hne hdigits hrest =>
    have hmore : ¬Begins IsDigit (rest ++ more) := by
      intro hbegins
      obtain hdigit | ⟨rfl, hdigit⟩ := hbegins.append
      · exact hrest hdigit
      · exact h.behind_length [] x digits (by simp) hx hne hdigits hdigit
    rw [List.cons_append, List.append_assoc, holdSuffix_counted hx hne hdigits hrest,
      holdSuffix_counted hx hne hdigits hmore]
    exact .ok _ rest
  | @bare x rest hx hrest =>
    have hmore : ¬Begins (fun c ↦ IsDigit c ∨ c = '(') (rest ++ more) := by
      intro hbegins
      obtain hnumber | ⟨rfl, hnumber⟩ := hbegins.append
      · exact hrest hnumber
      · exact h.behind_mark (endsIn_singleton hx) hnumber
    rw [List.cons_append, holdSuffix_bare hx hrest, holdSuffix_bare hx hmore]
    exact .ok none (x :: rest)

theorem extends_place (c : Char) (text more : List Char) :
    Extends more (place c text) (place c (text ++ more)) := by
  by_cases hc : c = '('
  · subst hc
    rw [place_opener, place_opener]
    exact (extends_groupedNumber text more).map Place.ofNumber
  · obtain ⟨p, hp⟩ := exists_place hc
    rw [hp, hp]
    exact .ok p text

/-- A seam keeps what follows from becoming a part of a slot. -/
theorem extends_lanedSlot (kind : NoteKind) (c : Char) (h : Seam text more) :
    Extends more (lanedSlot kind c text) (lanedSlot kind c (text ++ more)) := by
  rw [lanedSlot_eq, lanedSlot_eq]
  refine (extends_place c text more).bind fun p behind hplace ↦ ?_
  have hbehind : behind <:+ text := leaves_place c text _ hplace
  exact (extends_holdSuffix (h.of_suffix hbehind)).bind fun hold rest _ ↦ .ok _ rest

/-- **A note.** The mark of a mine needs something behind it. -/
theorem extends_slot (h : Seam (c :: text) more) (hlone : IsMineMark c → text ≠ []) :
    Extends more (slot c text) (slot c (text ++ more)) := by
  cases slotStart c text with
  | unmarked hmark =>
    rw [slot_of_not_mark hmark, slot_of_not_mark hmark]
    exact extends_lanedSlot .tap c h.tail
  | last hmark => exact absurd rfl (hlone hmark)
  | @bracket text hmark =>
    rw [List.cons_append, slot_mark_bracket hmark, slot_mark_bracket hmark]
    exact .ok Slot.skipped ('[' :: text)
  | @mine d text hmark hd =>
    rw [List.cons_append, slot_mark_cons hmark hd, slot_mark_cons hmark hd]
    exact extends_lanedSlot .mine d h.tail.tail

/-- **A row.** -/
theorem extends_row (h : Seam (c :: text) more) (hlone : IsMineMark c → text ≠ []) :
    Extends more (row c text) (row c (text ++ more)) := by
  by_cases hc : c = '['
  swap
  · rw [row_of_ne hc, row_of_ne hc]
    exact (extends_slot h hlone).map rowOf
  subst hc
  rw [row_bracket, row_bracket]
  refine (extends_group (by decide) _ text more).bind fun inside behind hgroup ↦ ?_
  have hbehind : behind <:+ text := leaves_group (by decide) text _ hgroup
  -- the inside of the brackets is the same text, so its slots are the same
  cases slots inside with
  | error unclosed => exact .error unclosed _
  | ok found =>
    exact (extends_holdSuffix (h.tail.of_suffix hbehind)).bind fun hold rest _ ↦ .ok _ rest

/-! ### Strays -/

/-- A stray character is passed, and what follows it is left alone. -/
theorem place_stray (hc : IsStray c) (text : List Char) : place c text = .ok (.stray, text) := by
  obtain ⟨hdigit, -, hparen, -, harrow⟩ := hc
  have hdigit : Text.asciiDigit? c = none := by simpa using hdigit
  have hletter : Place.ofLetter c = .stray := by
    simp only [List.mem_cons, List.not_mem_nil, or_false, not_or] at harrow
    simp [Place.ofLetter, harrow]
  rw [place, if_neg hparen, hdigit, hletter]

/-- A stray takes a hold suffix along, and nothing comes of either. -/
theorem lanedSlot_stray (kind : NoteKind) (hc : IsStray c) (text : List Char) :
    lanedSlot kind c text = (holdSuffix text).map fun held ↦ (.skipped, held.2) := by
  rw [lanedSlot_eq, place_stray hc]
  show (holdSuffix text >>= fun held ↦ pure (Slot.make kind .stray held.1, held.2)) = _
  cases holdSuffix text <;> rfl

/-- A stray character makes no row, but may take the suffix of a hold along. -/
theorem row_stray (hc : IsStray c) (text : List Char) :
    row c text = (holdSuffix text).map fun held ↦ (none, held.2) := by
  rw [row_of_ne hc.2.1, slot_of_not_mark hc.2.2.2.1, lanedSlot_stray .tap hc]
  cases holdSuffix text <;> rfl

/-- **Strays are skipped.** -/
theorem rows_stray_cons (hc : IsStray c) (h : ¬Begins IsHoldMark text) :
    rows (c :: text) = rows text := by
  rw [rows_cons, row_stray hc, holdSuffix_unmarked h]
  show (rows text).map ([] ++ ·) = rows text
  cases rows text <;> rfl

/-- The mark of a mine is skipped where no lane follows it. -/
theorem rows_mark_cons (hc : IsMineMark c)
    (h : ¬Begins (fun c ↦ IsDigit c ∨ c = '(' ∨ IsMineMark c ∨ IsArrowLetter c) text) :
    rows (c :: text) = rows text := by
  have hskipped (result : Except Unclosed (List Row)) : result.map ([] ++ ·) = result := by
    cases result <;> rfl
  rw [rows_cons, row_of_ne (ne_bracket_of_isMineMark hc)]
  cases slotStart c text with
  | unmarked hmark => exact absurd hc hmark
  | last =>
    rw [slot_mark_nil hc]
    exact hskipped _
  | bracket =>
    rw [slot_mark_bracket hc]
    exact hskipped _
  | @mine d text hmark hd =>
    -- the mark takes the stray behind it along, which would be skipped in the same way alone
    have hstray : IsStray d := by
      rw [begins_cons] at h
      exact ⟨fun hdigit ↦ h (.inl hdigit), hd, fun hparen ↦ h (.inr (.inl hparen)),
        fun hmine ↦ h (.inr (.inr (.inl hmine))), fun harrow ↦ h (.inr (.inr (.inr harrow)))⟩
    rw [slot_mark_cons hc hd, lanedSlot_stray .mine hstray, rows_cons, row_stray hstray]
    cases holdSuffix text <;> rfl

/-! ### Two texts -/

/-- **Rows of two texts**, by induction along the rows of the first one. -/
theorem rows_append {found : List Row} (hseam : Seam front back) (hfront : rows front = .ok found) :
    rows (front ++ back) = (rows back).map (found ++ ·) := by
  induction front using rows.induct generalizing found with
  | case1 =>
    rw [rows_nil] at hfront
    cases hfront
    rw [List.nil_append]
    cases rows back <;> rfl
  | case2 c text unclosed hrow =>
    rw [rows_cons, hrow] at hfront
    cases hfront
  | case3 c text first rest hrow ih =>
    have hrest : rest <:+ text := leaves_row c text _ hrow
    obtain ⟨later, hlater, rfl⟩ :
        ∃ later, rows rest = .ok later ∧ first.toList ++ later = found := by
      rw [rows_cons, hrow] at hfront
      exact exists_of_map_eq_ok hfront
    have hback := ih (hseam.tail.of_suffix hrest) hlater
    by_cases hlone : IsMineMark c ∧ text = []
    · -- a mark at the very end: it makes no row, with the other text behind it or without
      obtain ⟨hmark, rfl⟩ := hlone
      rw [List.suffix_nil.1 hrest] at hback
      have hfirst : first = none := by
        rw [row_of_ne (ne_bracket_of_isMineMark hmark), slot_mark_nil hmark] at hrow
        exact (congrArg Prod.fst (Except.ok.inj hrow)).symm
      subst hfirst
      rw [List.singleton_append,
        rows_mark_cons hmark (hseam.behind_mine (endsIn_singleton hmark))]
      exact hback
    · have hmore := extends_row hseam fun hmark hnil ↦ hlone ⟨hmark, hnil⟩
      rw [List.cons_append, rows_cons, hmore first rest hrow]
      show (rows (rest ++ back)).map (first.toList ++ ·) = _
      rw [hback]
      cases rows back with
      | error unclosed => rfl
      | ok behind => exact congrArg Except.ok (List.append_assoc _ _ _).symm

/-- **Texts side by side.** Where the first text is read and nothing joins at the seam, the rows of
the two texts are those of one and of the other, and it is the other alone that can be refused.
A stray in front of a text changes nothing, unless it takes a hold suffix along. -/
theorem parse_append :
    (∀ (front back : String) (pattern : Pattern), Pattern.parse front = .ok pattern →
      Seam front.toList back.toList →
      Pattern.parse (front ++ back) =
        (Pattern.parse back).map fun behind ↦ { rows := pattern.rows ++ behind.rows }) ∧
    ∀ (c : Char) (back : String), IsStray c → ¬Begins IsHoldMark back.toList →
      Pattern.parse (String.singleton c ++ back) = Pattern.parse back := by
  constructor
  · intro front back pattern hfront hseam
    obtain ⟨found, hrows, rfl⟩ := exists_of_map_eq_ok hfront
    rw [Pattern.parse, Pattern.parse, String.toList_append, rows_append hseam hrows]
    cases rows back.toList <;> rfl
  · intro c back hc hback
    have htext : (String.singleton c ++ back).toList = c :: back.toList := by simp
    rw [Pattern.parse, Pattern.parse, htext, rows_stray_cons hc hback]

/-- The mark at the end of the front reaches for no lane, since a bracket follows it. -/
theorem parse_append_mark_bracket :
    Pattern.parse "[1]x2m" = .ok ⟨[⟨[⟨.column 0, .hold, 2⟩], 1⟩]⟩ ∧
    Seam "[1]x2m".toList "[0]x3".toList ∧
    Pattern.parse ("[1]x2m" ++ "[0]x3") = .ok ⟨[⟨[⟨.column 0, .hold, 2⟩], 1⟩, ⟨[], 2⟩]⟩ ∧
    IsStray '!' ∧ ¬Begins IsHoldMark "m3".toList ∧
    Pattern.parse (String.singleton '!' ++ "m3") = .ok ⟨[⟨[⟨.column 2, .mine, 0⟩], 0⟩]⟩ := by
  have hfront : Pattern.parse "[1]x2m" = .ok ⟨[⟨[⟨.column 0, .hold, 2⟩], 1⟩]⟩ := by
    decide +kernel
  have hback : Pattern.parse "[0]x3" = .ok ⟨[⟨[], 2⟩]⟩ := by decide +kernel
  have hmine : Pattern.parse "m3" = .ok ⟨[⟨[⟨.column 2, .mine, 0⟩], 0⟩]⟩ := by decide +kernel
  have hseam : Seam "[1]x2m".toList "[0]x3".toList := {
    no_mark := by decide
    behind_mine := fun _ ↦ by decide
    behind_mark := fun _ ↦ by decide
    behind_length := fun _ _ _ _ _ _ _ ↦ by decide }
  have hstray : IsStray '!' := by decide
  have hmark : ¬Begins IsHoldMark "m3".toList := by decide
  refine ⟨hfront, hseam, ?_, hstray, hmark, ?_⟩
  · rw [parse_append.1 "[1]x2m" "[0]x3" _ hfront hseam, hback]
    rfl
  · rw [parse_append.2 '!' "m3" hstray hmark, hmine]

end NoteChart.PatternText
