import NoteChart.Proofs.PatternText.Reading

/-!
# Letters in either case

The notation has letters for arrows, mines and holds, and each of them may be a small or a capital
one. So a text is read alike in whatever case its letters are (`parse_eq_of_toLower_eq`).

Most of the proof is not about letters. A character has a role in the notation: a digit of some
value, the letter of some arrow, a mark, a delimiter, a blank or nothing at all. The readers ask for
no more, and a change of characters that leaves each its role (`SameRole`) therefore goes through
all of them: what is read is the same, and what is left of the text is changed as the text was
(`mapRest`). Each reader has a lemma `…_map` that says so.

Small and capital letters come in only at the end (`sameRole_toLower`). They are those of ASCII,
since no other letter has a role, and few enough to look at each.
-/

namespace NoteChart.PatternText

/-- The two characters mean the same wherever they stand. -/
structure SameRole (c d : Char) : Prop where
  digit : Text.asciiDigit? d = Text.asciiDigit? c
  letter : Place.ofLetter d = Place.ofLetter c
  holdMark : IsHoldMark d ↔ IsHoldMark c
  mineMark : IsMineMark d ↔ IsMineMark c
  openBracket : d = '[' ↔ c = '['
  closeBracket : d = ']' ↔ c = ']'
  openParen : d = '(' ↔ c = '('
  closeParen : d = ')' ↔ c = ')'
  /-- Blanks matter around the number in a pair of parentheses. -/
  blank : Text.isBlank d = Text.isBlank c

namespace SameRole

instance : DecidableRel SameRole := fun c d ↦
  decidable_of_iff
    (Text.asciiDigit? d = Text.asciiDigit? c ∧ Place.ofLetter d = Place.ofLetter c ∧
      (IsHoldMark d ↔ IsHoldMark c) ∧ (IsMineMark d ↔ IsMineMark c) ∧
      (d = '[' ↔ c = '[') ∧ (d = ']' ↔ c = ']') ∧ (d = '(' ↔ c = '(') ∧ (d = ')' ↔ c = ')') ∧
      Text.isBlank d = Text.isBlank c)
    ⟨fun ⟨digit, letter, hold, mine, openB, closeB, openP, closeP, blank⟩ ↦
      ⟨digit, letter, hold, mine, openB, closeB, openP, closeP, blank⟩,
      fun h ↦ ⟨h.digit, h.letter, h.holdMark, h.mineMark, h.openBracket, h.closeBracket,
        h.openParen, h.closeParen, h.blank⟩⟩

theorem refl (c : Char) : SameRole c c := ⟨rfl, rfl, .rfl, .rfl, .rfl, .rfl, .rfl, .rfl, rfl⟩

theorem isDigit {c d : Char} (h : SameRole c d) : IsDigit d ↔ IsDigit c := by
  rw [IsDigit, h.digit]

end SameRole

/-! ### Changed texts -/

theorem begins_map {f : Char → Char} {kind : Char → Prop} (hkind : ∀ c, kind (f c) ↔ kind c)
    (text : List Char) : Begins kind (text.map f) ↔ Begins kind text := by
  rcases text with - | ⟨c, text⟩
  · rfl
  · rw [List.map_cons, begins_cons, begins_cons, hkind]

/-- **The end of a group** is in the same place. -/
theorem group_map {f : Char → Char} {opener closer : Char}
    (hopener : ∀ c, f c = opener ↔ c = opener) (hcloser : ∀ c, f c = closer ↔ c = closer)
    (hne : opener ≠ closer) (unclosed : Unclosed) (text : List Char) :
    group opener closer unclosed (text.map f) =
      (group opener closer unclosed text).map (Prod.map (List.map f) (List.map f)) := by
  have hinside {inside : List Char} (h : ∀ c ∈ inside, c ≠ opener ∧ c ≠ closer) :
      ∀ c ∈ inside.map f, c ≠ opener ∧ c ≠ closer := by
    refine List.forall_mem_map.2 fun c hc ↦ ?_
    rw [ne_eq, ne_eq, hopener, hcloser]
    exact h c hc
  rcases groupEnd opener closer text with @⟨inside, rest, h⟩ | @⟨inside, rest, h⟩ | h
  · rw [List.map_append, List.map_cons, (hcloser closer).2 rfl, group_closed h,
      group_closed (hinside h)]
    rfl
  · -- the opener that cuts the group is left over, and is not changed
    have hrest : (opener :: rest).map f = opener :: rest.map f := by
      rw [List.map_cons, (hopener opener).2 rfl]
    rw [List.map_append, hrest, group_cut hne h, group_cut hne (hinside h), ← hrest]
    rfl
  · rw [group_missing h, group_missing (hinside h)]
    rfl

/-- What a reader comes to, with what is left of the text changed. -/
def mapRest {α : Type} (f : Char → Char) (result : Except Unclosed (α × List Char)) :
    Except Unclosed (α × List Char) :=
  result.map fun read ↦ (read.1, read.2.map f)

section MapRest

variable {α β : Type} {f : Char → Char} (result : Except Unclosed (α × List Char))

theorem map_mapRest (g : α → β) :
    ((mapRest f result).map fun read ↦ (g read.1, read.2)) =
      mapRest f (result.map fun read ↦ (g read.1, read.2)) := by
  rcases result with unclosed | read <;> rfl

/-- A change goes through two readers in a line if it goes through the second. -/
theorem mapRest_bind {next : α × List Char → Except Unclosed (β × List Char)}
    (hnext : ∀ value rest, next (value, rest.map f) = mapRest f (next (value, rest))) :
    mapRest f result >>= next = mapRest f (result >>= next) := by
  rcases result with unclosed | ⟨value, rest⟩
  · rfl
  · exact hnext value rest

end MapRest

section Change

variable {f : Char → Char} (hf : ∀ c, SameRole c (f c))
include hf

theorem trim_map (text : List Char) : Text.trim (text.map f) = (Text.trim text).map f := by
  have hblank : Text.isBlank ∘ f = Text.isBlank := funext fun c ↦ (hf c).blank
  simp only [Text.trim, Text.trimBy, List.dropWhile_map, ← List.map_reverse, hblank]

/-- Digits stay what they are, so that a number stays the same. -/
theorem asciiNumber?_map (text : List Char) :
    Text.asciiNumber? (text.map f) = Text.asciiNumber? text := by
  have hdigit : Text.asciiDigit? ∘ f = Text.asciiDigit? := funext fun c ↦ (hf c).digit
  rw [Text.asciiNumber?, Text.asciiNumber?, List.isEmpty_map, List.mapM_map, hdigit]

/-- The number in parentheses is the same behind the change. -/
theorem groupedNumber_map (text : List Char) :
    groupedNumber (text.map f) = mapRest f (groupedNumber text) := by
  rw [groupedNumber, groupedNumber,
    group_map (fun c ↦ (hf c).openParen) (fun c ↦ (hf c).closeParen) (by decide)]
  rcases group '(' ')' .parenthesis text with unclosed | ⟨inside, rest⟩
  · rfl
  · show Except.ok (Text.asciiNumber? (Text.trim (inside.map f)), rest.map f) = _
    rw [trim_map hf, asciiNumber?_map hf]
    rfl

/-- **A hold suffix** names the same length. -/
theorem holdSuffix_map (text : List Char) :
    holdSuffix (text.map f) = mapRest f (holdSuffix text) := by
  have hdigit (c : Char) : IsDigit (f c) ↔ IsDigit c := (hf c).isDigit
  rcases holdStart text with
    h | @⟨x, text, hx⟩ | @⟨x, digits, rest, hx, hne, hdigits, hrest⟩ | @⟨x, rest, hx, hrest⟩
  · rw [holdSuffix_unmarked h,
      holdSuffix_unmarked (mt (begins_map (fun c ↦ (hf c).holdMark) text).1 h)]
    rfl
  · have hopener : f '(' = '(' := (hf '(').openParen.2 rfl
    rw [List.map_cons, List.map_cons, hopener, holdSuffix_grouped hx,
      holdSuffix_grouped ((hf x).holdMark.2 hx), groupedNumber_map hf, map_mapRest]
  · have hdigits_map : ∀ d ∈ digits.map f, IsDigit d :=
      List.forall_mem_map.2 fun d hd ↦ (hdigit d).2 (hdigits d hd)
    have hrest_map : ¬Begins IsDigit (rest.map f) := mt (begins_map hdigit rest).1 hrest
    rw [List.map_cons, List.map_append, holdSuffix_counted hx hne hdigits hrest,
      holdSuffix_counted ((hf x).holdMark.2 hx) (mt List.map_eq_nil_iff.1 hne) hdigits_map
        hrest_map, asciiNumber?_map hf]
    rfl
  · have hrest_map : ¬Begins (fun c ↦ IsDigit c ∨ c = '(') (rest.map f) :=
      mt (begins_map (fun c ↦ or_congr (hdigit c) (hf c).openParen) rest).1 hrest
    rw [List.map_cons, holdSuffix_bare hx hrest, holdSuffix_bare ((hf x).holdMark.2 hx) hrest_map]
    rfl

/-- A lane is the same, in capitals or not. -/
theorem place_map (c : Char) (text : List Char) :
    place (f c) (text.map f) = mapRest f (place c text) := by
  by_cases hc : c = '('
  · subst hc
    rw [(hf '(').openParen.2 rfl, place_opener, place_opener, groupedNumber_map hf, map_mapRest]
  · rw [place, place, if_neg hc, if_neg (mt (hf c).openParen.1 hc), (hf c).digit, (hf c).letter]
    rcases Text.asciiDigit? c with - | digit <;> rfl

theorem lanedSlot_map (kind : NoteKind) (c : Char) (text : List Char) :
    lanedSlot kind (f c) (text.map f) = mapRest f (lanedSlot kind c text) := by
  rw [lanedSlot_eq, lanedSlot_eq, place_map hf]
  refine mapRest_bind _ fun p behind ↦ ?_
  rw [holdSuffix_map hf]
  exact mapRest_bind _ fun hold rest ↦ rfl

/-- **A note** is the same note. -/
theorem slot_map (c : Char) (text : List Char) :
    slot (f c) (text.map f) = mapRest f (slot c text) := by
  have hmark : IsMineMark (f c) ↔ IsMineMark c := (hf c).mineMark
  rcases slotStart c text with hc | hc | @⟨text, hc⟩ | @⟨d, text, hc, hd⟩
  · rw [slot_of_not_mark hc, slot_of_not_mark (mt hmark.1 hc), lanedSlot_map hf]
  · rw [List.map_nil, slot_mark_nil hc, slot_mark_nil (hmark.2 hc)]
    rfl
  · have hbracket : f '[' = '[' := (hf '[').openBracket.2 rfl
    rw [List.map_cons, hbracket, slot_mark_bracket hc, slot_mark_bracket (hmark.2 hc)]
    show _ = Except.ok (Slot.skipped, ('[' :: text).map f)
    rw [List.map_cons, hbracket]
  · rw [List.map_cons, slot_mark_cons hc hd,
      slot_mark_cons (hmark.2 hc) (mt (hf d).openBracket.1 hd), lanedSlot_map hf]

/-- **The slots of a chord**, by induction from one to the next. -/
theorem slots_map (text : List Char) : slots (text.map f) = slots text := by
  induction text using slots.induct with
  | case1 => rfl
  | case2 c text unclosed hslot =>
    rw [List.map_cons, slots_cons, slots_cons, slot_map hf, hslot]
    rfl
  | case3 c text found rest hslot ih =>
    rw [List.map_cons, slots_cons, slots_cons, slot_map hf, hslot]
    exact congrArg (Except.map (found :: ·)) ih

/-- **A row** is the same row. -/
theorem row_map (c : Char) (text : List Char) :
    row (f c) (text.map f) = mapRest f (row c text) := by
  by_cases hc : c = '['
  swap
  · rw [row_of_ne hc, row_of_ne (mt (hf c).openBracket.1 hc), slot_map hf, map_mapRest]
  subst hc
  rw [(hf '[').openBracket.2 rfl, row_bracket, row_bracket,
    group_map (fun c ↦ (hf c).openBracket) (fun c ↦ (hf c).closeBracket) (by decide)]
  rcases group '[' ']' .bracket text with unclosed | ⟨inside, behind⟩
  · rfl
  -- the inside of the brackets is changed as well, but nothing of it is left over
  show (slots (inside.map f) >>= fun found ↦ holdSuffix (behind.map f) >>= fun held ↦
      pure (some (chord found held.1), held.2)) =
    mapRest f (slots inside >>= fun found ↦ holdSuffix behind >>= fun held ↦
      pure (some (chord found held.1), held.2))
  rw [slots_map hf, holdSuffix_map hf]
  rcases slots inside with unclosed | found
  · rfl
  · exact mapRest_bind _ fun hold rest ↦ rfl

/-- **The rows of a text**, by induction from one to the next. -/
theorem rows_map (text : List Char) : rows (text.map f) = rows text := by
  induction text using rows.induct with
  | case1 => rfl
  | case2 c text unclosed hrow =>
    rw [List.map_cons, rows_cons, rows_cons, row_map hf, hrow]
    rfl
  | case3 c text found rest hrow ih =>
    rw [List.map_cons, rows_cons, rows_cons, row_map hf, hrow]
    exact congrArg (Except.map (found.toList ++ ·)) ih

end Change

/-! ### Small and capital letters -/

/-- Only the capitals from `A` to `Z` are changed. -/
theorem toLower_eq_self_or_exists (c : Char) :
    c.toLower = c ∨ ∃ n < 26, c = Char.ofNat (n + 65) := by
  by_cases hc : 65 ≤ c.toNat ∧ c.toNat ≤ 90
  · refine .inr ⟨c.toNat - 65, by omega, ?_⟩
    rw [Nat.sub_add_cancel hc.1, Char.ofNat_toNat]
  · exact .inl (dif_neg hc)

/-- **A letter** means the same as the small one. -/
theorem sameRole_toLower (c : Char) : SameRole c c.toLower := by
  have hcapital : ∀ n < 26, SameRole (Char.ofNat (n + 65)) (Char.ofNat (n + 65)).toLower := by
    decide +kernel
  obtain h | ⟨n, hn, rfl⟩ := toLower_eq_self_or_exists c
  · rw [h]
    exact .refl c
  · exact hcapital n hn

/-- A text is put in lower case character by character. -/
theorem toList_toLower (text : String) : text.toLower.toList = text.toList.map Char.toLower :=
  String.toList_map

/-- **A text and its lower case** are read as the same pattern. -/
theorem parse_toLower (text : String) : Pattern.parse text.toLower = Pattern.parse text := by
  rw [Pattern.parse, Pattern.parse, toList_toLower, rows_map sameRole_toLower]

/-- **The case of letters does not matter.** Two texts that are the same in small letters are read
as one and the same pattern, down to the order of the notes, or refused for the same reason. -/
theorem parse_eq_of_toLower_eq {a b : String} (h : a.toLower = b.toLower) :
    Pattern.parse a = Pattern.parse b := by
  rw [← parse_toLower a, h, parse_toLower b]

/-- Capitals and small letters in all places where letters have a meaning, and in a text that is
refused. -/
theorem parse_eq_of_toLower_eq_mixed :
    "[M1D]X3lX(2)".toLower = "[m1d]x3Lx(2)".toLower ∧
    Pattern.parse "[M1D]X3lX(2)" =
      .ok ⟨[⟨[⟨.column 0, .hold, 3⟩, ⟨.arrow .down, .hold, 3⟩], 2⟩,
        ⟨[⟨.arrow .left, .hold, 2⟩], 1⟩]⟩ ∧
    "M[L".toLower = "m[l".toLower ∧ Pattern.parse "M[L" = .error .bracket := by
  have hread : "[M1D]X3lX(2)".toLower = "[m1d]x3Lx(2)".toLower := by
    rw [← String.toList_inj, toList_toLower, toList_toLower]
    decide +kernel
  have hrefused : "M[L".toLower = "m[l".toLower := by
    rw [← String.toList_inj, toList_toLower, toList_toLower]
    decide +kernel
  refine ⟨hread, ?_, hrefused, ?_⟩
  · rw [parse_eq_of_toLower_eq hread]
    decide +kernel
  · rw [parse_eq_of_toLower_eq hrefused]
    decide +kernel

end NoteChart.PatternText
