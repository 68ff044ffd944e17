import NoteChart.Proofs.Command.Answers
import NoteChart.Proofs.Command.Filing
import NoteChart.Proofs.Layout.Lanes
import NoteChart.Proofs.Pattern.Alike

/-!
# The guessed keymode

A keymode that no word names is guessed from the highest column, and the column of a right arrow
depends on the keymode. The guess takes it for the fourth one. That is no circle: a guess is four at
least, and the right arrow is in the fourth column of every keymode but three
(`Lane.columnIn_of_ne_three`). So all columns are the same in the keymode that is guessed as they
were when it was guessed, and the chart keeps to its lanes.

Everything about the guess follows from what bounds the highest column (`highestOf_le_iff`). It does
not hang on how the notes are spread over segments, and it is the column of a note unless there is
none.
-/

namespace NoteChart

/-! ### Columns -/

/-- Only in three lanes is an arrow in another column than in four. -/
theorem Lane.columnIn_of_ne_three {keymode : Int} (h : keymode ≠ 3) (lane : Lane) :
    lane.columnIn keymode = lane.columnIn 4 := by
  rcases lane with index | direction
  · rfl
  · rcases direction <;> simp [columnIn, h]

theorem Lane.WellFormed.columnIn_nonneg {lane : Lane} (h : lane.WellFormed) (keymode : Int) :
    0 ≤ lane.columnIn keymode := by
  rcases lane with index | direction
  · exact h
  · rcases direction
    case right =>
      rw [columnIn]
      split_ifs <;> decide
    all_goals simp [columnIn]

/-- The pattern of the segment was read. -/
def Segment.IsRead (segment : Segment) : Prop :=
  ∃ text, Pattern.parse text = .ok segment.pattern

/-- No note that was read stands in front of the first column. -/
theorem Segment.IsRead.columnIn_nonneg {segment : Segment} (h : segment.IsRead) {note : Note}
    (hnote : note ∈ segment.pattern.notes) (keymode : Int) : 0 ≤ note.lane.columnIn keymode := by
  obtain ⟨text, hparse⟩ := h
  have hrows : PatternText.Returns (fun pattern : Pattern ↦ ∀ row ∈ pattern.rows, row.WellFormed)
      (Pattern.parse text) :=
    (PatternText.returns_rows text.toList).map fun _ hfound ↦ hfound
  obtain ⟨row, hrow, hmem⟩ := List.mem_flatMap.1 hnote
  exact ((hrows _ hparse row hrow).notes note hmem).lane.columnIn_nonneg keymode

/-! ### The highest column -/

variable {segments : List Segment}

/-- The highest column of a note in four lanes, or `-1` where there is none. -/
def highestOf (segments : List Segment) : Int :=
  (segments.map (·.pattern.highestColumn 4)).foldl max (-1)

theorem guessKeymode_eq (segments : List Segment) :
    guessKeymode segments =
      if highestOf segments < 0 then .error .emptyPattern
      else .ok (Pattern.keymodeFor (highestOf segments)) := rfl

theorem highestOf_le_iff {bound : Int} :
    highestOf segments ≤ bound ↔
      -1 ≤ bound ∧ ∀ segment ∈ segments, ∀ note ∈ segment.pattern.notes,
        note.lane.columnIn 4 ≤ bound := by
  rw [highestOf, List.foldl_max_le_iff, List.forall_mem_map]
  simp only [Pattern.highestColumn_le_iff]
  refine and_congr_right fun hbound ↦ ?_
  simp only [hbound, true_and]

theorem columnIn_le_highestOf {segment : Segment} (hsegment : segment ∈ segments) {note : Note}
    (hnote : note ∈ segment.pattern.notes) : note.lane.columnIn 4 ≤ highestOf segments :=
  (highestOf_le_iff.1 le_rfl).2 segment hsegment note hnote

/-- If there is a highest column, a note stands in it. -/
theorem exists_columnIn_eq_highestOf (h : 0 ≤ highestOf segments) :
    ∃ segment ∈ segments, ∃ note ∈ segment.pattern.notes,
      note.lane.columnIn 4 = highestOf segments := by
  by_contra! hnone
  -- else one column less would be a bound
  have hless : highestOf segments ≤ highestOf segments - 1 := by
    refine highestOf_le_iff.2 ⟨by omega, fun segment hsegment note hnote ↦ ?_⟩
    have hle := columnIn_le_highestOf hsegment hnote
    have hne := hnone segment hsegment note hnote
    omega
  omega

/-- The rows of all segments have the highest column as one pattern. -/
theorem highestColumn_flatMap_rows (segments : List Segment) :
    Pattern.highestColumn 4 ⟨segments.flatMap (·.pattern.rows)⟩ = highestOf segments := by
  have hnotes : Pattern.notes ⟨segments.flatMap (·.pattern.rows)⟩ =
      segments.flatMap (·.pattern.notes) := by
    simp only [Pattern.notes, List.flatMap_assoc]
  refine eq_of_forall_ge_iff fun bound ↦ ?_
  rw [Pattern.highestColumn_le_iff, highestOf_le_iff, hnotes]
  simp only [List.mem_flatMap, forall_exists_index, and_imp]
  refine and_congr_right fun _ ↦ ?_
  constructor
  · intro h segment hsegment note hnote
    exact h note segment hsegment hnote
  · intro h note segment hsegment hnote
    exact h segment hsegment note hnote

/-- There is no highest column exactly if nothing would be drawn. -/
theorem highestOf_neg_iff (hread : ∀ segment ∈ segments, segment.IsRead) :
    highestOf segments < 0 ↔ ∀ segment ∈ segments, segment.pattern.isVisuallyEmpty := by
  simp only [Pattern.isVisuallyEmpty_iff, List.eq_nil_iff_forall_not_mem]
  constructor
  · intro hneg segment hsegment note hnote
    have hnonneg := (hread segment hsegment).columnIn_nonneg hnote 4
    have hle := columnIn_le_highestOf hsegment hnote
    omega
  · intro hempty
    have hle : highestOf segments ≤ -1 :=
      highestOf_le_iff.2 ⟨le_rfl, fun segment hsegment note hnote ↦
        absurd hnote (hempty segment hsegment note)⟩
    omega

/-! ### The guess -/

/-- A keymode is the guess for some segments and fits them. -/
structure FitsSegments (segments : List Segment) (keymode : Int) : Prop where
  greatest_guess : (segments.map (·.pattern.keymodeGuess)).max? = some keymode
  guess_of_all : Pattern.keymodeGuess ⟨segments.flatMap (·.pattern.rows)⟩ = keymode
  four_le : 4 ≤ keymode
  columns : ∀ segment ∈ segments, ∀ note ∈ segment.pattern.notes,
    0 ≤ note.lane.columnIn keymode ∧ note.lane.columnIn keymode < keymode
  tight : keymode = 4 ∨ ∃ segment ∈ segments, ∃ note ∈ segment.pattern.notes,
    note.lane.columnIn keymode = keymode - 1

theorem keymodeFor_mono {lower higher : Int} (h : lower ≤ higher) :
    Pattern.keymodeFor lower ≤ Pattern.keymodeFor higher := by
  simp only [Pattern.keymodeFor]
  omega

/-- The greatest guess for a segment is the one for the highest column of all. -/
theorem greatest_keymodeGuess (h : 0 ≤ highestOf segments) :
    (segments.map (·.pattern.keymodeGuess)).max? =
      some (Pattern.keymodeFor (highestOf segments)) := by
  have hle (segment : Segment) (hsegment : segment ∈ segments) :
      segment.pattern.highestColumn 4 ≤ highestOf segments :=
    Pattern.highestColumn_le_iff.2
      ⟨by omega, fun note hnote ↦ columnIn_le_highestOf hsegment hnote⟩
  refine List.max?_eq_some_iff.2 ⟨?_, List.forall_mem_map.2 fun segment hsegment ↦ ?_⟩
  · obtain ⟨segment, hsegment, note, hnote, hcolumn⟩ := exists_columnIn_eq_highestOf h
    have hge := Pattern.columnIn_le_highestColumn hnote 4
    refine List.mem_map.2 ⟨segment, hsegment, ?_⟩
    rw [Pattern.keymodeGuess, le_antisymm (hle segment hsegment) (hcolumn ▸ hge)]
  · exact keymodeFor_mono (hle segment hsegment)

/-- The keymode for the highest column fits. -/
theorem fitsSegments_keymodeFor (hread : ∀ segment ∈ segments, segment.IsRead)
    (h : 0 ≤ highestOf segments) :
    FitsSegments segments (Pattern.keymodeFor (highestOf segments)) := by
  have hfour : 4 ≤ Pattern.keymodeFor (highestOf segments) := le_max_right _ _
  have hcolumn (note : Note) :
      note.lane.columnIn (Pattern.keymodeFor (highestOf segments)) = note.lane.columnIn 4 :=
    note.lane.columnIn_of_ne_three (by omega)
  refine ⟨greatest_keymodeGuess h, ?_, hfour, fun segment hsegment note hnote ↦ ⟨?_, ?_⟩, ?_⟩
  · rw [Pattern.keymodeGuess, highestColumn_flatMap_rows]
  · exact (hread segment hsegment).columnIn_nonneg hnote _
  · have hle := columnIn_le_highestOf hsegment hnote
    rw [hcolumn, Pattern.keymodeFor]
    omega
  · obtain ⟨segment, hsegment, note, hnote, htop⟩ := exists_columnIn_eq_highestOf h
    rcases le_or_gt (highestOf segments + 1) 4 with hlow | hhigh
    · exact .inl (max_eq_right hlow)
    · refine .inr ⟨segment, hsegment, note, hnote, ?_⟩
      rw [hcolumn, htop, Pattern.keymodeFor, max_eq_left hhigh.le]
      omega

/-- **Guessing.** A keymode is guessed unless nothing would be drawn, and it fits. -/
theorem ends_guessKeymode (hread : ∀ segment ∈ segments, segment.IsRead) :
    Ends (FitsSegments segments)
      (if ∀ segment ∈ segments, segment.pattern.isVisuallyEmpty then some .emptyPattern else none)
      (guessKeymode segments) := by
  rw [guessKeymode_eq]
  simp only [← highestOf_neg_iff hread]
  split_ifs with hneg
  · exact .error _
  · exact .ok (fitsSegments_keymodeFor hread (not_lt.1 hneg))

namespace Command

/-! ### Answers -/

/-- Segments are read, or left unread for a group that nothing closes. -/
theorem readSegments_isRead (segments : List TextSegment) :
    Within (fun fault ↦ fault.isOffLane = false)
      (fun read : List Segment ↦ ∀ segment ∈ read, segment.IsRead) (readSegments segments) := by
  refine Within.mapM fun segment _ ↦ ?_
  rcases hparse : Pattern.parse segment.text with unclosed | pattern
  · exact .error rfl
  · exact .ok ⟨segment.text, hparse⟩

/-- A guess fits, or there is none because there is no note. -/
theorem guessKeymode_fits {segments : List Segment}
    (hread : ∀ segment ∈ segments, segment.IsRead) :
    Within (fun fault ↦ fault.isOffLane = false) (FitsSegments segments)
      (guessKeymode segments) := by
  refine Within.of_ends (ends_guessKeymode hread) fun fault hfault ↦ ?_
  split_ifs at hfault
  cases hfault
  rfl

theorem onLanes_chosenSkin (library : Library) (request : Request) (keymode : Int) :
    OnLanes (chosenSkin library request keymode) := by
  rw [chosenSkin]
  rcases request.skin with - | named
  · dsimp only
    rcases hchosen : library.defaultFor keymode with fault | named
    · rw [Library.eq_noSkins_of_defaultFor hchosen]
      exact .error rfl
    · exact .ok named
  · exact .ok named

/-- The recipe of a request for no keymode in particular keeps to its lanes. -/
theorem keepsToLanes_recipe (library : Library) (limits : Config.Limits) {request : Request}
    (hkeymode : request.keymode = none) :
    Within (fun fault ↦ fault.isOffLane = false) Recipe.KeepsToLanes
      (recipe library limits request) := by
  have hguess (segments : List Segment) :
      chosenKeymode request segments = guessKeymode segments := by
    rw [chosenKeymode, hkeymode]
  rw [recipe_eq]
  refine (readSegments_isRead request.segments).bind fun segments hread ↦ ?_
  rw [hguess]
  refine (guessKeymode_fits hread).bind fun keymode hfits ↦ ?_
  refine Within.bind (onLanes_chosenSkin library request keymode) fun named _ ↦ .ok ?_
  intro note hnote
  obtain ⟨segment, hsegment, hmem⟩ := List.mem_flatMap.1 hnote
  exact hfits.columns segment hsegment note hmem

/-- Where no word is of a sort, none is the last of it. -/
theorem lastOf_eq_none {α : Type} {library : Library} {sort : Meaning → Option α}
    {words : List String} (h : ∀ word ∈ words, sort (classify library word) = none) :
    lastOf library sort words = none := by
  rw [lastOf, List.filterMap_eq_nil_iff.2 h]
  rfl

/-- **A command that names no keymode** is never answered by a lane that its keymode lacks. -/
theorem onLanes_answer (library : Library) (config : Config) {text : String}
    (hwords : ∀ word ∈ wordsOf text, (classify library word).keymode? = none) :
    OnLanes (answer library config text) := by
  rcases hhelp : asksForHelp text with - | -
  · have hends : Ends (·.keymode = none) (digitFault? library (wordsOf text))
        (requestOf library config text) := by
      refine (Request.ends_ofText_madeOf library _ _ _ text).imp fun request hmade ↦ ?_
      rw [hmade.keymode, lastOf_eq_none hwords]
    have hrequest : Within (fun fault ↦ fault.isOffLane = false) (·.keymode = none)
        (requestOf library config text) := by
      refine .of_ends hends fun fault hfault ↦ ?_
      rw [eq_tooManyDigits_of_digitFault? hfault]
      rfl
    rw [answer_eq_bind hhelp]
    refine hrequest.bind fun request hkeymode ↦ ?_
    refine (keepsToLanes_recipe library config.render hkeymode).bind fun recipe hkeeps ↦ ?_
    exact (Recipe.onLanes_draw hkeeps).map _
  · rw [answer_of_help hhelp]
    exact .ok _

/-- **The guess always fits.** Whatever was read, a keymode is guessed unless nothing would be
drawn: it is the greatest guess for a segment and the guess for all rows as one pattern, it has a
lane for every note in that very keymode, and it is four or has a note in its last lane. So a
command that names no keymode is never refused for a lane, whatever the library and the settings
are. -/
theorem guess_fits :
    (∀ segments : List Segment, (∀ segment ∈ segments, segment.IsRead) →
      Ends (FitsSegments segments)
        (if ∀ segment ∈ segments, segment.pattern.isVisuallyEmpty then some .emptyPattern
          else none)
        (guessKeymode segments)) ∧
    ∀ (library : Library) (config : Config) (text : String),
      (∀ word ∈ wordsOf text, (classify library word).keymode? = none) →
      ∀ lane keymode : Int,
        answer library config text ≠ .error (.skin (.laneInvalid lane keymode)) := by
  refine ⟨fun segments hread ↦ ends_guessKeymode hread, ?_⟩
  intro library config text hwords lane keymode
  exact (onLanes_answer library config hwords).ne_error Bool.noConfusion

/-- A right arrow and a lane further out. -/
def rightAndSix : Pattern := ⟨[⟨[⟨.arrow .right, .tap, 0⟩], 0⟩, ⟨[⟨.column 5, .tap, 0⟩], 0⟩]⟩

/-- The arrow is in the fourth of the six lanes that are guessed, and the command is drawn with
them. -/
theorem guess_fits_right_and_six :
    Pattern.parse "R6" = .ok rightAndSix ∧
    guessKeymode [⟨rightAndSix, .sixteenths⟩] = .ok 6 ∧
    FitsSegments [⟨rightAndSix, .sixteenths⟩] 6 ∧
    (∀ word ∈ wordsOf "R6 down", (classify oneSkin word).keymode? = none) ∧
    answer oneSkin {} "R6 down" ≠ .error (.skin (.laneInvalid 6 4)) := by
  have hparse : Pattern.parse "R6" = .ok rightAndSix := by decide +kernel
  have hguess : guessKeymode [⟨rightAndSix, .sixteenths⟩] = .ok 6 := by decide +kernel
  have hwords : ∀ word ∈ wordsOf "R6 down", (classify oneSkin word).keymode? = none := by
    decide +kernel
  have hends := guess_fits.1 [⟨rightAndSix, .sixteenths⟩]
    (List.forall_mem_singleton.2 ⟨"R6", hparse⟩)
  exact ⟨hparse, hguess, hends.good_of_ok hguess, hwords, guess_fits.2 oneSkin {} _ hwords 6 4⟩

end Command

end NoteChart
