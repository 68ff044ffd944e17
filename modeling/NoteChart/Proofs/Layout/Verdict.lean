import NoteChart.Proofs.Layout.Placement

/-!
# Which charts are laid out

A chart is refused for the first thing that is wrong with it, in a fixed order: the number of lanes,
the zoom, that there is nothing to draw, the skin, the notes in the order in which they are stored,
the number of sprites. `verdict?` tells what that is from the recipe alone, without a timeline. A
chart with nothing wrong is laid out, and its sprites are told one by one (`Shows`): the receptors
of all lanes, and behind them each note of the chart in its turn.

What `LaidOut` says of the sprites is where they stand. Which picture a sprite has is not part of
it, and is read off the steps that placed the sprites.
-/

namespace NoteChart

/-- The timeline has the notes of the chart in the order in which they are stored. -/
theorem Timeline.map_fst_notes_ofSegments (segments : List Segment) :
    (ofSegments segments).notes.map Prod.fst = segments.flatMap (·.pattern.notes) := by
  have hrows (base : Nat) (snap : SnapNumber) (taken : Nat) (rows : List Row) :
      (numberedRows base snap taken rows).flatMap (·.row.notes) = rows.flatMap (·.notes) := by
    induction rows generalizing taken with
    | nil => rfl
    | cons row rest ih => rw [numberedRows, List.flatMap_cons, List.flatMap_cons, ih]
  have hsegments (base : Nat) :
      (numbered base segments).flatMap (·.row.notes) = segments.flatMap (·.pattern.notes) := by
    induction segments generalizing base with
    | nil => rfl
    | cons segment rest ih =>
      rw [numbered, List.flatMap_append, hrows, ih, List.flatMap_cons]
      rfl
  have hnotes : (ofSegments segments).notes.map Prod.fst =
      (ofSegments segments).rows.flatMap (·.row.notes) := by
    simp [notes, List.map_flatMap, Function.comp_def]
  rw [hnotes, rows_ofSegments, hsegments]

namespace Recipe

variable {recipe : Recipe} {layout : Layout}

/-- The notes of a chart as they are stored, segment by segment and row by row. -/
def notes (recipe : Recipe) : List Note := recipe.segments.flatMap (·.pattern.notes)

theorem map_fst_notes (recipe : Recipe) :
    recipe.timeline.notes.map Prod.fst = recipe.notes :=
  Timeline.map_fst_notes_ofSegments recipe.segments

/-- What is wrong with a chart, if anything is. -/
def verdict? (recipe : Recipe) : Option Fault :=
  if recipe.keymode ≤ 0 then some (.keymodeNotPositive recipe.keymode)
  else if recipe.zoom.isNonpositive then some (.spacingNotPositive recipe.zoom)
  else if ∀ segment ∈ recipe.segments, ∀ row ∈ segment.pattern.rows, row.notes = [] then
    some .emptyPattern
  else if ¬recipe.skin.supports recipe.keymode then
    some (.skin (.keymodeUnsupported recipe.keymode))
  else
    (recipe.notes.findSome? recipe.noteFault?).or
      (if recipe.maxSprites < recipe.keymode + recipe.notes.length then
        some (.tooManySprites (recipe.keymode + recipe.notes.length) recipe.maxSprites)
      else none)

/-! ### Sprites one by one -/

/-- The receptor of a lane, in the first row of the chart. -/
structure ShowsReceptor (recipe : Recipe) (lane : Nat) (sprite : PlacedSprite) : Prop where
  lane_eq : sprite.lane = lane
  row_eq : sprite.row = drawnRow recipe.scroll recipe.timeline.highest 0
  image_eq : recipe.skin.receptor lane recipe.keymode = .ok sprite.image

/-- A note in its lane and in the row of its number. A tap has the colour of that number, and all
mines look the same. -/
structure ShowsNote (recipe : Recipe) (note : Note) (number : Nat) (sprite : PlacedSprite) :
    Prop where
  lane_eq : sprite.lane = recipe.column note
  row_eq : sprite.row = drawnRow recipe.scroll recipe.timeline.highest number
  not_hold : note.kind ≠ .hold
  tap_image : note.kind = .tap →
    recipe.skin.note (recipe.column note) recipe.keymode (.ofRow number) = .ok sprite.image
  mine_image : note.kind = .mine → sprite.image = recipe.skin.mine

/-- The sprites of a layout are the receptors of all lanes and then the notes of the timeline. -/
def Shows (recipe : Recipe) (layout : Layout) : Prop :=
  ∃ receptors notes, layout.sprites = receptors ++ notes ∧
    List.Forall₂ recipe.ShowsReceptor (List.range recipe.keymode.toNat) receptors ∧
    List.Forall₂ (fun note ↦ recipe.ShowsNote note.1 note.2) recipe.timeline.notes notes

/-- A receptor that was placed has the picture of its lane. -/
theorem showsReceptor_of_placeReceptor {lane : Nat} {sprite : PlacedSprite}
    (h : recipe.placeReceptor recipe.timeline.highest lane = .ok sprite) :
    recipe.ShowsReceptor lane sprite := by
  rw [placeReceptor] at h
  obtain ⟨image, himage, rfl⟩ := exists_of_map_eq_ok h
  exact ⟨rfl, rfl, eq_ok_of_mapError_eq_ok himage⟩

/-- A note that was placed has the picture of its kind, its lane and its row. -/
theorem showsNote_of_placeNote {note : Note} {number : Nat} {sprite : PlacedSprite}
    (h : recipe.placeNote recipe.timeline.highest note number = .ok sprite) :
    recipe.ShowsNote note number sprite := by
  obtain ⟨image, himage, rfl⟩ := exists_of_map_eq_ok h
  change recipe.noteImage note.kind (recipe.column note) number = .ok image at himage
  refine ⟨rfl, rfl, ?_, ?_, ?_⟩
  · intro hkind
    rw [hkind] at himage
    cases himage
  · intro hkind
    rw [hkind, noteImage] at himage
    exact eq_ok_of_mapError_eq_ok himage
  · intro hkind
    rw [hkind, noteImage] at himage
    obtain ⟨-, -, hmine⟩ := exists_of_map_eq_ok (eq_ok_of_mapError_eq_ok himage)
    exact hmine.symm

theorem sprites_of_complete {sprites : List PlacedSprite}
    (h : recipe.complete sprites = .ok layout) : layout.sprites = sprites := by
  obtain ⟨-, height, -, -, rfl⟩ := exists_of_complete_eq_ok h
  rfl

/-- **A layout shows its chart**, sprite by sprite. -/
theorem LaidOut.shows (h : recipe.LaidOut layout) (hok : recipe.layout = .ok layout) :
    recipe.Shows layout := by
  rw [layout_eq h.keymode_pos h.zoom_positive h.notes_ne_nil] at hok
  obtain ⟨receptors, hreceptors, hok⟩ := exists_of_bind_eq_ok hok
  obtain ⟨notes, hnotes, hcomplete⟩ := exists_of_bind_eq_ok hok
  have hlanes := mapM_of_receptors_eq_ok hreceptors
  refine ⟨receptors, notes, sprites_of_complete hcomplete, ?_, ?_⟩
  · exact (forall₂_of_mapM hlanes).imp fun _ _ ↦ showsReceptor_of_placeReceptor
  · exact (forall₂_of_mapM hnotes).imp fun _ _ ↦ showsNote_of_placeNote

/-! ### The verdict -/

/-- A timeline is without notes exactly if all rows of the chart are. -/
theorem notes_eq_nil_iff (recipe : Recipe) :
    recipe.timeline.notes = [] ↔
      ∀ segment ∈ recipe.segments, ∀ row ∈ segment.pattern.rows, row.notes = [] := by
  rw [← List.map_eq_nil_iff (f := Prod.fst), map_fst_notes]
  simp [notes, Pattern.notes, List.flatMap_eq_nil_iff]

/-- Where the snap numbers have doubles, the timeline does not matter to what is wrong. -/
theorem layoutFault?_eq_verdict?
    (hsnaps : ∀ segment ∈ recipe.segments, segment.snap.value < Binary64.integerLimit) :
    recipe.layoutFault? = recipe.verdict? := by
  have hlength : (recipe.timeline.notes.length : Int) = recipe.notes.length := by
    rw [← map_fst_notes, List.length_map]
  have hfaults : (recipe.timeline.notes.findSome? fun note ↦ recipe.noteFault? note.1) =
      recipe.notes.findSome? recipe.noteFault? := by
    rw [← map_fst_notes, List.findSome?_map]
    rfl
  have hsnap (hnotes : recipe.timeline.notes ≠ []) : recipe.snapFault? = none := by
    obtain ⟨smallest, hsmallest⟩ := exists_smallestSnap? hnotes
    obtain ⟨segment, hsegment, rfl⟩ := List.mem_map.1 (List.min?_mem hsmallest)
    rw [snapFault?_of_smallest hsmallest, if_neg (not_le.2 (hsnaps segment hsegment))]
  rw [layoutFault?, verdict?, refusal?]
  simp only [← notes_eq_nil_iff, hfaults, countFault?, spriteCount, hlength]
  by_cases hnotes : recipe.timeline.notes = []
  · simp only [hnotes, if_true, Option.some_or]
  · by_cases hsupports : recipe.skin.supports recipe.keymode
    · simp only [hnotes, hsupports, hsnap hnotes, if_true, if_false, not_true, Option.or_none]
    · simp [hnotes, hsupports]

/-- **Which charts are laid out.** A chart of a built skin whose snap numbers have doubles ends with
the first thing that is wrong with it, and otherwise with a layout that shows it. The timeline has
the notes in the order in which they are stored. -/
theorem layout_ends_with_verdict (hskin : recipe.skin.Built)
    (hsnaps : ∀ segment ∈ recipe.segments, (Binary64.ofInt segment.snap.value).isFinite) :
    recipe.timeline.notes.map Prod.fst = recipe.notes ∧
      Ends recipe.Shows recipe.verdict? recipe.layout := by
  have hlimits : ∀ segment ∈ recipe.segments, segment.snap.value < Binary64.integerLimit :=
    fun segment hsegment ↦ (Binary64.isFinite_ofInt_natCast _).1 (hsnaps segment hsegment)
  refine ⟨recipe.map_fst_notes, ?_⟩
  rw [← layoutFault?_eq_verdict? hlimits]
  obtain ⟨fault, hfault, herror⟩ | ⟨hnone, layout, hlaid, hok⟩ :=
    (ends_layout hskin.wellFormed).error_or_ok
  · rw [hfault, herror]
    exact .error fault
  · rw [hnone, hok]
    exact .ok (hlaid.shows hok)

theorem layout_ends_with_verdict_twoNotes :
    twoNotes.skin.Built ∧
    (∀ segment ∈ twoNotes.segments, (Binary64.ofInt segment.snap.value).isFinite) ∧
    Ends twoNotes.Shows none twoNotes.layout ∧
    { twoNotes with keymode := 1 }.layout = .error (.skin (.laneInvalid 2 1)) ∧
    { twoNotes with maxSprites := 3 }.layout = .error (.tooManySprites 4 3) := by
  have hsnaps : ∀ segment ∈ twoNotes.segments,
      (Binary64.ofInt segment.snap.value).isFinite := by
    decide +kernel
  have htwo : Ends twoNotes.Shows none twoNotes.layout := by
    have hends := (layout_ends_with_verdict built_blankBars hsnaps).2
    have hnone : twoNotes.verdict? = none := by decide +kernel
    rwa [hnone] at hends
  have hnarrow :=
    (@layout_ends_with_verdict { twoNotes with keymode := 1 } built_blankBars hsnaps).2
  have hlimited :=
    (@layout_ends_with_verdict { twoNotes with maxSprites := 3 } built_blankBars hsnaps).2
  refine ⟨built_blankBars, hsnaps, htwo, ?_, ?_⟩
  · exact hnarrow.error_iff.2 (by decide +kernel)
  · exact hlimited.error_iff.2 (by decide +kernel)

end Recipe

end NoteChart
