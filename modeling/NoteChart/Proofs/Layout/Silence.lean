import NoteChart.Proofs.Layout.Placement
import NoteChart.Proofs.Timeline.Walking
import NoteChart.Proofs.Together

/-!
# Silence in front

A segment without notes that fills whole measures may stand in front of a chart. Its steps come to
whole rows whatever its snap is (`rowsOf_measures`), so nothing is lost at its end, and all rows
behind it have their numbers moved by the rows of those measures. A colour only asks where a row
stands in its measure, so it stays (`ofRow_add_measures`).

Numbers, notes and the highest number are moved by the same rows (`numbered_add`, `notes_behind`,
`highest_behind`). In a layout this shows once only. Scrolling up the notes move and the receptors
stay in the first row; scrolling down the rows are counted from the last one, so it is the receptors
that move. How the silence is written, with rows of its own or with reserved ones, is not asked for:
all that is known of it is how many steps it has.
-/

namespace NoteChart

/-! ### Whole measures -/

/-- As many measures of a snap as one likes are whole rows. -/
theorem SnapNumber.rowsOf_measures (snap : SnapNumber) (measures : Nat) :
    snap.rowsOf (measures * snap.value) = Snap.rowsPerMeasure * measures := by
  rw [rowsOf, ← Nat.mul_assoc, Nat.mul_div_cancel _ snap.value_pos]

/-- The colour of a row is told by where it stands in its measure. -/
theorem Snap.ofRow_add_measures (row measures : Nat) :
    ofRow (row + rowsPerMeasure * measures : Nat) = ofRow row := by
  have hreaches : reaches (row + rowsPerMeasure * measures : Nat) = reaches row := by
    funext snap
    rw [reaches, reaches, Int.natCast_add, Int.natCast_mul, Int.add_mul_emod_self_left]
  rw [ofRow, ofRow, hreaches]

/-- The segment has no notes and fills so many measures. -/
structure Segment.SilentFor (measures : Nat) (segment : Segment) : Prop where
  notes_eq_nil : ∀ row ∈ segment.pattern.rows, row.notes = []
  steps_eq : segment.steps = measures * segment.snap.value

/-- No part of a row is lost at the end of whole measures. -/
theorem Segment.SilentFor.extent_eq {segment : Segment} {measures : Nat}
    (h : segment.SilentFor measures) : segment.extent = Snap.rowsPerMeasure * measures := by
  rw [extent, h.steps_eq, SnapNumber.rowsOf_measures]

/-! ### Rows that are moved -/

/-- The row with its number moved. -/
def TimedRow.later (rows : Nat) (timed : TimedRow) : TimedRow :=
  { timed with number := timed.number + rows }

/-- Rows that start later are all later by as much. -/
theorem numberedRows_add (base more : Nat) (snap : SnapNumber) (taken : Nat) (rows : List Row) :
    numberedRows (base + more) snap taken rows =
      (numberedRows base snap taken rows).map (·.later more) := by
  induction rows generalizing taken with
  | nil => rfl
  | cons row rest ih =>
    rw [numberedRows, numberedRows, List.map_cons, ih, Nat.add_right_comm]
    rfl

/-- Segments that start later have the same rows under later numbers. -/
theorem numbered_add (base more : Nat) (segments : List Segment) :
    numbered (base + more) segments = (numbered base segments).map (·.later more) := by
  induction segments generalizing base with
  | nil => rfl
  | cons segment rest ih =>
    rw [numbered, numbered, List.map_append, numberedRows_add, Nat.add_right_comm, ih]

theorem numbered_eq_nil_iff (base : Nat) (segments : List Segment) :
    numbered base segments = [] ↔ ∀ segment ∈ segments, segment.pattern.rows = [] := by
  rw [← List.length_eq_zero_iff, length_numbered, List.sum_eq_zero_iff, List.forall_mem_map]
  simp only [List.length_eq_zero_iff]

/-- What stands behind a segment is moved by its rows. -/
theorem numbered_cons (front : Segment) (segments : List Segment) :
    numbered 0 (front :: segments) =
      numberedRows 0 front.snap 0 front.pattern.rows ++
        (numbered 0 segments).map (·.later front.extent) := by
  rw [numbered, numbered_add]

/-- Rows without notes have none on the timeline. -/
theorem notes_numberedRows_eq_nil {rows : List Row} (h : ∀ row ∈ rows, row.notes = [])
    (base : Nat) (snap : SnapNumber) (taken : Nat) :
    ((numberedRows base snap taken rows).flatMap fun timed ↦
      timed.row.notes.map (·, timed.number)) = [] := by
  induction rows generalizing taken with
  | nil => rfl
  | cons row rest ih =>
    obtain ⟨hrow, hrest⟩ := List.forall_mem_cons.1 h
    rw [numberedRows, List.flatMap_cons, ih hrest, hrow]
    rfl

namespace Timeline

variable {silence : Segment} {measures : Nat} {segments : List Segment}

/-- **Notes behind silence** are the same notes in the same order, under numbers that are moved. -/
theorem notes_behind (h : silence.SilentFor measures) :
    (ofSegments (silence :: segments)).notes =
      (ofSegments segments).notes.map fun placed ↦
        (placed.1, placed.2 + Snap.rowsPerMeasure * measures) := by
  rw [notes, notes, rows_ofSegments, rows_ofSegments, numbered_cons, h.extent_eq,
    List.flatMap_append, notes_numberedRows_eq_nil h.notes_eq_nil, List.nil_append,
    List.flatMap_map, List.map_flatMap]
  simp only [List.map_map]
  rfl

/-- **The highest number behind silence** is moved too, if there is a row at all. -/
theorem highest_behind (h : silence.SilentFor measures)
    (hrows : (ofSegments segments).rows ≠ []) :
    (ofSegments (silence :: segments)).highest =
      (ofSegments segments).highest + Snap.rowsPerMeasure * measures := by
  have hwalked : numbered 0 (segments.map Segment.walked) ≠ [] := by
    simpa only [rows_ofSegments, ne_eq, numbered_eq_nil_iff, List.forall_mem_map,
      Segment.walked_rows_eq_nil_iff] using hrows
  have hlast := List.getLast?_eq_some_getLast hwalked
  -- the last step of all is the last one behind the silence
  rw [highest_eq_last_step, highest_eq_last_step, List.map_cons, rows_ofSegments, rows_ofSegments,
    numbered_cons, Segment.extent_walked, h.extent_eq, List.getLast?_append, List.getLast?_map,
    hlast]
  rfl

end Timeline

/-! ### Sprites that are moved -/

namespace Scroll

/-- By how much the receptors of a chart are moved when its rows are. -/
def receptorDelay (scroll : Scroll) (rows : Nat) : Int :=
  match scroll with
  | .up => 0
  | .down => rows

/-- By how much the notes of a chart are moved when its rows are. -/
def noteDelay (scroll : Scroll) (rows : Nat) : Int :=
  match scroll with
  | .up => rows
  | .down => 0

end Scroll

/-- The same picture in the same lane, in a row that is moved. -/
structure PlacedSprite.LaterBy (rows : Int) (sprite later : PlacedSprite) : Prop where
  lane_eq : later.lane = sprite.lane
  image_eq : later.image = sprite.image
  row_eq : later.row = sprite.row + rows

/-- The layouts have the same receptors and the same notes, in the same order and moved as the
direction has it. The receptors of the first layout are in the first row of the chart. -/
structure Layout.DelayedBy (scroll : Scroll) (lanes rows : Nat) (layout later : Layout) :
    Prop where
  highestRow_eq : later.highestRow = layout.highestRow + rows
  resolution_eq : later.resolution = layout.resolution
  length_receptors : (layout.sprites.take lanes).length = lanes
  receptor_row : ∀ sprite ∈ layout.sprites.take lanes,
    sprite.row = Recipe.drawnRow scroll layout.highestRow 0
  receptors : List.Forall₂ (PlacedSprite.LaterBy (scroll.receptorDelay rows))
    (layout.sprites.take lanes) (later.sprites.take lanes)
  notes : List.Forall₂ (PlacedSprite.LaterBy (scroll.noteDelay rows))
    (layout.sprites.drop lanes) (later.sprites.drop lanes)

/-- A layout is delayed if its receptors and its notes are, each as the direction has it. -/
theorem Layout.delayedBy_of_append {scroll : Scroll} {lanes rows : Nat} {layout later : Layout}
    {receptors others notes more : List PlacedSprite}
    (hsprites : layout.sprites = receptors ++ notes) (hothers : later.sprites = others ++ more)
    (hhighest : later.highestRow = layout.highestRow + rows)
    (hresolution : later.resolution = layout.resolution) (hlanes : receptors.length = lanes)
    (hrow : ∀ sprite ∈ receptors, sprite.row = Recipe.drawnRow scroll layout.highestRow 0)
    (hreceptors : List.Forall₂ (PlacedSprite.LaterBy (scroll.receptorDelay rows)) receptors others)
    (hnotes : List.Forall₂ (PlacedSprite.LaterBy (scroll.noteDelay rows)) notes more) :
    layout.DelayedBy scroll lanes rows later := by
  have hmore : others.length = lanes := hreceptors.length_eq.symm.trans hlanes
  exact {
    highestRow_eq := hhighest
    resolution_eq := hresolution
    length_receptors := by rw [hsprites, List.take_left' hlanes, hlanes]
    receptor_row := by rwa [hsprites, List.take_left' hlanes]
    receptors := by rwa [hsprites, hothers, List.take_left' hlanes, List.take_left' hmore]
    notes := by rwa [hsprites, hothers, List.drop_left' hlanes, List.drop_left' hmore] }

namespace Recipe

/-- The row of a receptor moves with the highest number, scrolling down. -/
theorem drawnRow_receptor (scroll : Scroll) (highest rows : Nat) :
    drawnRow scroll (highest + rows) 0 = drawnRow scroll highest 0 + scroll.receptorDelay rows := by
  rcases scroll with - | - <;> simp only [drawnRow, Scroll.receptorDelay] <;> omega

/-- The row of a note moves with its number, scrolling up. -/
theorem drawnRow_note (scroll : Scroll) (highest rows number : Nat) :
    drawnRow scroll (highest + rows) (number + rows) =
      drawnRow scroll highest number + scroll.noteDelay rows := by
  rcases scroll with - | - <;> simp only [drawnRow, Scroll.noteDelay] <;> omega

variable {recipe : Recipe} {silence : Segment} {measures : Nat}

/-- **The receptors** of a chart that is higher. -/
theorem together_receptors_later (highest rows : Nat) :
    Together (List.Forall₂ (PlacedSprite.LaterBy (recipe.scroll.receptorDelay rows)))
      (recipe.receptors highest) (recipe.receptors (highest + rows)) := by
  have hreceptor (lane : Nat) :
      Together (PlacedSprite.LaterBy (recipe.scroll.receptorDelay rows))
        (recipe.placeReceptor highest lane) (recipe.placeReceptor (highest + rows) lane) :=
    .map_self _ fun image ↦ ⟨rfl, rfl, drawnRow_receptor recipe.scroll highest rows⟩
  refine (hreceptor 0).bind fun _ _ _ ↦ .mapM ?_
  exact List.forall₂_same.2 fun lane _ ↦ hreceptor lane

/-- The colour of a note is all of its picture that depends on its number. -/
theorem noteImage_add_measures (kind : NoteKind) (column : Int) (number measures : Nat) :
    recipe.noteImage kind column (number + Snap.rowsPerMeasure * measures) =
      recipe.noteImage kind column number := by
  rcases kind with - | - | -
  · rw [noteImage, noteImage, Snap.ofRow_add_measures]
  · rfl
  · rfl

/-- **A note** of a chart that is higher by whole measures. -/
theorem together_placeNote_later (highest : Nat) (note : Note) (number measures : Nat) :
    Together (PlacedSprite.LaterBy (recipe.scroll.noteDelay (Snap.rowsPerMeasure * measures)))
      (recipe.placeNote highest note number)
      (recipe.placeNote (highest + Snap.rowsPerMeasure * measures) note
        (number + Snap.rowsPerMeasure * measures)) := by
  rw [placeNote, placeNote, noteImage_add_measures]
  exact .map_self _ fun image ↦ ⟨rfl, rfl, drawnRow_note recipe.scroll highest _ number⟩

/-- **The notes**, one after another. -/
theorem together_notes_later (highest measures : Nat) (notes : List (Note × Nat)) :
    Together
      (List.Forall₂
        (PlacedSprite.LaterBy (recipe.scroll.noteDelay (Snap.rowsPerMeasure * measures))))
      (notes.mapM fun note ↦ recipe.placeNote highest note.1 note.2)
      ((notes.map fun placed ↦ (placed.1, placed.2 + Snap.rowsPerMeasure * measures)).mapM
        fun note ↦
          recipe.placeNote (highest + Snap.rowsPerMeasure * measures) note.1 note.2) := by
  refine .mapM (List.forall₂_map_right_iff.2 (List.forall₂_same.2 ?_))
  exact fun placed _ ↦ together_placeNote_later highest placed.1 placed.2 measures

/-! ### Layouts -/

/-- The recipe with a segment in front of its own. -/
def behind (recipe : Recipe) (front : Segment) : Recipe :=
  recipe.withSegments (front :: recipe.segments)

/-- Behind a silence every note is later by its measures. -/
theorem notes_timeline_behind (h : silence.SilentFor measures) :
    (recipe.behind silence).timeline.notes =
      recipe.timeline.notes.map fun placed ↦
        (placed.1, placed.2 + Snap.rowsPerMeasure * measures) :=
  Timeline.notes_behind h

theorem highest_timeline_behind (h : silence.SilentFor measures)
    (hnotes : recipe.timeline.notes ≠ []) :
    (recipe.behind silence).timeline.highest =
      recipe.timeline.highest + Snap.rowsPerMeasure * measures := by
  refine Timeline.highest_behind h fun hrows ↦ hnotes ?_
  rw [timeline, Timeline.notes, hrows]
  rfl

/-- Silence changes nothing about what is wrong at the outset. -/
theorem outsetFault?_behind (h : silence.SilentFor measures) :
    (recipe.behind silence).outsetFault? = recipe.outsetFault? := by
  simp only [outsetFault?, notes_timeline_behind h, List.map_eq_nil_iff]
  rfl

/-- A segment in front may bring a smaller snap number. -/
theorem smallestSnap?_cons {segments : List Segment} {smallest : Nat}
    (h : smallestSnap? segments = some smallest) (front : Segment) :
    smallestSnap? (front :: segments) = some (min front.snap.value smallest) := by
  rw [smallestSnap?] at h
  rw [smallestSnap?, List.map_cons, List.min?_cons, h]
  rfl

theorem exists_rowHeight {smallest : Nat} (h : smallest < Binary64.integerLimit)
    (zoom : Binary64) : ∃ height, rowHeight smallest zoom = .ok height := by
  obtain ⟨height, -, hheight⟩ := (ends_rowHeight smallest zoom).exists_ok (if_neg (not_le.2 h))
  exact ⟨height, hheight⟩

/-- Receptors stand in the row where the chart starts. -/
theorem row_of_mem_receptors {highest : Nat} {receptors : List PlacedSprite}
    (h : recipe.receptors highest = .ok receptors) {sprite : PlacedSprite}
    (hsprite : sprite ∈ receptors) : sprite.row = drawnRow recipe.scroll highest 0 := by
  obtain ⟨lane, -, hlane⟩ := (mem_iff_of_mapM (mapM_of_receptors_eq_ok h)).1 hsprite
  obtain ⟨image, -, rfl⟩ := exists_of_map_eq_ok hlane
  rfl

/-- The count does not see silence, and the rows keep their height unless the silence is of a
coarser snap than all of the chart. -/
theorem exists_complete_behind
    (hsnaps : ∀ segment ∈ recipe.segments, (Binary64.ofInt segment.snap.value).isFinite)
    (hnotes : recipe.timeline.notes ≠ []) (silence : Segment) :
    ∃ height more,
      (∀ sprites, recipe.complete sprites =
        if recipe.maxSprites < sprites.length then
          .error (.tooManySprites sprites.length recipe.maxSprites)
        else .ok ⟨sprites, recipe.skin.resolution, height, recipe.timeline.highest⟩) ∧
      (∀ sprites, (recipe.behind silence).complete sprites =
        if recipe.maxSprites < sprites.length then
          .error (.tooManySprites sprites.length recipe.maxSprites)
        else
          .ok ⟨sprites, recipe.skin.resolution, more,
            (recipe.behind silence).timeline.highest⟩) ∧
      ((∃ segment ∈ recipe.segments, segment.snap.value ≤ silence.snap.value) →
        more = height) := by
  obtain ⟨smallest, hsmallest⟩ := exists_smallestSnap? hnotes
  obtain ⟨hmem, hle⟩ := List.min?_eq_some_iff.1 hsmallest
  have hlimit : smallest < Binary64.integerLimit := by
    obtain ⟨segment, hsegment, rfl⟩ := List.mem_map.1 hmem
    exact (Binary64.isFinite_ofInt_natCast _).1 (hsnaps segment hsegment)
  have hfront : smallestSnap? (recipe.behind silence).segments =
      some (min silence.snap.value smallest) :=
    smallestSnap?_cons hsmallest silence
  obtain ⟨height, hheight⟩ := exists_rowHeight hlimit recipe.zoom
  -- the smaller of two snap numbers has a double if one of them has
  obtain ⟨more, hmore⟩ :=
    exists_rowHeight (lt_of_le_of_lt (min_le_right silence.snap.value smallest) hlimit) recipe.zoom
  refine ⟨height, more, recipe.complete_eq hsmallest hheight,
    (recipe.behind silence).complete_eq hfront hmore, ?_⟩
  rintro ⟨segment, hsegment, hcoarse⟩
  have hmin : smallest ≤ silence.snap.value := (hle _ (List.mem_map_of_mem hsegment)).trans hcoarse
  rw [min_eq_right hmin, hheight] at hmore
  exact (Except.ok.inj hmore).symm

/-- **Silence in front.** A chart behind silence is laid out or refused as it would be alone. Its
last row is later by the measures of the silence. Scrolling up its notes are later by as much, and
scrolling down its receptors are; nothing else of a sprite changes. -/
theorem layout_behind_silence (recipe : Recipe) {silence : Segment} {measures : Nat}
    (hsilent : silence.SilentFor measures)
    (hsnaps : ∀ segment ∈ recipe.segments, (Binary64.ofInt segment.snap.value).isFinite) :
    Together
      (fun layout later ↦
        layout.DelayedBy recipe.scroll recipe.keymode.toNat (Snap.rowsPerMeasure * measures)
            later ∧
          ((∃ segment ∈ recipe.segments, segment.snap.value ≤ silence.snap.value) →
            later.rowHeight = layout.rowHeight))
      recipe.layout (recipe.behind silence).layout := by
  have hbehind : (recipe.behind silence).outsetFault? = recipe.outsetFault? :=
    outsetFault?_behind hsilent
  rcases houtset : recipe.outsetFault? with - | fault
  · have hnotes := notes_ne_nil_of_outset_clear houtset
    obtain ⟨height, more, hcomplete, hlater, hsame⟩ :=
      exists_complete_behind hsnaps hnotes silence
    rw [layout_of_outset_clear houtset, layout_of_outset_clear (hbehind.trans houtset),
      notes_timeline_behind hsilent, highest_timeline_behind hsilent hnotes]
    refine (together_receptors_later _ _).self.bind fun receptors others h ↦ ?_
    obtain ⟨hreceptors, hplaced, -⟩ := h
    refine (together_notes_later _ measures _).bind fun notes moved hmoved ↦ ?_
    have hlength : (receptors ++ notes).length = (others ++ moved).length := by
      rw [List.length_append, List.length_append, hreceptors.length_eq, hmoved.length_eq]
    rw [hcomplete, hlater, hlength]
    split
    · exact .error _
    · refine .ok ⟨Layout.delayedBy_of_append rfl rfl (highest_timeline_behind hsilent hnotes) rfl
        (length_receptors hplaced) ?_ hreceptors hmoved, hsame⟩
      exact fun sprite ↦ row_of_mem_receptors hplaced
  · rw [layout_of_outsetFault houtset, layout_of_outsetFault (hbehind.trans houtset)]
    exact .error fault

/-- Two measures in fifths, some of their steps written out and others reserved. -/
def twoSilentMeasures : Segment := ⟨⟨[⟨[], 3⟩, {}, ⟨[], 4⟩]⟩, ⟨5, by decide⟩⟩

/-- The two notes behind them. Scrolling down it is the receptors that are moved. The rows are
lower, since fifths are coarser than the snaps of the notes. -/
def twoNotesBehindLayout : Layout where
  sprites :=
    [⟨0, 408, Image.blank.scaleTo 8⟩, ⟨1, 408, Image.blank.scaleTo 8⟩,
      ⟨0, 24, Image.blank.crop 24 0 8 8⟩, ⟨1, 0, Image.blank.scaleTo 8⟩]
  resolution := 8
  rowHeight := ((Binary64.ofInt 1).div ((Binary64.ofInt 192).div (.ofInt 5))).mul (.ofInt 1)
  highestRow := 408

/-- Two measures in fifths, scrolling down: only the receptors move. -/
theorem layout_behind_silence_twoNotes :
    twoSilentMeasures.SilentFor 2 ∧
    (∀ segment ∈ twoNotes.segments, (Binary64.ofInt segment.snap.value).isFinite) ∧
    twoNotes.layout = .ok twoNotesLayout ∧
    (twoNotes.behind twoSilentMeasures).layout = .ok twoNotesBehindLayout ∧
    twoNotesLayout.DelayedBy .down 2 384 twoNotesBehindLayout ∧
    ({ twoNotes with maxSprites := 3 }.behind twoSilentMeasures).layout =
      .error (.tooManySprites 4 3) := by
  have hsilent : twoSilentMeasures.SilentFor 2 := ⟨by decide, by decide⟩
  have hsnaps : ∀ segment ∈ twoNotes.segments, (Binary64.ofInt segment.snap.value).isFinite := by
    decide +kernel
  have hlayout : twoNotes.layout = .ok twoNotesLayout := by decide +kernel
  have hbehind : (twoNotes.behind twoSilentMeasures).layout = .ok twoNotesBehindLayout := by
    decide +kernel
  have htogether := layout_behind_silence twoNotes hsilent hsnaps
  rw [hlayout, hbehind] at htogether
  rcases htogether with - | ⟨hdelayed, -⟩
  exact ⟨hsilent, hsnaps, hlayout, hbehind, hdelayed, by decide +kernel⟩

end Recipe

end NoteChart
