import NoteChart.Proofs.Layout.Placement
import NoteChart.Proofs.Pattern.Alike

/-!
# Charts that are alike

A pattern of a chart may be replaced by one that is alike. The rows of both have the same numbers,
since a number only asks for the steps in front of it, and so both charts have the same notes under
the same numbers, though in another order and perhaps more often (`mem_notes_iff`). Placing a note
looks at the note and its number and at nothing else of the chart. So the sprites are the same set,
and what is measured of a layout is measured of that set.

Only the count sees a note that is there twice. A chart may therefore have too many sprites where
one that is alike has not, and that is all that can come between the two (`layout_within`).
-/

/-- Lists with the same members have the same greatest one. -/
theorem List.max?_congr {values others : List Int} (h : ∀ value, value ∈ values ↔ value ∈ others) :
    values.max? = others.max? := by
  rcases hmax : others.max? with - | greatest
  · rw [max?_eq_none_iff, eq_nil_iff_forall_not_mem] at hmax ⊢
    exact fun value hvalue ↦ hmax value ((h value).1 hvalue)
  · obtain ⟨hmem, hle⟩ := max?_eq_some_iff.1 hmax
    refine max?_eq_some_iff.2 ⟨(h greatest).2 hmem, fun value hvalue ↦ ?_⟩
    exact hle value ((h value).1 hvalue)

namespace NoteChart

/-- The segments have patterns that are alike, at the same snap. -/
structure Segment.Alike (segment other : Segment) : Prop where
  pattern : segment.pattern.alike other.pattern
  snap_eq : segment.snap = other.snap

/-- The rows are alike and have the same number. -/
structure TimedRow.Alike (timed other : TimedRow) : Prop where
  row : timed.row.alike other.row
  number_eq : timed.number = other.number

/-! ### Numbers -/

theorem Row.steps_of_alike {row other : Row} (h : row.alike other) : row.steps = other.steps := by
  rw [steps, steps, (alike_iff.1 h).2]

theorem stepsIn_of_alike {rows others : List Row}
    (h : List.Forall₂ (fun row other ↦ row.alike other) rows others) :
    stepsIn rows = stepsIn others := by
  induction h with
  | nil => rfl
  | cons hrow _ ih => rw [stepsIn_cons, stepsIn_cons, Row.steps_of_alike hrow, ih]

/-- Alike segments end after the same steps, having the same snap. -/
theorem Segment.Alike.steps_eq {segment other : Segment} (h : segment.Alike other) :
    segment.steps = other.steps :=
  stepsIn_of_alike (Pattern.alike_iff.1 h.pattern)

/-- Alike rows stand on the same numbers. -/
theorem forall₂_numberedRows (base : Nat) (snap : SnapNumber) (taken : Nat)
    {rows others : List Row} (h : List.Forall₂ (fun row other ↦ row.alike other) rows others) :
    List.Forall₂ TimedRow.Alike (numberedRows base snap taken rows)
      (numberedRows base snap taken others) := by
  induction h generalizing taken with
  | nil => exact .nil
  | cons hrow _ ih =>
    rw [numberedRows, numberedRows, Row.steps_of_alike hrow]
    exact .cons ⟨hrow, rfl⟩ (ih _)

section Segments

variable {segments others : List Segment}

theorem forall₂_numbered (base : Nat) (h : List.Forall₂ Segment.Alike segments others) :
    List.Forall₂ TimedRow.Alike (numbered base segments) (numbered base others) := by
  induction h generalizing base with
  | nil => exact .nil
  | @cons segment other _ _ hsegment _ ih =>
    have hrows :=
      forall₂_numberedRows base segment.snap 0 (Pattern.alike_iff.1 hsegment.pattern)
    rw [numbered, numbered, Segment.extent, Segment.extent, ← hsegment.snap_eq, ← hsegment.steps_eq]
    exact List.rel_append hrows (ih _)

/-- A walk ends in the same place. -/
theorem Walk.passSegments_of_alike (walk : Walk) (h : List.Forall₂ Segment.Alike segments others) :
    (walk.passSegments segments).2 = (walk.passSegments others).2 := by
  induction h generalizing walk with
  | nil => rfl
  | cons hsegment _ ih =>
    have hnil := (Pattern.alike_iff.1 hsegment.pattern).length_eq
    rw [passSegments_cons, passSegments_cons, passRows_start, passRows_start]
    simp only [Segment.extent, ← hsegment.snap_eq, ← hsegment.steps_eq, ← List.length_eq_zero_iff,
      hnil, ih]

namespace Timeline

/-- The highest number is the same, since no step differs. -/
theorem highest_of_alike (h : List.Forall₂ Segment.Alike segments others) :
    (ofSegments segments).highest = (ofSegments others).highest :=
  congrArg Walk.highest (Walk.passSegments_of_alike {} h)

/-- **Alike charts have the same notes** under the same numbers. -/
theorem mem_notes_iff_of_alike (h : List.Forall₂ Segment.Alike segments others)
    (placed : Note × Nat) :
    placed ∈ (ofSegments segments).notes ↔ placed ∈ (ofSegments others).notes := by
  have hrows := forall₂_numbered 0 h
  rw [notes, notes, rows_ofSegments, rows_ofSegments]
  generalize numbered 0 segments = rows, numbered 0 others = more at hrows ⊢
  induction hrows with
  | nil => rfl
  | cons htimed _ ih =>
    rw [List.flatMap_cons, List.flatMap_cons, List.mem_append, List.mem_append]
    refine or_congr ?_ ih
    simp only [List.mem_map, (Row.alike_iff.1 htimed.row).1, htimed.number_eq]

end Timeline

/-- The spacing is the same, since it hangs on snaps only. -/
theorem Recipe.smallestSnap?_of_alike (h : List.Forall₂ Segment.Alike segments others) :
    smallestSnap? segments = smallestSnap? others := by
  have hsnaps : segments.map (·.snap.value) = others.map (·.snap.value) := by
    induction h with
    | nil => rfl
    | cons hsegment _ ih => rw [List.map_cons, List.map_cons, hsegment.snap_eq, ih]
  rw [smallestSnap?, smallestSnap?, hsnaps]

end Segments

/-! ### Layouts -/

/-- The layouts have the same sprites in the same places, though not in the same order or as often,
and the same measures. -/
structure Layout.Interchangeable (layout other : Layout) : Prop where
  mem_sprites_iff : ∀ sprite, sprite ∈ layout.sprites ↔ sprite ∈ other.sprites
  highestRow_eq : layout.highestRow = other.highestRow
  rowHeight_eq : layout.rowHeight = other.rowHeight
  resolution_eq : layout.resolution = other.resolution
  canvasSize_eq : layout.canvasSize = other.canvasSize

/-- The canvas is measured by the set of sprites. -/
theorem Layout.canvasSize_congr {sprites others : List PlacedSprite}
    (h : ∀ sprite, sprite ∈ sprites ↔ sprite ∈ others) (resolution : Int) (rowHeight : Binary64)
    (highestRow : Nat) :
    canvasSize ⟨sprites, resolution, rowHeight, highestRow⟩ =
      canvasSize ⟨others, resolution, rowHeight, highestRow⟩ := by
  have hlanes : (sprites.map (·.lane)).max? = (others.map (·.lane)).max? :=
    List.max?_congr fun lane ↦ by simp only [List.mem_map, h]
  have hrows : (sprites.map (·.row)).max? = (others.map (·.row)).max? :=
    List.max?_congr fun row ↦ by simp only [List.mem_map, h]
  simp only [canvasSize, hlanes, hrows]
  rfl

namespace Recipe

variable {recipe : Recipe} {others : List Segment} {layout : Layout}

/-- Alike charts pass the checks at the outset together. -/
theorem outsetFault?_withSegments (h : List.Forall₂ Segment.Alike recipe.segments others) :
    (recipe.withSegments others).outsetFault? = recipe.outsetFault? := by
  have hnotes : (recipe.withSegments others).timeline.notes = [] ↔ recipe.timeline.notes = [] := by
    rw [List.eq_nil_iff_forall_not_mem, List.eq_nil_iff_forall_not_mem]
    exact forall_congr' fun placed ↦ not_congr (Timeline.mem_notes_iff_of_alike h placed).symm
  simp only [outsetFault?, hnotes]
  rfl

/-- **Alike charts.** If one of them is laid out, the other one has too many sprites or is laid out
with the same ones. -/
theorem layout_within (h : List.Forall₂ Segment.Alike recipe.segments others)
    (hlayout : recipe.layout = .ok layout) :
    Within (· = .tooManySprites (recipe.withSegments others).spriteCount recipe.maxSprites)
      layout.Interchangeable (recipe.withSegments others).layout := by
  obtain ⟨houtset, receptors, notes, hreceptors, hnotes, hcomplete⟩ :=
    exists_of_layout_eq_ok hlayout
  obtain ⟨smallest, height, hsmallest, hheight, rfl⟩ := exists_of_complete_eq_ok hcomplete
  have hhighest : (recipe.withSegments others).timeline.highest = recipe.timeline.highest :=
    (Timeline.highest_of_alike h).symm
  have hsame (placed : Note × Nat) :
      placed ∈ (recipe.withSegments others).timeline.notes ↔ placed ∈ recipe.timeline.notes :=
    (Timeline.mem_notes_iff_of_alike h placed).symm
  -- every note of the other chart is one of this chart, and this one was placed
  obtain ⟨more, hmore⟩ := exists_mapM_eq_ok
    fun placed (hplaced : placed ∈ (recipe.withSegments others).timeline.notes) ↦ by
      obtain ⟨sprite, -, hsprite⟩ :=
        exists_of_forall₂_of_mem (forall₂_of_mapM hnotes).flip ((hsame placed).1 hplaced)
      exact ⟨sprite, hsprite⟩
  have hother : (recipe.withSegments others).layout =
      (recipe.withSegments others).complete (receptors ++ more) := by
    rw [← hhighest] at hreceptors hmore
    exact layout_eq_complete ((outsetFault?_withSegments h).trans houtset) hreceptors hmore
  have hcount : ((receptors ++ more).length : Int) = (recipe.withSegments others).spriteCount := by
    have hlength := (forall₂_of_mapM hmore).length_eq
    have hlanes := length_receptors hreceptors
    have hpos := keymode_pos_of_outset_clear houtset
    rw [List.length_append, ← hlength, hlanes, spriteCount]
    show _ = recipe.keymode + _
    omega
  have hmem (sprite : PlacedSprite) :
      sprite ∈ receptors ++ notes ↔ sprite ∈ receptors ++ more := by
    simp only [List.mem_append, mem_iff_of_mapM hnotes, mem_iff_of_mapM hmore, hsame]
  have hsnap : smallestSnap? (recipe.withSegments others).segments = some smallest :=
    (smallestSnap?_of_alike h).symm.trans hsmallest
  rw [hother, (recipe.withSegments others).complete_eq hsnap hheight, hcount, hhighest]
  split
  · exact .error rfl
  · exact .ok ⟨hmem, rfl, rfl, rfl, Layout.canvasSize_congr hmem _ _ _⟩

/-- **Alike is interchangeable.** Rows are alike for their sets of notes and their reserved steps,
and for nothing else, and that is an equivalence. Alike patterns have the same steps, the same
highest column in every keymode, the same guess, and are empty together. Charts of alike patterns at
the same snaps have the same sprites in the same places, the same measures and the same canvas, if
both are laid out; and where only one is, the other has too many sprites. -/
theorem interchangeable_of_alike :
    Equivalence (fun a b : Row ↦ (a.alike b : Prop)) ∧
    (∀ a b : Row,
      a.alike b ↔ (∀ note, note ∈ a.notes ↔ note ∈ b.notes) ∧ a.reserved = b.reserved) ∧
    (∀ a b : Pattern, a.alike b →
      a.rowCount = b.rowCount ∧
        (∀ keymode, a.highestColumn keymode = b.highestColumn keymode) ∧
        a.keymodeGuess = b.keymodeGuess ∧ a.isVisuallyEmpty = b.isVisuallyEmpty) ∧
    ∀ (recipe : Recipe) (others : List Segment),
      List.Forall₂ Segment.Alike recipe.segments others →
      ∀ layout, recipe.layout = .ok layout →
        (∀ other, (recipe.withSegments others).layout = .ok other →
          layout.Interchangeable other) ∧
        ∀ fault, (recipe.withSegments others).layout = .error fault →
          fault = .tooManySprites (recipe.withSegments others).spriteCount recipe.maxSprites := by
  refine ⟨Row.alike_equivalence, fun _ _ ↦ Row.alike_iff, fun a b h ↦ ?_,
    fun recipe others h layout hlayout ↦ ?_⟩
  · exact ⟨Pattern.rowCount_of_alike h, Pattern.highestColumn_of_alike h,
      Pattern.keymodeGuess_of_alike h, Pattern.isVisuallyEmpty_of_alike h⟩
  · have hwithin := layout_within h hlayout
    exact ⟨fun other hother ↦ hwithin.good_of_ok hother,
      fun fault hfault ↦ hwithin.allowed_of_error hfault⟩

/-- The two notes, the first of them written twice. -/
def firstTwice : List Segment :=
  [⟨⟨[⟨[⟨.column 0, .tap, 0⟩, ⟨.column 0, .tap, 0⟩], 1⟩]⟩, .sixteenths⟩,
    ⟨⟨[⟨[⟨.column 1, .mine, 0⟩], 0⟩]⟩, .sixteenths⟩]

/-- Their layout has one sprite more, in the place of another. -/
def firstTwiceLayout : Layout :=
  { twoNotesLayout with
    sprites :=
      [⟨0, 24, Image.blank.scaleTo 8⟩, ⟨1, 24, Image.blank.scaleTo 8⟩,
        ⟨0, 24, Image.blank.crop 24 0 8 8⟩, ⟨0, 24, Image.blank.crop 24 0 8 8⟩,
        ⟨1, 0, Image.blank.scaleTo 8⟩] }

/-- A note that is there twice is drawn twice in one place, and it is one sprite too many for a
limit of four. -/
theorem interchangeable_of_alike_twoNotes :
    List.Forall₂ Segment.Alike twoNotes.segments firstTwice ∧
    twoNotes.layout = .ok twoNotesLayout ∧
    (twoNotes.withSegments firstTwice).layout = .ok firstTwiceLayout ∧
    twoNotesLayout.Interchangeable firstTwiceLayout ∧
    firstTwiceLayout.canvasSize = .ok (16, 24) ∧
    ({ twoNotes with maxSprites := 4 }.withSegments firstTwice).layout =
      .error (.tooManySprites 5 4) := by
  have halike : List.Forall₂ Segment.Alike twoNotes.segments firstTwice :=
    .cons ⟨by decide, rfl⟩ (.cons ⟨by decide, rfl⟩ .nil)
  have hlayout : twoNotes.layout = .ok twoNotesLayout := by decide +kernel
  have hother : (twoNotes.withSegments firstTwice).layout = .ok firstTwiceLayout := by
    decide +kernel
  obtain ⟨-, -, -, hcharts⟩ := interchangeable_of_alike
  have hsame := (hcharts twoNotes firstTwice halike twoNotesLayout hlayout).1 _ hother
  exact ⟨halike, hlayout, hother, hsame, by decide +kernel, by decide +kernel⟩

end Recipe

end NoteChart
