import NoteChart.Canvas
import NoteChart.Proofs.Layout.Refusal

/-!
# Sprites on their canvas

A canvas is measured by the last lane and the last row with a sprite, and every sprite is looked at
before it is drawn. For a chart that was laid out, this look never finds anything. No sprite stands
in front of the first row or behind the last one, whichever way the chart scrolls; a pixel is never
above that of an earlier row; and each sprite is a square of the side that the canvas has to spare
below the last row.

The canvas can be told without the sprites. It is as wide as all lanes together, and it ends one
sprite below `lastRow`.
-/

namespace NoteChart

/-! ### The last row with a note -/

namespace Timeline

/-- The rows that have a note. -/
def noted (timeline : Timeline) : List TimedRow :=
  timeline.rows.filter fun timed ↦ !timed.row.notes.isEmpty

/-- The number of the last row that has a note. -/
def lastNoted (timeline : Timeline) : Nat := (timeline.noted.getLast?.map (·.number)).getD 0

variable {timeline : Timeline}

/-- A note is on a timeline if it is in one of the rows that have notes. -/
theorem mem_notes_iff {note : Note} {number : Nat} :
    (note, number) ∈ timeline.notes ↔
      ∃ timed ∈ timeline.noted, note ∈ timed.row.notes ∧ timed.number = number := by
  simp only [notes, noted, List.mem_flatMap, List.mem_filter, List.mem_map, Prod.mk.injEq]
  constructor
  · rintro ⟨timed, htimed, _, hnote, rfl, rfl⟩
    refine ⟨timed, ⟨htimed, ?_⟩, hnote, rfl⟩
    simpa using List.ne_nil_of_mem hnote
  · rintro ⟨timed, ⟨htimed, -⟩, hnote, rfl⟩
    exact ⟨timed, htimed, note, hnote, rfl, rfl⟩

theorem lastNoted_eq (h : timeline.noted ≠ []) :
    timeline.lastNoted = (timeline.noted.getLast h).number := by
  rw [lastNoted, List.getLast?_eq_some_getLast h]
  rfl

/-- No note stands behind the last row that has one. -/
theorem le_lastNoted (hsorted : (timeline.rows.map (·.number)).Pairwise (· ≤ ·)) {note : Note}
    {number : Nat} (h : (note, number) ∈ timeline.notes) : number ≤ timeline.lastNoted := by
  obtain ⟨timed, htimed, -, rfl⟩ := mem_notes_iff.1 h
  have hordered : timeline.noted.Pairwise fun row later ↦ row.number ≤ later.number :=
    (List.pairwise_map.1 hsorted).filter _
  rw [lastNoted_eq (List.ne_nil_of_mem htimed)]
  -- the numbers are in order, though not strictly: steps of a fine snap may share a row
  have : Std.Refl fun row later : TimedRow ↦ row.number ≤ later.number := ⟨fun _ ↦ le_rfl⟩
  exact hordered.rel_getLast htimed

/-- The last row that has a note has one. -/
theorem exists_note_lastNoted (h : timeline.notes ≠ []) :
    ∃ note, (note, timeline.lastNoted) ∈ timeline.notes := by
  obtain ⟨⟨first, number⟩, hfirst⟩ := List.exists_mem_of_ne_nil _ h
  obtain ⟨timed, htimed, -, -⟩ := mem_notes_iff.1 hfirst
  have hne := List.ne_nil_of_mem htimed
  have hlast := List.getLast_mem hne
  have hnotes : (timeline.noted.getLast hne).row.notes ≠ [] := by
    simpa [noted] using (List.mem_filter.1 hlast).2
  obtain ⟨note, hnote⟩ := List.exists_mem_of_ne_nil _ hnotes
  exact ⟨note, mem_notes_iff.2 ⟨_, hlast, hnote, (lastNoted_eq hne).symm⟩⟩

end Timeline

namespace Recipe

variable {recipe : Recipe} {layout : Layout}

/-! ### Lanes and rows -/

/-- The last row in which something is drawn. Scrolling down, it is that of the receptors. -/
def lastRow (recipe : Recipe) : Nat :=
  match recipe.scroll with
  | .up => recipe.timeline.lastNoted
  | .down => recipe.timeline.highest

/-- The unscaled pixels in front of the last row. -/
def lastOffset (recipe : Recipe) : Nat := recipe.lastRow * recipe.skin.resolution

theorem number_le_highest {note : Note} {number : Nat}
    (h : (note, number) ∈ recipe.timeline.notes) :
    number ≤ recipe.timeline.highest := by
  obtain ⟨timed, htimed, -, rfl⟩ := Timeline.mem_notes_iff.1 h
  exact Timeline.number_le_highest (List.mem_filter.1 htimed).1

/-- Receptors are drawn between the first row and the last. -/
theorem drawnRow_zero_mem (recipe : Recipe) :
    0 ≤ drawnRow recipe.scroll recipe.timeline.highest 0 ∧
      drawnRow recipe.scroll recipe.timeline.highest 0 ≤ recipe.lastRow := by
  rcases hscroll : recipe.scroll with - | - <;> simp [lastRow, drawnRow, hscroll]

/-- Notes are drawn between the first row and the last, also when the rows are turned around. -/
theorem drawnRow_mem {note : Note} {number : Nat} (h : (note, number) ∈ recipe.timeline.notes) :
    0 ≤ drawnRow recipe.scroll recipe.timeline.highest number ∧
      drawnRow recipe.scroll recipe.timeline.highest number ≤ recipe.lastRow := by
  have hhighest := number_le_highest h
  have hlast : number ≤ recipe.timeline.lastNoted :=
    Timeline.le_lastNoted (Timeline.sorted_rows recipe.segments) h
  rcases hscroll : recipe.scroll with - | - <;> simp only [lastRow, drawnRow, hscroll] <;> omega

namespace LaidOut

/-- **Every sprite** is one of the skin's, and stands in a lane of the keymode and in a row between
the first and the last. -/
theorem exists_stands (h : recipe.LaidOut layout) {sprite : PlacedSprite}
    (hsprite : sprite ∈ layout.sprites) :
    ∃ lane row, recipe.Stands lane row sprite ∧ 0 ≤ row ∧ row ≤ recipe.lastRow := by
  obtain ⟨receptors, notes, hsprites, hreceptors, hnotes⟩ := h.sprites
  rw [hsprites] at hsprite
  rcases List.mem_append.1 hsprite with hreceptor | hnote
  · obtain ⟨lane, -, hstands⟩ := exists_of_forall₂_of_mem hreceptors hreceptor
    exact ⟨_, _, hstands, recipe.drawnRow_zero_mem⟩
  · obtain ⟨⟨note, number⟩, hmem, hstands⟩ := exists_of_forall₂_of_mem hnotes hnote
    exact ⟨_, _, hstands, drawnRow_mem hmem⟩

/-- The receptor of a lane is in its place. -/
theorem exists_receptor (h : recipe.LaidOut layout) (lane : Nat) (hlane : lane < recipe.keymode) :
    ∃ sprite ∈ layout.sprites,
      recipe.Stands lane (drawnRow recipe.scroll recipe.timeline.highest 0) sprite := by
  obtain ⟨receptors, notes, hsprites, hreceptors, -⟩ := h.sprites
  have hmem : lane ∈ List.range recipe.keymode.toNat := List.mem_range.2 (by omega)
  obtain ⟨sprite, hsprite, hstands⟩ := exists_of_forall₂_of_mem hreceptors.flip hmem
  exact ⟨sprite, by rw [hsprites]; exact List.mem_append_left _ hsprite, hstands⟩

/-- A note is in its place. -/
theorem exists_note (h : recipe.LaidOut layout) {note : Note} {number : Nat}
    (hnote : (note, number) ∈ recipe.timeline.notes) :
    ∃ sprite ∈ layout.sprites, recipe.Stands (recipe.column note)
      (drawnRow recipe.scroll recipe.timeline.highest number) sprite := by
  obtain ⟨receptors, notes, hsprites, -, hnotes⟩ := h.sprites
  obtain ⟨sprite, hsprite, hstands⟩ := exists_of_forall₂_of_mem hnotes.flip hnote
  exact ⟨sprite, by rw [hsprites]; exact List.mem_append_right _ hsprite, hstands⟩

/-- The rightmost sprite is in the last lane, where a receptor stands. -/
theorem max?_lane (h : recipe.LaidOut layout) :
    (layout.sprites.map (·.lane)).max? = some (recipe.keymode - 1) := by
  have hpos := h.keymode_pos
  rw [List.max?_eq_some_iff]
  constructor
  · have hlast : ((recipe.keymode.toNat - 1 : Nat) : Int) = recipe.keymode - 1 := by omega
    obtain ⟨sprite, hsprite, hstands⟩ := h.exists_receptor (recipe.keymode.toNat - 1) (by omega)
    exact List.mem_map.2 ⟨sprite, hsprite, hstands.lane_eq.trans hlast⟩
  · intro lane hlane
    obtain ⟨sprite, hsprite, rfl⟩ := List.mem_map.1 hlane
    obtain ⟨lane, row, hstands, -⟩ := h.exists_stands hsprite
    have hlt := hstands.lane_lt
    have heq := hstands.lane_eq
    omega

/-- The lowest sprite is in the last row, which is where the canvas ends. -/
theorem max?_row (h : recipe.LaidOut layout) :
    (layout.sprites.map (·.row)).max? = some (recipe.lastRow : Int) := by
  rw [List.max?_eq_some_iff]
  constructor
  -- the last row is that of a note scrolling up, and that of the receptors scrolling down
  · rcases hscroll : recipe.scroll with - | -
    · obtain ⟨note, hnote⟩ := Timeline.exists_note_lastNoted h.notes_ne_nil
      obtain ⟨sprite, hsprite, hstands⟩ := h.exists_note hnote
      refine List.mem_map.2 ⟨sprite, hsprite, hstands.row_eq.trans ?_⟩
      simp [lastRow, drawnRow, hscroll]
    · obtain ⟨sprite, hsprite, hstands⟩ := h.exists_receptor 0 h.keymode_pos
      refine List.mem_map.2 ⟨sprite, hsprite, hstands.row_eq.trans ?_⟩
      simp [lastRow, drawnRow, hscroll]
  · intro row hrow
    obtain ⟨sprite, hsprite, rfl⟩ := List.mem_map.1 hrow
    obtain ⟨lane, row, hstands, -, hle⟩ := h.exists_stands hsprite
    exact hstands.row_eq.trans_le hle

/-! ### Pixels -/

theorem isNegative_rowHeight (h : recipe.LaidOut layout) :
    layout.rowHeight.isNegative = false := by
  obtain ⟨smallest, -, hheight⟩ := h.rowHeight
  have hzoom : recipe.zoom.isNegative = false := by
    have hpositive := h.zoom_positive
    rcases hshape : recipe.zoom with - | negative | ⟨negative, units⟩ <;>
      rw [hshape, Binary64.isNonpositive] at hpositive
    · rfl
    · exact hpositive
    · exact (Bool.or_eq_false_iff.1 hpositive).1
  have hinteger (n : Nat) : (Binary64.ofInt (n : Int)).isNegative = false := by
    rw [Binary64.ofInt_natCast_eq]
    exact Binary64.isNegative_ofUnits _ _
  rw [Recipe.rowHeight] at hheight
  split at hheight
  · rw [← Except.ok.inj hheight]
    refine Binary64.isNegative_mul (Binary64.isNegative_div (hinteger 1) ?_) hzoom
    exact Binary64.isNegative_div (hinteger _) (hinteger _)
  · cases hheight

/-- The pixel of a row between the first and the last. -/
theorem ends_pixelY (h : recipe.LaidOut layout) (number : Nat) :
    Ends (fun y ↦ ∃ units, layout.rowHeight = .finite false units ∧
        y = (Layout.pixels units (number * recipe.skin.resolution) : Int))
      (Layout.pixelFault? layout.rowHeight (number * recipe.skin.resolution))
      (layout.pixelY number) := by
  refine Layout.ends_pixelY ?_ h.isNegative_rowHeight
  rw [h.resolution]
  rfl

/-- Where the last row has a pixel, every row in front of it has one, and it is not below. -/
theorem exists_pixel (h : recipe.LaidOut layout) {last : Int}
    (hlast : layout.pixelY recipe.lastRow = .ok last) {row : Int} (hnonneg : 0 ≤ row)
    (hle : row ≤ recipe.lastRow) : ∃ y, layout.pixelY row = .ok y ∧ 0 ≤ y ∧ y ≤ last := by
  obtain ⟨number, rfl⟩ := Int.eq_ofNat_of_zero_le hnonneg
  have hoffset : number * recipe.skin.resolution ≤ recipe.lastRow * recipe.skin.resolution :=
    Nat.mul_le_mul_right _ (by omega)
  have hends := h.ends_pixelY recipe.lastRow
  obtain ⟨units, hheight, rfl⟩ := hends.good_of_ok hlast
  -- rows in front have smaller offsets, and offsets with a pixel are closed downwards
  have hnone := Layout.pixelFault?_eq_none_of_le hoffset (hends.eq_none_of_ok hlast)
  obtain ⟨y, ⟨more, hsame, rfl⟩, hy⟩ := (h.ends_pixelY number).exists_ok hnone
  cases hheight.symm.trans hsame
  exact ⟨_, hy, by omega, Int.ofNat_le.2 (Layout.pixels_mono units hoffset)⟩

/-- **The canvas** has all lanes, and ends one sprite below the last row. -/
theorem ends_canvasSize (h : recipe.LaidOut layout) :
    Ends
      (fun size ↦ size.1 = recipe.skin.resolution * recipe.keymode ∧
        layout.pixelY recipe.lastRow = .ok (size.2 - recipe.skin.resolution))
      (Layout.pixelFault? layout.rowHeight recipe.lastOffset) layout.canvasSize := by
  simp only [Layout.canvasSize, h.max?_lane, h.max?_row]
  refine (h.ends_pixelY recipe.lastRow).self.map fun y hy ↦ ⟨?_, ?_⟩
  · rw [h.resolution, sub_add_cancel]
  · rw [hy, h.resolution, add_sub_cancel_right]

end LaidOut

end Recipe

/-! ### Drawing -/

/-- A sprite is drawn as it is, at the pixels of its lane and row, and lies on a canvas of the given
sides. -/
structure Layout.DrawnInside (layout : Layout) (width height : Int) (sprite : PlacedSprite)
    (drawn : Drawn) : Prop where
  image_eq : drawn.image = sprite.image
  x_eq : drawn.x = sprite.lane * layout.resolution
  y_eq : layout.pixelY sprite.row = .ok drawn.y
  x_nonneg : 0 ≤ drawn.x
  y_nonneg : 0 ≤ drawn.y
  right_le : drawn.x + drawn.image.width ≤ width
  bottom_le : drawn.y + drawn.image.height ≤ height

namespace Recipe.LaidOut

variable {recipe : Recipe} {layout : Layout} {width height : Int}

/-- **A sprite on the canvas.** -/
theorem ends_drawSprite (h : recipe.LaidOut layout) (hskin : recipe.skin.WellFormed)
    (hsize : layout.canvasSize = .ok (width, height)) {sprite : PlacedSprite}
    (hsprite : sprite ∈ layout.sprites) :
    Ends (layout.DrawnInside width height sprite) none
      (layout.drawSprite width height sprite) := by
  obtain ⟨hwidth, hlast⟩ := h.ends_canvasSize.good_of_ok hsize
  obtain ⟨lane, row, hstands, hnonneg, hle⟩ := h.exists_stands hsprite
  obtain ⟨y, hy, hynonneg, hyle⟩ := h.exists_pixel hlast hnonneg hle
  obtain ⟨himageWidth, himageHeight⟩ := hskin.square _ hstands.image_mem
  obtain ⟨rfl, rfl⟩ : sprite.lane = lane ∧ sprite.row = row := ⟨hstands.lane_eq, hstands.row_eq⟩
  have hleft : 0 ≤ sprite.lane * layout.resolution := by
    rw [h.resolution]
    exact mul_nonneg hstands.lane_nonneg (Int.natCast_nonneg _)
  have hright : sprite.lane * layout.resolution + sprite.image.width ≤ width :=
    calc sprite.lane * layout.resolution + sprite.image.width
        = recipe.skin.resolution * (sprite.lane + 1) := by
          rw [h.resolution, himageWidth]
          ring
      _ ≤ recipe.skin.resolution * recipe.keymode :=
          mul_le_mul_of_nonneg_left hstands.lane_lt (Int.natCast_nonneg _)
      _ = width := hwidth.symm
  have hbottom : y + sprite.image.height ≤ height := by
    rw [himageHeight]
    simp only at hyle
    omega
  have hinside : ¬(sprite.lane * layout.resolution < 0 ∨ y < 0 ∨
      width < sprite.image.width + sprite.lane * layout.resolution ∨
      height < sprite.image.height + y) := by
    omega
  rw [Layout.drawSprite, hy]
  simp only [bind, Except.bind, hinside, if_false]
  exact .ok ⟨rfl, rfl, hy, hleft, hynonneg, hright, hbottom⟩

/-- **Drawing** a layout whose canvas has a size. -/
theorem ends_draw (h : recipe.LaidOut layout) (hskin : recipe.skin.WellFormed)
    (hsize : layout.canvasSize = .ok (width, height)) (maxWidth maxHeight : Int) :
    Ends
      (fun canvas ↦ canvas.width = width ∧ canvas.height = height ∧
        List.Forall₂ (layout.DrawnInside width height) layout.sprites canvas.drawn)
      (if maxWidth < width ∨ maxHeight < height then
        some (.imageTooLarge width height maxWidth maxHeight)
      else none)
      (layout.draw maxWidth maxHeight) := by
  have hdrawn := Ends.mapM_none fun sprite (hsprite : sprite ∈ layout.sprites) ↦
    h.ends_drawSprite hskin hsize hsprite
  rw [Layout.draw, hsize]
  split
  · rename_i hlarge
    simp only [bind, Except.bind, hlarge, if_true]
    exact .error _
  · rename_i hlarge
    simp only [bind, Except.bind, hlarge, if_false]
    exact hdrawn.map fun drawn hdrawn ↦ ⟨rfl, rfl, hdrawn⟩

end Recipe.LaidOut

namespace Recipe

/-- **Placement.** A chart that was laid out, and whose canvas has a size, has one that its lanes
and its last row account for. Whatever the limits are, drawing it ends with the canvas being too
large where it is, and otherwise with every sprite inside it. -/
theorem draw_inside {recipe : Recipe} {layout : Layout} {width height : Int}
    (hskin : recipe.skin.Built) (hlayout : recipe.layout = .ok layout)
    (hsize : layout.canvasSize = .ok (width, height)) :
    layout.highestRow = recipe.timeline.highest ∧
    width = recipe.skin.resolution * recipe.keymode ∧
    layout.pixelY recipe.lastRow = .ok (height - recipe.skin.resolution) ∧
    layout.sprites.length ≤ recipe.maxSprites ∧
    ∀ maxWidth maxHeight,
      Ends
        (fun canvas ↦ canvas.width = width ∧ canvas.height = height ∧
          List.Forall₂ (layout.DrawnInside width height) layout.sprites canvas.drawn)
        (if maxWidth < width ∨ maxHeight < height then
          some (.imageTooLarge width height maxWidth maxHeight)
        else none)
        (layout.draw maxWidth maxHeight) := by
  have h := (ends_layout hskin.wellFormed).good_of_ok hlayout
  obtain ⟨hwidth, hlast⟩ := h.ends_canvasSize.good_of_ok hsize
  exact ⟨h.highestRow, hwidth, hlast, h.length_le, h.ends_draw hskin.wellFormed hsize⟩

/-- Bars of which no picture could be read. -/
def blankBars : Skin where
  family := .bar
  resolution := 8
  sprites :=
    { receptors := [Image.blank.scaleTo 8]
      notes := (List.range 8).map fun row ↦ [Image.blank.crop 24 (row * 8) 8 8]
      mine := Image.blank.scaleTo 8 }

theorem built_blankBars : blankBars.Built := by
  have hload : (Skin.load ⟨fun _ ↦ none⟩ .bar 8 fun _ ↦ "").outcome.1 = .ok blankBars := rfl
  exact .load hload

/-- Two notes in segments of their own, scrolling down. -/
def twoNotes : Recipe where
  skin := blankBars
  scroll := .down
  keymode := 2
  zoom := .ofInt 1
  segments :=
    [⟨⟨[⟨[⟨.column 0, .tap, 0⟩], 1⟩]⟩, .sixteenths⟩,
      ⟨⟨[⟨[⟨.column 1, .mine, 0⟩], 0⟩]⟩, .sixteenths⟩]

/-- The rows of the two notes are 24 apart, and turned around. -/
def twoNotesLayout : Layout where
  sprites :=
    [⟨0, 24, Image.blank.scaleTo 8⟩, ⟨1, 24, Image.blank.scaleTo 8⟩,
      ⟨0, 24, Image.blank.crop 24 0 8 8⟩, ⟨1, 0, Image.blank.scaleTo 8⟩]
  resolution := 8
  rowHeight := ((Binary64.ofInt 1).div ((Binary64.ofInt 192).div (.ofInt 16))).mul (.ofInt 1)
  highestRow := 24

/-- Scrolling down, on a canvas just as large as the limits allow. -/
theorem draw_inside_twoNotes :
    twoNotes.skin.Built ∧ twoNotes.layout = .ok twoNotesLayout ∧
    twoNotesLayout.canvasSize = .ok (16, 24) ∧
    Ends
      (fun canvas ↦ canvas.width = 16 ∧ canvas.height = 24 ∧
        List.Forall₂ (twoNotesLayout.DrawnInside 16 24) twoNotesLayout.sprites canvas.drawn)
      none (twoNotesLayout.draw 16 24) := by
  have hlayout : twoNotes.layout = .ok twoNotesLayout := by decide +kernel
  have hsize : twoNotesLayout.canvasSize = .ok (16, 24) := by decide +kernel
  obtain ⟨-, -, -, -, hdraw⟩ := draw_inside built_blankBars hlayout hsize
  exact ⟨built_blankBars, hlayout, hsize, hdraw 16 24⟩

end Recipe

end NoteChart
