import NoteChart.Proofs.Layout.Placement
import NoteChart.Proofs.Together

/-!
# The two directions

A chart may scroll up or down. Nothing but the rows of its sprites depends on the direction: the
picture of a note is chosen by its number on the timeline and never by the row it is drawn in, and
the sprites come in the same order. So the layout scrolling down is the layout scrolling up with its
rows turned around the last one, and turning them around once more leads back.

Both layouts are made step by step side by side (`Together`), and a chart that is not laid out in
one direction is not laid out in the other, for the same reason. No row is turned to the far side of
the first one, since no number on a timeline is above the highest.
-/

namespace NoteChart

/-! ### Turning around -/

/-- The sprite in the row as far from the last one as its own is from the first. -/
def PlacedSprite.mirror (highest : Nat) (sprite : PlacedSprite) : PlacedSprite :=
  { sprite with row := highest - sprite.row }

/-- The layout with its rows turned around. -/
def Layout.mirror (layout : Layout) : Layout :=
  { layout with sprites := layout.sprites.map (·.mirror layout.highestRow) }

@[simp]
theorem PlacedSprite.mirror_mirror (highest : Nat) (sprite : PlacedSprite) :
    (sprite.mirror highest).mirror highest = sprite := by
  simp [mirror]

@[simp]
theorem Layout.mirror_mirror (layout : Layout) : layout.mirror.mirror = layout := by
  simp [mirror, Function.comp_def]

/-- One sprite in two directions: the same picture in the same lane, and in rows that mirror each
other between the first and the last. -/
structure PlacedSprite.Mirrors (highest : Nat) (up down : PlacedSprite) : Prop where
  lane_eq : down.lane = up.lane
  image_eq : down.image = up.image
  row_eq : down.row = highest - up.row
  row_nonneg : 0 ≤ up.row
  row_le : up.row ≤ highest

/-- One chart in two directions: the same measures, and as many sprites in the same order. -/
structure Layout.Mirrors (up down : Layout) : Prop where
  highestRow_eq : down.highestRow = up.highestRow
  resolution_eq : down.resolution = up.resolution
  rowHeight_eq : down.rowHeight = up.rowHeight
  length_eq : down.sprites.length = up.sprites.length
  sprites : List.Forall₂ (PlacedSprite.Mirrors up.highestRow) up.sprites down.sprites

/-- Sprites that mirror each other are each other's mirror images. -/
theorem PlacedSprite.Mirrors.mirror_eq {highest : Nat} {up down : PlacedSprite}
    (h : Mirrors highest up down) : up.mirror highest = down := by
  obtain ⟨lane, row, image⟩ := down
  obtain ⟨rfl, rfl, rfl, -, -⟩ := h
  rfl

theorem Layout.Mirrors.mirror_eq {up down : Layout} (h : up.Mirrors down) : up.mirror = down := by
  have hsprites : up.sprites.map (·.mirror up.highestRow) = down.sprites := by
    rw [← List.forall₂_eq_eq_eq, List.forall₂_map_left_iff]
    exact h.sprites.imp fun _ _ ↦ PlacedSprite.Mirrors.mirror_eq
  obtain ⟨sprites, resolution, rowHeight, highestRow⟩ := down
  obtain ⟨rfl, rfl, rfl, -, -⟩ := h
  rw [mirror, hsprites]

/-! ### Two directions side by side -/

namespace Recipe

variable (recipe : Recipe)

/-- The recipe with a direction. -/
def scrolling (scroll : Scroll) : Recipe := { recipe with scroll }

/-- Whatever is placed, it is placed in rows that mirror each other. -/
theorem mirrors_drawnRow {highest number : Nat} (h : number ≤ highest) (lane : Int)
    (image : Image) :
    PlacedSprite.Mirrors highest ⟨lane, drawnRow .up highest number, image⟩
      ⟨lane, drawnRow .down highest number, image⟩ where
  lane_eq := rfl
  image_eq := rfl
  row_eq := rfl
  row_nonneg := Int.natCast_nonneg number
  row_le := Int.ofNat_le.2 h

/-- Receptors are placed together, at opposite ends. -/
theorem together_placeReceptor (highest lane : Nat) :
    Together (PlacedSprite.Mirrors highest)
      ((recipe.scrolling .up).placeReceptor highest lane)
      ((recipe.scrolling .down).placeReceptor highest lane) :=
  .map_self _ fun image ↦ mirrors_drawnRow (Nat.zero_le highest) lane image

/-- **The receptors**, lane by lane. -/
theorem together_receptors (highest : Nat) :
    Together (List.Forall₂ (PlacedSprite.Mirrors highest))
      ((recipe.scrolling .up).receptors highest) ((recipe.scrolling .down).receptors highest) := by
  refine (recipe.together_placeReceptor highest 0).bind fun _ _ _ ↦ .mapM ?_
  exact List.forall₂_same.2 fun lane _ ↦ recipe.together_placeReceptor highest lane

/-- **A note.** Its picture is found by its number, which has no direction. -/
theorem together_placeNote {highest number : Nat} (h : number ≤ highest) (note : Note) :
    Together (PlacedSprite.Mirrors highest)
      ((recipe.scrolling .up).placeNote highest note number)
      ((recipe.scrolling .down).placeNote highest note number) :=
  .map_self _ fun image ↦ mirrors_drawnRow h _ image

/-- **The notes** of a timeline, one after another. -/
theorem together_notes :
    Together (List.Forall₂ (PlacedSprite.Mirrors recipe.timeline.highest))
      (recipe.timeline.notes.mapM fun note ↦
        (recipe.scrolling .up).placeNote recipe.timeline.highest note.1 note.2)
      (recipe.timeline.notes.mapM fun note ↦
        (recipe.scrolling .down).placeNote recipe.timeline.highest note.1 note.2) := by
  refine .mapM (List.forall₂_same.2 ?_)
  rintro ⟨note, number⟩ hnote
  exact recipe.together_placeNote (number_le_highest hnote) note

/-- The sprites are counted, and the rest of a layout does not depend on them. -/
theorem together_complete {up down : List PlacedSprite}
    (h : List.Forall₂ (PlacedSprite.Mirrors recipe.timeline.highest) up down) :
    Together Layout.Mirrors ((recipe.scrolling .up).complete up)
      ((recipe.scrolling .down).complete down) := by
  have hmirrors (height : Binary64) :
      Layout.Mirrors ⟨up, recipe.skin.resolution, height, recipe.timeline.highest⟩
        ⟨down, recipe.skin.resolution, height, recipe.timeline.highest⟩ :=
    ⟨rfl, rfl, rfl, h.length_eq.symm, h⟩
  have hlength := h.length_eq
  by_cases hcount : recipe.maxSprites < down.length
  · simp only [complete, scrolling, hlength, hcount, if_true]
    exact .error _
  · simp only [complete, scrolling, hlength, hcount, if_false]
    rcases smallestSnap? recipe.segments with - | smallest
    · exact .error _
    · exact .map_self (rowHeight smallest recipe.zoom) hmirrors

/-- **Scrolling down mirrors scrolling up.** In both directions a chart ends with the same fault, or
with layouts of the same measures whose sprites, one by one, have the same lane and picture and rows
that mirror each other. Either layout turned around is the other one. -/
theorem layout_down_mirrors_up (recipe : Recipe) :
    Together (fun up down ↦ up.Mirrors down ∧ up.mirror = down ∧ down.mirror = up)
      (recipe.scrolling .up).layout (recipe.scrolling .down).layout := by
  have hlayouts :
      Together Layout.Mirrors (recipe.scrolling .up).layout (recipe.scrolling .down).layout := by
    -- the checks at the outset see no direction
    have houtset (scroll : Scroll) :
        (recipe.scrolling scroll).outsetFault? = recipe.outsetFault? := rfl
    rcases hfault : recipe.outsetFault? with - | fault
    · rw [layout_of_outset_clear ((houtset .up).trans hfault),
        layout_of_outset_clear ((houtset .down).trans hfault)]
      refine (recipe.together_receptors _).bind fun upReceptors downReceptors hreceptors ↦ ?_
      refine recipe.together_notes.bind fun upNotes downNotes hnotes ↦ ?_
      exact recipe.together_complete (List.rel_append hreceptors hnotes)
    · rw [layout_of_outsetFault ((houtset .up).trans hfault),
        layout_of_outsetFault ((houtset .down).trans hfault)]
      exact .error fault
  refine hlayouts.imp fun up down h ↦ ⟨h, h.mirror_eq, ?_⟩
  rw [← h.mirror_eq, Layout.mirror_mirror]

end Recipe

end NoteChart
