import NoteChart.Proofs.Layout.Pixels
import NoteChart.Proofs.Skin.Lookup
import NoteChart.Proofs.Timeline.Numbers

/-!
# What keeps a chart from being laid out

A recipe with a lane and a zoom is laid out unless something on a short list is wrong with it, and
then the first on the list is told: the chart is empty, the skin does not show so many lanes, a note
cannot be drawn, there are too many sprites. This list is `refusal?`. It looks at the chart and at
what the skin supports, and never at a sprite. Behind it stands one more cause, `snapFault?`, which
is no refusal: not one snap number of the chart has a double.

`ends_layout` says that laying out ends in this way, and that whatever is laid out is `LaidOut`: a
receptor in each lane and behind them the notes, each in its lane and row and with a sprite of the
skin.
-/

namespace NoteChart

open Binary64

/-- A timeline without notes is empty. -/
theorem Timeline.isEmpty_iff (timeline : Timeline) : timeline.isEmpty ↔ timeline.notes = [] := by
  simp [isEmpty, notes, List.flatMap_eq_nil_iff]

namespace Recipe

/-- The timeline of a chart. -/
def timeline (recipe : Recipe) : Timeline := .ofSegments recipe.segments

/-- The column of a note. -/
def column (recipe : Recipe) (note : Note) : Int := note.lane.columnIn recipe.keymode

/-- Why a note is not drawn, if it is not. -/
def noteFault? (recipe : Recipe) (note : Note) : Option Fault :=
  match note.kind with
  | .hold => some .holdsUnsupported
  | .tap | .mine =>
    if recipe.column note < 0 ∨ recipe.keymode ≤ recipe.column note then
      some (.skin (.laneInvalid (recipe.column note + 1) recipe.keymode))
    else none

/-- The sprites that a chart has: the receptors and the notes. -/
def spriteCount (recipe : Recipe) : Int := recipe.keymode + recipe.timeline.notes.length

/-- The chart has too many sprites. -/
def countFault? (recipe : Recipe) : Option Fault :=
  if recipe.maxSprites < recipe.spriteCount then
    some (.tooManySprites recipe.spriteCount recipe.maxSprites)
  else none

/-- Why a chart is refused, if it is. -/
def refusal? (recipe : Recipe) : Option Fault :=
  if recipe.timeline.notes = [] then some .emptyPattern
  else if recipe.skin.supports recipe.keymode then
    (recipe.timeline.notes.findSome? fun note ↦ recipe.noteFault? note.1).or recipe.countFault?
  else some (.skin (.keymodeUnsupported recipe.keymode))

/-- The recipe with other segments. -/
def withSegments (recipe : Recipe) (segments : List Segment) : Recipe := { recipe with segments }

/-- The height of a row cannot be told, since all snap numbers are too large. -/
def snapFault? (recipe : Recipe) : Option Fault :=
  if ∀ segment ∈ recipe.segments, integerLimit ≤ segment.snap.value then some .numberTooLarge
  else none

variable {recipe : Recipe}

/-- Why a chart is not laid out, if it is not: the number of lanes or the zoom is none, the chart is
refused, or its rows have no height. -/
def layoutFault? (recipe : Recipe) : Option Fault :=
  if recipe.keymode ≤ 0 then some (.keymodeNotPositive recipe.keymode)
  else if recipe.zoom.isNonpositive then some (.spacingNotPositive recipe.zoom)
  else recipe.refusal?.or recipe.snapFault?

theorem isRefusal_of_noteFault? {note : Note} {fault : Fault}
    (h : recipe.noteFault? note = some fault) : fault.isRefusal := by
  rw [noteFault?] at h
  split at h
  · cases h
    rfl
  all_goals
    split at h <;> cases h
    rfl

/-- Whatever is on the list answers the person who wrote the chart. -/
theorem isRefusal_of_refusal? {fault : Fault} (h : recipe.refusal? = some fault) :
    fault.isRefusal := by
  rw [refusal?] at h
  split_ifs at h
  · cases h
    rfl
  · rcases Option.or_eq_some_iff.1 h with hnote | ⟨-, hcount⟩
    · obtain ⟨note, -, hnote⟩ := List.exists_of_findSome?_eq_some hnote
      exact isRefusal_of_noteFault? hnote
    · rw [countFault?] at hcount
      split at hcount <;> cases hcount
      rfl
  · cases h
    rfl

/-! ### Sprites in their places -/

/-- A sprite of the skin stands in a lane and a row. -/
structure Stands (recipe : Recipe) (lane row : Int) (sprite : PlacedSprite) : Prop where
  lane_eq : sprite.lane = lane
  row_eq : sprite.row = row
  lane_nonneg : 0 ≤ lane
  lane_lt : lane < recipe.keymode
  image_mem : sprite.image ∈ recipe.skin.sprites.toList

/-- The receptors of some lanes in their places. -/
def ReceptorsStand (recipe : Recipe) (highest : Nat) : List Nat → List PlacedSprite → Prop :=
  List.Forall₂ fun lane sprite ↦ recipe.Stands lane (drawnRow recipe.scroll highest 0) sprite

/-- Notes, each with its number, in their places. -/
def NotesStand (recipe : Recipe) (highest : Nat) : List (Note × Nat) → List PlacedSprite → Prop :=
  List.Forall₂ fun note sprite ↦
    recipe.Stands (recipe.column note.1) (drawnRow recipe.scroll highest note.2) sprite

/-- A receptor is placed if the skin supports the keymode at all. -/
theorem ends_placeReceptor (hskin : recipe.skin.WellFormed) (highest lane : Nat)
    (hlane : (lane : Int) < recipe.keymode) :
    Ends (recipe.Stands lane (drawnRow recipe.scroll highest 0))
      (if recipe.skin.supports recipe.keymode then none
        else some (.skin (.keymodeUnsupported recipe.keymode)))
      (recipe.placeReceptor highest lane) := by
  have hinside : ¬((lane : Int) < 0 ∨ recipe.keymode ≤ lane) := by omega
  have h := (hskin.ends_receptor lane recipe.keymode).mapError Fault.skin
  rw [Skin.laneFault?, if_neg hinside, apply_ite (Option.map Fault.skin)] at h
  exact h.map fun image himage ↦ ⟨rfl, rfl, by omega, hlane, himage⟩

/-- The first lane is asked before the others, and nothing of that is left among the receptors. -/
theorem mapM_of_receptors_eq_ok {highest : Nat} {receptors : List PlacedSprite}
    (h : recipe.receptors highest = .ok receptors) :
    (List.range recipe.keymode.toNat).mapM (recipe.placeReceptor highest) = .ok receptors := by
  obtain ⟨-, -, hlanes⟩ := exists_of_bind_eq_ok h
  exact hlanes

/-- There are as many receptors as lanes. -/
theorem length_receptors {highest : Nat} {receptors : List PlacedSprite}
    (h : recipe.receptors highest = .ok receptors) : receptors.length = recipe.keymode.toNat := by
  rw [← (forall₂_of_mapM (mapM_of_receptors_eq_ok h)).length_eq, List.length_range]

/-- **The receptors** stand in all lanes, if the skin shows so many. -/
theorem ends_receptors (hskin : recipe.skin.WellFormed) (hkeymode : 0 < recipe.keymode)
    (highest : Nat) :
    Ends (recipe.ReceptorsStand highest (List.range recipe.keymode.toNat))
      (if recipe.skin.supports recipe.keymode then none
        else some (.skin (.keymodeUnsupported recipe.keymode)))
      (recipe.receptors highest) := by
  -- the first lane is asked for the keymode, and then once more as one of all lanes
  have hfirst := ends_placeReceptor hskin highest 0 hkeymode
  by_cases hsupports : recipe.skin.supports recipe.keymode
  · rw [if_pos hsupports] at hfirst ⊢
    refine hfirst.bind fun _ _ ↦ Ends.mapM_none fun lane hlane ↦ ?_
    have hlane := List.mem_range.1 hlane
    have hreceptor := ends_placeReceptor hskin highest lane (by omega)
    rwa [if_pos hsupports] at hreceptor
  · rw [if_neg hsupports] at hfirst ⊢
    rw [receptors, hfirst.error_iff.2 rfl]
    exact .error _

/-- Where the skin shows the keymode, only the lane of a note can be wrong with it. -/
theorem noteFault?_eq_laneFault? (hsupports : recipe.skin.supports recipe.keymode) {note : Note}
    (hkind : note.kind ≠ .hold) :
    recipe.noteFault? note =
      (recipe.skin.laneFault? (recipe.column note) recipe.keymode).map .skin := by
  rw [noteFault?, Skin.laneFault?, if_pos hsupports]
  split
  · contradiction
  all_goals
    split <;> rfl

theorem column_of_noteFault?_eq_none {note : Note} (h : recipe.noteFault? note = none) :
    0 ≤ recipe.column note ∧ recipe.column note < recipe.keymode := by
  rw [noteFault?] at h
  split at h
  · cases h
  all_goals
    split at h
    · cases h
    · omega

/-- A note that nothing is wrong with has a sprite of the skin. -/
theorem ends_noteImage (hskin : recipe.skin.WellFormed)
    (hsupports : recipe.skin.supports recipe.keymode) (note : Note) (number : Nat) :
    Ends (· ∈ recipe.skin.sprites.toList) (recipe.noteFault? note)
      (recipe.noteImage note.kind (recipe.column note) number) := by
  rcases hkind : note.kind with - | - | -
  · rw [noteFault?_eq_laneFault? hsupports (by simp [hkind])]
    exact (hskin.ends_note _ _ _).mapError Fault.skin
  · rw [noteFault?_eq_laneFault? hsupports (by simp [hkind])]
    have hchecked := recipe.skin.checkLane_ends (recipe.column note) recipe.keymode
    exact (hchecked.map fun _ _ ↦ List.mem_cons_self).mapError Fault.skin
  · rw [noteFault?, hkind]
    exact .error _

/-- **A note** stands in its place, if it can be drawn. -/
theorem ends_placeNote (hskin : recipe.skin.WellFormed)
    (hsupports : recipe.skin.supports recipe.keymode) (highest : Nat) (note : Note) (number : Nat) :
    Ends (recipe.Stands (recipe.column note) (drawnRow recipe.scroll highest number))
      (recipe.noteFault? note) (recipe.placeNote highest note number) := by
  refine (ends_noteImage hskin hsupports note number).and_eq_none.map ?_
  rintro image ⟨hnone, himage⟩
  obtain ⟨hnonneg, hlt⟩ := column_of_noteFault?_eq_none hnone
  exact ⟨rfl, rfl, hnonneg, hlt, himage⟩

/-- **The notes**, one after another. -/
theorem ends_notes (hskin : recipe.skin.WellFormed)
    (hsupports : recipe.skin.supports recipe.keymode) (highest : Nat)
    (notes : List (Note × Nat)) :
    Ends (recipe.NotesStand highest notes) (notes.findSome? fun note ↦ recipe.noteFault? note.1)
      (notes.mapM fun note ↦ recipe.placeNote highest note.1 note.2) :=
  Ends.mapM fun note _ ↦ ends_placeNote hskin hsupports highest note.1 note.2

/-! ### Layouts -/

/-- What is left to be done when all sprites are in their places: they are counted, and the height
of a row is told. -/
def complete (recipe : Recipe) (sprites : List PlacedSprite) : Except Fault Layout :=
  if recipe.maxSprites < sprites.length then
    .error (.tooManySprites sprites.length recipe.maxSprites)
  else
    match smallestSnap? recipe.segments with
    | some smallest =>
      (rowHeight smallest recipe.zoom).map
        (⟨sprites, recipe.skin.resolution, ·, recipe.timeline.highest⟩)
    | none => .error .emptyPattern

/-- A layout shows a chart. -/
structure LaidOut (recipe : Recipe) (layout : Layout) : Prop where
  keymode_pos : 0 < recipe.keymode
  zoom_positive : recipe.zoom.isNonpositive = false
  notes_ne_nil : recipe.timeline.notes ≠ []
  sprites : ∃ receptors notes, layout.sprites = receptors ++ notes ∧
    recipe.ReceptorsStand recipe.timeline.highest (List.range recipe.keymode.toNat) receptors ∧
    recipe.NotesStand recipe.timeline.highest recipe.timeline.notes notes
  length_le : layout.sprites.length ≤ recipe.maxSprites
  resolution : layout.resolution = recipe.skin.resolution
  rowHeight : ∃ smallest ∈ smallestSnap? recipe.segments,
    Recipe.rowHeight smallest recipe.zoom = .ok layout.rowHeight
  highestRow : layout.highestRow = recipe.timeline.highest

/-- **Behind the first three checks** a layout is receptors, notes and the completion. -/
theorem layout_eq (hkeymode : 0 < recipe.keymode) (hzoom : recipe.zoom.isNonpositive = false)
    (hnotes : recipe.timeline.notes ≠ []) :
    recipe.layout = (do
      let receptors ← recipe.receptors recipe.timeline.highest
      let notes ← recipe.timeline.notes.mapM fun note ↦
        recipe.placeNote recipe.timeline.highest note.1 note.2
      recipe.complete (receptors ++ notes)) := by
  have hempty : (Timeline.ofSegments recipe.segments).isEmpty = false := by
    rw [Bool.eq_false_iff]
    exact fun h ↦ hnotes ((Timeline.isEmpty_iff _).1 h)
  -- the three checks in front are passed, and what follows is the same step by step
  simp only [layout, if_neg (not_le.2 hkeymode), hzoom, hempty, Bool.false_eq_true, if_false]
  refine bind_congr fun receptors ↦ bind_congr fun notes ↦ ?_
  rw [complete]
  split
  · rfl
  · rcases smallestSnap? recipe.segments with - | smallest
    · rfl
    · simp only
      generalize rowHeight smallest recipe.zoom = height
      cases height <;> rfl

/-- What is wrong with a recipe before any sprite is looked for. -/
def outsetFault? (recipe : Recipe) : Option Fault :=
  if recipe.keymode ≤ 0 then some (.keymodeNotPositive recipe.keymode)
  else if recipe.zoom.isNonpositive then some (.spacingNotPositive recipe.zoom)
  else if recipe.timeline.notes = [] then some .emptyPattern
  else none

/-- The first of these checks that fails is what a layout ends with. -/
theorem layout_of_outsetFault {fault : Fault} (h : recipe.outsetFault? = some fault) :
    recipe.layout = .error fault := by
  rw [outsetFault?] at h
  split_ifs at h with hkeymode hzoom hnotes <;> cases h
  · simp only [layout, hkeymode, if_true]
    rfl
  · simp only [layout, hkeymode, hzoom, if_true, if_false]
    rfl
  · have hempty : (Timeline.ofSegments recipe.segments).isEmpty :=
      (Timeline.isEmpty_iff _).2 hnotes
    simp only [layout, hkeymode, hzoom, hempty, if_true, if_false]
    rfl

/-- With nothing wrong at the outset, sprites are placed and then counted. -/
theorem layout_of_outset_clear (h : recipe.outsetFault? = none) :
    recipe.layout = (do
      let receptors ← recipe.receptors recipe.timeline.highest
      let notes ← recipe.timeline.notes.mapM fun note ↦
        recipe.placeNote recipe.timeline.highest note.1 note.2
      recipe.complete (receptors ++ notes)) := by
  rw [outsetFault?] at h
  split_ifs at h with hkeymode hzoom hnotes
  exact layout_eq (not_le.1 hkeymode) (Bool.eq_false_iff.2 hzoom) hnotes

theorem keymode_pos_of_outset_clear (h : recipe.outsetFault? = none) : 0 < recipe.keymode := by
  rw [outsetFault?] at h
  split_ifs at h with hkeymode
  exact not_le.1 hkeymode

theorem notes_ne_nil_of_outset_clear (h : recipe.outsetFault? = none) :
    recipe.timeline.notes ≠ [] := by
  rw [outsetFault?] at h
  split_ifs at h with _ _ hnotes
  exact hnotes

/-- What was laid out was placed and then counted. -/
theorem exists_of_layout_eq_ok {layout : Layout} (h : recipe.layout = .ok layout) :
    recipe.outsetFault? = none ∧ ∃ receptors notes,
      recipe.receptors recipe.timeline.highest = .ok receptors ∧
      (recipe.timeline.notes.mapM fun note ↦
        recipe.placeNote recipe.timeline.highest note.1 note.2) = .ok notes ∧
      recipe.complete (receptors ++ notes) = .ok layout := by
  rcases houtset : recipe.outsetFault? with - | fault
  · rw [layout_of_outset_clear houtset] at h
    obtain ⟨receptors, hreceptors, h⟩ := exists_of_bind_eq_ok h
    obtain ⟨notes, hnotes, hcomplete⟩ := exists_of_bind_eq_ok h
    exact ⟨rfl, receptors, notes, hreceptors, hnotes, hcomplete⟩
  · rw [layout_of_outsetFault houtset] at h
    cases h

/-- Sprites that were placed are counted next. -/
theorem layout_eq_complete (houtset : recipe.outsetFault? = none)
    {receptors notes : List PlacedSprite}
    (hreceptors : recipe.receptors recipe.timeline.highest = .ok receptors)
    (hnotes : (recipe.timeline.notes.mapM fun note ↦
      recipe.placeNote recipe.timeline.highest note.1 note.2) = .ok notes) :
    recipe.layout = recipe.complete (receptors ++ notes) := by
  rw [layout_of_outset_clear houtset, hreceptors, hnotes]
  rfl

/-- Where rows have a height, sprites in their places need only be counted. -/
theorem complete_eq (recipe : Recipe) {smallest : Nat} {height : Binary64}
    (hsmallest : smallestSnap? recipe.segments = some smallest)
    (hheight : rowHeight smallest recipe.zoom = .ok height) (sprites : List PlacedSprite) :
    recipe.complete sprites =
      if recipe.maxSprites < sprites.length then
        .error (.tooManySprites sprites.length recipe.maxSprites)
      else .ok ⟨sprites, recipe.skin.resolution, height, recipe.timeline.highest⟩ := by
  rw [complete, hsmallest]
  simp only [hheight]
  rfl

/-- What passed the count has the height of rows that the smallest snap number gives it. -/
theorem exists_of_complete_eq_ok {sprites : List PlacedSprite} {layout : Layout}
    (h : recipe.complete sprites = .ok layout) :
    ∃ smallest height, smallestSnap? recipe.segments = some smallest ∧
      rowHeight smallest recipe.zoom = .ok height ∧
      layout = ⟨sprites, recipe.skin.resolution, height, recipe.timeline.highest⟩ := by
  rw [complete] at h
  split at h
  · cases h
  split at h
  · rename_i smallest hsmallest
    obtain ⟨height, hheight, rfl⟩ := exists_of_map_eq_ok h
    exact ⟨smallest, height, hsmallest, hheight, rfl⟩
  · cases h

/-- Rows have a height if the smallest snap number has a double. -/
theorem ends_rowHeight (smallest : Nat) (zoom : Binary64) :
    Ends (fun _ ↦ True) (if integerLimit ≤ smallest then some .numberTooLarge else none)
      (rowHeight smallest zoom) := by
  rw [rowHeight]
  rcases Nat.lt_or_ge smallest integerLimit with h | h
  · rw [if_neg (not_le.2 h), if_pos ((isFinite_ofInt_natCast smallest).2 h)]
    exact .ok trivial
  · rw [if_pos h, if_neg (mt (isFinite_ofInt_natCast smallest).1 (not_lt.2 h))]
    exact .error _

/-- The smallest snap number is too large exactly when all of them are. -/
theorem snapFault?_of_smallest {smallest : Nat}
    (h : smallestSnap? recipe.segments = some smallest) :
    recipe.snapFault? = if integerLimit ≤ smallest then some .numberTooLarge else none := by
  have hall : (∀ segment ∈ recipe.segments, integerLimit ≤ segment.snap.value) ↔
      integerLimit ≤ smallest := by
    rw [List.le_min?_iff h]
    simp
  simp only [snapFault?, hall]

theorem exists_smallestSnap? (h : recipe.timeline.notes ≠ []) :
    ∃ smallest, smallestSnap? recipe.segments = some smallest := by
  refine Option.ne_none_iff_exists'.1 fun hnone ↦ h ?_
  rw [smallestSnap?, List.min?_eq_none_iff, List.map_eq_nil_iff] at hnone
  rw [timeline, hnone]
  rfl

/-- **Completing a layout** fails for the number of sprites, then for the height of rows. -/
theorem ends_complete (hkeymode : 0 < recipe.keymode) (hzoom : recipe.zoom.isNonpositive = false)
    (hnotes : recipe.timeline.notes ≠ []) {receptors notes : List PlacedSprite}
    (hreceptors : recipe.ReceptorsStand recipe.timeline.highest
      (List.range recipe.keymode.toNat) receptors)
    (hstand : recipe.NotesStand recipe.timeline.highest recipe.timeline.notes notes) :
    Ends recipe.LaidOut (recipe.countFault?.or recipe.snapFault?)
      (recipe.complete (receptors ++ notes)) := by
  have hcount : ((receptors ++ notes).length : Int) = recipe.spriteCount := by
    rw [List.length_append, ← hreceptors.length_eq, ← hstand.length_eq, List.length_range,
      spriteCount]
    omega
  obtain ⟨smallest, hsmallest⟩ := exists_smallestSnap? hnotes
  rw [countFault?, complete, hcount]
  split
  · exact .error _
  · rename_i hlimit
    rw [snapFault?_of_smallest hsmallest, hsmallest, Option.none_or]
    refine (ends_rowHeight smallest recipe.zoom).self.map fun height hheight ↦ ?_
    exact {
      keymode_pos := hkeymode
      zoom_positive := hzoom
      notes_ne_nil := hnotes
      sprites := ⟨receptors, notes, rfl, hreceptors, hstand⟩
      length_le := hcount.trans_le (not_lt.1 hlimit)
      resolution := rfl
      rowHeight := ⟨smallest, hsmallest, hheight⟩
      highestRow := rfl }

/-- Laying out a recipe with a lane and a zoom. -/
theorem ends_layout_of_pos (hskin : recipe.skin.WellFormed) (hkeymode : 0 < recipe.keymode)
    (hzoom : recipe.zoom.isNonpositive = false) :
    Ends recipe.LaidOut (recipe.refusal?.or recipe.snapFault?) recipe.layout := by
  rw [refusal?]
  split_ifs with hnotes hsupports
  · have houtset : recipe.outsetFault? = some .emptyPattern := by
      simp [outsetFault?, not_le.2 hkeymode, hzoom, hnotes]
    rw [layout_of_outsetFault houtset]
    exact .error _
  · rw [layout_eq hkeymode hzoom hnotes, Option.or_assoc]
    have hreceptors := ends_receptors hskin hkeymode recipe.timeline.highest
    rw [if_pos hsupports] at hreceptors
    refine hreceptors.bind fun receptors hreceptors ↦ ?_
    refine (ends_notes hskin hsupports _ _).bind fun notes hstand ↦ ?_
    exact ends_complete hkeymode hzoom hnotes hreceptors hstand
  · have hreceptors := ends_receptors hskin hkeymode recipe.timeline.highest
    rw [if_neg hsupports] at hreceptors
    rw [layout_eq hkeymode hzoom hnotes, hreceptors.error_iff.2 rfl]
    exact .error _

/-- **Laying out.** -/
theorem ends_layout (hskin : recipe.skin.WellFormed) :
    Ends recipe.LaidOut recipe.layoutFault? recipe.layout := by
  rw [layoutFault?]
  split_ifs with hkeymode hzoom
  · rw [layout_of_outsetFault (by rw [outsetFault?, if_pos hkeymode])]
    exact .error _
  · rw [layout_of_outsetFault (by rw [outsetFault?, if_neg hkeymode, if_pos hzoom])]
    exact .error _
  · exact ends_layout_of_pos hskin (not_le.1 hkeymode) (Bool.eq_false_iff.2 hzoom)

end Recipe

end NoteChart
