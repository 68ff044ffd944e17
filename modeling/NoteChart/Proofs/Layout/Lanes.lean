import NoteChart.Canvas
import NoteChart.Proofs.Layout.Verdict

/-!
# Charts that keep to their lanes

A chart whose notes all lie in the lanes of its keymode is never refused for a lane. This is so with
any skin, one that was put together by hand included. It may lack a sprite, or not show the keymode,
but the only lanes it is asked for are those of the receptors and of the notes.
-/

namespace NoteChart

/-- The fault is that a keymode does not have a lane. -/
def Fault.isOffLane : Fault → Bool
  | skin (.laneInvalid _ _) => true
  | _ => false

/-- There is a value, or a fault that has nothing to do with a lane. -/
def OnLanes {α : Type} : Except Fault α → Prop :=
  Within (fun fault ↦ fault.isOffLane = false) fun _ ↦ True

namespace OnLanes

variable {α β : Type} {result : Except Fault α}

theorem ok (value : α) : OnLanes (.ok value) := Within.ok True.intro

theorem error {fault : Fault} (h : fault.isOffLane = false) :
    OnLanes (.error fault : Except Fault α) := Within.error h

theorem map (h : OnLanes result) (f : α → β) : OnLanes (result.map f) :=
  Within.map h fun _ _ ↦ True.intro

theorem bind {next : α → Except Fault β} (h : OnLanes result)
    (hnext : ∀ value, OnLanes (next value)) : OnLanes (result >>= next) :=
  Within.bind h fun value _ ↦ hnext value

/-- The steps over a list ask for no other lane if none of them does. -/
theorem mapM {step : α → Except Fault β} {list : List α}
    (h : ∀ member ∈ list, OnLanes (step member)) : OnLanes (list.mapM step) :=
  (Within.mapM h).imp fun _ _ ↦ True.intro

end OnLanes

/-! ### Skins -/

namespace Skin

variable (skin : Skin) {lane keymode : Int}

/-- A lane of the keymode is oriented, or the skin does not know the keymode. -/
theorem onLanes_orientation (hnonneg : 0 ≤ lane) (hlt : lane < keymode) :
    OnLanes ((skin.orientation lane keymode).mapError .skin) := by
  rw [orientation, if_neg (by omega)]
  split
  · exact .error rfl
  · split
    · exact .ok _
    · exact .error rfl

/-- Whatever is asked of a lane starts with its orientation, and goes on only if there is one. -/
theorem onLanes_of_orientation {α : Type} {answer : Except Skin.Fault α} (hnonneg : 0 ≤ lane)
    (hlt : lane < keymode)
    (herror : ∀ fault, skin.orientation lane keymode = .error fault → answer = .error fault)
    (hok : ∀ index, skin.orientation lane keymode = .ok index → OnLanes (answer.mapError .skin)) :
    OnLanes (answer.mapError .skin) := by
  have horientation := skin.onLanes_orientation hnonneg hlt
  rcases hresult : skin.orientation lane keymode with fault | index
  · rw [hresult] at horientation
    rcases horientation with hfault | -
    rw [herror fault hresult]
    exact .error hfault
  · exact hok index hresult

/-- A sprite that is missing from a table is no matter of lanes. -/
theorem onLanes_spriteAt (sprites : List Image) (index : Nat) :
    OnLanes ((spriteAt sprites index).mapError .skin) := by
  rw [spriteAt]
  split
  · exact .ok _
  · exact .error rfl

/-- Any lane of the keymode may be asked for its receptor. -/
theorem onLanes_receptor (hnonneg : 0 ≤ lane) (hlt : lane < keymode) :
    OnLanes ((skin.receptor lane keymode).mapError .skin) := by
  refine skin.onLanes_of_orientation hnonneg hlt (fun fault h ↦ by rw [receptor, h]) ?_
  intro index h
  simp only [receptor, h]
  split
  · exact .ok _
  · exact onLanes_spriteAt _ index

/-- Any lane of the keymode may be asked for a note of any snap. -/
theorem onLanes_note (hnonneg : 0 ≤ lane) (hlt : lane < keymode) (snap : Snap) :
    OnLanes ((skin.note lane keymode snap).mapError .skin) := by
  refine skin.onLanes_of_orientation hnonneg hlt (fun fault h ↦ by rw [note, h]) ?_
  intro index h
  simp only [note, h]
  split
  · exact onLanes_spriteAt _ index
  · split
    · exact onLanes_spriteAt _ index
    · exact .error rfl

/-- Any lane of the keymode may be asked for a mine, although all lanes have the same. -/
theorem onLanes_mine (hnonneg : 0 ≤ lane) (hlt : lane < keymode) :
    OnLanes (((skin.checkLane lane keymode).map fun _ ↦ skin.mine).mapError .skin) := by
  refine skin.onLanes_of_orientation hnonneg hlt (fun fault h ↦ by rw [checkLane, h]; rfl) ?_
  intro index h
  rw [checkLane, h]
  exact .ok _

end Skin

/-! ### Layouts -/

namespace Recipe

variable {recipe : Recipe}

/-- All notes of the chart lie in the lanes of the keymode. -/
def KeepsToLanes (recipe : Recipe) : Prop :=
  ∀ note ∈ recipe.notes, 0 ≤ recipe.column note ∧ recipe.column note < recipe.keymode

theorem onLanes_placeReceptor (highest lane : Nat) (hlane : (lane : Int) < recipe.keymode) :
    OnLanes (recipe.placeReceptor highest lane) :=
  (recipe.skin.onLanes_receptor (Int.natCast_nonneg lane) hlane).map _

/-- The receptors are those of the lanes of the keymode. -/
theorem onLanes_receptors (hkeymode : 0 < recipe.keymode) (highest : Nat) :
    OnLanes (recipe.receptors highest) := by
  refine (onLanes_placeReceptor highest 0 hkeymode).bind fun _ ↦ OnLanes.mapM ?_
  intro lane hlane
  have hlt := List.mem_range.1 hlane
  exact onLanes_placeReceptor highest lane (by omega)

/-- A note asks for the lane of its column, if it is drawn at all. -/
theorem onLanes_noteImage (kind : NoteKind) {column : Int} (hnonneg : 0 ≤ column)
    (hlt : column < recipe.keymode) (number : Nat) :
    OnLanes (recipe.noteImage kind column number) := by
  rcases kind
  case tap => exact recipe.skin.onLanes_note hnonneg hlt _
  case mine => exact recipe.skin.onLanes_mine hnonneg hlt
  case hold => exact .error rfl

/-- The notes ask for the lanes that the chart keeps to. -/
theorem onLanes_placeNotes (h : recipe.KeepsToLanes) (highest : Nat) :
    OnLanes (recipe.timeline.notes.mapM fun note ↦ recipe.placeNote highest note.1 note.2) := by
  refine OnLanes.mapM fun note hnote ↦ ?_
  have hmem : note.1 ∈ recipe.notes := by
    rw [← map_fst_notes]
    exact List.mem_map_of_mem hnote
  obtain ⟨hnonneg, hlt⟩ := h note.1 hmem
  exact (onLanes_noteImage note.1.kind hnonneg hlt note.2).map _

/-- The height of rows has faults of arithmetic only. -/
theorem onLanes_rowHeight (smallest : Nat) (zoom : Binary64) :
    OnLanes (rowHeight smallest zoom) := by
  rw [rowHeight]
  by_cases hfinite : (Binary64.ofInt smallest).isFinite
  · rw [if_pos hfinite]
    exact .ok _
  · rw [if_neg hfinite]
    exact .error rfl

/-- Behind the notes no lane is asked for any more. -/
theorem onLanes_complete (sprites : List PlacedSprite) : OnLanes (recipe.complete sprites) := by
  rw [complete]
  split
  · exact .error rfl
  · rcases smallestSnap? recipe.segments with - | smallest
    · exact .error rfl
    · have hheight := onLanes_rowHeight smallest recipe.zoom
      exact hheight.map _

/-- **Laying out.** -/
theorem onLanes_layout (h : recipe.KeepsToLanes) : OnLanes recipe.layout := by
  rcases houtset : recipe.outsetFault? with - | fault
  · have hkeymode := keymode_pos_of_outset_clear houtset
    rw [layout_of_outset_clear houtset]
    refine (onLanes_receptors hkeymode _).bind fun receptors ↦ ?_
    exact (onLanes_placeNotes h _).bind fun notes ↦ onLanes_complete _
  · rw [layout_of_outsetFault houtset]
    rw [outsetFault?] at houtset
    split_ifs at houtset <;> cases houtset <;> exact .error rfl

end Recipe

/-! ### Drawings -/

namespace Layout

theorem onLanes_wholePixels (length : Binary64) : OnLanes (wholePixels length) := by
  rcases length
  case nan => exact .error rfl
  case infinite => exact .error rfl
  case finite => exact .ok _

theorem onLanes_pixelY (layout : Layout) (row : Int) : OnLanes (layout.pixelY row) := by
  rw [pixelY]
  by_cases hfinite : (Binary64.ofInt (row * layout.resolution)).isFinite
  · rw [if_pos hfinite]
    exact onLanes_wholePixels _
  · rw [if_neg hfinite]
    exact .error rfl

/-- Measuring the canvas asks for no lane. -/
theorem onLanes_canvasSize (layout : Layout) : OnLanes layout.canvasSize := by
  rw [canvasSize]
  split
  · rename_i lane row _ _
    have hpixel := layout.onLanes_pixelY row
    exact hpixel.map _
  · exact .error rfl

theorem onLanes_drawSprite (layout : Layout) (width height : Int) (sprite : PlacedSprite) :
    OnLanes (layout.drawSprite width height sprite) := by
  have hpixel := layout.onLanes_pixelY sprite.row
  rw [drawSprite]
  refine hpixel.bind fun y ↦ ?_
  dsimp only
  split
  · exact .error rfl
  · exact .ok _

/-- Drawing a layout asks for no lane. -/
theorem onLanes_draw (layout : Layout) (maxWidth maxHeight : Int) :
    OnLanes (layout.draw maxWidth maxHeight) := by
  rw [draw]
  refine layout.onLanes_canvasSize.bind fun size ↦ ?_
  obtain ⟨width, height⟩ := size
  dsimp only
  split
  · exact .error rfl
  · have hsprites : OnLanes (layout.sprites.mapM (layout.drawSprite width height)) :=
      OnLanes.mapM fun sprite _ ↦ layout.onLanes_drawSprite width height sprite
    exact hsprites.bind fun drawn ↦ .ok _

end Layout

/-- **A chart that keeps to its lanes** is drawn, or not drawn for another reason. -/
theorem Recipe.onLanes_draw {recipe : Recipe} (h : recipe.KeepsToLanes) : OnLanes recipe.draw :=
  (onLanes_layout h).bind fun layout ↦ layout.onLanes_draw _ _

end NoteChart
