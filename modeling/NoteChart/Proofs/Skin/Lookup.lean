import Mathlib.Tactic
import NoteChart.Proofs.Outcome
import NoteChart.Proofs.Skin.Built

/-!
# What a skin answers

Every lookup asks for a lane of a keymode, and every one ends in the same way: with the fault of
that lane, if it has one, and with a sprite of the table otherwise. Where in the table that sprite
stands is told by the family alone. A lane has a column, the same for its receptor and for all of
its notes, and a snap has a row, which is the only one where the family has no colours.

That there is a sprite at the place asked for is where the shape of the table comes in. A lookup
tells the families apart by how many rows or receptors there are. In a well-formed skin this amounts
to the place of the column and the row (`ends_receptorAt`, `note_eq`), both of which lie in the
table, so `Fault.spriteMissing` never ends a lookup.
-/

namespace NoteChart

/-- The orientation of a lane that the family shows is one that it keeps. -/
theorem Family.orientation?_lt {family : Family} {keymode : Int} (lane : Nat)
    (hlane : (lane : Int) < keymode) (h : family.supports keymode) :
    ∃ index < family.orientationCount, family.orientation? keymode lane = some index := by
  have hmod4 : lane % 4 < 4 := Nat.mod_lt _ (by decide)
  have hmod5 : lane % 5 < 5 := Nat.mod_lt _ (by decide)
  cases family with
  | ldur6k =>
    simp only [orientation?, orientationCount]
    split_ifs with hsix hthree
    · have hbound : lane < 6 := by omega
      interval_cases lane <;> simp
    · have hbound : lane < 3 := by omega
      interval_cases lane <;> simp
    · exact ⟨_, by omega, rfl⟩
  | ldurMono =>
    simp only [orientation?, orientationCount]
    split_ifs with hthree
    · have hbound : lane < 3 := by omega
      interval_cases lane <;> simp
    · exact ⟨_, by omega, rfl⟩
  | pump => exact ⟨_, hmod5, rfl⟩
  | bar => exact ⟨0, Nat.one_pos, rfl⟩

theorem Snap.textureIndex_lt (snap : Snap) : snap.textureIndex < Skin.colourCount := by
  cases snap <;> decide

namespace Family

/-- The column of the table that a lane shows. -/
def column (keymode lane : Int) (family : Family) : Nat :=
  (family.orientation? keymode lane.toNat).getD 0

/-- The row of notes that a snap selects: that of its colour, where the family has colours. -/
def colourRow (snap : Snap) : Family → Nat
  | ldurMono => 0
  | ldur6k | pump | bar => snap.textureIndex

/-- Every colour has a row in the table, be it the same one for all. -/
theorem colourRow_lt (family : Family) (snap : Snap) :
    family.colourRow snap < family.colourRows := by
  rcases family
  case ldurMono => exact Nat.one_pos
  all_goals exact snap.textureIndex_lt

/-- One row of notes is selected by every snap. -/
theorem colourRow_eq_zero {family : Family} (h : family.colourRows = 1) (snap : Snap) :
    family.colourRow snap = 0 := by
  have hlt := family.colourRow_lt snap
  omega

/-- Of several rows of notes, a snap selects that of its colour. -/
theorem colourRow_eq_textureIndex {family : Family} (h : family.colourRows ≠ 1) (snap : Snap) :
    family.colourRow snap = snap.textureIndex := by
  rcases family
  case ldurMono => exact absurd rfl h
  all_goals rfl

end Family

namespace Skin

/-- Why a skin does not show a lane, if it does not. -/
def laneFault? (skin : Skin) (lane keymode : Int) : Option Fault :=
  if lane < 0 ∨ keymode ≤ lane then some (.laneInvalid (lane + 1) keymode)
  else if skin.supports keymode then none
  else some (.keymodeUnsupported keymode)

/-- A lane without a fault is one of the keymode, and the skin shows it. -/
theorem laneFault?_eq_none_iff {skin : Skin} {lane keymode : Int} :
    skin.laneFault? lane keymode = none ↔ 0 ≤ lane ∧ lane < keymode ∧ skin.supports keymode := by
  rw [laneFault?]
  split_ifs with hlane hsupports
  · refine iff_of_false (by simp) ?_
    omega
  · exact iff_of_true rfl ⟨by omega, by omega, hsupports⟩
  · exact iff_of_false (by simp) fun h ↦ hsupports h.2.2

/-- The column of a lane without a fault is the orientation that the family gives it, and one that
the family keeps. -/
theorem column_of_laneFault?_eq_none {skin : Skin} {lane keymode : Int}
    (h : skin.laneFault? lane keymode = none) :
    skin.family.orientation? keymode lane.toNat = some (skin.family.column keymode lane) ∧
      skin.family.column keymode lane < skin.family.orientationCount := by
  obtain ⟨hnonneg, hlt, hsupports⟩ := laneFault?_eq_none_iff.1 h
  obtain ⟨index, hindex, hsome⟩ := Family.orientation?_lt lane.toNat (by omega) hsupports
  rw [Family.column, hsome]
  exact ⟨rfl, hindex⟩

/-- **Orientations.** -/
theorem ends_orientation (skin : Skin) (lane keymode : Int) :
    Ends (· = skin.family.column keymode lane) (skin.laneFault? lane keymode)
      (skin.orientation lane keymode) := by
  rcases hfault : skin.laneFault? lane keymode with - | fault
  · obtain ⟨hnonneg, hlt, hsupports⟩ := laneFault?_eq_none_iff.1 hfault
    have hlane : ¬(lane < 0 ∨ keymode ≤ lane) := by omega
    simp only [orientation, if_neg hlane, hsupports, (column_of_laneFault?_eq_none hfault).1,
      Bool.not_true, Bool.false_eq_true, if_false]
    exact .ok rfl
  · have herror : skin.orientation lane keymode = .error fault := by
      rw [laneFault?] at hfault
      split_ifs at hfault with hlane hsupports <;> cases hfault
      · rw [orientation, if_pos hlane]
      · simp [orientation, if_neg hlane, hsupports]
    rw [herror]
    exact .error fault

theorem checkLane_ends (skin : Skin) (lane keymode : Int) :
    Ends (fun _ ↦ True) (skin.laneFault? lane keymode) (skin.checkLane lane keymode) :=
  (skin.ends_orientation lane keymode).map fun _ _ ↦ trivial

/-- The note in a row and a column of the table. -/
def Sprites.noteAt? (row column : Nat) (sprites : Sprites) : Option Image :=
  sprites.notes[row]?.bind (·[column]?)

theorem spriteAt_eq_ok {sprites : List Image} {index : Nat} (h : index < sprites.length) :
    spriteAt sprites index = .ok sprites[index] := by
  rw [spriteAt, List.getElem?_eq_getElem h]

namespace WellFormed

variable {skin : Skin}

/-- **Receptors** stand in the column of their lane. -/
theorem ends_receptorAt (h : skin.WellFormed) (lane keymode : Int) :
    Ends (fun image ↦ skin.sprites.receptors[skin.family.column keymode lane]? = some image)
      (skin.laneFault? lane keymode) (skin.receptor lane keymode) := by
  have hlength := h.fits.receptors_length
  obtain ⟨fault, hfault, herror⟩ | ⟨hfault, _, rfl, hok⟩ :=
    (skin.ends_orientation lane keymode).error_or_ok
  · simp only [hfault, receptor, herror]
    exact .error fault
  · obtain ⟨-, hcolumn⟩ := column_of_laneFault?_eq_none hfault
    rw [← hlength] at hcolumn
    simp only [hfault, receptor, hok]
    rcases hreceptors : skin.sprites.receptors with - | ⟨shared, - | ⟨second, rest⟩⟩ <;>
      rw [hreceptors] at hcolumn
    · cases hcolumn
    -- the receptor that all lanes share is the only one, so it is that of the column
    · have hfirst : skin.family.column keymode lane = 0 := Nat.lt_one_iff.1 hcolumn
      exact .ok (by rw [hfirst]; rfl)
    · simp only [spriteAt_eq_ok hcolumn]
      exact .ok (List.getElem?_eq_getElem hcolumn)

/-- A snap selects a row of the table, as wide as the family has orientations. -/
theorem exists_colourRow (h : skin.WellFormed) (snap : Snap) :
    ∃ row, skin.sprites.notes[skin.family.colourRow snap]? = some row ∧
      row.length = skin.family.orientationCount := by
  have hrow : skin.family.colourRow snap < skin.sprites.notes.length := by
    rw [h.fits.notes_length]
    exact skin.family.colourRow_lt snap
  exact ⟨_, List.getElem?_eq_getElem hrow, h.fits.row_length _ (List.getElem_mem hrow)⟩

/-- A note is looked for in the row that its snap selects. -/
theorem note_eq (h : skin.WellFormed) {lane keymode : Int} {snap : Snap} {column : Nat}
    (hcolumn : skin.orientation lane keymode = .ok column) {row : List Image}
    (hrow : skin.sprites.notes[skin.family.colourRow snap]? = some row) :
    skin.note lane keymode snap = spriteAt row column := by
  have hlength := h.fits.notes_length
  rw [note, hcolumn]
  rcases hnotes : skin.sprites.notes with - | ⟨first, - | ⟨second, rest⟩⟩ <;>
    rw [hnotes] at hlength hrow
  · cases hrow
  · rw [Family.colourRow_eq_zero hlength.symm] at hrow
    cases hrow
    rfl
  · have hmany : skin.family.colourRows ≠ 1 := by
      rw [← hlength, List.length_cons, List.length_cons]
      omega
    rw [Family.colourRow_eq_textureIndex hmany] at hrow
    simp only [hrow]

/-- **Notes** stand in the column of their lane and in the row of their snap. -/
theorem ends_noteAt (h : skin.WellFormed) (lane keymode : Int) (snap : Snap) :
    Ends
      (skin.sprites.noteAt? (skin.family.colourRow snap) (skin.family.column keymode lane) = some ·)
      (skin.laneFault? lane keymode) (skin.note lane keymode snap) := by
  obtain ⟨fault, hfault, herror⟩ | ⟨hfault, _, rfl, hok⟩ :=
    (skin.ends_orientation lane keymode).error_or_ok
  · simp only [hfault, note, herror]
    exact .error fault
  · obtain ⟨-, hcolumn⟩ := column_of_laneFault?_eq_none hfault
    obtain ⟨row, hrow, hwidth⟩ := h.exists_colourRow snap
    rw [← hwidth] at hcolumn
    rw [hfault, h.note_eq hok hrow, spriteAt_eq_ok hcolumn]
    exact .ok (by rw [Sprites.noteAt?, hrow, Option.bind_some, List.getElem?_eq_getElem hcolumn])

/-- A receptor is a sprite of the skin, unless something is wrong with the lane. -/
theorem ends_receptor (h : skin.WellFormed) (lane keymode : Int) :
    Ends (· ∈ skin.sprites.toList) (skin.laneFault? lane keymode)
      (skin.receptor lane keymode) :=
  (h.ends_receptorAt lane keymode).imp fun _ himage ↦
    List.mem_cons_of_mem _ (List.mem_append_right _ (List.mem_of_getElem? himage))

theorem ends_note (h : skin.WellFormed) (lane keymode : Int) (snap : Snap) :
    Ends (· ∈ skin.sprites.toList) (skin.laneFault? lane keymode)
      (skin.note lane keymode snap) := by
  refine (h.ends_noteAt lane keymode snap).imp fun image hplace ↦ ?_
  obtain ⟨row, hrow, himage⟩ := Option.bind_eq_some_iff.1 hplace
  refine List.mem_cons_of_mem _ (List.mem_append_left _ ?_)
  exact List.mem_flatten.2 ⟨row, List.mem_of_getElem? hrow, List.mem_of_getElem? himage⟩

end WellFormed

end Skin

end NoteChart
