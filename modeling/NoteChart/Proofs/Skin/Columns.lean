import NoteChart.Proofs.Skin.Setup

/-!
# Where a skin looks

A built skin has an answer for every lane, every keymode and every snap there may be. All lookups
agree on when there is a sprite and what is wrong otherwise: that is `Answers`, stated once for
whatever is looked up. Which sprite it is depends on the column of the lane and, for a note, on the
row of the snap, and on nothing else (`Lookups`).

That the column and the row lie in the table is not assumed but part of what is proved. Both are
natural numbers, so no place is counted from the far end of the table.
-/

namespace NoteChart

namespace Skin

/-- What is asked of a lane is refused for the lane, then for the keymode, and else there. -/
structure Answers {α : Type} (skin : Skin) (lane keymode : Int) (good : α → Prop)
    (answer : Except Fault α) : Prop where
  outside_iff : answer = .error (.laneInvalid (lane + 1) keymode) ↔ lane < 0 ∨ keymode ≤ lane
  unsupported_iff : answer = .error (.keymodeUnsupported keymode) ↔
    0 ≤ lane ∧ lane < keymode ∧ skin.supports keymode = false
  found : 0 ≤ lane → lane < keymode → skin.supports keymode →
    ∃ value, answer = .ok value ∧ good value

variable {skin : Skin} {lane keymode : Int}

/-- A lookup that ends with the fault of its lane, if there is one, answers. -/
theorem answers_of_ends {α : Type} {good : α → Prop} {answer : Except Fault α}
    (h : Ends good (skin.laneFault? lane keymode) answer) :
    skin.Answers lane keymode good answer where
  outside_iff := by
    rw [h.error_iff, laneFault?]
    split_ifs with hlane <;> simp [hlane]
  unsupported_iff := by
    rw [h.error_iff, laneFault?]
    split_ifs with hlane hsupports
    · refine iff_of_false (by simp) ?_
      omega
    · exact iff_of_false (by simp) fun hnot ↦ by simp [hsupports] at hnot
    · exact iff_of_true rfl ⟨by omega, by omega, by simpa using hsupports⟩
  found := by
    intro hnonneg hlt hsupports
    obtain ⟨value, hgood, hok⟩ := h.exists_ok (laneFault?_eq_none_iff.2 ⟨hnonneg, hlt, hsupports⟩)
    exact ⟨value, hok, hgood⟩

/-- What a skin shows for a lane of a keymode, and where it stands in the table. -/
structure Lookups (skin : Skin) (lane keymode : Int) : Prop where
  /-- The column of a lane is the one that the family gives it, and is in the table. -/
  column : 0 ≤ lane → lane < keymode → skin.supports keymode →
    skin.family.orientation? keymode lane.toNat = some (skin.family.column keymode lane) ∧
      skin.family.column keymode lane < skin.family.orientationCount
  checkLane : skin.Answers lane keymode (fun _ ↦ True) (skin.checkLane lane keymode)
  /-- The receptor stands in the column of the lane. -/
  receptor : skin.Answers lane keymode
    (skin.sprites.receptors[skin.family.column keymode lane]? = some ·)
    (skin.receptor lane keymode)
  /-- A note stands in the same column, and the snap tells its row. -/
  note : ∀ snap, skin.Answers lane keymode
    (skin.sprites.noteAt? (skin.family.colourRow snap) (skin.family.column keymode lane) = some ·)
    (skin.note lane keymode snap)
  /-- Snaps of one row show the same note. -/
  note_congr : ∀ snap other, skin.family.colourRow snap = skin.family.colourRow other →
    skin.note lane keymode snap = skin.note lane keymode other
  /-- Where the family has no colours, all snaps show the same note. -/
  note_colourless : skin.family = .ldurMono →
    ∀ snap other, skin.note lane keymode snap = skin.note lane keymode other

/-- A note is known by its place. -/
theorem WellFormed.note_congr (h : skin.WellFormed) {snap other : Snap}
    (hrow : skin.family.colourRow snap = skin.family.colourRow other) :
    skin.note lane keymode snap = skin.note lane keymode other := by
  have hother := h.ends_noteAt lane keymode other
  rw [← hrow] at hother
  obtain ⟨fault, hfault, herror⟩ | ⟨hfault, image, himage, hok⟩ :=
    (h.ends_noteAt lane keymode snap).error_or_ok
  · rw [herror, hother.error_iff.2 hfault]
  · obtain ⟨same, hsame, hokOther⟩ := hother.exists_ok hfault
    rw [hok, hokOther, Option.some.inj (himage.symm.trans hsame)]

/-- **Lookups are total.** Whatever was done to a skin since it was loaded, all that can be asked of
a lane ends with one of two faults, each under its own condition, or with the sprite in the column
of the lane. The column is in the table, for notes it is the one of the receptor, and a snap selects
no more than the row. -/
theorem lookups_of_built (hskin : skin.Built) (lane keymode : Int) :
    skin.sprites.Fits skin.family ∧ (∀ snap, skin.family.colourRow snap < skin.family.colourRows) ∧
      skin.Lookups lane keymode := by
  have h := hskin.wellFormed
  refine ⟨h.fits, skin.family.colourRow_lt, ?_⟩
  exact {
    column := fun hnonneg hlt hsupports ↦
      column_of_laneFault?_eq_none (laneFault?_eq_none_iff.2 ⟨hnonneg, hlt, hsupports⟩)
    checkLane := answers_of_ends (skin.checkLane_ends lane keymode)
    receptor := answers_of_ends (h.ends_receptorAt lane keymode)
    note := fun snap ↦ answers_of_ends (h.ends_noteAt lane keymode snap)
    note_congr := fun _ _ hrow ↦ h.note_congr hrow
    note_colourless := fun hfamily _ _ ↦ h.note_congr (by rw [hfamily]; rfl) }

/-- Arrows that were made smaller and turned over: the fifth of six lanes is up-right, its receptor
and its notes alike. A sixth lane of five is refused for the lane and not for the keymode. -/
theorem lookups_of_built_squareArrows :
    let skin := squareArrows.setUp [.resize 4, .flip]
    skin.Built ∧
      skin.Lookups 4 6 ∧ skin.Lookups 5 5 ∧
      skin.family.column 6 4 = 5 ∧
      skin.receptor 4 6 = .ok (((Image.opened "receptor" 64 64).scaleTo 8).turn 225
        |>.scaleTo 4 |>.quarterTurns 2) ∧
      skin.note 4 6 .eighth = .ok (((Image.opened "notes" 64 64).crop 24 8 8 8).turn 225
        |>.scaleTo 4 |>.quarterTurns 2) ∧
      skin.note 5 5 .eighth = .error (.laneInvalid 6 5) ∧
      skin.receptor 4 5 = .error (.keymodeUnsupported 5) ∧
      skin.checkLane (-1) 6 = .error (.laneInvalid 0 6) := by
  intro skin
  have hload : (load squarePictures .ldur6k 8 Role.name).outcome.1 = .ok squareArrows := rfl
  have hskin : skin.Built := Built.setUp (.load hload) [.resize 4, .flip]
  obtain ⟨-, -, hinside⟩ := lookups_of_built hskin 4 6
  obtain ⟨-, -, houtside⟩ := lookups_of_built hskin 5 5
  obtain ⟨-, -, hunsupported⟩ := lookups_of_built hskin 4 5
  obtain ⟨-, -, hnegative⟩ := lookups_of_built hskin (-1) 6
  refine ⟨hskin, hinside, houtside, rfl, ?_, ?_, ?_, ?_, ?_⟩
  · exact rfl
  · exact rfl
  · exact (houtside.note .eighth).outside_iff.2 (by decide)
  · exact hunsupported.receptor.unsupported_iff.2 (by decide)
  · exact hnegative.checkLane.outside_iff.2 (by decide)

end Skin

end NoteChart
