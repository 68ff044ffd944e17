import NoteChart.Proofs.Skin.Built

/-!
# Quarter turns

Pictures are known by what was done to them, so turning one around and around again gives it back
only if the description is the same as before. It is, for pictures in which quarter turns were put
together whenever they followed each other. Of such a history only its front matters: `Settled` says
that one step of quarter turns stands there at most, and that it is no whole turn. Turns then add up
(`quarterTurns_quarterTurns`), and four of them are none.

All operations settle what they make or leave it settled, and a picture just opened has no history
at all. So whatever is cut from opened pictures is settled, and with it every sprite of a skin that
was loaded, resized and turned upside down.
-/

namespace NoteChart

namespace Image

/-! ### Histories -/

/-- A history that ends in a turn by so many degrees, or with the base itself. -/
def turnedBy (degrees : Nat) (base : List ImageStep) : List ImageStep :=
  if degrees = 0 then base else .rotate degrees :: base

/-- The history does not end in quarter turns. -/
def Unturned (history : List ImageStep) : Prop :=
  ∀ degrees, history.head? ≠ some (.rotate degrees)

/-- The history ends in one step of quarter turns at most, and in no whole turn. -/
def SettledHistory (history : List ImageStep) : Prop :=
  ∃ degrees base, degrees < 360 ∧ Unturned base ∧ history = turnedBy degrees base

/-- A history that ends in something else has no turns to be put together. -/
theorem settledHistory_of_unturned {history : List ImageStep} (h : Unturned history) :
    SettledHistory history :=
  ⟨0, history, by decide, h, rfl⟩

/-- Behind such a history a turn is a step of its own, unless it is a whole one. -/
theorem rotated_of_unturned {history : List ImageStep} (h : Unturned history) (degrees : Nat) :
    rotated degrees history = turnedBy (degrees % 360) history := by
  rcases history with - | ⟨step, rest⟩
  · rfl
  · cases step with
    | rotate turned => exact absurd rfl (h turned)
    | crop | turn | scale => rfl

/-- Turns add up in front of a base. -/
theorem rotated_turnedBy {base : List ImageStep} (hbase : Unturned base) (before degrees : Nat) :
    rotated degrees (turnedBy before base) = turnedBy ((before + degrees) % 360) base := by
  by_cases hbefore : before = 0
  · rw [turnedBy, if_pos hbefore, hbefore, Nat.zero_add, rotated_of_unturned hbase]
  · rw [turnedBy, if_neg hbefore]
    rfl

/-- A turn is put together with the one that a settled history ends in. -/
theorem settledHistory_rotated {history : List ImageStep} (h : SettledHistory history)
    (degrees : Nat) : SettledHistory (rotated degrees history) := by
  obtain ⟨before, base, -, hbase, rfl⟩ := h
  exact ⟨_, base, Nat.mod_lt _ (by decide), hbase, rotated_turnedBy hbase before degrees⟩

/-- **Turns add up.** -/
theorem rotated_rotated {history : List ImageStep} (h : SettledHistory history)
    (first second : Nat) :
    rotated second (rotated first history) = rotated (first + second) history := by
  obtain ⟨before, base, -, hbase, rfl⟩ := h
  rw [rotated_turnedBy hbase, rotated_turnedBy hbase, rotated_turnedBy hbase, Nat.mod_add_mod,
    Nat.add_assoc]

/-- A whole turn is none. -/
theorem rotated_whole {history : List ImageStep} (h : SettledHistory history) :
    rotated 360 history = history := by
  obtain ⟨before, base, hlt, hbase, rfl⟩ := h
  rw [rotated_turnedBy hbase, Nat.add_mod_right, Nat.mod_eq_of_lt hlt]

/-! ### Images -/

/-- Quarter turns at the end of what was done to the image are one step. -/
def Settled (image : Image) : Prop := SettledHistory image.history

theorem settled_opened (source : String) (width height : Nat) :
    (opened source width height).Settled :=
  settledHistory_of_unturned (by rintro degrees ⟨⟩)

theorem settled_blank : blank.Settled := settled_opened _ _ _

namespace Settled

variable {image : Image}

/-- A part of a picture is the whole, or it ends in the cut. -/
theorem crop (h : image.Settled) (x y width height : Nat) :
    (image.crop x y width height).Settled := by
  rw [Image.crop]
  split
  · exact h
  · exact settledHistory_of_unturned (by rintro degrees ⟨⟩)

/-- A turn by any angle is a step of its own, and no quarter turn. -/
theorem turn (image : Image) (degrees : Nat) : (image.turn degrees).Settled :=
  settledHistory_of_unturned (by rintro degrees ⟨⟩)

theorem scaleTo (h : image.Settled) (side : Nat) : (image.scaleTo side).Settled := by
  simp only [Image.scaleTo]
  split
  · exact h
  · exact settledHistory_of_unturned (by rintro degrees ⟨⟩)

theorem quarterTurns (h : image.Settled) (count : Nat) : (image.quarterTurns count).Settled :=
  settledHistory_rotated h _

/-- **Quarter turns add up.** -/
theorem quarterTurns_quarterTurns (h : image.Settled) (first second : Nat) :
    (image.quarterTurns first).quarterTurns second = image.quarterTurns (first + second) := by
  have hhistory : rotated (90 * second) (rotated (90 * first) image.history) =
      rotated (90 * (first + second)) image.history := by
    rw [rotated_rotated h, ← Nat.mul_add]
  -- the sides are swapped as often as the number of turns is odd
  rcases Nat.mod_two_eq_zero_or_one first with hfirst | hfirst <;>
    rcases Nat.mod_two_eq_zero_or_one second with hsecond | hsecond <;>
    simp [Image.quarterTurns, hhistory, hfirst, hsecond, Nat.add_mod]

/-- Four quarter turns are none. -/
theorem quarterTurns_four (h : image.Settled) : image.quarterTurns 4 = image := by
  have hhistory : rotated (90 * 4) image.history = image.history := rotated_whole h
  simp [Image.quarterTurns, hhistory]

end Settled

end Image

namespace Skin

/-! ### Loaded pictures -/

/-- The pictures there are have just been opened. -/
def Assets.Opened (assets : Assets) : Prop :=
  ∀ path image, assets.image? path = some image →
    ∃ source width height, image = .opened source width height

namespace Loader

variable {α β : Type}

/-- What each member of a list gives has the property, and so has all of it. -/
theorem Returns.mapM_all {property : β → Prop} {step : α → Loader β} {list : List α}
    (h : ∀ member ∈ list, Returns property (step member)) :
    Returns (fun values ↦ ∀ value ∈ values, property value) (list.mapM step) := by
  induction list with
  | nil => exact .pure (List.forall_mem_nil _)
  | cons first rest ih =>
    rw [List.mapM_cons]
    have hrest := ih fun member hmember ↦ h member (List.mem_cons_of_mem _ hmember)
    refine (h first List.mem_cons_self).bind fun value hvalue ↦ hrest.bind fun values hvalues ↦ ?_
    exact .pure (List.forall_mem_cons.2 ⟨hvalue, hvalues⟩)

end Loader

variable {assets : Assets}

/-- A picture is settled whether it was read or replaced. -/
theorem returns_settled_openImage (hassets : assets.Opened) (path : String) :
    Loader.Returns Image.Settled (openImage assets path) := by
  rw [openImage]
  split
  · rename_i image himage
    obtain ⟨source, width, height, rfl⟩ := hassets path image himage
    exact .pure (Image.settled_opened _ _ _)
  · exact (Loader.Returns.any _).bind fun _ _ ↦ .pure Image.settled_blank

/-- What is cut from a settled sheet is settled. -/
theorem settled_middleColumn {side : Nat} {sheet : Image} (h : sheet.Settled) :
    ∀ sprite ∈ middleColumn side sheet, sprite.Settled := by
  intro sprite hsprite
  rw [middleColumn] at hsprite
  split at hsprite
  · cases hsprite
  · obtain ⟨row, -, rfl⟩ := List.mem_map.1 hsprite
    exact h.crop _ _ _ _

theorem returns_settled_openFrame (hassets : assets.Opened) (path : String) :
    Loader.Returns Image.Settled (openFrame assets path) := by
  refine (returns_settled_openImage hassets path).bind fun strip hstrip ↦ .ofExcept ?_
  intro frame hframe
  rw [middleFrame] at hframe
  split at hframe <;> cases hframe
  rename_i rest hcolumn
  exact settled_middleColumn hstrip frame (hcolumn ▸ List.mem_cons_self)

theorem returns_settled_openColours (hassets : assets.Opened) (side : Nat) (path : String) :
    Loader.Returns (fun sprites ↦ ∀ sprite ∈ sprites, sprite.Settled)
      (openColours assets side path) := by
  refine (returns_settled_openImage hassets path).bind fun sheet hsheet ↦ .ofExcept ?_
  intro sprites hsprites
  simp only [colours] at hsprites
  split at hsprites <;> cases hsprites
  exact fun sprite hsprite ↦ settled_middleColumn hsheet sprite (List.mem_of_mem_take hsprite)

theorem settled_arrowOrientations {down : Image} (h : down.Settled) :
    ∀ sprite ∈ arrowOrientations down, sprite.Settled := by
  simp only [arrowOrientations, List.forall_mem_cons]
  exact ⟨h.quarterTurns 1, h, h.quarterTurns 2, h.quarterTurns 3, .turn _ _, .turn _ _,
    List.forall_mem_nil _⟩

theorem settled_panelOrientations {center corner : Image} (hcenter : center.Settled)
    (hcorner : corner.Settled) :
    ∀ sprite ∈ panelOrientations center corner, sprite.Settled := by
  simp only [panelOrientations, List.forall_mem_cons]
  exact ⟨hcorner, hcorner.quarterTurns 1, hcenter, hcorner.quarterTurns 2,
    hcorner.quarterTurns 3, List.forall_mem_nil _⟩

/-- All sprites of a table are settled. -/
def Sprites.Settled (sprites : Sprites) : Prop := ∀ sprite ∈ sprites.toList, sprite.Settled

/-- A table is settled if its receptors, its rows of notes and its mine are. -/
theorem Sprites.settled_iff {sprites : Sprites} :
    sprites.Settled ↔
      (∀ sprite ∈ sprites.receptors, sprite.Settled) ∧
      (∀ row ∈ sprites.notes, ∀ sprite ∈ row, sprite.Settled) ∧ sprites.mine.Settled := by
  simp only [Settled, toList, List.forall_mem_cons, List.forall_mem_append, List.forall_mem_flatten]
  tauto

/-- A change of pictures that leaves them settled can be made to a table. -/
theorem Sprites.Settled.map {sprites : Sprites} (h : sprites.Settled) {change : Image → Image}
    (hchange : ∀ {image : Image}, image.Settled → (change image).Settled) :
    (sprites.map change).Settled := by
  intro sprite hsprite
  rw [Sprites.toList_map] at hsprite
  obtain ⟨source, hsource, rfl⟩ := List.mem_map.1 hsprite
  exact hchange (h source hsource)

/-- **Whatever is cut from opened pictures is settled.** -/
theorem returns_settled_openSprites (hassets : assets.Opened) (family : Family) (side : Nat)
    (path : Role → String) :
    Loader.Returns Sprites.Settled (openSprites assets family side path) := by
  have hframe (role : Role) := returns_settled_openFrame hassets (path role)
  have hcolours (role : Role) := returns_settled_openColours hassets side (path role)
  have himages (roles : List Role) :=
    Loader.Returns.mapM_all fun role (_ : role ∈ roles) ↦
      returns_settled_openImage hassets (path role)
  cases family with
  | ldur6k =>
    refine (hframe .mine).bind fun mine hmine ↦ (hframe .receptor).bind fun receptor hreceptor ↦
      (hcolours .notes).bind fun notes hnotes ↦ .pure (Sprites.settled_iff.2 ⟨?_, ?_, hmine⟩)
    · exact settled_arrowOrientations (hreceptor.scaleTo side)
    · simp only [List.forall_mem_map]
      exact fun note hnote ↦ settled_arrowOrientations (hnotes note hnote)
  | ldurMono =>
    refine (himages _).bind fun receptors hreceptors ↦ (himages _).bind fun notes hnotes ↦
      (returns_settled_openImage hassets _).bind fun mine hmine ↦
        .pure (Sprites.settled_iff.2 ⟨hreceptors, ?_, hmine⟩)
    exact List.forall_mem_singleton.2 hnotes
  | pump =>
    refine (hframe .mine).bind fun mine hmine ↦
      (hframe .centerReceptor).bind fun centerReceptor hcenterReceptor ↦
      (hframe .cornerReceptor).bind fun cornerReceptor hcornerReceptor ↦
      (hcolours .centerNotes).bind fun center hcenter ↦
      (hcolours .cornerNotes).bind fun corner hcorner ↦
        .pure (Sprites.settled_iff.2 ⟨?_, ?_, hmine⟩)
    · exact settled_panelOrientations (hcenterReceptor.scaleTo side)
        (hcornerReceptor.scaleTo side)
    · rw [← List.map_uncurry_zip_eq_zipWith]
      simp only [List.forall_mem_map]
      rintro ⟨first, second⟩ hpair
      obtain ⟨hfirst, hsecond⟩ := List.of_mem_zip hpair
      exact settled_panelOrientations (hcenter first hfirst) (hcorner second hsecond)
  | bar =>
    refine (hframe .receptor).bind fun receptor hreceptor ↦
      (hcolours .notes).bind fun notes hnotes ↦ (hframe .mine).bind fun mine hmine ↦
        .pure (Sprites.settled_iff.2 ⟨List.forall_mem_singleton.2 hreceptor, ?_, hmine⟩)
    simp only [List.forall_mem_map, List.forall_mem_singleton]
    exact hnotes

/-- A loaded skin is settled. -/
theorem returns_settled_load (hassets : assets.Opened) (family : Family) (resolution : Int)
    (path : Role → String) :
    Loader.Returns (·.sprites.Settled) (load assets family resolution path) := by
  refine (returns_settled_openSprites hassets _ _ _).bind fun sprites hsprites ↦ .ofExcept ?_
  intro skin hskin
  rw [assemble] at hskin
  split at hskin <;> cases hskin
  exact hsprites.map fun himage ↦ himage.scaleTo _

end Skin

end NoteChart
