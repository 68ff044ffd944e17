import Mathlib.Tactic.IntervalCases
import NoteChart.Proofs.Skin.Lookup
import NoteChart.Proofs.Skin.Sheets

/-!
# What is cut from sheets

A skin is loaded if its sheets are large enough, and then every sprite of it can be traced to a part
of one file. Which file that is depends on the column alone (`Family.noteRole`,
`Family.receptorRole`), and so does what is done to the part (`Family.turned`); which part it is
depends on the row. Where a family has a picture for each direction, the part is all of it.

Sprites are scaled at the end of loading, and some of them before they are turned as well. It comes
to the same, for what was cut or scaled is a square and stays one however it is turned
(`isSquare_turned`). So each sprite is told as a part that was scaled and then turned.

That the parts lie in their files is a matter of division. The middle one of the whole columns of a
sheet ends in front of its last column, or with it (`middleSquare_inside`).
-/

namespace NoteChart

/-! ### Squares -/

/-- The part lies in the image. -/
structure Square.Inside (square : Square) (image : Image) : Prop where
  right : square.left + square.side ≤ image.width
  bottom : square.top + square.side ≤ image.height

/-- The image is a square of some side. -/
structure Image.IsSquare (side : Nat) (image : Image) : Prop where
  width_eq : image.width = side
  height_eq : image.height = side

namespace Image

variable {side : Nat} {image sheet : Image}

/-- **The middle column** is one of the sheet, and so are its rows. -/
theorem middleSquare_inside (hside : 0 < side) (hwide : side ≤ sheet.width) {row : Nat}
    (hhigh : (row + 1) * side ≤ sheet.height) :
    (sheet.middleSquare side row).Inside sheet where
  right := by
    have hcolumns : 0 < sheet.width / side := Nat.div_pos hwide hside
    calc (sheet.width / side - 1) / 2 * side + side
        = ((sheet.width / side - 1) / 2 + 1) * side := (Nat.succ_mul _ _).symm
      _ ≤ sheet.width / side * side := Nat.mul_le_mul_right side (by omega)
      _ ≤ sheet.width := Nat.div_mul_le_self _ _
  bottom := by
    rw [Nat.succ_mul] at hhigh
    exact hhigh

theorem isSquare_cut (square : Square) (image : Image) :
    (image.cut square).IsSquare square.side := by
  rw [cut, crop]
  split
  · rename_i hwhole
    exact ⟨hwhole.2.2.1.symm, hwhole.2.2.2.symm⟩
  · exact ⟨rfl, rfl⟩

/-- An image scaled to a side is a square of that side. -/
theorem isSquare_scaleTo (hside : 0 < side) (image : Image) :
    (image.scaleTo side).IsSquare side := by
  have hmax : max side 1 = side := max_eq_left hside
  simp only [scaleTo, hmax]
  split
  · rename_i hsquare
    exact ⟨hsquare.1, hsquare.2⟩
  · exact ⟨rfl, rfl⟩

/-- A square of the side asked for is not scaled. -/
theorem IsSquare.scaleTo_eq (h : image.IsSquare side) (hside : 0 < side) :
    image.scaleTo side = image := by
  have hmax : max side 1 = side := max_eq_left hside
  rw [scaleTo, hmax, if_pos ⟨h.width_eq, h.height_eq⟩]

theorem IsSquare.quarterTurns (h : image.IsSquare side) (count : Nat) :
    (image.quarterTurns count).IsSquare side := by
  constructor <;> simp [Image.quarterTurns, h.width_eq, h.height_eq]

end Image

/-! ### Columns -/

namespace Family

/-- The file that the notes of a column are cut from. -/
def noteRole (column : Nat) : Family → Role
  | ldur6k | bar => .notes
  | ldurMono =>
    match column with
    | 0 => .leftNote
    | 1 => .downNote
    | 2 => .upNote
    | _ => .rightNote
  | pump => if column = 2 then .centerNotes else .cornerNotes

/-- The file that the receptor of a column is cut from. -/
def receptorRole (column : Nat) : Family → Role
  | ldur6k | bar => .receptor
  | ldurMono =>
    match column with
    | 0 => .leftReceptor
    | 1 => .downReceptor
    | 2 => .upReceptor
    | _ => .rightReceptor
  | pump => if column = 2 then .centerReceptor else .cornerReceptor

/-- The part of a file that shows a note of some row. -/
def notePart (side row : Nat) (picture : Image) : Family → Image
  | ldur6k | pump | bar => picture.middleSprite side row
  | ldurMono => picture

/-- The part of a file that shows a receptor or a mine. -/
def framePart (picture : Image) : Family → Image
  | ldur6k | pump | bar => picture.frame
  | ldurMono => picture

/-- How a picture is turned for a column. -/
def turned (column : Nat) (image : Image) : Family → Image
  | ldur6k =>
    match column with
    | 0 => image.quarterTurns 1
    | 1 => image
    | 2 => image.quarterTurns 2
    | 3 => image.quarterTurns 3
    | 4 => image.turn 135
    | _ => image.turn 225
  | pump =>
    match column with
    | 1 => image.quarterTurns 1
    | 3 => image.quarterTurns 2
    | 4 => image.quarterTurns 3
    | _ => image
  | ldurMono | bar => image

/-- A square stays one for every column. -/
theorem isSquare_turned {side : Nat} {image : Image} (h : image.IsSquare side) (family : Family)
    (column : Nat) : (family.turned column image).IsSquare side := by
  cases family with
  | ldur6k =>
    simp only [turned]
    split
    case h_1 | h_3 | h_4 => exact h.quarterTurns _
    case h_2 => exact h
    case h_5 | h_6 => exact ⟨h.width_eq, h.height_eq⟩
  | pump =>
    simp only [turned]
    split
    case h_1 | h_2 | h_3 => exact h.quarterTurns _
    case h_4 => exact h
  | ldurMono | bar => exact h

/-- What was scaled and turned is not scaled again. -/
theorem scaleTo_turned {side : Nat} (hside : 0 < side) (image : Image) (family : Family)
    (column : Nat) :
    (family.turned column (image.scaleTo side)).scaleTo side =
      family.turned column (image.scaleTo side) :=
  (isSquare_turned (Image.isSquare_scaleTo hside image) family column).scaleTo_eq hside

end Family

namespace Skin

variable {assets : Assets} {family : Family} {side : Nat} {path : Role → String}

/-! ### Tables -/

/-- The sprite of a colour is cut from the row of that colour. -/
theorem getElem?_colours (sheet : Image) {row : Nat} (hrow : row < colourCount) :
    (sheet.colours side)[row]? = some (sheet.middleSprite side row) := by
  rw [Image.colours, List.getElem?_map, List.getElem?_range hrow]
  rfl

theorem getElem?_arrowOrientations (down : Image) {column : Nat} (hcolumn : column < 6) :
    (arrowOrientations down)[column]? = some (Family.ldur6k.turned column down) := by
  interval_cases column <;> rfl

/-- In the middle column of a panel stands the center, in the others the corner turned for them. -/
theorem getElem?_panelOrientations (center corner : Image) {column : Nat} (hcolumn : column < 5) :
    (panelOrientations center corner)[column]? =
      some (Family.pump.turned column (if column = 2 then center else corner)) := by
  interval_cases column <;> rfl

/-- A change of a table changes the note in each place. -/
theorem Sprites.noteAt?_map (sprites : Sprites) (change : Image → Image) (row column : Nat) :
    (sprites.map change).noteAt? row column = (sprites.noteAt? row column).map change := by
  rw [noteAt?, noteAt?, map, List.getElem?_map]
  rcases sprites.notes[row]? with - | notes
  · rfl
  · exact List.getElem?_map

/-- A note of the table is turned for its column, and is a part of the file of that column. -/
theorem noteAt?_table {row column : Nat} (hrow : row < family.colourRows)
    (hcolumn : column < family.orientationCount) :
    (assets.table side path family).noteAt? row column =
      some (family.turned column
        (family.notePart side row (assets.picture (path (family.noteRole column))))) := by
  cases family with
  | ldur6k =>
    simp only [Sprites.noteAt?, Assets.table, List.getElem?_map, getElem?_colours _ hrow]
    exact getElem?_arrowOrientations _ hcolumn
  | ldurMono =>
    have hrow : row = 0 := Nat.lt_one_iff.1 hrow
    have hcolumn : column < 4 := hcolumn
    subst hrow
    interval_cases column <;> rfl
  | pump =>
    simp only [Sprites.noteAt?, Assets.table, List.getElem?_zipWith, getElem?_colours _ hrow]
    refine (getElem?_panelOrientations _ _ hcolumn).trans ?_
    by_cases hcenter : column = 2 <;> simp [Family.notePart, Family.noteRole, hcenter]
  | bar =>
    have hcolumn : column = 0 := Nat.lt_one_iff.1 hcolumn
    subst hcolumn
    simp only [Sprites.noteAt?, Assets.table, List.getElem?_map, getElem?_colours _ hrow]
    rfl

/-- A note is scaled before it is turned as well as behind. -/
theorem scaleTo_turned_notePart (hside : 0 < side) (row column : Nat) (picture : Image) :
    (family.turned column (family.notePart side row picture)).scaleTo side =
      family.turned column ((family.notePart side row picture).scaleTo side) := by
  cases family with
  | ldur6k | pump | bar =>
    have hsquare : (picture.middleSprite side row).IsSquare side :=
      Image.isSquare_cut (picture.middleSquare side row) picture
    simp only [Family.notePart]
    rw [(Family.isSquare_turned hsquare _ column).scaleTo_eq hside, hsquare.scaleTo_eq hside]
  | ldurMono => rfl

/-- A receptor is the frame of its picture, turned for its column. -/
theorem getElem?_receptors_table (hside : 0 < side) {column : Nat}
    (hcolumn : column < family.orientationCount) :
    (assets.table side path family).receptors[column]?.map (Image.scaleTo side) =
      some (family.turned column ((family.framePart
        (assets.picture (path (family.receptorRole column)))).scaleTo side)) := by
  cases family with
  | ldur6k =>
    rw [Assets.table, getElem?_arrowOrientations _ hcolumn, Option.map_some,
      Family.scaleTo_turned hside]
    rfl
  | ldurMono =>
    have hcolumn : column < 4 := hcolumn
    interval_cases column <;> rfl
  | pump =>
    rw [Assets.table, getElem?_panelOrientations _ _ hcolumn, Option.map_some, ← apply_ite
      (Image.scaleTo side), Family.scaleTo_turned hside]
    by_cases hcenter : column = 2 <;> simp [Family.framePart, Family.receptorRole, hcenter]
  | bar =>
    have hcolumn : column = 0 := Nat.lt_one_iff.1 hcolumn
    subst hcolumn
    rfl

theorem mine_table : (assets.table side path family).mine =
    family.framePart (assets.picture (path .mine)) := by
  cases family <;> rfl

/-! ### Skins -/

/-- No picture is empty. -/
def Assets.Sized (assets : Assets) : Prop :=
  ∀ path image, assets.image? path = some image → 0 < image.width ∧ 0 < image.height

/-- The file of a role is at least as wide as it is high. -/
def Assets.IsWide (assets : Assets) (path : Role → String) (role : Role) : Prop :=
  (assets.picture (path role)).height ≤ (assets.picture (path role)).width

/-- The file of a role is at least one sprite wide and eight sprites high. -/
def Assets.HasEight (assets : Assets) (side : Nat) (path : Role → String) (role : Role) : Prop :=
  side ≤ (assets.picture (path role)).width ∧ 8 * side ≤ (assets.picture (path role)).height

/-- How large the sheets of a family have to be. A picture for each direction may have any size. -/
def Assets.LargeEnough (assets : Assets) (side : Nat) (path : Role → String) : Family → Prop
  | .ldur6k | .bar =>
    assets.IsWide path .mine ∧ assets.IsWide path .receptor ∧ assets.HasEight side path .notes
  | .ldurMono => True
  | .pump =>
    assets.IsWide path .mine ∧ assets.IsWide path .centerReceptor ∧
      assets.IsWide path .cornerReceptor ∧ assets.HasEight side path .centerNotes ∧
      assets.HasEight side path .cornerNotes

instance (assets : Assets) (path : Role → String) : DecidablePred (assets.IsWide path) :=
  fun _ ↦ inferInstanceAs (Decidable (_ ≤ _))

instance (assets : Assets) (side : Nat) (path : Role → String) :
    DecidablePred (assets.HasEight side path) :=
  fun _ ↦ inferInstanceAs (Decidable (_ ∧ _))

instance (assets : Assets) (side : Nat) (path : Role → String) :
    DecidablePred (assets.LargeEnough side path) := fun family ↦
  match family with
  | .ldur6k | .bar => inferInstanceAs (Decidable (_ ∧ _))
  | .ldurMono => inferInstanceAs (Decidable True)
  | .pump => inferInstanceAs (Decidable (_ ∧ _))

/-- Every picture has a size, also one that replaces another. -/
theorem Assets.Sized.picture (h : assets.Sized) (path : String) :
    0 < (assets.picture path).width ∧ 0 < (assets.picture path).height := by
  rw [Assets.picture]
  rcases himage : assets.image? path with - | image
  · exact ⟨by decide, by decide⟩
  · exact h path image himage

/-- What is asked of the pictures one by one is what the family asks of them. -/
theorem suffice_iff_largeEnough (hsizes : assets.Sized) (hside : 0 < side) :
    assets.Suffice family side path ↔ assets.LargeEnough side path family := by
  have hframe (role : Role) :
      (assets.picture (path role)).HasFrame ↔ assets.IsWide path role :=
    and_iff_right (hsizes.picture (path role)).2
  have hcolours (role : Role) :
      (assets.picture (path role)).HasColours side ↔ assets.HasEight side path role :=
    and_iff_right hside
  cases family <;>
    simp [Assets.Suffice, Family.frames, Family.colourSheets, Assets.LargeEnough, hframe, hcolours,
      and_assoc]

/-- Every sprite of the skin is a part of one of the files, scaled and turned for its column, and
what was cut from a file lies in it. -/
structure CutFrom (assets : Assets) (family : Family) (side : Nat) (path : Role → String)
    (skin : Skin) : Prop where
  family_eq : skin.family = family
  resolution_eq : skin.resolution = side
  /-- There are no sprites but those told of here. -/
  fits : skin.sprites.Fits family
  note : ∀ row < family.colourRows, ∀ column < family.orientationCount,
    skin.sprites.noteAt? row column =
      some (family.turned column ((family.notePart side row
        (assets.picture (path (family.noteRole column)))).scaleTo side))
  receptor : ∀ column < family.orientationCount,
    skin.sprites.receptors[column]? =
      some (family.turned column
        ((family.framePart (assets.picture (path (family.receptorRole column)))).scaleTo side))
  mine : skin.sprites.mine = (family.framePart (assets.picture (path .mine))).scaleTo side
  colour_inside : ∀ role ∈ family.colourSheets, ∀ row < colourCount,
    ((assets.picture (path role)).middleSquare side row).Inside (assets.picture (path role))
  frame_inside : ∀ role ∈ family.frames,
    ((assets.picture (path role)).middleSquare (assets.picture (path role)).height 0).Inside
      (assets.picture (path role))

/-- **The table of sheets that are large enough** makes a skin that is cut from them. -/
theorem cutFrom_table (hside : 0 < side) (hsuffice : assets.Suffice family side path)
    (hfits : ((assets.table side path family).map (Image.scaleTo side)).Fits family) :
    CutFrom assets family side path
      ⟨family, side, (assets.table side path family).map (Image.scaleTo side)⟩ where
  family_eq := rfl
  resolution_eq := rfl
  fits := hfits
  note row hrow column hcolumn := by
    rw [Sprites.noteAt?_map, noteAt?_table hrow hcolumn, Option.map_some,
      scaleTo_turned_notePart hside]
  receptor column hcolumn :=
    (List.getElem?_map).trans (getElem?_receptors_table hside hcolumn)
  mine := congrArg (Image.scaleTo side) mine_table
  colour_inside role hrole row hrow := by
    obtain ⟨-, hwide, hhigh⟩ := hsuffice.2 role hrole
    exact Image.middleSquare_inside hside hwide
      (le_trans (Nat.mul_le_mul_right side hrow) hhigh)
  frame_inside role hrole := by
    obtain ⟨hhigh, hwide⟩ := hsuffice.1 role hrole
    exact Image.middleSquare_inside hhigh hwide (by rw [Nat.zero_add, Nat.one_mul])

/-- **Exactly which sheets load, and what is cut from them.** A skin with a picture for each
direction always loads. Of the others the rows of frames have to be as wide as they are high, and
the sheets of notes one sprite wide and eight high; else they are too small. -/
theorem load_cuts (hsizes : assets.Sized) {resolution : Int} (h : 0 < resolution)
    (family : Family) (path : Role → String) :
    ((∃ skin, (load assets family resolution path).outcome.1 = .ok skin) ↔
      assets.LargeEnough resolution.toNat path family) ∧
    (¬assets.LargeEnough resolution.toNat path family →
      (load assets family resolution path).outcome.1 = .error .textureMapTooSmall) ∧
    ∀ skin, (load assets family resolution path).outcome.1 = .ok skin →
      CutFrom assets family resolution.toNat path skin := by
  have hside : 0 < resolution.toNat := by omega
  have hends := ends_load h assets family path []
  have henough : tooSmallUnless (assets.Suffice family resolution.toNat path) = none ↔
      assets.LargeEnough resolution.toNat path family := by
    rw [← suffice_iff_largeEnough hsizes hside, tooSmallUnless]
    split_ifs with hsuffice <;> simp [hsuffice]
  refine ⟨⟨?_, fun hlarge ↦ ?_⟩, fun hsmall ↦ ?_, fun skin hskin ↦ ?_⟩
  · rintro ⟨skin, hskin⟩
    exact henough.1 (hends.eq_none_of_ok hskin)
  · obtain ⟨skin, -, hskin⟩ := hends.exists_ok (henough.2 hlarge)
    exact ⟨skin, hskin⟩
  · rw [← suffice_iff_largeEnough hsizes hside] at hsmall
    exact hends.error_iff.2 (if_neg hsmall)
  · have hsuffice := (suffice_iff_largeEnough hsizes hside).2
      (henough.1 (hends.eq_none_of_ok hskin))
    have hwellFormed := returns_load assets family resolution path [] _ hskin
    rw [hends.good_of_ok hskin] at hwellFormed ⊢
    exact cutFrom_table hside hsuffice hwellFormed.fits

/-- Pictures whose sides are no multiples of those of the sprites, and none of a receptor. -/
def unevenPictures : Assets where
  image? path :=
    if path = "notes" then some (.opened path 70 135)
    else if path = "mine" then some (.opened path 40 16)
    else none

/-- Sprites of a side of 16 can be cut from them, from the second of four columns and the first of
two. The receptor is a blank. Sprites of a side of 17 would not all be there. -/
theorem load_cuts_unevenPictures :
    unevenPictures.Sized ∧ (0 : Int) < 16 ∧
    (∃ skin, (load unevenPictures .ldur6k 16 Role.name).outcome.1 = .ok skin ∧
      skin.sprites.noteAt? 7 0 =
        some ⟨"notes", 70, 135, [.rotate 90, .crop 16 112 16 16], 16, 16⟩ ∧
      skin.sprites.receptors[4]? = some ⟨"blank", 64, 64, [.turn 135, .scale 16 16], 16, 16⟩ ∧
      skin.sprites.mine = ⟨"mine", 40, 16, [.crop 0 0 16 16], 16, 16⟩) ∧
    (load unevenPictures .ldur6k 17 Role.name).outcome.1 = .error .textureMapTooSmall := by
  have hsizes : unevenPictures.Sized := by
    intro path image himage
    simp only [unevenPictures] at himage
    split_ifs at himage <;> cases himage <;> exact ⟨Nat.succ_pos _, Nat.succ_pos _⟩
  obtain ⟨hloads, -, hcuts⟩ := load_cuts hsizes (show (0 : Int) < 16 by decide) .ldur6k Role.name
  obtain ⟨-, hsmall, -⟩ := load_cuts hsizes (show (0 : Int) < 17 by decide) .ldur6k Role.name
  obtain ⟨skin, hskin⟩ := hloads.2 (by decide)
  have hcut := hcuts skin hskin
  refine ⟨hsizes, by decide, ⟨skin, hskin, ?_, ?_, ?_⟩, hsmall (by decide)⟩
  · exact hcut.note 7 (by decide) 0 (by decide)
  · exact hcut.receptor 4 (by decide)
  · exact hcut.mine

end Skin

end NoteChart
