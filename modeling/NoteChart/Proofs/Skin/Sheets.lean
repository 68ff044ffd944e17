import Mathlib.Tactic.Common
import NoteChart.Proofs.Outcome
import NoteChart.Skin.Loading

/-!
# Which sheets are large enough

One thing can keep a skin from being loaded, a sheet that is too small for what is to be cut from
it. A family has files that are rows of frames and files that are sheets of colours; how large they
have to be is told from their sides alone (`Image.HasFrame`, `Image.HasColours`), and a file that
cannot be read counts as the blank it is replaced by.

A `Loader` opens its files in an order of its own and carries a record of the unreadable ones.
Neither matters here: the fault is the same whichever sheet it is about, and the record is only
added to. So `Loader.Ends` is `Ends` for every record there may be, and the faults of the steps add
up to one condition on all sheets (`tooSmallUnless_and`).

What is cut from sheets that are large enough can be told without opening them one after the other:
it is the table of `Assets.table`, whose sprites all stand in middle columns.
-/

namespace NoteChart

/-! ### Sheets -/

/-- A row of frames has a whole frame. -/
def Image.HasFrame (strip : Image) : Prop := 0 < strip.height ∧ strip.height ≤ strip.width

instance : DecidablePred Image.HasFrame := fun _ ↦ inferInstanceAs (Decidable (_ ∧ _))

/-- A sheet has all colours for sprites of some side. -/
def Image.HasColours (side : Nat) (sheet : Image) : Prop :=
  0 < side ∧ side ≤ sheet.width ∧ Skin.colourCount * side ≤ sheet.height

instance (side : Nat) : DecidablePred (Image.HasColours side) :=
  fun _ ↦ inferInstanceAs (Decidable (_ ∧ _))

/-- A square part of an image: its left upper corner and its side. -/
structure Square where
  left : Nat
  top : Nat
  side : Nat

/-- The square part in a row of the middle column of a sheet that is divided into squares of some
side. Of two columns in the middle it is the left one. -/
def Image.middleSquare (side row : Nat) (sheet : Image) : Square :=
  ⟨(sheet.width / side - 1) / 2 * side, row * side, side⟩

/-- The copy of a square part. -/
def Image.cut (square : Square) (image : Image) : Image :=
  image.crop square.left square.top square.side square.side

/-- The sprite in a row of the middle column. -/
def Image.middleSprite (side row : Nat) (sheet : Image) : Image :=
  sheet.cut (sheet.middleSquare side row)

/-- The middle one of a row of square frames. -/
def Image.frame (strip : Image) : Image := strip.middleSprite strip.height 0

/-- The sprites of all colours. -/
def Image.colours (side : Nat) (sheet : Image) : List Image :=
  (List.range Skin.colourCount).map (sheet.middleSprite side)

/-- The files of a family that are rows of frames. -/
def Family.frames : Family → List Role
  | ldur6k | bar => [.mine, .receptor]
  | ldurMono => []
  | pump => [.mine, .centerReceptor, .cornerReceptor]

/-- The files of a family that are sheets of colours. -/
def Family.colourSheets : Family → List Role
  | ldur6k | bar => [.notes]
  | ldurMono => []
  | pump => [.centerNotes, .cornerNotes]

namespace Skin

/-- The picture that is found at a path, a blank if there is none to be read. -/
def Assets.picture (assets : Assets) (path : String) : Image := (assets.image? path).getD .blank

/-- The sheets of a family are large enough for sprites of some side. -/
def Assets.Suffice (assets : Assets) (family : Family) (side : Nat) (path : Role → String) : Prop :=
  (∀ role ∈ family.frames, (assets.picture (path role)).HasFrame) ∧
    ∀ role ∈ family.colourSheets, (assets.picture (path role)).HasColours side

instance (assets : Assets) (family : Family) (side : Nat) (path : Role → String) :
    Decidable (assets.Suffice family side path) :=
  inferInstanceAs (Decidable (_ ∧ _))

/-- The fault of sheets that are too small, unless they are large enough. -/
def tooSmallUnless (enough : Prop) [Decidable enough] : Option Fault :=
  if enough then none else some .textureMapTooSmall

section TooSmall

variable {enough other : Prop} [Decidable enough] [Decidable other]

/-- Where two things have to be large enough, the first that is not gives the fault. -/
theorem tooSmallUnless_and :
    tooSmallUnless (enough ∧ other) = (tooSmallUnless enough).or (tooSmallUnless other) := by
  by_cases h : enough <;> simp [tooSmallUnless, h]

theorem tooSmallUnless_congr (h : enough ↔ other) :
    tooSmallUnless enough = tooSmallUnless other := by
  simp only [tooSmallUnless, h]

end TooSmall

/-- A sheet that is one square wide has a middle column. -/
theorem middleColumn_eq {side : Nat} {sheet : Image} (hside : 0 < side)
    (hwide : side ≤ sheet.width) :
    middleColumn side sheet =
      (List.range (sheet.height / side)).map (sheet.middleSprite side) := by
  have hcolumns : ¬(side = 0 ∨ sheet.width / side = 0) := by
    rw [Nat.div_eq_zero_iff]
    omega
  rw [middleColumn, if_neg hcolumns]
  rfl

/-- A sheet has as many rows of sprites as fit, and none if it is narrower than one. -/
theorem length_middleColumn (side : Nat) (sheet : Image) :
    (middleColumn side sheet).length =
      if 0 < side ∧ side ≤ sheet.width then sheet.height / side else 0 := by
  have hcolumns : sheet.width / side = 0 ↔ side = 0 ∨ sheet.width < side :=
    Nat.div_eq_zero_iff
  rw [middleColumn]
  split_ifs with hnone hsome hsome
  · omega
  · rfl
  · rw [List.length_map, List.length_range]
  · omega

/-- The frame of a strip is found exactly if the strip has one. -/
theorem ends_middleFrame (strip : Image) :
    Ends (· = strip.frame) (tooSmallUnless strip.HasFrame) (middleFrame strip) := by
  by_cases hframe : strip.HasFrame
  · obtain ⟨hhigh, hwide⟩ := hframe
    rw [tooSmallUnless, if_pos ⟨hhigh, hwide⟩, middleFrame, middleColumn_eq hhigh hwide,
      Nat.div_self hhigh]
    exact .ok rfl
  · have hnone : middleColumn strip.height strip = [] := by
      rw [← List.length_eq_zero_iff, length_middleColumn, if_neg (show ¬(_ ∧ _) from hframe)]
    rw [tooSmallUnless, if_neg hframe, middleFrame, hnone]
    exact .error _

/-- The sprites of all colours are found exactly if the sheet has enough rows. -/
theorem ends_colours (side : Nat) (sheet : Image) :
    Ends (· = sheet.colours side) (tooSmallUnless (sheet.HasColours side))
      (colours side sheet) := by
  have henough : ¬(middleColumn side sheet).length < colourCount ↔ sheet.HasColours side := by
    rw [length_middleColumn, Image.HasColours, Nat.not_lt, ← and_assoc]
    split_ifs with hside
    · rw [Nat.le_div_iff_mul_le hside.1, and_iff_right hside]
    · simp [hside, colourCount]
  rw [← tooSmallUnless_congr henough, tooSmallUnless, colours]
  by_cases hfew : (middleColumn side sheet).length < colourCount
  · simp only [hfew, not_true, if_true, if_false]
    exact .error _
  · obtain ⟨hside, hwide, hhigh⟩ := henough.1 hfew
    have hrows : colourCount ≤ sheet.height / side := (Nat.le_div_iff_mul_le hside).2 hhigh
    simp only [hfew, not_false_iff, if_true, if_false]
    -- the rows behind the colours are left alone
    refine .ok ?_
    rw [middleColumn_eq hside hwide, ← List.map_take, List.take_range, Nat.min_eq_left hrows,
      Image.colours]

/-! ### Loaders -/

namespace Loader

variable {α β : Type}

/-- Whatever could not be read before, the loader ends with the fault, if there is one, and else
with a value with the property. -/
def Ends (good : α → Prop) (fault? : Option Fault) (loader : Loader α) : Prop :=
  ∀ unreadable, NoteChart.Ends good fault? (loader.run.run unreadable).1

namespace Ends

variable {good : α → Prop} {better : β → Prop} {fault? then? : Option Fault} {loader : Loader α}

theorem pure {value : α} (h : good value) : Ends good none (Pure.pure value) :=
  fun _ ↦ .ok h

theorem ofExcept {result : Except Fault α} (h : NoteChart.Ends good fault? result) :
    Ends good fault? (Loader.ofExcept result) :=
  fun _ ↦ h

/-- **Two loads in a line.** The fault of the first comes first, whatever could not be read by
then. -/
theorem bind {next : α → Loader β} (h : Ends good fault? loader)
    (hnext : ∀ value, good value → Ends better then? (next value)) :
    Ends better (fault?.or then?) (loader >>= next) := by
  intro unreadable
  have hfirst := h unreadable
  rcases hrun : loader.run.run unreadable with ⟨result, later⟩
  rw [hrun] at hfirst
  simp only [ExceptT.run_bind, StateT.run_bind, hrun]
  rcases hfirst with fault | hvalue
  · exact .error fault
  · exact hnext _ hvalue later

/-- A loader that never fails can be run over a list. -/
theorem mapM_none {step : α → Loader β} {f : α → β} {list : List α}
    (h : ∀ member, Ends (· = f member) none (step member)) :
    Ends (· = list.map f) none (list.mapM step) := by
  induction list with
  | nil => exact pure rfl
  | cons first rest ih =>
    rw [List.mapM_cons]
    refine (h first).bind fun value hvalue ↦ ih.bind fun values hvalues ↦ pure ?_
    rw [hvalue, hvalues, List.map_cons]

theorem congr (h : Ends good fault? loader) (hfault : fault? = then?) : Ends good then? loader :=
  hfault ▸ h

end Ends

end Loader

/-- Opening a picture never fails, for one that cannot be read is replaced. -/
theorem ends_openImage (assets : Assets) (path : String) :
    Loader.Ends (· = assets.picture path) none (openImage assets path) := by
  intro unreadable
  rw [openImage, Assets.picture]
  rcases assets.image? path with - | image <;> exact .ok rfl

/-- Opening a strip fails only for want of a frame. -/
theorem ends_openFrame (assets : Assets) (path : String) :
    Loader.Ends (· = (assets.picture path).frame)
      (tooSmallUnless (assets.picture path).HasFrame) (openFrame assets path) :=
  (ends_openImage assets path).bind fun _ hstrip ↦ hstrip ▸ .ofExcept (ends_middleFrame _)

theorem ends_openColours (assets : Assets) (side : Nat) (path : String) :
    Loader.Ends (· = (assets.picture path).colours side)
      (tooSmallUnless ((assets.picture path).HasColours side)) (openColours assets side path) :=
  (ends_openImage assets path).bind fun _ hsheet ↦ hsheet ▸ .ofExcept (ends_colours side _)

theorem ends_openImages (assets : Assets) (path : Role → String) (roles : List Role) :
    Loader.Ends (· = roles.map fun role ↦ assets.picture (path role)) none
      (roles.mapM fun role ↦ openImage assets (path role)) :=
  .mapM_none fun role ↦ ends_openImage assets (path role)

/-- The table that is cut from the sheets of a family, where they are large enough. -/
def Assets.table (assets : Assets) (side : Nat) (path : Role → String) : Family → Sprites
  | .ldur6k =>
    { receptors := arrowOrientations ((assets.picture (path .receptor)).frame.scaleTo side)
      notes := ((assets.picture (path .notes)).colours side).map arrowOrientations
      mine := (assets.picture (path .mine)).frame }
  | .ldurMono =>
    { receptors := [Role.leftReceptor, .downReceptor, .upReceptor, .rightReceptor].map
        fun role ↦ assets.picture (path role)
      notes := [[Role.leftNote, .downNote, .upNote, .rightNote].map
        fun role ↦ assets.picture (path role)]
      mine := assets.picture (path .mine) }
  | .pump =>
    { receptors := panelOrientations ((assets.picture (path .centerReceptor)).frame.scaleTo side)
        ((assets.picture (path .cornerReceptor)).frame.scaleTo side)
      notes := List.zipWith panelOrientations ((assets.picture (path .centerNotes)).colours side)
        ((assets.picture (path .cornerNotes)).colours side)
      mine := (assets.picture (path .mine)).frame }
  | .bar =>
    { receptors := [(assets.picture (path .receptor)).frame]
      notes := ((assets.picture (path .notes)).colours side).map ([·])
      mine := (assets.picture (path .mine)).frame }

/-- **The files of a family** can be used exactly if its sheets are large enough. -/
theorem ends_openSprites (assets : Assets) (family : Family) (side : Nat) (path : Role → String) :
    Loader.Ends (· = assets.table side path family)
      (tooSmallUnless (assets.Suffice family side path)) (openSprites assets family side path) := by
  have hframe (role : Role) := ends_openFrame assets (path role)
  have hcolours (role : Role) := ends_openColours assets side (path role)
  have himages (roles : List Role) := ends_openImages assets path roles
  cases family with
  | ldur6k =>
    refine ((hframe .mine).bind fun mine hmine ↦ (hframe .receptor).bind fun receptor hreceptor ↦
      (hcolours .notes).bind fun notes hnotes ↦ .pure ?_).congr ?_
    · rw [hmine, hreceptor, hnotes, Assets.table]
    · simp only [Option.or_none, ← tooSmallUnless_and]
      refine tooSmallUnless_congr ?_
      simp [Assets.Suffice, Family.frames, Family.colourSheets, and_assoc]
  | ldurMono =>
    refine ((himages _).bind fun receptors hreceptors ↦ (himages _).bind fun notes hnotes ↦
      (ends_openImage assets (path .mine)).bind fun mine hmine ↦ .pure ?_).congr ?_
    · rw [hmine, hreceptors, hnotes, Assets.table]
    · simp [tooSmallUnless, Assets.Suffice, Family.frames, Family.colourSheets]
  | pump =>
    refine ((hframe .mine).bind fun mine hmine ↦
      (hframe .centerReceptor).bind fun centerReceptor hcenterReceptor ↦
      (hframe .cornerReceptor).bind fun cornerReceptor hcornerReceptor ↦
      (hcolours .centerNotes).bind fun centerNotes hcenterNotes ↦
      (hcolours .cornerNotes).bind fun cornerNotes hcornerNotes ↦ .pure ?_).congr ?_
    · rw [hmine, hcenterReceptor, hcornerReceptor, hcenterNotes, hcornerNotes, Assets.table]
    · simp only [Option.or_none, ← tooSmallUnless_and]
      refine tooSmallUnless_congr ?_
      simp [Assets.Suffice, Family.frames, Family.colourSheets, and_assoc]
  | bar =>
    refine ((hframe .receptor).bind fun receptor hreceptor ↦
      (hcolours .notes).bind fun notes hnotes ↦ (hframe .mine).bind fun mine hmine ↦
        .pure ?_).congr ?_
    · rw [hmine, hreceptor, hnotes, Assets.table]
    · simp only [Option.or_none, ← tooSmallUnless_and]
      refine tooSmallUnless_congr ?_
      simp [Assets.Suffice, Family.frames, Family.colourSheets]
      tauto

/-- Sprites are brought to the side of the skin, which fails for no positive one. -/
theorem ends_assemble {resolution : Int} (h : 0 < resolution) (family : Family)
    (sprites : Sprites) :
    NoteChart.Ends
      (· = ⟨family, resolution.toNat, sprites.map (Image.scaleTo resolution.toNat)⟩) none
      (assemble family resolution sprites) := by
  rw [assemble, if_neg (by omega)]
  exact .ok rfl

theorem ends_resize {resolution : Int} (h : 0 < resolution) (skin : Skin) :
    NoteChart.Ends (fun _ ↦ True) none (skin.resize resolution) := by
  rw [Skin.resize, if_neg (by omega)]
  exact .ok trivial

/-- **Loading** at a resolution above zero succeeds exactly if the sheets are large enough, and
scales what was cut from them to that resolution. -/
theorem ends_load {resolution : Int} (h : 0 < resolution) (assets : Assets) (family : Family)
    (path : Role → String) :
    Loader.Ends
      (· = ⟨family, resolution.toNat,
        (assets.table resolution.toNat path family).map (Image.scaleTo resolution.toNat)⟩)
      (tooSmallUnless (assets.Suffice family resolution.toNat path))
      (load assets family resolution path) :=
  ((ends_openSprites assets family resolution.toNat path).bind fun _ hsprites ↦
    hsprites ▸ .ofExcept (ends_assemble h family _)).congr (Option.or_none)

end Skin

end NoteChart
