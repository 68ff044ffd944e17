import NoteChart.Proofs.Library.Registry
import NoteChart.Proofs.Outcome

/-!
# The skin for a keymode

A keymode that comes without a skin is shown with one of the library, and two rules say which. A
name comes first: the skin of the preferred name, or else that of the fallback, is taken as it is,
and nobody asks whether it can show so many lanes. Only a library that has neither of them is
searched for a skin that fits.

So the default fits if any skin does, unless it goes by a name (`ends_defaultFor`). A name is
no promise: the names are those of the stock skins, and in settings of one's own they may stand for
a skin of any family.
-/

namespace NoteChart.Library

variable {library : Library} {keymode : Int} {named : NamedSkin}

/-- The skin that a keymode goes to by its name. -/
def defaultByName? (keymode : Int) (library : Library) : Option NamedSkin :=
  (library.get? (preferredName keymode)).or (library.get? fallbackName)

/-- The first skin of a library that supports the keymode. -/
def firstFitting? (keymode : Int) (library : Library) : Option NamedSkin :=
  (library.skins.find? fun entry ↦ entry.2.supports keymode).map fun entry ↦ ⟨entry.1, entry.2⟩

/-- The first skin of a library. -/
def first? (library : Library) : Option NamedSkin :=
  library.skins.head?.map fun entry ↦ ⟨entry.1, entry.2⟩

/-- **The rules in their order**: by name, by search, the first of all. -/
def choice? (keymode : Int) (library : Library) : Option NamedSkin :=
  (library.defaultByName? keymode).or ((library.firstFitting? keymode).or library.first?)

/-- The choice follows the rules, and fails only where these give nothing. -/
theorem defaultFor_eq (keymode : Int) (library : Library) :
    library.defaultFor keymode = (library.choice? keymode).elim (.error .noSkins) .ok := by
  rw [defaultFor, choice?, defaultByName?]
  rcases library.get? (preferredName keymode) with - | preferred
  · rcases library.get? fallbackName with - | fallback
    · dsimp only
      split
      · rename_i name skin hfind
        rw [firstFitting?, show library.skins.find? (·.2.supports keymode) = _ from hfind]
        rfl
      · rename_i hfind
        rw [firstFitting?, show library.skins.find? (·.2.supports keymode) = _ from hfind, first?]
        split <;> rename_i hskins <;> rw [hskins] <;> rfl
    · rfl
  · rfl

theorem defaultFor_eq_ok_iff :
    library.defaultFor keymode = .ok named ↔ library.choice? keymode = some named := by
  rw [defaultFor_eq]
  rcases library.choice? keymode with - | chosen <;> simp

theorem defaultFor_eq_error_iff {fault : Fault} :
    library.defaultFor keymode = .error fault ↔
      library.choice? keymode = none ∧ fault = .noSkins := by
  rw [defaultFor_eq]
  rcases library.choice? keymode with - | chosen <;> simp [eq_comm]

/-! ### What each rule gives -/

theorem has_of_defaultByName? (h : library.defaultByName? keymode = some named) :
    library.Has named := by
  rw [defaultByName?, Option.or_eq_some_iff] at h
  rcases h with hpreferred | ⟨-, hfallback⟩
  · exact has_of_get? hpreferred
  · exact has_of_get? hfallback

/-- A skin that is found by search is one of the library and supports the keymode. -/
theorem fits_of_firstFitting? (h : library.firstFitting? keymode = some named) :
    library.Has named ∧ named.skin.supports keymode := by
  obtain ⟨entry, hentry, rfl⟩ := Option.map_eq_some_iff.1 h
  have hfits := List.find?_some hentry
  exact ⟨List.mem_of_find?_eq_some hentry, hfits⟩

/-- The search finds nothing only where no skin fits. -/
theorem firstFitting?_eq_none_iff :
    library.firstFitting? keymode = none ↔
      ∀ other, library.Has other → ¬other.skin.supports keymode := by
  rw [firstFitting?, Option.map_eq_none_iff, List.find?_eq_none]
  constructor
  · intro h other hother
    exact h _ hother
  · intro h entry hentry
    exact h ⟨entry.1, entry.2⟩ hentry

theorem has_of_first? (h : library.first? = some named) : library.Has named := by
  obtain ⟨entry, hentry, rfl⟩ := Option.map_eq_some_iff.1 h
  exact List.mem_of_head? hentry

theorem first?_eq_none_iff : library.first? = none ↔ library.skins = [] := by
  rw [first?, Option.map_eq_none_iff, List.head?_eq_none_iff]

/-! ### The choice -/

/-- Whatever rule has chosen it, the skin is one of the library. -/
theorem has_of_choice? (h : library.choice? keymode = some named) : library.Has named := by
  rw [choice?, Option.or_eq_some_iff, Option.or_eq_some_iff] at h
  rcases h with hname | ⟨-, hfitting | ⟨-, hfirst⟩⟩
  · exact has_of_defaultByName? hname
  · exact (fits_of_firstFitting? hfitting).1
  · exact has_of_first? hfirst

/-- The rules choose a skin unless there are none. -/
theorem choice?_eq_none_iff : library.choice? keymode = none ↔ library.skins = [] := by
  constructor
  · intro hnone
    simp only [choice?, Option.or_eq_none_iff] at hnone
    exact first?_eq_none_iff.1 hnone.2.2
  · intro hempty
    rcases hchosen : library.choice? keymode with - | named
    · rfl
    · have hhas : (named.name, named.skin) ∈ library.skins := has_of_choice? hchosen
      rw [hempty] at hhas
      cases hhas

/-- The skin for a keymode is one of the library, whichever rule it was chosen by. -/
theorem has_of_defaultFor (h : library.defaultFor keymode = .ok named) : library.Has named :=
  has_of_choice? (defaultFor_eq_ok_iff.1 h)

/-- A keymode goes without a skin only if there is none at all. -/
theorem eq_noSkins_of_defaultFor {fault : Fault} (h : library.defaultFor keymode = .error fault) :
    fault = .noSkins :=
  (defaultFor_eq_error_iff.1 h).2

/-- A library has a skin for every keymode, or it is empty. -/
theorem defaultFor_eq_noSkins_iff :
    library.defaultFor keymode = .error .noSkins ↔ library.skins = [] := by
  rw [defaultFor_eq_error_iff, and_iff_left rfl, choice?_eq_none_iff]

/-- A name decides where it stands for a skin. -/
theorem defaultFor_of_byName (h : library.defaultByName? keymode = some named) :
    library.defaultFor keymode = .ok named := by
  rw [defaultFor_eq_ok_iff, choice?, h, Option.some_or]

/-- Where no name decides, a skin that fits is found if there is one. -/
theorem defaultFor_supports (hname : library.defaultByName? keymode = none) {other : NamedSkin}
    (hother : library.Has other) (hfits : other.skin.supports keymode)
    (h : library.defaultFor keymode = .ok named) : named.skin.supports keymode := by
  rcases hfitting : library.firstFitting? keymode with - | fitting
  · exact absurd hfits (firstFitting?_eq_none_iff.1 hfitting other hother)
  · rw [defaultFor_eq_ok_iff, choice?, hname, hfitting, Option.none_or, Option.some_or] at h
    cases h
    exact (fits_of_firstFitting? hfitting).2

/-- What a keymode can rely on that goes to a skin of a library. -/
structure DefaultsTo (library : Library) (keymode : Int) (named : NamedSkin) : Prop where
  has : library.Has named
  /-- A skin that has the name is taken, whatever it supports. -/
  by_name : ∀ chosen, library.defaultByName? keymode = some chosen → named = chosen
  /-- The skin fits if one of the library does, provided that it was not taken for its name. -/
  supports_iff : named.skin.supports keymode ↔
    (∃ other, library.Has other ∧ other.skin.supports keymode) ∧
      ∀ chosen, library.defaultByName? keymode = some chosen → chosen.skin.supports keymode

/-- **The default of a keymode.** Only an empty library has none; and it fits whenever a skin does,
unless it goes by a name. -/
theorem ends_defaultFor (library : Library) (keymode : Int) :
    Ends (library.DefaultsTo keymode) (if library.skins = [] then some .noSkins else none)
      (library.defaultFor keymode) := by
  rcases hchosen : library.defaultFor keymode with fault | named
  · cases eq_noSkins_of_defaultFor hchosen
    rw [if_pos (defaultFor_eq_noSkins_iff.1 hchosen)]
    exact .error _
  have hne : library.skins ≠ [] := by
    intro hempty
    rw [defaultFor_eq_noSkins_iff.2 hempty] at hchosen
    cases hchosen
  have hhas : library.Has named := has_of_defaultFor hchosen
  have hname (chosen : NamedSkin) (h : library.defaultByName? keymode = some chosen) :
      named = chosen := by
    rw [defaultFor_of_byName h] at hchosen
    exact (Except.ok.inj hchosen).symm
  rw [if_neg hne]
  refine .ok ⟨hhas, hname, ?_⟩
  constructor
  · intro hfits
    exact ⟨⟨named, hhas, hfits⟩, fun chosen h ↦ hname chosen h ▸ hfits⟩
  · rintro ⟨⟨other, hother, hfits⟩, hchosenFits⟩
    rcases hbyName : library.defaultByName? keymode with - | chosen
    · exact defaultFor_supports hbyName hother hfits hchosen
    · exact hname chosen hbyName ▸ hchosenFits chosen hbyName

/-- Arrows that have the name of the fallback are taken for seven lanes, which they cannot show,
although there are bars beside them, which can. -/
theorem exists_default_misfit :
    ∃ arrows bars : Skin,
      (Skin.load ⟨fun _ ↦ none⟩ .ldurMono 8 Role.name).outcome.1 = .ok arrows ∧
      (Skin.load ⟨fun _ ↦ none⟩ .bar 8 Role.name).outcome.1 = .ok bars ∧
      (ofAdditions [⟨"sbz", arrows, []⟩, ⟨"bars", bars, []⟩]).defaultFor 7 =
        .ok ⟨"sbz", arrows⟩ ∧
      arrows.supports 7 = false ∧ bars.supports 7 = true ∧
      ¬ ∀ (additions : List Addition) (keymode : Int) (named other : NamedSkin),
        (ofAdditions additions).defaultFor keymode = .ok named →
          (ofAdditions additions).Has other → other.skin.supports keymode →
            named.skin.supports keymode := by
  obtain ⟨arrows, harrows, hmisfit⟩ : ∃ arrows : Skin,
      (Skin.load ⟨fun _ ↦ none⟩ .ldurMono 8 Role.name).outcome.1 = .ok arrows ∧
        arrows.supports 7 = false := ⟨_, rfl, rfl⟩
  obtain ⟨bars, hbars, hfit⟩ : ∃ bars : Skin,
      (Skin.load ⟨fun _ ↦ none⟩ .bar 8 Role.name).outcome.1 = .ok bars ∧
        bars.supports 7 = true := ⟨_, rfl, rfl⟩
  have hchosen : (ofAdditions [⟨"sbz", arrows, []⟩, ⟨"bars", bars, []⟩]).defaultFor 7 =
      .ok ⟨"sbz", arrows⟩ := rfl
  refine ⟨arrows, bars, harrows, hbars, hchosen, hmisfit, hfit, fun hfits ↦ ?_⟩
  have hhas : (ofAdditions [⟨"sbz", arrows, []⟩, ⟨"bars", bars, []⟩]).Has ⟨"bars", bars⟩ :=
    List.mem_cons_of_mem _ List.mem_cons_self
  have hsupports := hfits _ _ _ _ hchosen hhas hfit
  rw [hmisfit] at hsupports
  cases hsupports

end NoteChart.Library
