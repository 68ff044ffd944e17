import NoteChart.Proofs.Command.Filing
import NoteChart.Proofs.Library.Loading

/-!
# Words without a letter

Skins are found by the letters and numerals of their names. A word that has none of either, such as
`[]`, has the empty key. It is no snap, zoom, direction or keymode, since each of these has a letter
in it, and nothing about it is rejected. So it is pattern text, unless the library has a skin by the
empty key.

It has one as soon as a skin is entered with a name, or a further name, that has no letter and no
numeral either, and the settings allow such names. Every word of that kind then stands for that
skin: the empty row that `[]` is meant for is missing from the pattern, and there is no warning.
-/

namespace NoteChart

/-- The word has no letter or numeral in it, in lower case. -/
def IsUnlettered (word : String) : Prop :=
  ∀ c ∈ Text.lower word.toList, ¬Text.isAlphanumeric c

-- given by name, for the one that is searched for may go through all characters there are
instance : DecidablePred IsUnlettered := fun word ↦
  List.decidableBAll (¬Text.isAlphanumeric ·) (Text.lower word.toList)

/-- Every one of the names has a letter or numeral. -/
def AllLettered (names : List String) : Prop := ∀ name ∈ names, ¬IsUnlettered name

/-- No part of such a word in lower case has a letter in it either. -/
theorem IsUnlettered.not_any {word : String} (h : IsUnlettered word) {part : List Char}
    (hpart : part ⊆ Text.lower word.toList) : ¬part.any Text.isAlphanumeric := by
  rw [List.any_eq_true]
  rintro ⟨c, hc, hletter⟩
  exact h c (hpart hc) hletter

/-- The empty key is the key of the words without a letter. -/
theorem lookupKey_eq_empty_iff {word : String} : lookupKey word = "" ↔ IsUnlettered word := by
  rw [lookupKey, String.ofList_eq_empty_iff, List.filter_eq_nil_iff, IsUnlettered]

variable {word : String}

/-! ### Looking one up -/

namespace Library

/-- An addition is not entered under the empty key exactly if all its names have letters. -/
theorem not_hasKey_empty_iff {addition : Addition} :
    ¬addition.hasKey "" ↔ AllLettered (addition.name :: addition.aliases) := by
  simp only [Addition.hasKey, List.any_eq_true, beq_iff_eq, lookupKey_eq_empty_iff, AllLettered,
    not_exists, not_and]

/-- A word without a letter finds no skin exactly if none has a name of that kind. -/
theorem find?_ofAdditions_unlettered (h : IsUnlettered word) (additions : List Addition) :
    (ofAdditions additions).find? word = none ↔
      ∀ addition ∈ additions, AllLettered (addition.name :: addition.aliases) := by
  rw [(records_ofAdditions additions).find_none, lookupKey_eq_empty_iff.2 h]
  simp only [not_hasKey_empty_iff]

/-- The skin of an entry is entered under the names of the entry. -/
theorem names_of_addition? {assets : Skin.Assets} {directory : Path} {entry : Config.SkinEntry}
    {addition : Addition} (h : addition? assets directory entry = some addition) :
    addition.name :: addition.aliases = entry.name :: entry.aliases := by
  rw [addition?] at h
  split at h <;> cases h
  rfl

end Library

namespace Run

open Library

/-- Valid settings give a library in which a word without a letter finds no skin exactly if none of
the skins that load has a name of that kind. -/
theorem exists_loadLibrary_unlettered (h : IsUnlettered word) {host : Host} {config : Config}
    {directory : Path} (hvalid : config.Validated)
    (hdirectory : host.assetsDirectory config.assetsDirectory = .ok directory)
    (assets : Skin.Assets) :
    ∃ loaded, loadLibrary host assets config = .ok loaded ∧
      (loaded.library.find? word = none ↔
        ∀ entry ∈ config.skins, (addition? assets directory entry).isSome →
          AllLettered (entry.name :: entry.aliases)) := by
  have hsound entry (hentry : entry ∈ config.skins) := (hvalid.skins entry hentry).sound
  obtain ⟨loaded, hloaded, hload⟩ := loadLibrary_of_sound hdirectory hsound assets
  refine ⟨loaded, hloaded, ?_⟩
  rw [(leavesOutBroken_of_load assets directory hsound hload).library_eq,
    find?_ofAdditions_unlettered h, List.forall_mem_filterMap]
  refine forall₂_congr fun entry _ ↦ ?_
  rcases hadded : addition? assets directory entry with - | addition
  · simp
  · simp [names_of_addition? hadded]

end Run

namespace Command

/-! ### Shapes -/

theorem getLast?_ne_of_unlettered (h : IsUnlettered word) {last : Char} (hsigma : last ≠ 'Σ')
    (hdotted : last ≠ 'İ') (hletter : [Text.lowerChar last].any Text.isAlphanumeric) :
    word.toList.getLast? ≠ some last := by
  intro hlast
  obtain ⟨init, hword⟩ := List.getLast?_eq_some_iff.1 hlast
  obtain ⟨front, hfront⟩ := Text.exists_lowerAfter_concat [] init hsigma hdotted
  refine h.not_any ?_ hletter
  rw [Text.lower, hword, hfront]
  exact List.subset_append_right _ _

/-- A word without a letter has no ordinal ending, and so is no snap. -/
theorem snapOf_of_unlettered (h : IsUnlettered word) : snapOf word.toList = .otherwise := by
  have hletters : ∀ ending ∈ ordinalEndings, ending.toList.any Text.isAlphanumeric := by
    decide +kernel
  have hending : (ordinalEndings.find? fun ending ↦
      ending.toList.isSuffixOf (Text.lower word.toList)) = none := by
    refine List.find?_eq_none.2 fun ending hmem hsuffix ↦ ?_
    exact h.not_any (List.isSuffixOf_iff_suffix.1 hsuffix).subset (hletters ending hmem)
  simp only [snapOf, hending]

theorem zoomOf_of_unlettered (h : IsUnlettered word) : zoomOf word.toList = .otherwise := by
  by_contra hzoom
  exact getLast?_ne_of_unlettered h (by decide) (by decide) (by decide +kernel)
    (getLast?_of_zoomOf hzoom)

theorem scrollOf?_of_unlettered (h : IsUnlettered word) : scrollOf? word.toList = none := by
  have hne (direction : String) (hletter : direction.toList.any Text.isAlphanumeric) :
      String.ofList (Text.lower word.toList) ≠ direction := by
    rintro rfl
    rw [String.toList_ofList] at hletter
    exact h.not_any (List.Subset.refl _) hletter
  have hup := hne "up" (by decide +kernel)
  have hdown := hne "down" (by decide +kernel)
  have hreverse := hne "reverse" (by decide +kernel)
  simp only [scrollOf?, hup, hdown, hreverse, or_self, if_false]

theorem keymodeOf_of_unlettered (h : IsUnlettered word) : keymodeOf word.toList = .otherwise := by
  by_contra hkeymode
  rcases getLast?_of_keymodeOf hkeymode with hlast | hlast
  · exact getLast?_ne_of_unlettered h (by decide) (by decide) (by decide +kernel) hlast
  · exact getLast?_ne_of_unlettered h (by decide) (by decide) (by decide +kernel) hlast

/-! ### One word -/

variable {library : Library}

/-- A word without a letter has no meaning but that of the skin it finds. -/
theorem classify_of_unlettered (h : IsUnlettered word) :
    classify library word = ((library.find? word).map Meaning.skin).getD .text := by
  simp only [classify, Modifier.all, List.findSome?_cons, List.findSome?_nil, Modifier.meaning?,
    snapOf_of_unlettered h, zoomOf_of_unlettered h, scrollOf?_of_unlettered h,
    keymodeOf_of_unlettered h, Attempt.value?, Option.map_none]
  rcases library.find? word with - | named <;> rfl

/-- A word without a letter is pattern text exactly if it finds no skin. -/
theorem classify_of_unlettered_eq_text_iff (h : IsUnlettered word) :
    classify library word = .text ↔ library.find? word = none := by
  rw [classify_of_unlettered h]
  rcases library.find? word with - | named <;> simp

/-- A word without a letter has no shape that it could be rejected for. -/
theorem rejection?_of_unlettered (h : IsUnlettered word) : rejection? library word = none := by
  refine List.findSome?_eq_none_iff.2 fun modifier _ ↦ ?_
  cases modifier with
  | snap => simp [Modifier.complaint?, snapOf_of_unlettered h]
  | zoom => simp [Modifier.complaint?, zoomOf_of_unlettered h]
  | keymode => simp [Modifier.complaint?, keymodeOf_of_unlettered h]
  | skin | scroll => rfl

/-- The draft with a skin that is asked for, or else with the word as pattern text. -/
def Draft.takeNamed (draft : Draft) (word : String) : Option NamedSkin → Draft
  | some named => { draft with request := { draft.request with skin := some named } }
  | none => { draft with text := draft.text ++ word }

/-- A word without a letter has no shape in which it could have too many digits. -/
theorem isOverlong_of_unlettered (h : IsUnlettered word) (library : Library) :
    isOverlong library word = false := by
  refine Bool.eq_false_iff.2 fun hlong ↦ ?_
  rcases isOverlong_iff.1 hlong with hsnap | ⟨-, hkeymode⟩
  · rw [snapOf_of_unlettered h] at hsnap
    cases hsnap
  · rw [keymodeOf_of_unlettered h] at hkeymode
    cases hkeymode

/-- **Taken in**, it asks for the skin it finds, or is put to the text. -/
theorem Draft.take_of_unlettered (h : IsUnlettered word) (library : Library) (draft : Draft) :
    draft.take library word = .ok (draft.takeNamed word (library.find? word)) := by
  have hread : ¬isOverlong library word := by simp [isOverlong_of_unlettered h]
  rw [take_eq, if_neg hread, taken, warn, rejection?_of_unlettered h, classify_of_unlettered h]
  simp only [Option.toList_none, List.append_nil]
  rcases library.find? word with - | named <;> rfl

/-! ### All words -/

theorem textOf_append (library : Library) (before after : List String) :
    textOf library (before ++ after) = textOf library before ++ textOf library after := by
  rw [textOf, List.filter_append, String.join_append, textOf, textOf]

namespace Request

/-- What a command comes to with a word that draws no warning: the word is in the pattern text if
it finds no skin, and is gone from it otherwise. -/
structure TakesQuietly (library : Library) (before : List String) (word : String)
    (after : List String) (request : Request) : Prop where
  text : String.join (request.segments.map (·.text)) =
    textOf library before ++ (if library.find? word = none then word else "") ++
      textOf library after
  warnings : request.warnings =
    before.filterMap (rejection? library) ++ after.filterMap (rejection? library)

/-- The word takes no part in what may keep a command from being read. -/
theorem ends_ofText_takesQuietly (h : IsUnlettered word) (library : Library) (defaultSnap : Int)
    (defaultZoom : Binary64) (defaultScroll : Scroll) {text : String} {before after : List String}
    (htext : wordsOf text = before ++ word :: after) :
    Ends (TakesQuietly library before word after) (digitFault? library (before ++ after))
      (ofText library defaultSnap defaultZoom defaultScroll text) := by
  have hends := ends_ofText_madeOf library defaultSnap defaultZoom defaultScroll text
  rw [htext, digitFault?_insert _ _ (isOverlong_of_unlettered h library)] at hends
  refine hends.imp fun request hmade ↦ ⟨?_, ?_⟩
  · rw [hmade.text, textOf_append, textOf_cons, String.append_assoc]
    simp only [classify_of_unlettered_eq_text_iff h]
  · rw [hmade.warnings, List.filterMap_append,
      List.filterMap_cons_none (rejection?_of_unlettered h)]

end Request

/-- **A word without a letter is pattern text if no skin has a name of that kind**, in a library
that is filled in any way and in one that is loaded from valid settings. It is put to the text then,
wherever it stands in a command. Otherwise the skin is taken instead of it, without a warning. Only
other words can keep the command from being read. -/
theorem unlettered_text_iff (h : IsUnlettered word) :
    (∀ additions : List Addition, (Library.ofAdditions additions).find? word = none ↔
      ∀ addition ∈ additions, AllLettered (addition.name :: addition.aliases)) ∧
    (∀ (host : Host) (assets : Skin.Assets) (config : Config) (directory : Path),
      config.Validated → host.assetsDirectory config.assetsDirectory = .ok directory →
        ∃ loaded, Run.loadLibrary host assets config = .ok loaded ∧
          (loaded.library.find? word = none ↔
            ∀ entry ∈ config.skins, (Library.addition? assets directory entry).isSome →
              AllLettered (entry.name :: entry.aliases))) ∧
    (∀ (library : Library) (draft : Draft),
      draft.take library word = .ok (draft.takeNamed word (library.find? word))) ∧
    ∀ (library : Library) (defaultSnap : Int) (defaultZoom : Binary64) (defaultScroll : Scroll)
      (text : String) (before after : List String), wordsOf text = before ++ word :: after →
        Ends (Request.TakesQuietly library before word after)
          (digitFault? library (before ++ after))
          (Request.ofText library defaultSnap defaultZoom defaultScroll text) := by
  refine ⟨Library.find?_ofAdditions_unlettered h, ?_, Draft.take_of_unlettered h, ?_⟩
  · intro host assets config directory hvalid hdirectory
    exact Run.exists_loadLibrary_unlettered h hvalid hdirectory assets
  · intro library defaultSnap defaultZoom defaultScroll text before after htext
    exact Request.ends_ofText_takesQuietly h library defaultSnap defaultZoom defaultScroll htext

theorem assetsDirectory_bareHost : Run.bareHost.assetsDirectory none =
    .ok ⟨"/", ["program", "assets", "noteskin"]⟩ := by
  decide +kernel

/-- The stock settings leave an empty row to the pattern, also on a host without any pictures. -/
theorem unlettered_text_iff_stockSkins :
    IsUnlettered "[]" ∧ Config.Validated {} ∧
    wordsOf "1 [] 2" = ["1"] ++ "[]" :: ["2"] ∧
    ∃ loaded, Run.loadLibrary Run.bareHost ⟨fun _ ↦ none⟩ {} = .ok loaded ∧
      loaded.library.find? "[]" = none ∧
      ∃ request, Request.ofText loaded.library 16 (.ofInt 1) .up "1 [] 2" = .ok request ∧
        request.TakesQuietly loaded.library ["1"] "[]" ["2"] := by
  have hword : IsUnlettered "[]" := by decide +kernel
  have hvalid : Config.Validated {} := ⟨[], rfl⟩
  have hwords : wordsOf "1 [] 2" = ["1"] ++ "[]" :: ["2"] := by decide +kernel
  have hlettered : ∀ entry ∈ Config.stockSkins, ∀ name ∈ entry.name :: entry.aliases,
      ¬IsUnlettered name := by decide +kernel
  obtain ⟨-, hload, -, hquiet⟩ := unlettered_text_iff hword
  obtain ⟨loaded, hloaded, hnone⟩ :=
    hload Run.bareHost ⟨fun _ ↦ none⟩ {} _ hvalid assetsDirectory_bareHost
  have hfind := hnone.2 fun entry hentry _ ↦ hlettered entry hentry
  have hread : digitFault? loaded.library (["1"] ++ ["2"]) = none :=
    digitFault?_eq_none (by decide +kernel)
  obtain ⟨request, hrequest, hok⟩ :=
    (hquiet loaded.library 16 (.ofInt 1) .up _ _ _ hwords).exists_ok hread
  exact ⟨hword, hvalid, hwords, loaded, hloaded, hfind, request, hok, hrequest⟩

/-- An entry with a name without a letter, for a family that is not cut from sheets. -/
def dashed : Config.SkinEntry where
  name := "---"
  family := .ldurMono
  resolution := 16
  files := Family.ldurMono.roles.map fun role ↦ (role.name, role.name ++ ".png")

/-- **A row that is taken for a skin.** The settings are valid, and the name of the only skin is
without a letter. The word `[]` finds it, and the row is not in the pattern. -/
theorem exists_unlettered_not_text :
    Config.Validated { skins := [dashed] } ∧ IsUnlettered "[]" ∧
    ∃ loaded, Run.loadLibrary Run.bareHost ⟨fun _ ↦ none⟩ { skins := [dashed] } = .ok loaded ∧
      (loaded.library.find? "[]").map (·.name) = some "---" ∧
      (Request.ofText loaded.library 16 (.ofInt 1) .up "1 [] 2").map (·.segments) =
        .ok [⟨"12", .sixteenths⟩] := by
  have hvalid : Config.Validated { skins := [dashed] } :=
    ⟨[("noteskins", .array [.object dashed.members])], rfl⟩
  have hsound entry (hentry : entry ∈ ({ skins := [dashed] } : Config).skins) :=
    (hvalid.skins entry hentry).sound
  obtain ⟨loaded, hloaded, hload⟩ :=
    Run.loadLibrary_of_sound assetsDirectory_bareHost hsound ⟨fun _ ↦ none⟩
  have hlibrary := (Library.leavesOutBroken_of_load _ _ hsound hload).library_eq
  refine ⟨hvalid, by decide +kernel, loaded, hloaded, ?_, ?_⟩
  · rw [hlibrary]
    decide +kernel
  · rw [hlibrary]
    decide +kernel

end Command

end NoteChart
