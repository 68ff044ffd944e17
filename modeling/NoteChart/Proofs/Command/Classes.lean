import Mathlib.Tactic.Common
import NoteChart.Command.Words

/-!
# The classes of words

A word is tried as a modifier of one sort after the other, and as soon as a value comes out of it,
that is its meaning. `Modifier` names the sorts, and what a word means by each of them does not hang
on the others: `classify` is the first meaning that there is, and the words without one are pattern
text. `meaning` settles it in one pass and comes to the same (`meaning_eq`), unless a sort that is
tried finds more digits in the word than are read. Two sorts can do that, and `isOverlong_iff` says
when they do.

The warnings are apart from that. A word is rejected as a modifier if it is tried as one, has the
shape, and its value cannot be used. The shapes that can be rejected show in the last character of a
word, an ordinal's in one of `t`, `s`, `d` and `h`. So they exclude each other
(`pairwise_complaint?`), and a word draws one warning or none.
-/

/-- The value of the first member stands in front, if it has one. -/
theorem List.filterMap_cons_eq_toList_append {α β : Type} (f : α → Option β) (first : α)
    (rest : List α) : (first :: rest).filterMap f = (f first).toList ++ rest.filterMap f := by
  rw [filterMap_cons]
  rcases f first with - | value <;> rfl

/-- If no two members of a list have a value, then those that have one are the first that has. -/
theorem List.filterMap_eq_toList_findSome? {α β : Type} {f : α → Option β} {list : List α}
    (h : list.Pairwise fun a b ↦ f a = none ∨ f b = none) :
    list.filterMap f = (list.findSome? f).toList := by
  induction h with
  | nil => rfl
  | @cons first rest hfirst _ ih =>
    rw [findSome?_cons]
    rcases hvalue : f first with - | value
    · rw [filterMap_cons_none hvalue, ih]
    · have hrest : rest.filterMap f = [] := by
        refine filterMap_eq_nil_iff.2 fun member hmember ↦ (hfirst member hmember).resolve_left ?_
        simp [hvalue]
      rw [filterMap_cons_some hvalue, hrest]
      rfl

namespace NoteChart

namespace Text

/-- A text in lower case ends in the lower case of its last character, unless that is one of the two
capitals with a rule of their own. -/
theorem exists_lowerAfter_concat (before text : List Char) {last : Char} (hsigma : last ≠ 'Σ')
    (hdotted : last ≠ 'İ') :
    ∃ front, lowerAfter before (text ++ [last]) = front ++ [lowerChar last] := by
  induction text generalizing before with
  | nil => exact ⟨[], by simp [lowerAfter, hsigma, hdotted]⟩
  | cons c rest ih =>
    obtain ⟨front, hfront⟩ := ih (c :: before)
    simp only [List.cons_append, lowerAfter, hfront, ← List.append_assoc]
    exact ⟨_, rfl⟩

/-- The last character of a text in lower case is known from that of the text. -/
theorem getLast?_lower {text : List Char} {last : Char} (hlast : text.getLast? = some last)
    (hsigma : last ≠ 'Σ') (hdotted : last ≠ 'İ') :
    (lower text).getLast? = some (lowerChar last) := by
  obtain ⟨init, rfl⟩ := List.getLast?_eq_some_iff.1 hlast
  obtain ⟨front, hfront⟩ := exists_lowerAfter_concat [] init hsigma hdotted
  rw [lower, hfront, List.getLast?_concat]

end Text

namespace Command

/-! ### Meanings -/

/-- The sorts of modifiers. -/
inductive Modifier
  | snap
  | skin
  | zoom
  | scroll
  | keymode
deriving DecidableEq

/-- The value of an attempt, if it can be used. -/
def Attempt.value? {α : Type} : Attempt α → Option α
  | meant value => some value
  | otherwise | unusable | overlong => none

/-- An attempt at a number with more digits than are read. -/
def Attempt.isOverlong {α : Type} : Attempt α → Bool
  | overlong => true
  | otherwise | unusable | meant _ => false

@[simp] theorem Attempt.isOverlong_iff {α : Type} {attempt : Attempt α} :
    attempt.isOverlong ↔ attempt = .overlong := by
  cases attempt <;> simp [isOverlong]

namespace Modifier

/-- The sorts, in the order in which a word is tried as one of them. -/
def all : List Modifier := [snap, skin, zoom, scroll, keymode]

/-- The sorts that a word is tried as behind this one. -/
def later : Modifier → List Modifier
  | snap => [skin, zoom, scroll, keymode]
  | skin => [zoom, scroll, keymode]
  | zoom => [scroll, keymode]
  | scroll => [keymode]
  | keymode => []

/-- What a word means as a modifier of the sort, whatever else it may mean. -/
def meaning? (library : Library) (word : String) : Modifier → Option Meaning
  | snap => (snapOf word.toList).value?.map .snap
  | skin => (library.find? word).map .skin
  | zoom => (zoomOf word.toList).value?.map .zoom
  | scroll => (scrollOf? word.toList).map .scroll
  | keymode => (keymodeOf word.toList).value?.map .keymode

/-- The warning about a word with the shape of the sort and a value that cannot be used. -/
def complaint? (word : String) : Modifier → Option Warning
  | snap => if snapOf word.toList = .unusable then some (.badSnap word) else none
  | zoom => if zoomOf word.toList = .unusable then some (.badZoom word) else none
  | keymode => if keymodeOf word.toList = .unusable then some (.badKeymode word) else none
  | skin | scroll => none

/-- The word has the shape of the sort, and more digits than are read. -/
def isOverlong (word : String) : Modifier → Bool
  | snap => (snapOf word.toList).isOverlong
  | keymode => (keymodeOf word.toList).isOverlong
  | skin | zoom | scroll => false

/-- A number that is not read is no value. -/
theorem meaning?_of_isOverlong {word : String} {modifier : Modifier}
    (h : modifier.isOverlong word) (library : Library) : modifier.meaning? library word = none := by
  cases modifier <;> simp_all [isOverlong, meaning?, Attempt.value?]

end Modifier

/-- The class of a word: the first sort of modifier that it has a value of, or else text. -/
def classify (library : Library) (word : String) : Meaning :=
  (Modifier.all.findSome? (·.meaning? library word)).getD .text

/-- The sorts that a word is tried as without success. -/
def triedInVain (library : Library) (word : String) : List Modifier :=
  Modifier.all.takeWhile fun modifier ↦ (modifier.meaning? library word).isNone

/-- The warning that a word draws, if it is rejected as a modifier that it is tried as. -/
def rejection? (library : Library) (word : String) : Option Warning :=
  (triedInVain library word).findSome? (·.complaint? word)

/-- One of the sorts that the word is tried as finds more digits in it than are read. -/
def isOverlong (library : Library) (word : String) : Bool :=
  (triedInVain library word).any (·.isOverlong word)

/-- The fault that words end a command with. -/
def digitFault? (library : Library) (words : List String) : Option Fault :=
  if words.any (isOverlong library) then some .tooManyDigits else none

/-! ### Shapes -/

/-- A word that ends in none of the letters of the ordinals is no snap. -/
theorem snapOf_eq_otherwise {word : List Char} {last : Char} (hlast : word.getLast? = some last)
    (hsigma : last ≠ 'Σ') (hdotted : last ≠ 'İ')
    (hletter : Text.lowerChar last ∉ ['t', 's', 'd', 'h']) : snapOf word = .otherwise := by
  obtain ⟨init, rfl⟩ := List.getLast?_eq_some_iff.1 hlast
  obtain ⟨front, hfront⟩ := Text.exists_lowerAfter_concat [] init hsigma hdotted
  have hending : (ordinalEndings.find? fun ending ↦
      ending.toList.isSuffixOf (Text.lower (init ++ [last]))) = none := by
    refine List.find?_eq_none.2 fun ending hmem hsuffix ↦ ?_
    have hsuffix := List.isSuffixOf_iff_suffix.1 hsuffix
    rw [Text.lower, hfront, List.suffix_concat_iff] at hsuffix
    have hends : ∀ ending ∈ ordinalEndings,
        ending.toList.getLast? ∈ ['t', 's', 'd', 'h'].map some := by decide
    have hends := hends ending hmem
    rcases hsuffix with hnil | ⟨stem, hstem, -⟩
    · rw [hnil] at hends
      exact absurd hends (by decide)
    · rw [hstem, List.getLast?_concat] at hends
      obtain ⟨letter, hmember, ⟨⟩⟩ := List.mem_map.1 hends
      exact hletter hmember
  simp only [snapOf, hending]

/-- The shape of a zoom shows in its last letter. -/
theorem getLast?_of_zoomOf {word : List Char} (h : zoomOf word ≠ .otherwise) :
    word.getLast? = some 'x' := by
  by_contra hlast
  exact h (by rw [zoomOf, if_neg hlast])

theorem getLast?_of_keymodeOf {word : List Char} (h : keymodeOf word ≠ .otherwise) :
    word.getLast? = some 'k' ∨ word.getLast? = some 'K' := by
  by_contra hlast
  exact h (by rw [keymodeOf, if_neg hlast])

theorem snapOf_of_zoomOf {word : List Char} (h : zoomOf word ≠ .otherwise) :
    snapOf word = .otherwise :=
  snapOf_eq_otherwise (getLast?_of_zoomOf h) (by decide) (by decide) (by decide)

theorem snapOf_of_keymodeOf {word : List Char} (h : keymodeOf word ≠ .otherwise) :
    snapOf word = .otherwise := by
  rcases getLast?_of_keymodeOf h with hlast | hlast
  · exact snapOf_eq_otherwise hlast (by decide) (by decide) (by decide)
  · exact snapOf_eq_otherwise hlast (by decide) (by decide) (by decide)

theorem zoomOf_of_keymodeOf {word : List Char} (h : keymodeOf word ≠ .otherwise) :
    zoomOf word = .otherwise := by
  by_contra hzoom
  rcases getLast?_of_keymodeOf h with hlast | hlast <;>
    · rw [getLast?_of_zoomOf hzoom] at hlast
      exact absurd hlast (by decide)

/-- What has the shape of a keymode is no direction, for none of these ends in a `k`. -/
theorem scrollOf?_of_keymodeOf {word : List Char} (h : keymodeOf word ≠ .otherwise) :
    scrollOf? word = none := by
  have hlower : (Text.lower word).getLast? = some 'k' := by
    rcases getLast?_of_keymodeOf h with hlast | hlast
    · exact Text.getLast?_lower hlast (by decide) (by decide)
    · exact Text.getLast?_lower hlast (by decide) (by decide)
  have hne (direction : String) (hletter : direction.toList.getLast? ≠ some 'k') :
      String.ofList (Text.lower word) ≠ direction := by
    rintro rfl
    rw [String.toList_ofList] at hletter
    exact hletter hlower
  have hup := hne "up" (by decide)
  have hdown := hne "down" (by decide)
  have hreverse := hne "reverse" (by decide)
  simp only [scrollOf?, hup, hdown, hreverse, or_self, if_false]

theorem ne_unusable_or {α β : Type} {one : Attempt α} {other : Attempt β}
    (h : other ≠ .otherwise → one = .otherwise) : one ≠ .unusable ∨ other ≠ .unusable := by
  refine or_iff_not_imp_right.2 fun hother ↦ ?_
  rw [h (by simp [not_not.1 hother])]
  simp

/-- **A word has one shape at most** of those that it can be rejected for. -/
theorem pairwise_complaint? (word : String) :
    Modifier.all.Pairwise fun first second ↦
      first.complaint? word = none ∨ second.complaint? word = none := by
  have hzoom := ne_unusable_or (@snapOf_of_zoomOf word.toList)
  have hkeymode := ne_unusable_or (@snapOf_of_keymodeOf word.toList)
  have hboth := ne_unusable_or (@zoomOf_of_keymodeOf word.toList)
  simpa [Modifier.all, Modifier.complaint?] using And.intro ⟨hzoom, hkeymode⟩ hboth

/-- **A word has too many digits** as a snap, or as a keymode if it names no skin. What has the
shape of a keymode is neither a zoom nor a direction, and so these do not come in between. -/
theorem isOverlong_iff {library : Library} {word : String} :
    isOverlong library word ↔ snapOf word.toList = .overlong ∨
      library.find? word = none ∧ keymodeOf word.toList = .overlong := by
  rw [isOverlong, List.any_eq_true]
  constructor
  · rintro ⟨modifier, hmem, hlong⟩
    cases modifier with
    | snap => exact .inl (Attempt.isOverlong_iff.1 hlong)
    | keymode =>
      have hskin : Modifier.skin.meaning? library word = none := by
        simp_all [triedInVain, Modifier.all, List.takeWhile_cons]
      exact .inr ⟨Option.map_eq_none_iff.1 hskin, Attempt.isOverlong_iff.1 hlong⟩
    | skin | zoom | scroll => cases hlong
  · rintro (hsnap | ⟨hfind, hkeymode⟩)
    · refine ⟨.snap, ?_, Attempt.isOverlong_iff.2 hsnap⟩
      simp [triedInVain, Modifier.all, Modifier.meaning?, hsnap, Attempt.value?]
    · have hshape : keymodeOf word.toList ≠ .otherwise := by simp [hkeymode]
      refine ⟨.keymode, ?_, Attempt.isOverlong_iff.2 hkeymode⟩
      simp [triedInVain, Modifier.all, Modifier.meaning?, hfind, hkeymode, Attempt.value?,
        snapOf_of_keymodeOf hshape, zoomOf_of_keymodeOf hshape, scrollOf?_of_keymodeOf hshape]

/-- Words that have too many digits neither as snaps nor as keymodes are read with any library. -/
theorem digitFault?_eq_none {library : Library} {words : List String}
    (h : ∀ word ∈ words, snapOf word.toList ≠ .overlong ∧ keymodeOf word.toList ≠ .overlong) :
    digitFault? library words = none := by
  refine if_neg fun hany ↦ ?_
  obtain ⟨word, hmem, hlong⟩ := List.any_eq_true.1 hany
  obtain ⟨hsnap, hkeymode⟩ := h word hmem
  rcases isOverlong_iff.1 hlong with hoverlong | ⟨-, hoverlong⟩
  · exact hsnap hoverlong
  · exact hkeymode hoverlong

/-- A word that does not have too many digits makes no difference to whether words are read. -/
theorem digitFault?_insert {library : Library} {word : String} (before after : List String)
    (h : isOverlong library word = false) :
    digitFault? library (before ++ word :: after) = digitFault? library (before ++ after) := by
  simp only [digitFault?, List.any_append, List.any_cons, h, Bool.false_or]

/-! ### One pass -/

/-- Tries a word as one sort of modifier after the other, up to the first that there is a meaning
of or that finds too many digits; with the complaints on the way there. -/
def settle (library : Library) (word : String) :
    List Modifier → Except Fault (Meaning × List Warning)
  | [] => .ok (.text, [])
  | modifier :: rest =>
    bif modifier.isOverlong word then .error .tooManyDigits
    else
      match modifier.meaning? library word with
      | some meaning => .ok (meaning, [])
      | none =>
        (settle library word rest).map fun (meaning, warnings) ↦
          (meaning, (modifier.complaint? word).toList ++ warnings)

/-- What is tried, by induction on it. -/
theorem settle_eq (library : Library) (word : String) (modifiers : List Modifier) :
    settle library word modifiers =
      let tried := modifiers.takeWhile fun modifier ↦ (modifier.meaning? library word).isNone
      if tried.any (·.isOverlong word) then .error .tooManyDigits
      else
        .ok ((modifiers.findSome? (·.meaning? library word)).getD .text,
          tried.filterMap (·.complaint? word)) := by
  induction modifiers with
  | nil => rfl
  | cons modifier rest ih =>
    rw [settle, List.findSome?_cons, List.takeWhile_cons]
    rcases hlong : modifier.isOverlong word with - | -
    · rcases modifier.meaning? library word with - | meaning
      · rw [ih]
        simp only [cond_false, Option.isNone_none, if_true, List.any_cons, hlong, Bool.false_or,
          List.filterMap_cons_eq_toList_append]
        split <;> rfl
      · rfl
    · simp [Modifier.meaning?_of_isOverlong hlong, hlong]

/-- The five sorts are tried one inside the other. -/
theorem meaning_eq_settle (library : Library) (word : String) :
    meaning library word = settle library word Modifier.all := by
  simp only [meaning, Modifier.all, settle, Modifier.isOverlong, Modifier.meaning?,
    Modifier.complaint?]
  rcases snapOf word.toList with - | - | - | number
  case meant => rfl
  case overlong => rfl
  all_goals
    rcases library.find? word with - | skin
    case some => rfl
    rcases zoomOf word.toList with - | - | - | factor
    case meant => rfl
    all_goals
      rcases scrollOf? word.toList with - | direction
      case some => rfl
      rcases keymodeOf word.toList with - | - | - | lanes <;> rfl

/-- A word draws no complaint but the first. -/
theorem filterMap_complaint?_eq (library : Library) (word : String) :
    (triedInVain library word).filterMap (·.complaint? word) =
      (rejection? library word).toList :=
  List.filterMap_eq_toList_findSome?
    ((pairwise_complaint? word).sublist (List.takeWhile_sublist _))

/-- **A word** is settled as its class, with its rejection as the only warning, unless it has too
many digits. -/
theorem meaning_eq (library : Library) (word : String) :
    meaning library word =
      if isOverlong library word then .error .tooManyDigits
      else .ok (classify library word, (rejection? library word).toList) := by
  rw [meaning_eq_settle, settle_eq, ← filterMap_complaint?_eq]
  rfl

/-- A word is rejected for the first complaint, and that is the only one. -/
theorem rejection?_eq_some_iff {library : Library} {word : String} {warning : Warning} :
    rejection? library word = some warning ↔
      ∃ modifier ∈ triedInVain library word, modifier.complaint? word = some warning := by
  rw [← Option.mem_toList, ← filterMap_complaint?_eq, List.mem_filterMap]

/-- A word that is tried in vain has the class that the later sorts give it. -/
theorem classify_of_mem_triedInVain {library : Library} {word : String} {modifier : Modifier}
    (h : modifier ∈ triedInVain library word) :
    classify library word =
      (modifier.later.findSome? (·.meaning? library word)).getD .text := by
  rw [classify]
  cases modifier <;> simp_all [triedInVain, Modifier.all, Modifier.later, List.takeWhile_cons]

end Command

end NoteChart
