import Mathlib.Data.List.Induction
import Mathlib.Tactic.Common
import NoteChart.Library

/-!
# What a library has on record

Skins are entered one after another, under any names, and a name may come up again. A library keeps
two listings of them, one from names to skins and one from keys to names, and answers from both
together.

The two stay in step because a key leads to a *name*, and a name that was entered stays. So what a
library answers is told by its history alone, and in it by the last additions: the last one of a
name says which skin the name stands for, the last one with a key says which name the key stands
for. One addition more changes each of these answers in one place (`names_enter`, `get?_enter`,
`get?_index_enter`), and `records_ofAdditions` is the induction on the history.
-/

namespace NoteChart

/-- What is found under a name was entered under it. -/
theorem Listing.mem_of_get? {α : Type} {name : String} {value : α} {listing : Listing α}
    (h : listing.get? name = some value) : (name, value) ∈ listing := by
  induction listing with
  | nil => cases h
  | cons entry rest ih =>
    obtain ⟨key, first⟩ := entry
    rw [get?] at h
    split at h
    · rename_i hkey
      cases h
      exact hkey ▸ List.mem_cons_self
    · exact List.mem_cons_of_mem _ (ih h)

/-- One more at the end counts only if it was not there before. -/
theorem List.eraseDups_concat {α : Type} [DecidableEq α] (list : List α) (last : α) :
    (list ++ [last]).eraseDups =
      if last ∈ list then list.eraseDups else list.eraseDups ++ [last] := by
  rw [List.eraseDups_append, List.removeAll, List.filter_cons]
  by_cases h : last ∈ list <;> simp [h, List.eraseDups_cons]

/-- A skin that is entered into a library, and the names it is to be found by. -/
structure Addition where
  name : String
  skin : Skin
  aliases : List String := []

/-- The addition lets its name be found by a key. -/
def Addition.hasKey (key : String) (addition : Addition) : Bool :=
  (addition.name :: addition.aliases).any (lookupKey · == key)

/-- The last addition that passes a test, if any does. -/
def lastAddition? (test : Addition → Bool) (additions : List Addition) : Option Addition :=
  (additions.filter test).getLast?

section Last

variable {test : Addition → Bool} {additions : List Addition} {addition : Addition}

/-- The last addition that passes a test is the newest one, if that passes. -/
theorem lastAddition?_concat (test : Addition → Bool) (additions : List Addition)
    (addition : Addition) :
    lastAddition? test (additions ++ [addition]) =
      if test addition then some addition else lastAddition? test additions := by
  rw [lastAddition?, lastAddition?, List.filter_append, List.getLast?_append]
  by_cases h : test addition <;> simp [h]

theorem lastAddition?_eq_none_iff :
    lastAddition? test additions = none ↔ ∀ addition ∈ additions, ¬test addition := by
  rw [lastAddition?, List.getLast?_eq_none_iff, List.filter_eq_nil_iff]

theorem mem_of_lastAddition? (h : lastAddition? test additions = some addition) :
    addition ∈ additions ∧ test addition :=
  List.mem_filter.1 (List.mem_of_getLast? h)

end Last

namespace Library

/-- The library has the skin under its name. -/
def Has (library : Library) (named : NamedSkin) : Prop := (named.name, named.skin) ∈ library.skins

theorem has_of_get? {library : Library} {name : String} {named : NamedSkin}
    (h : library.get? name = some named) : library.Has named := by
  obtain ⟨skin, hskin, rfl⟩ := Option.map_eq_some_iff.1 h
  exact Listing.mem_of_get? hskin

theorem has_of_find? {library : Library} {name : String} {named : NamedSkin}
    (h : library.find? name = some named) : library.Has named := by
  obtain ⟨known, -, hknown⟩ := Option.bind_eq_some_iff.1 h
  exact has_of_get? hknown

/-! ### One addition more -/

/-- The library with one addition more. -/
def enter (library : Library) (addition : Addition) : Library :=
  library.add addition.name addition.skin addition.aliases

/-- An addition is named at the end, unless the name was there before. -/
theorem names_enter (library : Library) (addition : Addition) :
    (library.enter addition).names =
      if addition.name ∈ library.names then library.names
      else library.names ++ [addition.name] :=
  Listing.names_put _ _ _

/-- An addition is found by its name, and hides what had that name. -/
theorem get?_enter (library : Library) (addition : Addition) (name : String) :
    (library.enter addition).get? name =
      if addition.name = name then some ⟨name, addition.skin⟩ else library.get? name := by
  show (Listing.get? name (library.skins.put _ _)).map _ = _
  rw [Listing.get?_put]
  split <;> rfl

/-- All keys of an addition are led to its name, one after the other. -/
theorem get?_foldl_put (name key : String) (known : List String) (index : Listing String) :
    Listing.get? key (known.foldl (fun index word ↦ index.put (lookupKey word) name) index) =
      if known.any (lookupKey · == key) then some name else Listing.get? key index := by
  induction known generalizing index with
  | nil => rfl
  | cons word rest ih =>
    rw [List.foldl_cons, ih, Listing.get?_put, List.any_cons]
    by_cases hword : lookupKey word = key <;> simp [hword]

theorem get?_index_enter (library : Library) (addition : Addition) (key : String) :
    Listing.get? key (library.enter addition).index =
      if addition.hasKey key then some addition.name else Listing.get? key library.index :=
  get?_foldl_put _ _ _ _

/-! ### The whole history -/

/-- The library that is filled by additions, in their order. -/
def ofAdditions (additions : List Addition) : Library := additions.foldl enter {}

theorem ofAdditions_concat (additions : List Addition) (addition : Addition) :
    ofAdditions (additions ++ [addition]) = (ofAdditions additions).enter addition := by
  rw [ofAdditions, List.foldl_append]
  rfl

/-- Every name is there once, in the order of first additions. -/
theorem names_ofAdditions (additions : List Addition) :
    (ofAdditions additions).names = (additions.map (·.name)).eraseDups := by
  induction additions using List.reverseRecOn with
  | nil => rfl
  | append_singleton before addition ih =>
    rw [ofAdditions_concat, names_enter, ih, List.map_append, List.map_singleton,
      List.eraseDups_concat]
    simp only [List.mem_eraseDups]

/-- By a name the last addition of that name is found. -/
theorem get?_ofAdditions (additions : List Addition) (name : String) :
    (ofAdditions additions).get? name =
      (lastAddition? (·.name == name) additions).map fun addition ↦ ⟨name, addition.skin⟩ := by
  induction additions using List.reverseRecOn with
  | nil => rfl
  | append_singleton before addition ih =>
    rw [ofAdditions_concat, get?_enter, ih, lastAddition?_concat]
    by_cases hname : addition.name = name <;> simp [hname]

theorem get?_index_ofAdditions (additions : List Addition) (key : String) :
    Listing.get? key (ofAdditions additions).index =
      (lastAddition? (·.hasKey key) additions).map (·.name) := by
  induction additions using List.reverseRecOn with
  | nil => rfl
  | append_singleton before addition ih =>
    rw [ofAdditions_concat, get?_index_enter, ih, lastAddition?_concat]
    split <;> rfl

/-- A name stands for no skin only if it was never entered. -/
theorem get?_ofAdditions_eq_none_iff {additions : List Addition} {name : String} :
    (ofAdditions additions).get? name = none ↔ ∀ addition ∈ additions, addition.name ≠ name := by
  rw [get?_ofAdditions, Option.map_eq_none_iff, lastAddition?_eq_none_iff]
  simp only [beq_iff_eq, ne_eq]

/-- A name that was entered stands for a skin, the one it was last entered with. -/
theorem exists_get?_ofAdditions {additions : List Addition} {addition : Addition}
    (h : addition ∈ additions) :
    ∃ last, lastAddition? (·.name == addition.name) additions = some last ∧
      (ofAdditions additions).get? addition.name = some ⟨addition.name, last.skin⟩ := by
  rcases hlast : lastAddition? (·.name == addition.name) additions with - | last
  · exact absurd (beq_self_eq_true _) (lastAddition?_eq_none_iff.1 hlast addition h)
  · refine ⟨last, rfl, ?_⟩
    rw [get?_ofAdditions, hlast]
    rfl

/-- By a word that name is looked up which the last addition with its key has, as it stands by
then. -/
theorem find?_ofAdditions (additions : List Addition) (word : String) :
    (ofAdditions additions).find? word =
      (lastAddition? (·.hasKey (lookupKey word)) additions).bind fun known ↦
        (ofAdditions additions).get? known.name := by
  rw [find?, get?_index_ofAdditions, Option.bind_map]
  rfl

/-- What a library has on record of the additions it was filled by. -/
structure Records (additions : List Addition) (library : Library) : Prop where
  /-- The names are listed once each, in the order they were first entered. -/
  names : library.names = (additions.map (·.name)).eraseDups
  /-- A name stands for the skin of its last addition. -/
  get : ∀ name, library.get? name =
    (lastAddition? (·.name == name) additions).map fun last ↦ ⟨name, last.skin⟩
  get_none : ∀ name, library.get? name = none ↔ ∀ addition ∈ additions, addition.name ≠ name
  /-- A word finds the name of the last addition that has its key. -/
  find : ∀ word, library.find? word =
    (lastAddition? (·.hasKey (lookupKey word)) additions).bind fun known ↦
      library.get? known.name
  find_none : ∀ word, library.find? word = none ↔
    ∀ addition ∈ additions, ¬addition.hasKey (lookupKey word)
  /-- No key leads to a name without a skin. -/
  index_has : ∀ key name, Listing.get? key library.index = some name →
    ∃ named, library.get? name = some named
  /-- A word follows the name it stands for to the skin that was last entered under it. -/
  follows : ∀ word known last,
    lastAddition? (·.hasKey (lookupKey word)) additions = some known →
    lastAddition? (·.name == known.name) additions = some last →
    library.find? word = some ⟨known.name, last.skin⟩

/-- **A library is what its history says**, whatever was entered and in which order. -/
theorem records_ofAdditions (additions : List Addition) :
    Records additions (ofAdditions additions) where
  names := names_ofAdditions additions
  get := get?_ofAdditions additions
  get_none _ := get?_ofAdditions_eq_none_iff
  find := find?_ofAdditions additions
  find_none word := by
    rw [find?_ofAdditions, ← lastAddition?_eq_none_iff]
    rcases hknown : lastAddition? (·.hasKey (lookupKey word)) additions with - | known
    · simp
    -- the name that the word stands for was entered, so it stands for a skin
    · obtain ⟨last, -, hget⟩ := exists_get?_ofAdditions (mem_of_lastAddition? hknown).1
      simp [hget]
  index_has key name hindex := by
    rw [get?_index_ofAdditions] at hindex
    obtain ⟨known, hknown, rfl⟩ := Option.map_eq_some_iff.1 hindex
    obtain ⟨last, -, hget⟩ := exists_get?_ofAdditions (mem_of_lastAddition? hknown).1
    exact ⟨_, hget⟩
  follows word known last hknown hlast := by
    rw [find?_ofAdditions, hknown]
    show (ofAdditions additions).get? known.name = _
    rw [get?_ofAdditions, hlast]
    rfl

end Library

end NoteChart
