import Mathlib.Tactic.Common
import NoteChart.Command.Request
import NoteChart.Proofs.Command.Classes
import NoteChart.Proofs.Outcome

/-!
# Where the words of a command go

Each word of a command goes to one place, and its class says which. The words that are snaps cut the
command into stretches, and the pattern text of a stretch is a segment with the snap in front of it
(`segmentsOf`). Of the other sorts of modifiers the last word counts (`lastOf`), wherever it stands.

A draft is on its way to that. It has closed the segments in front of the last snap, and what is
still to come is what the remaining words come to, with the text on hand put in front of the first
stretch (`segments_foldl`). A segment is closed at the next snap or at the end, and an empty one at
neither; `pairing_cons` is that rule, and both places use it.
-/

namespace NoteChart.Command

variable {library : Library}

/-! ### What the words come to -/

namespace Meaning

/-- The snap that is meant, if one is. -/
def snap? : Meaning → Option SnapNumber
  | snap number => some number
  | _ => none

/-- The skin that is meant, if one is. -/
def skin? : Meaning → Option NamedSkin
  | skin named => some named
  | _ => none

/-- The zoom that is meant, if one is. -/
def zoom? : Meaning → Option Binary64
  | zoom factor => some factor
  | _ => none

/-- The direction that is meant, if one is. -/
def scroll? : Meaning → Option Scroll
  | scroll direction => some direction
  | _ => none

/-- The keymode that is meant, if one is. -/
def keymode? : Meaning → Option Nat
  | keymode lanes => some lanes
  | _ => none

theorem eq_snap_of_snap? {meaning : Meaning} {number : SnapNumber}
    (h : meaning.snap? = some number) : meaning = .snap number := by
  cases meaning <;> simp_all [snap?]

/-- A modifier that holds for all of the command. -/
def isAside : Meaning → Bool
  | skin _ | zoom _ | scroll _ | keymode _ => true
  | snap _ | text => false

end Meaning

/-- The words of a text. -/
def wordsOf (text : String) : List String := (Text.words text.toList).map String.ofList

/-- The pattern text among words. -/
def textOf (library : Library) (words : List String) : String :=
  String.join (words.filter fun word ↦ classify library word = .text)

/-- The pattern texts in front of, between and behind the snaps. -/
def textsOf (library : Library) (words : List String) : List String :=
  (words.splitOnP fun word ↦ (classify library word).snap?.isSome).map (textOf library)

/-- The snaps among words. -/
def snapsOf (library : Library) (words : List String) : List SnapNumber :=
  words.filterMap fun word ↦ (classify library word).snap?

/-- Texts with their snaps, without the empty ones. -/
def pairing (texts : List String) (snaps : List SnapNumber) : List TextSegment :=
  (texts.zipWith TextSegment.mk snaps).filter fun segment ↦ segment.text ≠ ""

/-- The segments of words, if `start` is the snap in force in front of them. -/
def segmentsOf (library : Library) (start : SnapNumber) (words : List String) : List TextSegment :=
  pairing (textsOf library words) (start :: snapsOf library words)

/-- What the last of the words of one sort means. -/
def lastOf {α : Type} (library : Library) (sort : Meaning → Option α) (words : List String) :
    Option α :=
  (words.filterMap fun word ↦ sort (classify library word)).getLast?

/-! ### Segments -/

/-- **The rule of segments**: the first text is one with the first snap, unless it is empty. -/
theorem pairing_cons (text : String) (snap : SnapNumber) (texts : List String)
    (snaps : List SnapNumber) :
    pairing (text :: texts) (snap :: snaps) =
      (if text = "" then [] else [⟨text, snap⟩]) ++ pairing texts snaps := by
  simp only [pairing, List.zipWith_cons_cons, List.filter_cons]
  split <;> simp_all

theorem textsOf_nil : textsOf library [] = [""] := rfl

theorem textOf_cons (library : Library) (word : String) (words : List String) :
    textOf library (word :: words) =
      (if classify library word = .text then word else "") ++ textOf library words := by
  simp only [textOf, List.filter_cons]
  split <;> simp_all [String.join_cons]

/-- A snap begins a new text. -/
theorem textsOf_cons_snap {word : String} {snap : SnapNumber}
    (h : classify library word = .snap snap) (words : List String) :
    textsOf library (word :: words) = "" :: textsOf library words := by
  rw [textsOf, List.splitOnP_cons_eq_if_modifyHead, if_pos (by simp [h, Meaning.snap?])]
  rfl

/-- A word that is no snap belongs to the first stretch. -/
theorem textsOf_cons {word : String} (h : (classify library word).snap? = none)
    (words : List String) :
    textsOf library (word :: words) =
      (textsOf library words).modifyHead
        ((if classify library word = .text then word else "") ++ ·) := by
  rw [textsOf, List.splitOnP_cons_eq_if_modifyHead, if_neg (by simp [h]), textsOf]
  obtain ⟨first, rest, hsplit⟩ := List.exists_cons_of_ne_nil
    (List.splitOnP_ne_nil (fun word ↦ (classify library word).snap?.isSome) words)
  simp only [hsplit, List.modifyHead_cons, List.map_cons, textOf_cons]

theorem snapsOf_cons (library : Library) (word : String) (words : List String) :
    snapsOf library (word :: words) =
      (classify library word).snap?.toList ++ snapsOf library words := by
  rw [snapsOf, List.filterMap_cons_eq_toList_append, snapsOf]

theorem modifyHead_empty_append (texts : List String) : texts.modifyHead ("" ++ ·) = texts := by
  cases texts <;> simp

/-- There is one stretch more than there are snaps, so that each has a snap in front of it. -/
theorem length_textsOf (library : Library) (words : List String) :
    (textsOf library words).length = (snapsOf library words).length + 1 := by
  induction words with
  | nil => rfl
  | cons word rest ih =>
    rw [snapsOf_cons]
    rcases hsnap : (classify library word).snap? with - | snap
    · simp [textsOf_cons hsnap, ih]
    · simp [textsOf_cons_snap (Meaning.eq_snap_of_snap? hsnap), ih, Nat.add_comm]

/-- Stretch by stretch the pattern text is all there. -/
theorem join_textsOf (library : Library) (words : List String) :
    String.join (textsOf library words) = textOf library words := by
  induction words with
  | nil => rfl
  | cons word rest ih =>
    rw [textOf_cons, ← ih]
    rcases hsnap : (classify library word).snap? with - | snap
    · rw [textsOf_cons hsnap]
      obtain ⟨first, others, htexts⟩ := List.exists_cons_of_length_eq_add_one
        (length_textsOf library rest)
      simp only [htexts, List.modifyHead_cons, String.join_cons, String.append_assoc]
    · have hclass := Meaning.eq_snap_of_snap? hsnap
      rw [textsOf_cons_snap hclass, String.join_cons, if_neg (by simp [hclass])]

/-- The texts of segments are all texts, for those left out are empty. -/
theorem join_pairing {texts : List String} {snaps : List SnapNumber}
    (h : texts.length = snaps.length) :
    String.join ((pairing texts snaps).map (·.text)) = String.join texts := by
  induction texts generalizing snaps with
  | nil => rfl
  | cons text rest ih =>
    obtain ⟨snap, snaps, rfl⟩ := List.exists_cons_of_length_eq_add_one h.symm
    rw [pairing_cons, List.map_append, String.join_append, ih (Nat.succ.inj h), String.join_cons]
    split <;> simp_all [String.join_cons]

/-- **Nothing is lost.** The segments have the pattern text of all words, each of them once and in
their order. -/
theorem join_segmentsOf (library : Library) (start : SnapNumber) (words : List String) :
    String.join ((segmentsOf library start words).map (·.text)) = textOf library words := by
  rw [segmentsOf, join_pairing (by simp [length_textsOf]), join_textsOf]

/-! ### The last words -/

/-- The first word of a sort counts only if no other follows. -/
theorem lastOf_cons {α : Type} (library : Library) (sort : Meaning → Option α) (word : String)
    (words : List String) :
    lastOf library sort (word :: words) =
      (lastOf library sort words).or (sort (classify library word)) := by
  rw [lastOf, List.filterMap_cons_eq_toList_append, List.getLast?_append, lastOf]
  rcases sort (classify library word) with - | value <;> rfl

/-! ### Drafts -/

namespace Draft

/-- Finishing a draft changes nothing but its segments. -/
theorem finish_eq (draft : Draft) :
    draft.finish = { draft.request with segments := draft.finish.segments } := by
  rw [finish]
  split <;> rfl

/-- The draft with a word taken in, where the word does not have too many digits. -/
def taken (library : Library) (draft : Draft) (word : String) : Draft :=
  (draft.apply word (classify library word)).warn (rejection? library word).toList

/-- **A word** ends the command for its digits, or is taken in as its class. -/
theorem take_eq (library : Library) (draft : Draft) (word : String) :
    draft.take library word =
      if isOverlong library word then .error .tooManyDigits
      else .ok (draft.taken library word) := by
  rw [take, meaning_eq]
  split <;> rfl

/-- **All words are taken in**, one by one, unless one of them has too many digits; by induction on
them. -/
theorem ends_foldlM (library : Library) (draft : Draft) (words : List String) :
    Ends (· = words.foldl (taken library) draft) (digitFault? library words)
      (words.foldlM (take library) draft) := by
  induction words generalizing draft with
  | nil => exact .ok rfl
  | cons word rest ih =>
    rw [List.foldlM_cons, take_eq, digitFault?, List.any_cons]
    rcases isOverlong library word with - | -
    · exact ih (draft.taken library word)
    · exact .error _

/-- The segments that a draft comes to with the words that follow. -/
def ahead (library : Library) (draft : Draft) (words : List String) : List TextSegment :=
  draft.request.segments ++
    pairing ((textsOf library words).modifyHead (draft.text ++ ·))
      (draft.snap :: snapsOf library words)

theorem finish_segments (library : Library) (draft : Draft) :
    draft.finish.segments = draft.ahead library [] := by
  rw [finish, ahead, textsOf_nil, List.modifyHead_cons, String.append_empty, pairing_cons]
  split <;> simp [snapsOf, pairing]

/-- A snap closes the segment in front of it. -/
theorem ahead_taken_snap {word : String} {snap : SnapNumber}
    (h : classify library word = .snap snap) (draft : Draft) (rest : List String) :
    (draft.taken library word).ahead library rest = draft.ahead library (word :: rest) := by
  have htaken : (draft.taken library word).ahead library rest =
      draft.finish.segments ++ segmentsOf library snap rest := by
    simp only [taken, warn, h, apply, ahead, segmentsOf, modifyHead_empty_append]
  have hsnaps : snapsOf library (word :: rest) = snap :: snapsOf library rest := by
    rw [snapsOf_cons, h]
    rfl
  rw [htaken, finish_segments library, ahead, ahead, textsOf_cons_snap h, hsnaps, textsOf_nil,
    List.modifyHead_cons, List.modifyHead_cons, pairing_cons, pairing_cons, segmentsOf]
  simp [pairing]

/-- A word that is no snap closes no segment, and is put to the text on hand if it is text. -/
theorem taken_of_snap?_eq_none {word : String} (h : (classify library word).snap? = none)
    (draft : Draft) :
    (draft.taken library word).request.segments = draft.request.segments ∧
      (draft.taken library word).snap = draft.snap ∧
      (draft.taken library word).text =
        draft.text ++ if classify library word = .text then word else "" := by
  rw [taken]
  rcases hclass : classify library word <;> simp_all [apply, warn, Meaning.snap?]

/-- A word that is no snap is put in front of what is ahead. -/
theorem ahead_taken {word : String} (h : (classify library word).snap? = none) (draft : Draft)
    (rest : List String) :
    (draft.taken library word).ahead library rest = draft.ahead library (word :: rest) := by
  obtain ⟨hsegments, hsnap, htext⟩ := taken_of_snap?_eq_none h draft
  have hsnaps : snapsOf library (word :: rest) = snapsOf library rest := by
    rw [snapsOf_cons, h]
    rfl
  rw [ahead, ahead, hsegments, hsnap, htext, textsOf_cons h, hsnaps, List.modifyHead_modifyHead]
  simp only [Function.comp_def, String.append_assoc]

/-- **One word more.** What a draft comes to is the same before and after it has taken a word. -/
theorem ahead_taken_eq (draft : Draft) (word : String) (rest : List String) :
    (draft.taken library word).ahead library rest = draft.ahead library (word :: rest) := by
  rcases hsnap : (classify library word).snap? with - | snap
  · exact ahead_taken hsnap draft rest
  · exact ahead_taken_snap (Meaning.eq_snap_of_snap? hsnap) draft rest

/-- **All words**, by induction from one. -/
theorem segments_foldl (library : Library) (draft : Draft) (words : List String) :
    (words.foldl (Draft.taken library) draft).finish.segments = draft.ahead library words := by
  induction words generalizing draft with
  | nil => exact finish_segments library draft
  | cons word rest ih => rw [List.foldl_cons, ih, ahead_taken_eq]

/-- A word that is a modifier of the command as a whole might as well not be there. -/
theorem ahead_taken_aside {word : String} (h : (classify library word).isAside) (draft : Draft)
    (rest : List String) :
    (draft.taken library word).ahead library rest = draft.ahead library rest := by
  have hsnap : (classify library word).snap? = none := by
    rcases hclass : classify library word <;> simp_all [Meaning.isAside, Meaning.snap?]
  have htext : classify library word ≠ .text := by
    intro htext
    rw [htext] at h
    cases h
  obtain ⟨hsegments, hsnap, htaken⟩ := taken_of_snap?_eq_none hsnap draft
  rw [if_neg htext, String.append_empty] at htaken
  rw [ahead, ahead, hsegments, hsnap, htaken]

/-- What taking a word does to all fields of the request but the segments. -/
theorem request_taken (draft : Draft) (word : String) :
    (draft.taken library word).request =
      { segments := (draft.taken library word).request.segments
        skin := (classify library word).skin?.or draft.request.skin
        keymode := (classify library word).keymode?.or draft.request.keymode
        zoom := (classify library word).zoom?.getD draft.request.zoom
        scroll := (classify library word).scroll?.getD draft.request.scroll
        warnings := draft.request.warnings ++ (rejection? library word).toList } := by
  rw [taken]
  rcases classify library word
  case snap => rw [apply, finish_eq]; rfl
  all_goals rfl

/-- **The other fields behind all words**, by induction on these. -/
theorem request_foldl (library : Library) (draft : Draft) (words : List String) :
    (words.foldl (Draft.taken library) draft).request =
      { segments := (words.foldl (Draft.taken library) draft).request.segments
        skin := (lastOf library Meaning.skin? words).or draft.request.skin
        keymode := (lastOf library Meaning.keymode? words).or draft.request.keymode
        zoom := (lastOf library Meaning.zoom? words).getD draft.request.zoom
        scroll := (lastOf library Meaning.scroll? words).getD draft.request.scroll
        warnings := draft.request.warnings ++ words.filterMap (rejection? library) } := by
  induction words generalizing draft with
  | nil => simp [lastOf]
  | cons word rest ih =>
    rw [List.foldl_cons, ih, request_taken]
    simp only [lastOf_cons, List.filterMap_cons_eq_toList_append, Option.or_assoc, Option.getD_or,
      List.append_assoc]

/-- **All fields behind all words.** -/
theorem finish_foldl (library : Library) (draft : Draft) (words : List String) :
    (words.foldl (Draft.taken library) draft).finish =
      { segments := draft.ahead library words
        skin := (lastOf library Meaning.skin? words).or draft.request.skin
        keymode := (lastOf library Meaning.keymode? words).or draft.request.keymode
        zoom := (lastOf library Meaning.zoom? words).getD draft.request.zoom
        scroll := (lastOf library Meaning.scroll? words).getD draft.request.scroll
        warnings := draft.request.warnings ++ words.filterMap (rejection? library) } := by
  rw [finish_eq, segments_foldl, request_foldl]

end Draft

/-! ### Too many digits -/

/-- Where there is no blank, nothing is taken apart. -/
theorem pieces_of_forall_not_isBlank {text : List Char}
    (h : ∀ c ∈ text, Text.isBlank c = false) : Text.pieces text = [text] := by
  induction text with
  | nil => rfl
  | cons c rest ih =>
    have hrest := ih fun d hd ↦ h d (List.mem_cons_of_mem c hd)
    simp [Text.pieces, h c List.mem_cons_self, hrest]

/-- A text without a blank is one word. -/
theorem words_of_forall_not_isBlank {text : List Char} (hne : text ≠ [])
    (h : ∀ c ∈ text, Text.isBlank c = false) : Text.words text = [text] := by
  simp [Text.words, pieces_of_forall_not_isBlank h, hne]

theorem mapM_digit?_replicate (count : Nat) :
    (List.replicate count '1').mapM Text.digit? = some (List.replicate count 1) := by
  have hdigit : Text.digit? '1' = some 1 := by decide
  induction count with
  | zero => rfl
  | succ count ih =>
    rw [List.replicate_succ, List.mapM_cons, hdigit, ih]
    rfl

/-- A run of ones consists of digits, however many. -/
theorem digits?_replicate (count : Nat) :
    Text.digits? (List.replicate (count + 1) '1') = some (List.replicate (count + 1) 1) :=
  mapM_digit?_replicate (count + 1)

/-- A keymode of as many ones. -/
def onesKeymode (count : Nat) : List Char := List.replicate count '1' ++ ['k']

/-- A keymode of ones is one word. -/
theorem wordsOf_onesKeymode (count : Nat) :
    wordsOf (String.ofList (onesKeymode count)) = [String.ofList (onesKeymode count)] := by
  have hblank : ∀ c ∈ onesKeymode count, Text.isBlank c = false := by
    intro c hc
    rcases List.mem_append.1 hc with hone | hlast
    · rw [List.eq_of_mem_replicate hone]
      rfl
    · rw [List.mem_singleton.1 hlast]
      rfl
  have hne : onesKeymode count ≠ [] := by simp [onesKeymode]
  rw [wordsOf, String.toList_ofList, words_of_forall_not_isBlank hne hblank]
  rfl

/-- With more ones than are read, the attempt at a keymode is overlong. -/
theorem keymodeOf_onesKeymode {count : Nat} (h : Text.digitLimit ≤ count) :
    keymodeOf (onesKeymode (count + 1)) = .overlong := by
  have hlimit : ¬count + 1 ≤ Text.digitLimit := by omega
  have hnumber : Text.number? (List.replicate (count + 1) 1) = none := by
    rw [Text.number?, List.length_replicate, if_neg hlimit]
  rw [keymodeOf, onesKeymode, List.getLast?_concat, if_pos (.inl rfl), List.dropLast_concat,
    digits?_replicate]
  simp only [hnumber]

/-- Without skins to be the name of, such a keymode ends the command. -/
theorem digitFault?_onesKeymode {count : Nat} (h : Text.digitLimit ≤ count) :
    digitFault? {} (wordsOf (String.ofList (onesKeymode (count + 1)))) = some .tooManyDigits := by
  have hlong : isOverlong {} (String.ofList (onesKeymode (count + 1))) := by
    refine isOverlong_iff.2 (.inr ⟨rfl, ?_⟩)
    rw [String.toList_ofList, keymodeOf_onesKeymode h]
  rw [wordsOf_onesKeymode, digitFault?, List.any_cons, hlong]
  rfl

/-! ### Requests -/

/-- The snap in front of all words: the default, unless that is below one. -/
def startSnap (defaultSnap : Int) : SnapNumber :=
  if h : 1 ≤ defaultSnap then ⟨defaultSnap.toNat, by omega⟩ else .sixteenths

theorem startSnap_eq (defaultSnap : Int) :
    startSnap defaultSnap = (SnapNumber.ofInt? defaultSnap).getD .sixteenths := by
  have hpos : 1 ≤ defaultSnap ↔ 0 < defaultSnap.toNat := by omega
  simp only [startSnap, SnapNumber.ofInt?, hpos]
  split <;> rfl

namespace Request

/-- Every field of a request is what the classes of the words make of it, and what holds by default
where no word says otherwise. -/
structure MadeOf (library : Library) (start : SnapNumber) (zoom : Binary64) (scroll : Scroll)
    (words : List String) (request : Request) : Prop where
  segments : request.segments = segmentsOf library start words
  /-- The words that are pattern text are all there, each of them once and in their order. -/
  text : String.join (request.segments.map (·.text)) = textOf library words
  skin : request.skin = lastOf library Meaning.skin? words
  keymode : request.keymode = lastOf library Meaning.keymode? words
  zoom : request.zoom = (lastOf library Meaning.zoom? words).getD zoom
  scroll : request.scroll = (lastOf library Meaning.scroll? words).getD scroll
  warnings : request.warnings = words.filterMap (rejection? library)

/-- The draft that the words of a command are taken into. -/
def start (defaultSnap : Int) (defaultZoom : Binary64) (defaultScroll : Scroll) : Draft where
  request := { zoom := defaultZoom, scroll := defaultScroll }
  snap := startSnap defaultSnap

variable (library : Library) (defaultSnap : Int) (defaultZoom : Binary64) (defaultScroll : Scroll)

/-- The draft behind the words of a command is finished, if none of them has too many digits. -/
theorem ends_ofText (text : String) :
    Ends (· = ((wordsOf text).foldl (Draft.taken library)
        (start defaultSnap defaultZoom defaultScroll)).finish)
      (digitFault? library (wordsOf text))
      (ofText library defaultSnap defaultZoom defaultScroll text) := by
  have hend := Draft.ends_foldlM library (start defaultSnap defaultZoom defaultScroll)
    (wordsOf text)
  rw [ofText, ← startSnap_eq]
  exact hend.map fun draft hdraft ↦ congrArg Draft.finish hdraft

/-- The words come to the request that is made of their classes, taken in one by one. -/
theorem madeOf_finish_foldl (words : List String) :
    MadeOf library (startSnap defaultSnap) defaultZoom defaultScroll words
      (words.foldl (Draft.taken library) (start defaultSnap defaultZoom defaultScroll)).finish := by
  have hrequest :
      (words.foldl (Draft.taken library) (start defaultSnap defaultZoom defaultScroll)).finish =
        { segments := segmentsOf library (startSnap defaultSnap) words
          skin := lastOf library Meaning.skin? words
          keymode := lastOf library Meaning.keymode? words
          zoom := (lastOf library Meaning.zoom? words).getD defaultZoom
          scroll := (lastOf library Meaning.scroll? words).getD defaultScroll
          warnings := words.filterMap (rejection? library) } := by
    rw [Draft.finish_foldl]
    simp only [start, Draft.ahead, modifyHead_empty_append, List.nil_append, Option.or_none,
      segmentsOf]
  rw [hrequest]
  exact ⟨rfl, join_segmentsOf library _ _, rfl, rfl, rfl, rfl, rfl⟩

/-- **A command** comes to what its words are classed as, or to no request for want of a number. -/
theorem ends_ofText_madeOf (text : String) :
    Ends (MadeOf library (startSnap defaultSnap) defaultZoom defaultScroll (wordsOf text))
      (digitFault? library (wordsOf text))
      (ofText library defaultSnap defaultZoom defaultScroll text) := by
  refine (ends_ofText library defaultSnap defaultZoom defaultScroll text).imp ?_
  rintro _ rfl
  exact madeOf_finish_foldl library defaultSnap defaultZoom defaultScroll (wordsOf text)

/-- Two commands that differ in a modifier of the command as a whole have the same segments. -/
theorem map_segments_ofText_insert {text longer modifier : String} {before after : List String}
    (htext : wordsOf text = before ++ after)
    (hlonger : wordsOf longer = before ++ modifier :: after)
    (haside : (classify library modifier).isAside) (hread : isOverlong library modifier = false) :
    (ofText library defaultSnap defaultZoom defaultScroll longer).map (·.segments) =
      (ofText library defaultSnap defaultZoom defaultScroll text).map (·.segments) := by
  have hshort := ends_ofText library defaultSnap defaultZoom defaultScroll text
  have hlong := ends_ofText library defaultSnap defaultZoom defaultScroll longer
  rw [htext] at hshort
  rw [hlonger, digitFault?_insert _ _ hread] at hlong
  refine (hlong.map ?_).unique (hshort.map fun request hrequest ↦ congrArg segments hrequest)
  rintro _ rfl
  rw [List.foldl_append, List.foldl_append, List.foldl_cons, Draft.segments_foldl,
    Draft.segments_foldl, Draft.ahead_taken_aside haside]

/-- **Every word goes where its class says.** The segments are the stretches of pattern text between
the snaps, each with the snap in front of it; of the other modifiers the last of each sort holds;
and each rejected word is warned of. So a modifier of the command as a whole leaves the segments
alone wherever it is put in, and a word that is rejected has the class that the later sorts give it:
it is pattern text if none of them takes it. All that stands against it is a word with more digits
than are read, for then there is no request. Such a word has the shape of a snap, or it has that of
a keymode and is the name of no skin. -/
theorem madeOf_ofText (text : String) :
    Ends (MadeOf library (startSnap defaultSnap) defaultZoom defaultScroll (wordsOf text))
      (digitFault? library (wordsOf text))
      (ofText library defaultSnap defaultZoom defaultScroll text) ∧
    (∀ (before after : List String) (modifier longer : String),
      wordsOf text = before ++ after → wordsOf longer = before ++ modifier :: after →
      (classify library modifier).isAside → isOverlong library modifier = false →
        (ofText library defaultSnap defaultZoom defaultScroll longer).map (·.segments) =
          (ofText library defaultSnap defaultZoom defaultScroll text).map (·.segments)) ∧
    (∀ (word : String) (warning : Warning), rejection? library word = some warning ↔
      ∃ modifier ∈ triedInVain library word, modifier.complaint? word = some warning ∧
        classify library word =
          (modifier.later.findSome? (·.meaning? library word)).getD .text) ∧
    ∀ word : String, isOverlong library word ↔ snapOf word.toList = .overlong ∨
      library.find? word = none ∧ keymodeOf word.toList = .overlong := by
  refine ⟨ends_ofText_madeOf library defaultSnap defaultZoom defaultScroll text, ?_, ?_, ?_⟩
  · intro before after modifier longer htext hlonger haside hread
    exact map_segments_ofText_insert library defaultSnap defaultZoom defaultScroll htext hlonger
      haside hread
  · intro word warning
    rw [rejection?_eq_some_iff]
    constructor
    · rintro ⟨modifier, hmem, hcomplaint⟩
      exact ⟨modifier, hmem, hcomplaint, classify_of_mem_triedInVain hmem⟩
    · rintro ⟨modifier, hmem, hcomplaint, -⟩
      exact ⟨modifier, hmem, hcomplaint⟩
  · exact fun word ↦ isOverlong_iff

/-- A zoom among the words of a segment, and behind it a word that is no keymode with a lane, and so
is left to the text. -/
theorem madeOf_ofText_zoom_inside :
    wordsOf "8ths 12 0k" = ["8ths", "12"] ++ ["0k"] ∧
    wordsOf "8ths 12 2x 0k" = ["8ths", "12"] ++ "2x" :: ["0k"] ∧
    (classify {} "2x").isAside ∧ isOverlong {} "2x" = false ∧
    (ofText {} 0 (.ofInt 1) .up "8ths 12 2x 0k").map (·.segments) =
      .ok [⟨"120k", .ofSnap .eighth⟩] ∧
    rejection? {} "0k" = some (.badKeymode "0k") ∧
    ∃ modifier ∈ triedInVain {} "0k", modifier.complaint? "0k" = some (.badKeymode "0k") ∧
      classify {} "0k" = (modifier.later.findSome? (·.meaning? {} "0k")).getD .text := by
  have htext : wordsOf "8ths 12 0k" = ["8ths", "12"] ++ ["0k"] := by decide +kernel
  have hlonger : wordsOf "8ths 12 2x 0k" = ["8ths", "12"] ++ "2x" :: ["0k"] := by decide +kernel
  have haside : (classify {} "2x").isAside := by decide +kernel
  have hread : isOverlong {} "2x" = false := by decide +kernel
  have hrejected : rejection? {} "0k" = some (.badKeymode "0k") := by decide +kernel
  have hfault : digitFault? {} (wordsOf "8ths 12 0k") = none := by decide +kernel
  have hsegments : segmentsOf {} (startSnap 0) (wordsOf "8ths 12 0k") =
      [⟨"120k", .ofSnap .eighth⟩] := by decide +kernel
  obtain ⟨hmade, hinsert, hreject, -⟩ := madeOf_ofText {} 0 (.ofInt 1) .up "8ths 12 0k"
  obtain ⟨request, hrequest, hok⟩ := hmade.exists_ok hfault
  refine ⟨htext, hlonger, haside, hread, ?_, hrejected, (hreject _ _).1 hrejected⟩
  rw [hinsert _ _ _ _ htext hlonger haside hread, hok, ← hsegments, ← hrequest.segments]
  rfl

/-- **A keymode that is not read.** It is all that the command says, and there is no request,
although its number is above zero. -/
theorem exists_ofText_not_made :
    ofText {} 16 (.ofInt 1) .up (String.ofList (onesKeymode 4301)) = .error .tooManyDigits ∧
    ¬ ∀ (library : Library) (defaultSnap : Int) (defaultZoom : Binary64) (defaultScroll : Scroll)
      (text : String), ∃ request,
        ofText library defaultSnap defaultZoom defaultScroll text = .ok request ∧
          MadeOf library (startSnap defaultSnap) defaultZoom defaultScroll (wordsOf text)
            request := by
  have herror : ofText {} 16 (.ofInt 1) .up (String.ofList (onesKeymode 4301)) =
      .error .tooManyDigits :=
    (ends_ofText {} 16 (.ofInt 1) .up _).error_iff.2 (digitFault?_onesKeymode (Nat.le_refl 4300))
  refine ⟨herror, fun hmade ↦ ?_⟩
  obtain ⟨request, hok, -⟩ := hmade {} 16 (.ofInt 1) .up (String.ofList (onesKeymode 4301))
  rw [herror] at hok
  cases hok

end Request

end NoteChart.Command
