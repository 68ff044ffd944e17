import NoteChart.Command.Answer
import NoteChart.Proofs.Command.Requests
import NoteChart.Proofs.Config.Validated
import NoteChart.Proofs.Layout.Overflow
import NoteChart.Proofs.Library.Default

/-!
# How a command is answered

Whoever writes a command expects a picture, the help text, or words that say what is wrong. With
valid settings and skins that were built, all that stands between a text and one of these is the
size of its numbers. From a request to its recipe every step refuses or gives a value (`RefusesOr`),
and a recipe keeps what its request promised: a lane, a zoom above zero, a skin of the library.
Behind the recipe the only fault that is no refusal is that of a chart whose numbers run out. In
front of the request there is one more, that of a word with too many digits to be read.

A text can bring the first about, since its zoom, its snaps and the lengths of its holds have no
limit but that on digits. The limits on the canvas come too late for it.
-/

namespace NoteChart.Command

/-! ### Refusals -/

/-- A step refuses, or its value has the property. -/
def RefusesOr {α : Type} (good : α → Prop) : Except Fault α → Prop
  | .error fault => fault.isRefusal
  | .ok value => good value

namespace RefusesOr

variable {α β : Type} {good : α → Prop} {better : β → Prop}

theorem iff_within {result : Except Fault α} :
    RefusesOr good result ↔ Within (fun fault ↦ fault.isRefusal) good result := by
  constructor
  · intro h
    rcases result with fault | value
    · exact .error h
    · exact .ok h
  · rintro (hfault | hvalue)
    · exact hfault
    · exact hvalue

theorem bind {result : Except Fault α} {next : α → Except Fault β} (h : RefusesOr good result)
    (hnext : ∀ value, good value → RefusesOr better (next value)) :
    RefusesOr better (result >>= next) :=
  iff_within.2 ((iff_within.1 h).bind fun value hvalue ↦ iff_within.1 (hnext value hvalue))

/-- Steps over a list, of whose values nothing is asked. -/
theorem mapM {step : α → Except Fault β} (h : ∀ member, RefusesOr (fun _ ↦ True) (step member))
    (list : List α) : RefusesOr (fun _ ↦ True) (list.mapM step) :=
  iff_within.2 ((Within.mapM fun member _ ↦ iff_within.1 (h member)).imp fun _ _ ↦ trivial)

end RefusesOr

/-- Reading the pattern texts is refused for a group that nothing closes. -/
theorem refusesOr_readSegments (segments : List TextSegment) :
    RefusesOr (fun _ ↦ True) (readSegments segments) := by
  refine .mapM (fun segment ↦ ?_) segments
  cases Pattern.parse segment.text with
  | error unclosed => rfl
  | ok pattern => trivial

/-- Guessing is refused for want of notes, and else a lane is guessed. -/
theorem refusesOr_guessKeymode (segments : List Segment) :
    RefusesOr (0 < ·) (guessKeymode segments) := by
  rw [guessKeymode]
  split
  · rfl
  · exact (show (0 : Int) < 4 by decide).trans_le (le_max_right _ _)

/-- The choice of a skin is refused if there is none, and else it is one of the library. -/
theorem refusesOr_defaultFor (library : Library) (keymode : Int) :
    RefusesOr library.Has (library.defaultFor keymode) := by
  rcases hchosen : library.defaultFor keymode with fault | named
  · rw [Library.eq_noSkins_of_defaultFor hchosen]
    rfl
  · exact Library.has_of_defaultFor hchosen

/-! ### Recipes -/

/-- The keymode of a request, or a guess. -/
def chosenKeymode (request : Request) (segments : List Segment) : Except Fault Int :=
  match request.keymode with
  | some keymode => .ok keymode
  | none => guessKeymode segments

/-- The skin of a request, or the one for its keymode. -/
def chosenSkin (library : Library) (request : Request) (keymode : Int) : Except Fault NamedSkin :=
  match request.skin with
  | some skin => .ok skin
  | none => library.defaultFor keymode

/-- The two choices of a recipe as steps of their own. -/
theorem recipe_eq (library : Library) (limits : Config.Limits) (request : Request) :
    recipe library limits request = (do
      let segments ← readSegments request.segments
      let keymode ← chosenKeymode request segments
      let chosen ← chosenSkin library request keymode
      return {
        skin := chosen.skin
        scroll := request.scroll
        keymode
        zoom := request.zoom
        segments
        maxWidth := limits.maxImageWidth
        maxHeight := limits.maxImageHeight
        maxSprites := limits.maxSprites }) := by
  simp only [recipe, chosenKeymode, chosenSkin]
  cases request.keymode <;> cases request.skin <;> rfl

variable {library : Library} {request : Request}

/-- The keymode has a lane, named or guessed. -/
theorem refusesOr_chosenKeymode (h : request.Usable library) (segments : List Segment) :
    RefusesOr (0 < ·) (chosenKeymode request segments) := by
  rw [chosenKeymode]
  rcases hrequested : request.keymode with - | keymode
  · exact refusesOr_guessKeymode segments
  · exact Int.natCast_pos.2 (h.keymode_pos keymode hrequested)

/-- The skin is one of the library, named or chosen. -/
theorem refusesOr_chosenSkin (h : request.Usable library) (keymode : Int) :
    RefusesOr library.Has (chosenSkin library request keymode) := by
  rw [chosenSkin]
  rcases hrequested : request.skin with - | named
  · exact refusesOr_defaultFor library keymode
  · exact h.has_skin named hrequested

/-- The recipe has a lane, a zoom above zero and a skin of the library. -/
structure Drawable (library : Library) (recipe : Recipe) : Prop where
  keymode_pos : 0 < recipe.keymode
  zoom_positive : recipe.zoom.isPositive
  has_skin : ∃ named, library.Has named ∧ recipe.skin = named.skin

/-- **The recipe of a request.** -/
theorem refusesOr_recipe (h : request.Usable library) (limits : Config.Limits) :
    RefusesOr (Drawable library) (recipe library limits request) := by
  rw [recipe_eq]
  refine (refusesOr_readSegments request.segments).bind fun segments _ ↦ ?_
  refine (refusesOr_chosenKeymode h segments).bind fun keymode hpos ↦ ?_
  refine (refusesOr_chosenSkin h keymode).bind fun named hnamed ↦ ?_
  exact ⟨hpos, h.zoom_positive, named, hnamed, rfl⟩

/-- The request of a command, with what is set to hold by default. -/
def requestOf (library : Library) (config : Config) (text : String) : Except Fault Request :=
  Request.ofText library config.defaults.snap config.defaults.zoom config.defaults.scroll text

/-- The recipe that a command comes to. -/
def recipeOf (library : Library) (config : Config) (text : String) : Except Fault Recipe :=
  requestOf library config text >>= recipe library config.render

/-- With valid settings a request is one that can be drawn with. -/
theorem ends_requestOf (library : Library) {config : Config} (hvalid : config.Validated)
    (text : String) :
    Ends (Request.Usable library) (digitFault? library (wordsOf text))
      (requestOf library config text) :=
  Request.ends_ofText_usable library _ hvalid.isPositive_zoom _ text

/-- Words end a command with no other fault. -/
theorem eq_tooManyDigits_of_digitFault? {words : List String} {fault : Fault}
    (h : digitFault? library words = some fault) : fault = .tooManyDigits := by
  rw [digitFault?] at h
  split at h <;> cases h
  rfl

/-- A recipe with these promises ends without a refusal only where its numbers run out. -/
theorem Drawable.draw_error_iff {recipe : Recipe} (h : Drawable library recipe)
    (hbuilt : ∀ named, library.Has named → named.skin.Built) (fault : Fault) :
    recipe.draw = .error fault ∧ fault.isRefusal = false ↔
      recipe.refusal? = none ∧ recipe.Overflows fault := by
  obtain ⟨named, hnamed, hskin⟩ := h.has_skin
  exact Recipe.draw_error_iff (hskin ▸ (hbuilt named hnamed).wellFormed) h.keymode_pos
    (Binary64.isNonpositive_of_isPositive h.zoom_positive)

/-! ### Answers -/

theorem answer_of_help {config : Config} {text : String} (h : asksForHelp text) :
    answer library config text = .ok .help := by
  simp only [answer, h, if_true]
  rfl

/-- A command that does not ask for help is answered by drawing the recipe of its request. -/
theorem answer_eq_bind {config : Config} {text : String} (h : asksForHelp text = false) :
    answer library config text = requestOf library config text >>= fun request ↦
      recipe library config.render request >>= fun recipe ↦
        recipe.draw.map fun canvas ↦ .drawing canvas recipe.keymode request.warnings := by
  simp only [answer, h, Bool.false_eq_true, if_false]
  rfl

/-- Answering a request ends with a fault that is no refusal just where drawing the recipe does. -/
theorem answer_error_iff_overflows {config : Config} {text : String} {fault : Fault}
    (hbuilt : ∀ named, library.Has named → named.skin.Built) (hhelp : asksForHelp text = false)
    (husable : request.Usable library) (hrequest : requestOf library config text = .ok request) :
    answer library config text = .error fault ∧ fault.isRefusal = false ↔
      ∃ recipe, recipeOf library config text = .ok recipe ∧
        recipe.refusal? = none ∧ recipe.Overflows fault := by
  have hrecipe := refusesOr_recipe husable config.render
  rw [answer_eq_bind hhelp, recipeOf, hrequest]
  show (recipe library config.render request >>= _) = _ ∧ _ ↔
    ∃ drawn, recipe library config.render request = .ok drawn ∧ _
  rcases hresult : recipe library config.render request with cause | recipe <;>
    rw [hresult] at hrecipe
  -- without a recipe the answer is a refusal
  · have hrefusal : cause.isRefusal = true := hrecipe
    refine iff_of_false ?_ (by simp)
    rintro ⟨⟨⟩, hnot⟩
    rw [hrefusal] at hnot
    cases hnot
  · have hdraw := hrecipe.draw_error_iff hbuilt fault
    simp only [Except.ok.injEq, exists_eq_left', ← hdraw]
    refine and_congr_left fun _ ↦ ?_
    simp only [bind, Except.bind]
    cases recipe.draw <;> simp [Except.map]

/-- Without a request the fault of the words is the answer. -/
theorem answer_error_iff_digitFault? {config : Config} {text : String} {fault cause : Fault}
    (hhelp : asksForHelp text = false) (hcause : digitFault? library (wordsOf text) = some cause)
    (herror : requestOf library config text = .error cause) :
    answer library config text = .error fault ∧ fault.isRefusal = false ↔
      digitFault? library (wordsOf text) = some fault := by
  have hanswer : answer library config text = .error cause := by
    rw [answer_eq_bind hhelp, herror]
    rfl
  rw [hanswer, hcause, Except.error.injEq, Option.some.injEq]
  refine and_iff_left_of_imp ?_
  rintro rfl
  rw [eq_tooManyDigits_of_digitFault? hcause]
  rfl

/-- **Answers.** A command is answered by a fault that is no refusal exactly if it does not ask for
help and has a word with too many digits, or comes to a recipe that is not refused and whose numbers
run out. Apart from the words, the fault is then one of arithmetic. -/
theorem answer_error_iff {config : Config} {text : String} {fault : Fault}
    (hbuilt : ∀ named, library.Has named → named.skin.Built) (hvalid : config.Validated) :
    (answer library config text = .error fault ∧ fault.isRefusal = false ↔
      asksForHelp text = false ∧
      (digitFault? library (wordsOf text) = some fault ∨
        ∃ recipe, recipeOf library config text = .ok recipe ∧
          recipe.refusal? = none ∧ recipe.Overflows fault)) ∧
    (answer library config text = .error fault →
      fault.isRefusal ∨ fault.IsArithmetic ∨ digitFault? library (wordsOf text) = some fault) := by
  have hiff : answer library config text = .error fault ∧ fault.isRefusal = false ↔
      asksForHelp text = false ∧
      (digitFault? library (wordsOf text) = some fault ∨
        ∃ recipe, recipeOf library config text = .ok recipe ∧
          recipe.refusal? = none ∧ recipe.Overflows fault) := by
    rcases hhelp : asksForHelp text with - | -
    · rw [and_iff_right rfl]
      obtain ⟨cause, hcause, herror⟩ | ⟨hnone, request, husable, hok⟩ :=
        (ends_requestOf library hvalid text).error_or_ok
      · rw [answer_error_iff_digitFault? hhelp hcause herror, recipeOf, herror]
        exact (or_iff_left (by rintro ⟨_, ⟨⟩, -⟩)).symm
      · rw [answer_error_iff_overflows hbuilt hhelp husable hok, hnone]
        exact (or_iff_right (by simp)).symm
    · simp [answer_of_help hhelp]
  refine ⟨hiff, fun hanswer ↦ ?_⟩
  rcases hrefusal : fault.isRefusal with - | -
  · obtain ⟨-, hdigits | ⟨recipe, -, -, hoverflows⟩⟩ := hiff.1 ⟨hanswer, hrefusal⟩
    · exact .inr (.inr hdigits)
    · exact .inr (.inl hoverflows.isArithmetic)
  · exact .inl rfl

/-- A library of one skin. -/
def oneSkin : Library := Library.add "sbz" Recipe.blankBars [] {}

theorem built_oneSkin (named : NamedSkin) (h : oneSkin.Has named) : named.skin.Built := by
  have hskin : (named.name, named.skin) = ("sbz", Recipe.blankBars) := List.mem_singleton.1 h
  rw [(Prod.mk.inj hskin).2]
  exact Recipe.built_blankBars

theorem validated_default : Config.Validated {} := ⟨[], rfl⟩

/-- Two steps at a zoom near the largest double are an infinite number of pixels apart. -/
theorem answer_error_iff_huge_zoom :
    (∀ named, oneSkin.Has named → named.skin.Built) ∧ Config.Validated {} ∧
    asksForHelp "1e308x 12" = false ∧
    ∃ recipe, recipeOf oneSkin {} "1e308x 12" = .ok recipe ∧ recipe.refusal? = none ∧
      recipe.Overflows .numberTooLarge := by
  have hanswer : answer oneSkin {} "1e308x 12" = .error .numberTooLarge := by decide +kernel
  have hread : digitFault? oneSkin (wordsOf "1e308x 12") = none := by decide +kernel
  obtain ⟨hhelp, hdigits | hrecipe⟩ :=
    (answer_error_iff built_oneSkin validated_default).1.1 ⟨hanswer, rfl⟩
  · rw [hread] at hdigits
    cases hdigits
  · exact ⟨built_oneSkin, validated_default, hhelp, hrecipe⟩

/-- Not every command is answered by a drawing, the help text or a refusal. A zoom can take the
second row out of the doubles, and together with a snap it can make the first one no number. -/
theorem exists_answer_no_refusal :
    answer oneSkin {} "1e308x 12" = .error .numberTooLarge ∧
    answer oneSkin {} "1e308x 3840ths 1" = .error .notANumber ∧
    ¬ ∀ (library : Library) (config : Config) (text : String) (fault : Fault),
      (∀ named, library.Has named → named.skin.Built) → config.Validated →
        answer library config text = .error fault → fault.isRefusal := by
  have hlarge : answer oneSkin {} "1e308x 12" = .error .numberTooLarge := by decide +kernel
  have hnone : answer oneSkin {} "1e308x 3840ths 1" = .error .notANumber := by decide +kernel
  refine ⟨hlarge, hnone, fun hrefuses ↦ ?_⟩
  have hrefusal := hrefuses oneSkin {} _ _ built_oneSkin validated_default hlarge
  exact absurd hrefusal (by decide)

end NoteChart.Command
