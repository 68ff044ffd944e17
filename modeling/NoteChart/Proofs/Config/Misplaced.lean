import NoteChart.Config.Source
import NoteChart.Proofs.Config.Validated

/-!
# Sections that are none

The file decides about the settings as long as the environment has nothing to say. Whether it has or
not, though, the sections that it could change are put in their places before anything is validated.
Where the file has something else in such a place, that is lost: validation would refuse it, and
loading goes on with the defaults of the section.

So what is loaded is not what is in the file, but what is left of it without the misplaced values
(`ofMembers_override`). Loading and validation part ways exactly if there are misplaced values and
nothing else is wrong (`loaded_parts_iff`).
-/

namespace NoteChart

/-- What is found after some names were dropped. -/
theorem Listing.get?_filter {α : Type} (keep : String → Bool) (name : String)
    (listing : Listing α) :
    Listing.get? name (listing.filter fun entry ↦ keep entry.1) =
      if keep name then Listing.get? name listing else none := by
  induction listing with
  | nil => simp [get?]
  | cons entry rest ih =>
    obtain ⟨key, value⟩ := entry
    by_cases hkey : key = name
    · subst hkey
      by_cases hkeep : keep key <;> simp [get?, hkeep, ih]
    · by_cases hkeep : keep key <;> simp [get?, hkeep, hkey, ih]

namespace Config

/-! ### Environments that override nothing -/

/-- No override has a value that could be used: an integer for a limit, a text for the others. -/
structure Environment.OverridesNothing (environment : Environment) : Prop where
  maxImageWidth : environment.integer? "PATTERN_DRAW_MAX_IMAGE_WIDTH" = none
  maxImageHeight : environment.integer? "PATTERN_DRAW_MAX_IMAGE_HEIGHT" = none
  maxSprites : environment.integer? "PATTERN_DRAW_MAX_SPRITES" = none
  scroll : environment.text? "PATTERN_DRAW_DEFAULT_SCROLL" = none
  assetsDirectory : environment.text? "PATTERN_DRAW_ASSETS_DIR" = none

/-- The sections that the environment can change. -/
def changeable : List String := ["render", "defaults"]

section

variable {environment : Environment} (h : environment.OverridesNothing)
include h

theorem overrideLimits_eq (limits : Members) : overrideLimits environment limits = limits := by
  simp only [overrideLimits, h.maxImageWidth, h.maxImageHeight, h.maxSprites, Option.map_none,
    putSome]

theorem overrideDefaults_eq (defaults : Members) :
    overrideDefaults environment defaults = defaults := by
  simp only [overrideDefaults, h.scroll, Option.map_none, putSome]

/-- Even then the changeable sections are put in their places, and other members are left alone. -/
theorem get?_override (members : Members) (name : String) :
    Listing.get? name (override environment members) =
      if name ∈ changeable then some (.object (sectionOf name members))
      else Listing.get? name members := by
  have hput : override environment members =
      (members.put "render" (.object (sectionOf "render" members))).put "defaults"
        (.object (sectionOf "defaults" members)) := by
    simp only [override, overrideLimits_eq h, overrideDefaults_eq h, h.assetsDirectory,
      Option.map_none, putSome]
  rw [hput, Listing.get?_put, Listing.get?_put]
  by_cases hdefaults : "defaults" = name
  · subst hdefaults
    rfl
  · by_cases hrender : "render" = name
    · subst hrender
      rfl
    · simp [changeable, hdefaults, hrender, Ne.symm hdefaults, Ne.symm hrender]

end

/-! ### Misplaced values -/

/-- The value is an object. -/
def isObject : Json → Bool
  | .object _ => true
  | _ => false

/-- There is something in the place of a section that is none. -/
def isMisplaced (name : String) (members : Members) : Bool :=
  (Listing.get? name members).any (!isObject ·)

/-- The members without what is in the place of a changeable section and is none. -/
def withoutMisplaced (members : Members) : Members :=
  members.filter fun entry ↦ !(changeable.contains entry.1 && isMisplaced entry.1 members)

/-- Only what is misplaced is gone. -/
theorem get?_withoutMisplaced (name : String) (members : Members) :
    Listing.get? name (withoutMisplaced members) =
      if name ∈ changeable ∧ isMisplaced name members then none
      else Listing.get? name members := by
  rw [withoutMisplaced,
    Listing.get?_filter fun name ↦ !(changeable.contains name && isMisplaced name members)]
  by_cases hname : name ∈ changeable <;> by_cases hmisplaced : isMisplaced name members <;>
    simp [hname, hmisplaced]

theorem withoutMisplaced_eq_self {members : Members}
    (h : ∀ name ∈ changeable, isMisplaced name members = false) :
    withoutMisplaced members = members := by
  rw [withoutMisplaced, List.filter_eq_self]
  intro entry _
  by_cases hname : entry.1 ∈ changeable
  · simp [h _ hname]
  · simp [hname]

/-! ### What is validated -/

theorem optional_congr {α : Type} {name : String} {default : α} {read : Json → Checked α}
    {members others : Members} (h : Listing.get? name members = Listing.get? name others) :
    optional name default read members = optional name default read others := by
  rw [optional, optional, h]

/-- A section that was put in its place is read like the one that is left without misplaced values.
Both come to the default where there is none. -/
theorem optional_section {α : Type} {name : String} {default : α} {read : Members → Checked α}
    (hempty : read [] = .valid default) (hname : name ∈ changeable) {environment : Environment}
    (h : environment.OverridesNothing) (members : Members) :
    optional name default (inSection read) (override environment members) =
      optional name default (inSection read) (withoutMisplaced members) := by
  rw [optional, optional, get?_override h, get?_withoutMisplaced, if_pos hname, isMisplaced,
    sectionOf]
  rcases Listing.get? name members with - | value
  · simp [inSection, hempty, Checked.within]
  · cases value with
    | object inner => simp [isObject]
    | _ => simp [isObject, hname, inSection, hempty, Checked.within]

/-- Outside of the two sections nothing is changed by either. -/
theorem get?_override_eq_withoutMisplaced {environment : Environment}
    (h : environment.OverridesNothing) (members : Members) {name : String}
    (hname : name ∉ changeable) :
    Listing.get? name (override environment members) =
      Listing.get? name (withoutMisplaced members) := by
  rw [get?_override h, get?_withoutMisplaced, if_neg hname, if_neg fun hboth ↦ hname hboth.1]

theorem readLimits_nil : readLimits [] = .valid {} := rfl

theorem readDefaults_nil : readDefaults [] = .valid {} := by
  simp only [readDefaults, optional, Listing.get?, Checked.andThen]

/-- **Where nothing is overridden**, the members are validated without misplaced values. -/
theorem ofMembers_override {environment : Environment} (h : environment.OverridesNothing)
    (members : Members) :
    ofMembers (override environment members) = ofMembers (withoutMisplaced members) := by
  have hlimits := optional_section readLimits_nil
    (show "render" ∈ changeable by decide) h members
  have hdefaults := optional_section readDefaults_nil
    (show "defaults" ∈ changeable by decide) h members
  have hdirectory := get?_override_eq_withoutMisplaced h members
    (show "assets_dir" ∉ changeable by decide)
  have hskins := get?_override_eq_withoutMisplaced h members
    (show "noteskins" ∉ changeable by decide)
  rw [ofMembers, ofMembers, hlimits, hdefaults, optional_congr hdirectory, optional_congr hskins]

/-- A valid section is an object. -/
theorem isMisplaced_of_optional {α : Type} {name : String} {default value : α}
    {read : Members → Checked α} {members : Members}
    (h : optional name default (inSection read) members = .valid value) :
    isMisplaced name members = false := by
  rw [optional] at h
  rw [isMisplaced]
  rcases hget : Listing.get? name members with - | json
  · rfl
  · rw [hget] at h
    cases json with
    | object inner => rfl
    | _ => cases h

/-- Valid settings have nothing in the place of a section that is none. -/
theorem isMisplaced_of_valid {members : Members} {config : Config}
    (h : ofMembers members = .valid config) :
    ∀ name ∈ changeable, isMisplaced name members = false := by
  have hmade := ofMembers_eq_valid_iff.1 h
  exact List.forall_mem_cons.2 ⟨isMisplaced_of_optional hmade.render,
    List.forall_mem_singleton.2 (isMisplaced_of_optional hmade.defaults)⟩

/-! ### What is loaded -/

/-- Loading and validation have the same outcome: the same settings, or none for they are not
valid. -/
inductive Agree : Except LoadFault Config → Checked Config → Prop
  | valid (config : Config) : Agree (.ok config) (.valid config)
  | invalid (path : Option Path) (told issues : List Issue) :
      Agree (.error (.invalid path told)) (.invalid issues)

/-- What loading comes to with the file at a path, which was named or else found. -/
inductive LoadedFrom (host : Host) (path : Path) : Except LoadFault Config → Prop
  | named : LoadedFrom host path (loadFrom host (some path))
  | found (h : locate? host = .ok (some path)) : LoadedFrom host path ((load host).map Prod.fst)

section

variable {host : Host} {path : Path} {loaded : Except LoadFault Config} {members : Members}

/-- Loading from a file that holds an object validates that object. -/
theorem LoadedFrom.eq_ofSource (h : LoadedFrom host path loaded)
    (hfile : readFile host path = .ok members) : loaded = ofSource host (some path) members := by
  have hnamed : loadFrom host (some path) = ofSource host (some path) members := by
    rw [loadFrom, hfile]
  cases h with
  | named => exact hnamed
  | found hfound =>
    simp only [load, hfound, bind, Except.bind, hnamed]
    rcases ofSource host (some path) members with fault | config <;> rfl

/-- **Loading where nothing is overridden** is validation without misplaced values. -/
theorem LoadedFrom.eq_ofMembers (h : LoadedFrom host path loaded)
    (hsilent : host.environment.OverridesNothing) (hfile : readFile host path = .ok members) :
    loaded =
      match ofMembers (withoutMisplaced members) with
      | .valid config => .ok config
      | .invalid issues => .error (.invalid (some path) issues) := by
  rw [h.eq_ofSource hfile]
  rcases hkept : ofMembers (withoutMisplaced members) with config | issues <;>
    simp only [ofSource, ofMembers_override hsilent, hkept]

/-- **Where loading and validation part ways**: something is in the place of a section that is none,
and nothing else is wrong. Then loading gives the settings of what else there is. -/
theorem loaded_parts_iff (h : LoadedFrom host path loaded)
    (hsilent : host.environment.OverridesNothing) (hfile : readFile host path = .ok members) :
    ¬Agree loaded (ofMembers members) ↔
      (∃ name ∈ changeable, isMisplaced name members) ∧
        ∃ config, ofMembers (withoutMisplaced members) = .valid config ∧ loaded = .ok config := by
  have hloaded := h.eq_ofMembers hsilent hfile
  constructor
  · intro hparts
    have hmisplaced : ∃ name ∈ changeable, isMisplaced name members := by
      by_contra! hnone
      simp only [Bool.not_eq_true] at hnone
      rw [withoutMisplaced_eq_self hnone] at hloaded
      rcases hdirect : ofMembers members with config | issues <;>
        rw [hloaded, hdirect] at hparts
      · exact hparts (.valid config)
      · exact hparts (.invalid _ _ _)
    refine ⟨hmisplaced, ?_⟩
    rcases hkept : ofMembers (withoutMisplaced members) with config | issues <;>
      rw [hkept] at hloaded
    · exact ⟨config, rfl, hloaded⟩
    · obtain ⟨name, hname, hvalue⟩ := hmisplaced
      -- with a misplaced value validation fails as well
      rcases hdirect : ofMembers members with config | told
      · rw [isMisplaced_of_valid hdirect name hname] at hvalue
        cases hvalue
      · rw [hdirect, hloaded] at hparts
        exact absurd (.invalid _ _ _) hparts
  · rintro ⟨⟨name, hname, hvalue⟩, config, -, hconfig⟩ hagree
    rw [hconfig] at hagree
    rcases hdirect : ofMembers members with direct | told <;> rw [hdirect] at hagree
    · rw [isMisplaced_of_valid hdirect name hname] at hvalue
      cases hvalue
    · cases hagree

end

/-- A host with one file, whose section of limits is a number. -/
def numberForLimits : Host where
  workingDirectory := ⟨"/", ["work"]⟩
  programDirectory := ⟨"/", ["program"]⟩
  home? _ := none
  environment _ := none
  look path :=
    if path = ⟨"/", ["work", "settings.json"]⟩ then
      .file ("\x7b\"render\": 5\x7d".toList.map fun c ↦ c.toNat.toUInt8)
    else .nothing

/-- The only member of an object, if it is an integer. -/
def onlyInteger? : Except LoadFault Members → Option (String × Int)
  | .ok [(name, .int value)] => some (name, value)
  | _ => none

/-- An object of which all is known that way is that object. -/
theorem eq_ok_of_onlyInteger? {result : Except LoadFault Members} {name : String} {value : Int}
    (h : onlyInteger? result = some (name, value)) : result = .ok [(name, .int value)] := by
  unfold onlyInteger? at h
  split at h <;> cases h
  rfl

theorem readFile_numberForLimits :
    readFile numberForLimits ⟨"", ["settings.json"]⟩ = .ok [("render", .int 5)] :=
  eq_ok_of_onlyInteger? (by decide +kernel)

theorem overridesNothing_numberForLimits : numberForLimits.environment.OverridesNothing :=
  ⟨rfl, rfl, rfl, rfl, rfl⟩

/-- The number is refused by validation, and the file is loaded all the same. -/
theorem loaded_parts_iff_numberForLimits :
    numberForLimits.environment.OverridesNothing ∧
    readFile numberForLimits ⟨"", ["settings.json"]⟩ = .ok [("render", .int 5)] ∧
    ¬Agree (loadFrom numberForLimits (some ⟨"", ["settings.json"]⟩))
      (ofMembers [("render", .int 5)]) := by
  refine ⟨overridesNothing_numberForLimits, readFile_numberForLimits, ?_⟩
  refine (loaded_parts_iff .named overridesNothing_numberForLimits readFile_numberForLimits).2 ?_
  exact ⟨⟨"render", by decide, rfl⟩, {}, rfl, by decide +kernel⟩

/-- A number in the place of the limits is no error where a file is loaded, though it is one where
its object is validated. -/
theorem exists_loaded_invalid :
    loadFrom numberForLimits (some ⟨"", ["settings.json"]⟩) = .ok {} ∧
    ofMembers [("render", .int 5)] = .invalid [⟨[.member "render"], .notSection⟩] ∧
    ¬ ∀ (host : Host) (path : Path) (loaded : Except LoadFault Config) (members : Members),
      LoadedFrom host path loaded → host.environment.OverridesNothing →
        readFile host path = .ok members → Agree loaded (ofMembers members) := by
  have hloaded : loadFrom numberForLimits (some ⟨"", ["settings.json"]⟩) = .ok {} := by
    decide +kernel
  have hinvalid : ofMembers [("render", .int 5)] =
      .invalid [⟨[.member "render"], .notSection⟩] := rfl
  refine ⟨hloaded, hinvalid, fun hagree ↦ ?_⟩
  have hboth := hagree _ _ _ _ .named overridesNothing_numberForLimits readFile_numberForLimits
  rw [hloaded, hinvalid] at hboth
  cases hboth

end Config

end NoteChart
