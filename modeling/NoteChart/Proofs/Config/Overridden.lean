import NoteChart.Proofs.Config.Misplaced

/-!
# Settings that the environment overrides

Five settings have a variable of the environment each, and a variable that is of use takes the place
of what the file says there. Nothing else in a file is touched. `Overridden` says this of two
objects place by place, and leaves open how the one is made from the other: whether a section that
the file does not have is there afterwards is not told apart from its being there without
members.

Validation does not tell them apart either. It looks at nothing but the values in places
(`Overridden.ofMembers_eq`), and so it comes to the same for every object overridden in this sense,
the one that loading validates among them (`overridden_override`).
-/

namespace NoteChart

/-- A value that there may be is found under its own name only. -/
theorem Listing.get?_putSome (name other : String) (value : Option Json) (listing : Listing Json) :
    Listing.get? other (Config.putSome name value listing) =
      if name = other then value.or (Listing.get? other listing)
      else Listing.get? other listing := by
  cases value with
  | none => simp [Config.putSome]
  | some value => simp [Config.putSome, Listing.get?_put]

namespace Config

/-! ### Places -/

/-- The place of a setting: its name, and that of the section it is in, if it is in one. -/
structure Place where
  sectionName? : Option String
  name : String
deriving DecidableEq

/-- The way to a place. -/
def Place.location (place : Place) : List Step :=
  (place.sectionName?.toList ++ [place.name]).map .member

/-- What stands in a place, if anything does. -/
def Place.value? (place : Place) (members : Members) : Option Json :=
  match place.sectionName? with
  | none => Listing.get? place.name members
  | some sectionName => (Listing.get? sectionName members).bind (Json.member? place.name)

/-- What stands in a section is what is found in the members of that section. -/
theorem Place.value?_section (sectionName name : String) (members : Members) :
    Place.value? ⟨some sectionName, name⟩ members =
      Listing.get? name (sectionOf sectionName members) := by
  show (Listing.get? sectionName members).bind (Json.member? name) = _
  rw [sectionOf]
  rcases Listing.get? sectionName members with - | value
  · rfl
  · cases value <;> rfl

/-! ### Variables -/

/-- A setting with a variable: its place, the name of the variable, and the value that a text in the
variable stands for, if it stands for any. -/
structure Override where
  place : Place
  variableName : String
  read : List Char → Option Json

/-- A limit, which is a number. A text that no integer is read from, be it for its digits or for how
many they are, stands for none. -/
def Override.limit (name variableName : String) : Override where
  place := ⟨some "render", name⟩
  variableName := variableName
  read text := (Number.readInteger? text).map .int

@[simp] theorem Override.place_limit (name variableName : String) :
    (Override.limit name variableName).place = ⟨some "render", name⟩ := rfl

/-- A setting that any text can be put in the place of. -/
def Override.ofText (place : Place) (variableName : String) : Override where
  place := place
  variableName := variableName
  read text := some (.string (String.ofList text))

@[simp] theorem Override.place_ofText (place : Place) (variableName : String) :
    (Override.ofText place variableName).place = place := rfl

/-- The settings with a variable. -/
def overrides : List Override :=
  [.limit "max_image_width" "PATTERN_DRAW_MAX_IMAGE_WIDTH",
    .limit "max_image_height" "PATTERN_DRAW_MAX_IMAGE_HEIGHT",
    .limit "max_sprites" "PATTERN_DRAW_MAX_SPRITES",
    .ofText ⟨some "defaults", "scroll"⟩ "PATTERN_DRAW_DEFAULT_SCROLL",
    .ofText ⟨none, "assets_dir"⟩ "PATTERN_DRAW_ASSETS_DIR"]

/-- The value that a variable gives: that of its text without the blanks around it, unless the
variable is not set or blank. -/
def Override.value? (environment : Environment) (override : Override) : Option Json :=
  (environment override.variableName).bind fun text ↦
    if Text.trim text.toList = [] then none else override.read (Text.trim text.toList)

/-- The value that the environment gives for a place, if there is a variable for it. -/
def given? (environment : Environment) (place : Place) : Option Json :=
  (overrides.find? (·.place = place)).bind (·.value? environment)

/-- A variable gives the value that its text stands for. -/
theorem Override.value?_eq (environment : Environment) (override : Override) :
    override.value? environment =
      (environment.text? override.variableName).bind fun text ↦ override.read text.toList := by
  rw [value?, Environment.text?]
  rcases environment override.variableName with - | text
  · rfl
  · simp only [Option.getD_some, Option.bind_some]
    split <;> simp_all

@[simp] theorem value?_limit (environment : Environment) (name variableName : String) :
    (Override.limit name variableName).value? environment =
      (environment.integer? variableName).map .int := by
  rw [Override.value?_eq, Environment.integer?, Option.map_bind]
  rfl

@[simp] theorem value?_ofText (environment : Environment) (place : Place) (variableName : String) :
    (Override.ofText place variableName).value? environment =
      (environment.text? variableName).map .string := by
  rw [Override.value?_eq, Option.map_eq_bind]
  simp only [Override.ofText, String.ofList_toList, Function.comp_def]

/-! ### Objects -/

/-- An object is another one with what the environment gives: each place has the value that is given
for it, or else what was there before. -/
structure Overridden (environment : Environment) (members overridden : Members) : Prop where
  placed : ∀ name ∈ changeable, isMisplaced name overridden = false
  inSection : ∀ sectionName ∈ changeable, ∀ name,
    Place.value? ⟨some sectionName, name⟩ overridden =
      (given? environment ⟨some sectionName, name⟩).or
        (Place.value? ⟨some sectionName, name⟩ members)
  outside : ∀ name ∉ changeable,
    Place.value? ⟨none, name⟩ overridden =
      (given? environment ⟨none, name⟩).or (Place.value? ⟨none, name⟩ members)

/-! ### The object that is loaded -/

/-- The variable of a place is looked for one setting after the other. -/
theorem find?_bind_value?_cons (override : Override) (rest : List Override)
    (environment : Environment) (place : Place) :
    (((override :: rest).find? (·.place = place)).bind (·.value? environment)) =
      if override.place = place then override.value? environment
      else (rest.find? (·.place = place)).bind (·.value? environment) := by
  rw [List.find?_cons]
  by_cases h : override.place = place <;> simp [h]

/-- The settings with a variable, one after the other. -/
theorem given?_eq (environment : Environment) (place : Place) :
    given? environment place =
      if ⟨some "render", "max_image_width"⟩ = place then
        (environment.integer? "PATTERN_DRAW_MAX_IMAGE_WIDTH").map .int
      else if ⟨some "render", "max_image_height"⟩ = place then
        (environment.integer? "PATTERN_DRAW_MAX_IMAGE_HEIGHT").map .int
      else if ⟨some "render", "max_sprites"⟩ = place then
        (environment.integer? "PATTERN_DRAW_MAX_SPRITES").map .int
      else if ⟨some "defaults", "scroll"⟩ = place then
        (environment.text? "PATTERN_DRAW_DEFAULT_SCROLL").map .string
      else if ⟨none, "assets_dir"⟩ = place then
        (environment.text? "PATTERN_DRAW_ASSETS_DIR").map .string
      else none := by
  simp only [given?, overrides, find?_bind_value?_cons, Override.place_limit,
    Override.place_ofText, value?_limit, value?_ofText, List.find?_nil, Option.bind_none]

/-- A limit is what the environment gives for it, or what it was. -/
theorem get?_overrideLimits (environment : Environment) (limits : Members) (name : String) :
    Listing.get? name (overrideLimits environment limits) =
      (given? environment ⟨some "render", name⟩).or (Listing.get? name limits) := by
  rw [overrideLimits, Listing.get?_putSome, Listing.get?_putSome, Listing.get?_putSome, given?_eq]
  -- a name is that of one limit at most
  by_cases hwidth : "max_image_width" = name
  · subst hwidth
    simp
  by_cases hheight : "max_image_height" = name
  · subst hheight
    simp
  by_cases hsprites : "max_sprites" = name <;> simp [hwidth, hheight, hsprites]

theorem get?_overrideDefaults (environment : Environment) (defaults : Members) (name : String) :
    Listing.get? name (overrideDefaults environment defaults) =
      (given? environment ⟨some "defaults", name⟩).or (Listing.get? name defaults) := by
  rw [overrideDefaults, Listing.get?_putSome, given?_eq]
  by_cases hscroll : "scroll" = name <;> simp [hscroll]

/-- **The object that loading validates** is the members with what the environment gives. -/
theorem overridden_override (environment : Environment) (members : Members) :
    Overridden environment members (override environment members) := by
  have hlimits : Listing.get? "render" (override environment members) =
      some (.object (overrideLimits environment (sectionOf "render" members))) := by
    simp [override, Listing.get?_putSome, Listing.get?_put]
  have hdefaults : Listing.get? "defaults" (override environment members) =
      some (.object (overrideDefaults environment (sectionOf "defaults" members))) := by
    simp [override, Listing.get?_putSome, Listing.get?_put]
  constructor
  · simp [changeable, isMisplaced, hlimits, hdefaults, isObject]
  · simp only [changeable, List.forall_mem_cons, Place.value?_section]
    refine ⟨fun name ↦ ?_, fun name ↦ ?_, List.forall_mem_nil _⟩
    · rw [sectionOf, hlimits]
      exact get?_overrideLimits environment _ name
    · rw [sectionOf, hdefaults]
      exact get?_overrideDefaults environment _ name
  · intro name hname
    have hrender : ¬"render" = name := fun h ↦ hname (h ▸ by decide)
    have hdefaults : ¬"defaults" = name := fun h ↦ hname (h ▸ by decide)
    show Listing.get? name (override environment members) =
      (given? environment ⟨none, name⟩).or (Listing.get? name members)
    rw [override, Listing.get?_putSome, Listing.get?_put, Listing.get?_put, if_neg hrender,
      if_neg hdefaults, given?_eq]
    by_cases hdirectory : "assets_dir" = name <;> simp [hdirectory]

/-! ### What is validated -/

/-- A section is read from the values in its places, and from none where it is not there. -/
theorem optional_inSection {α : Type} {name : String} {default : α} {read : Members → Checked α}
    (hempty : read [] = .valid default) {members : Members}
    (hplaced : isMisplaced name members = false) :
    optional name default (inSection read) members =
      (read (sectionOf name members)).within (.member name) := by
  rw [isMisplaced] at hplaced
  rw [optional, sectionOf]
  rcases hvalue : Listing.get? name members with - | value
  · rw [hempty, Checked.within]
  · cases value with
    | object inner => rfl
    | _ => simp [hvalue, isObject] at hplaced

section

variable {members others : Members}

/-- Limits are read by their names, whatever else the sections differ in. -/
theorem readLimits_congr (h : ∀ name, Listing.get? name members = Listing.get? name others) :
    readLimits members = readLimits others := by
  rw [readLimits, readLimits, optional_congr (h "max_image_width"),
    optional_congr (h "max_image_height"), optional_congr (h "max_sprites")]

theorem readDefaults_congr (h : ∀ name, Listing.get? name members = Listing.get? name others) :
    readDefaults members = readDefaults others := by
  rw [readDefaults, readDefaults, optional_congr (h "snap"), optional_congr (h "zoom"),
    optional_congr (h "scroll")]

end

/-- **Validation** is settled by the values in places: objects that are the same members with what
the environment gives come to the same. -/
theorem Overridden.ofMembers_eq {environment : Environment} {members one other : Members}
    (hone : Overridden environment members one) (hother : Overridden environment members other) :
    ofMembers one = ofMembers other := by
  have hsection (sectionName : String) (hname : sectionName ∈ changeable) (name : String) :
      Listing.get? name (sectionOf sectionName one) =
        Listing.get? name (sectionOf sectionName other) := by
    rw [← Place.value?_section, ← Place.value?_section, hone.inSection _ hname,
      hother.inSection _ hname]
  have houtside (name : String) (hname : name ∉ changeable) :
      Listing.get? name one = Listing.get? name other :=
    (hone.outside name hname).trans (hother.outside name hname).symm
  have hrender : "render" ∈ changeable := by decide
  have hdefaults : "defaults" ∈ changeable := by decide
  rw [ofMembers, ofMembers, optional_inSection readLimits_nil (hone.placed _ hrender),
    optional_inSection readLimits_nil (hother.placed _ hrender),
    optional_inSection readDefaults_nil (hone.placed _ hdefaults),
    optional_inSection readDefaults_nil (hother.placed _ hdefaults),
    readLimits_congr (hsection "render" hrender),
    readDefaults_congr (hsection "defaults" hdefaults),
    optional_congr (houtside "assets_dir" (by decide)),
    optional_congr (houtside "noteskins" (by decide))]

/-! ### Numbers out of range -/

namespace Checked

variable {α β : Type}

/-- All that is wrong. -/
def issues : Checked α → List Issue
  | valid _ => []
  | invalid issues => issues

theorem issues_andThen (f : Checked (α → β)) (x : Checked α) :
    (f.andThen x).issues = f.issues ++ x.issues := by
  cases f <;> cases x <;> simp [andThen, issues]

/-- An issue in a section is told with the section in front. -/
theorem issues_within (step : Step) (x : Checked α) :
    (x.within step).issues =
      x.issues.map fun issue ↦ { issue with location := step :: issue.location } := by
  cases x <;> rfl

/-- A check with an issue is not valid. -/
theorem exists_invalid_of_mem_issues {x : Checked α} {issue : Issue} (h : issue ∈ x.issues) :
    ∃ issues, x = invalid issues ∧ issue ∈ issues := by
  cases x with
  | valid => cases h
  | invalid issues => exact ⟨issues, rfl, h⟩

end Checked

/-- A limit below one is told, with its name. -/
theorem mem_issues_limit {name : String} {standard number : Int} {limits : Members}
    (hget : Listing.get? name limits = some (.int number)) (hnumber : number < 1) :
    ⟨[.member name], .belowOne⟩ ∈
      (optional name standard (scalar readPositive) limits).issues := by
  have hread : scalar readPositive (.int number) = .invalid [⟨[], .belowOne⟩] := by
    simp [scalar, readPositive, readInteger, bind, Except.bind, hnumber, throw, throwThe,
      MonadExceptOf.throw, Checked.ofScalar, Checked.issue]
  rw [optional, hget]
  simp only [hread]
  exact List.mem_singleton_self _

/-- A limit below one is an issue of the limits. -/
theorem mem_issues_readLimits {name : String} {number : Int} {limits : Members}
    (hname : name ∈ ["max_image_width", "max_image_height", "max_sprites"])
    (hget : Listing.get? name limits = some (.int number)) (hnumber : number < 1) :
    ⟨[.member name], .belowOne⟩ ∈ (readLimits limits).issues := by
  simp only [List.mem_cons, List.not_mem_nil, or_false] at hname
  simp only [readLimits, Checked.issues_andThen, List.mem_append]
  rcases hname with rfl | rfl | rfl
  · exact .inl (.inl (.inr (mem_issues_limit hget hnumber)))
  · exact .inl (.inr (mem_issues_limit hget hnumber))
  · exact .inr (mem_issues_limit hget hnumber)

theorem given?_place {environment : Environment} :
    ∀ override ∈ overrides, given? environment override.place = override.value? environment := by
  simp [overrides, given?_eq]

/-- A limit below one that the environment gives is an issue of the settings. -/
theorem Overridden.mem_issues {environment : Environment} {members overridden : Members}
    (h : Overridden environment members overridden) {override : Override}
    (hoverride : override ∈ overrides) {number : Int} (hnumber : number < 1)
    (hvalue : override.value? environment = some (.int number)) :
    ⟨override.place.location, .belowOne⟩ ∈ (ofMembers overridden).issues := by
  have hlimit : ∀ name ∈ ["max_image_width", "max_image_height", "max_sprites"],
      given? environment ⟨some "render", name⟩ = some (.int number) →
        ⟨[.member "render", .member name], .belowOne⟩ ∈ (ofMembers overridden).issues := by
    intro name hname hgiven
    have hrender : "render" ∈ changeable := by decide
    have hget : Listing.get? name (sectionOf "render" overridden) = some (.int number) := by
      rw [← Place.value?_section, h.inSection _ hrender, hgiven, Option.some_or]
    have hissue := mem_issues_readLimits hname hget hnumber
    simp only [ofMembers, Checked.issues_andThen, List.mem_append,
      optional_inSection readLimits_nil (h.placed _ hrender), Checked.issues_within]
    exact .inl (.inl (.inl (.inr (List.mem_map.2 ⟨_, hissue, rfl⟩))))
  rw [← given?_place override hoverride] at hvalue
  simp only [overrides, List.mem_cons, List.not_mem_nil, or_false] at hoverride
  rcases hoverride with rfl | rfl | rfl | rfl | rfl
  · exact hlimit _ (by decide) hvalue
  · exact hlimit _ (by decide) hvalue
  · exact hlimit _ (by decide) hvalue
  -- the other two settings are no numbers
  · simp [given?_eq] at hvalue
  · simp [given?_eq] at hvalue

/-! ### What is loaded -/

/-- The settings, or the issues with them, as loading tells them; `path` is the file they are
from. -/
def Checked.loaded (path : Option Path) : Checked Config → Except LoadFault Config
  | valid config => .ok config
  | invalid issues => .error (.invalid path issues)

/-- What loading comes to that gets as far as an object: the one in a file, or an empty one where no
file was named and none was found. -/
inductive LoadedObject (host : Host) : Option Path → Members → Except LoadFault Config → Prop
  | file {path : Path} {members : Members} {loaded : Except LoadFault Config}
      (h : LoadedFrom host path loaded) (hfile : readFile host path = .ok members) :
      LoadedObject host (some path) members loaded
  | absent (h : locate? host = .ok none) : LoadedObject host none [] ((load host).map Prod.fst)

section

variable {host : Host} {path? : Option Path} {members : Members} {loaded : Except LoadFault Config}

/-- Loading that gets as far as an object comes to the validation of the overridden object. -/
theorem LoadedObject.eq_loaded (h : LoadedObject host path? members loaded) :
    loaded = (ofMembers (override host.environment members)).loaded path? := by
  have hsource (path? : Option Path) (members : Members) :
      ofSource host path? members =
        (ofMembers (override host.environment members)).loaded path? := by
    rw [ofSource]
    cases ofMembers (override host.environment members) <;> rfl
  cases h with
  | file h hfile => exact (h.eq_ofSource hfile).trans (hsource _ _)
  | absent hnone =>
    rw [← hsource]
    simp only [load, hnone, bind, Except.bind, loadFrom]
    rcases ofSource host none [] with fault | config <;> rfl

/-- **Overrides touch their own settings and nothing else.** What is loaded is what validation makes
of the object that has the values of the environment in their places and is as before in all
others, however that object is put together; and a limit below one is refused as in a file. -/
theorem loaded_overridden (h : LoadedObject host path? members loaded) :
    (∃ overridden, Overridden host.environment members overridden) ∧
    (∀ overridden, Overridden host.environment members overridden →
      loaded = (ofMembers overridden).loaded path?) ∧
    ∀ override ∈ overrides, ∀ number < 1,
      override.value? host.environment = some (.int number) →
        ∃ issues, loaded = .error (.invalid path? issues) ∧
          ⟨override.place.location, .belowOne⟩ ∈ issues := by
  have hoverridden := overridden_override host.environment members
  refine ⟨⟨_, hoverridden⟩, ?_, ?_⟩
  · intro overridden hother
    rw [h.eq_loaded, hoverridden.ofMembers_eq hother]
  · intro override hmem number hnumber hvalue
    obtain ⟨issues, hinvalid, hissue⟩ := Checked.exists_invalid_of_mem_issues
      (hoverridden.mem_issues hmem hnumber hvalue)
    exact ⟨issues, by rw [h.eq_loaded, hinvalid, Checked.loaded], hissue⟩

end

/-- A host with a file that limits the sprites. The environment has a width, a text that is no
number of sprites, and a directory; its direction is blank. -/
def limitedSprites : Host where
  workingDirectory := ⟨"/", ["work"]⟩
  programDirectory := ⟨"/", ["program"]⟩
  home? _ := none
  environment name :=
    if name = "PATTERN_DRAW_MAX_IMAGE_WIDTH" then some " 1_200 "
    else if name = "PATTERN_DRAW_MAX_SPRITES" then some "many"
    else if name = "PATTERN_DRAW_DEFAULT_SCROLL" then some "  "
    else if name = "PATTERN_DRAW_ASSETS_DIR" then some " skins "
    else none
  look path :=
    if path = ⟨"/", ["work", "settings.json"]⟩ then
      .file ("\x7b\"render\": \x7b\"max_sprites\": 50\x7d\x7d".toList.map fun c ↦ c.toNat.toUInt8)
    else .nothing

/-- The only section of an object, if there is an integer in it and nothing else. -/
def onlySection? : Except LoadFault Members → Option (String × String × Int)
  | .ok [(sectionName, .object [(name, .int value)])] => some (sectionName, name, value)
  | _ => none

/-- An object of which all is known that way is that object. -/
theorem eq_ok_of_onlySection? {result : Except LoadFault Members} {sectionName name : String}
    {value : Int} (h : onlySection? result = some (sectionName, name, value)) :
    result = .ok [(sectionName, .object [(name, .int value)])] := by
  unfold onlySection? at h
  split at h <;> cases h
  rfl

/-- The width and the directory are those of the environment, the number of sprites is still that of
the file. -/
theorem loaded_overridden_limitedSprites :
    LoadedObject limitedSprites (some ⟨"", ["settings.json"]⟩)
      [("render", .object [("max_sprites", .int 50)])]
      (loadFrom limitedSprites (some ⟨"", ["settings.json"]⟩)) ∧
    loadFrom limitedSprites (some ⟨"", ["settings.json"]⟩) =
      .ok
        { render := { maxImageWidth := 1200, maxSprites := 50 }
          assetsDirectory := some "skins" } := by
  have hfile : readFile limitedSprites ⟨"", ["settings.json"]⟩ =
      .ok [("render", .object [("max_sprites", .int 50)])] :=
    eq_ok_of_onlySection? (by decide +kernel)
  have hloaded := LoadedObject.file .named hfile
  obtain ⟨-, hsame, -⟩ := loaded_overridden hloaded
  refine ⟨hloaded, (hsame _ (overridden_override _ _)).trans ?_⟩
  decide +kernel

end Config

end NoteChart
