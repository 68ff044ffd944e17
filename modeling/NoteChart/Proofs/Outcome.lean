import Mathlib.Data.List.Forall2
import Mathlib.Tactic.Common

/-!
# Which fault ends a computation

A computation ends with a value or with the first fault it meets. `Ends` says both at once: which
fault that is, if any, and what holds of the value otherwise. So it excludes a fault that nothing
accounts for and promises a value where there is none.

The rules follow a computation from step to step. Of two steps in a line the fault of the first one
comes first (`Ends.bind`), and of the steps over a list that of the first member with one
(`Ends.mapM`). What is proved about each step then adds up to a list of causes in their order.

Where only the kind of the fault matters, `Within` is the weaker notion.
-/

namespace NoteChart

variable {ε δ α β : Type}

/-- The result is the fault, if there is one, and else a value with the property. -/
inductive Ends (good : α → Prop) : Option ε → Except ε α → Prop
  | error (fault : ε) : Ends good (some fault) (.error fault)
  | ok {value : α} (h : good value) : Ends good none (.ok value)

namespace Ends

variable {good : α → Prop} {better : β → Prop} {fault? : Option ε} {result : Except ε α}

/-- The two ways in which a computation can end, with what is known in each. -/
theorem error_or_ok (h : Ends good fault? result) :
    (∃ fault, fault? = some fault ∧ result = .error fault) ∨
      fault? = none ∧ ∃ value, good value ∧ result = .ok value := by
  cases h with
  | error fault => exact .inl ⟨fault, rfl, rfl⟩
  | ok hgood => exact .inr ⟨rfl, _, hgood, rfl⟩

theorem error_iff (h : Ends good fault? result) {fault : ε} :
    result = .error fault ↔ fault? = some fault := by
  cases h <;> simp

theorem good_of_ok (h : Ends good fault? result) {value : α} (hok : result = .ok value) :
    good value := by
  cases h with
  | error => cases hok
  | ok hgood =>
    cases hok
    exact hgood

theorem eq_none_of_ok (h : Ends good fault? result) {value : α} (hok : result = .ok value) :
    fault? = none := by
  cases h with
  | error => cases hok
  | ok => rfl

theorem exists_ok (h : Ends good fault? result) (hnone : fault? = none) :
    ∃ value, good value ∧ result = .ok value := by
  cases h with
  | error => cases hnone
  | ok hgood => exact ⟨_, hgood, rfl⟩

/-- A value is there only if no fault is. -/
theorem and_eq_none (h : Ends good fault? result) :
    Ends (fun value ↦ fault? = none ∧ good value) fault? result := by
  cases h with
  | error fault => exact .error fault
  | ok hgood => exact .ok ⟨rfl, hgood⟩

/-- The value is the one the computation ends with. -/
theorem self (h : Ends good fault? result) : Ends (result = .ok ·) fault? result := by
  cases h with
  | error fault => exact .error fault
  | ok => exact .ok rfl

theorem map (h : Ends good fault? result) {f : α → β}
    (hf : ∀ value, good value → better (f value)) :
    Ends better fault? (result.map f) := by
  cases h with
  | error fault => exact .error fault
  | ok hgood => exact .ok (hf _ hgood)

/-- Less may be said of the value. -/
theorem imp (h : Ends good fault? result) {weaker : α → Prop}
    (hvalues : ∀ value, good value → weaker value) : Ends weaker fault? result := by
  cases h with
  | error fault => exact .error fault
  | ok hgood => exact .ok (hvalues _ hgood)

/-- Two computations that may only end with the same fault or the same value end alike. -/
theorem unique {value : α} {other : Except ε α} (h : Ends (· = value) fault? result)
    (hother : Ends (· = value) fault? other) : result = other := by
  obtain ⟨fault, hfault, rfl⟩ | ⟨hnone, _, rfl, rfl⟩ := h.error_or_ok
  · exact (hother.error_iff.2 hfault).symm
  · obtain ⟨_, rfl, rfl⟩ := hother.exists_ok hnone
    rfl

theorem mapError (h : Ends good fault? result) (f : ε → δ) :
    Ends good (fault?.map f) (result.mapError f) := by
  cases h with
  | error fault => exact .error (f fault)
  | ok hgood => exact .ok hgood

/-- **Two steps in a line.** -/
theorem bind {next : α → Except ε β} {then? : Option ε} (h : Ends good fault? result)
    (hnext : ∀ value, good value → Ends better then? (next value)) :
    Ends better (fault?.or then?) (result >>= next) := by
  cases h with
  | error fault => exact .error fault
  | ok hgood => exact hnext _ hgood

/-- **The steps over a list**, by induction on it. -/
theorem mapM {related : α → β → Prop} {fault? : α → Option ε} {step : α → Except ε β}
    {list : List α} (h : ∀ member ∈ list, Ends (related member) (fault? member) (step member)) :
    Ends (List.Forall₂ related list) (list.findSome? fault?) (list.mapM step) := by
  induction list with
  | nil => exact .ok .nil
  | cons first rest ih =>
    have hfirst := h first List.mem_cons_self
    -- the others are looked at only if the first member has no fault
    have hrest := ih fun member hmember ↦ h member (List.mem_cons_of_mem first hmember)
    rw [List.mapM_cons, List.findSome?_cons]
    revert hfirst
    generalize fault? first = cause?, step first = result
    rintro (fault | hvalue)
    · exact .error fault
    · exact hrest.map fun values hvalues ↦ .cons hvalue hvalues

/-- Where no member has a fault, the list has none. -/
theorem mapM_none {related : α → β → Prop} {step : α → Except ε β} {list : List α}
    (h : ∀ member ∈ list, Ends (related member) none (step member)) :
    Ends (List.Forall₂ related list) none (list.mapM step) := by
  have hnone : (list.findSome? fun _ ↦ (none : Option ε)) = none := by simp
  have hlist := Ends.mapM h
  rwa [hnone] at hlist

/-- Whatever a computation ends with, it ends with that. -/
theorem of_result (result : Except ε α) :
    Ends (result = .ok ·) (match result with | .error fault => some fault | .ok _ => none)
      result := by
  cases result with
  | error fault => exact .error fault
  | ok value => exact .ok rfl

end Ends

/-! ### Faults that are excluded -/

/-- The result is one of the faults allowed, or a value with the property. Which fault it is, and
whether it is one, is left open. -/
inductive Within (allowed : ε → Prop) (good : α → Prop) : Except ε α → Prop
  | error {fault : ε} (h : allowed fault) : Within allowed good (.error fault)
  | ok {value : α} (h : good value) : Within allowed good (.ok value)

namespace Within

variable {allowed : ε → Prop} {good : α → Prop} {better : β → Prop} {result : Except ε α}

theorem map (h : Within allowed good result) {f : α → β}
    (hf : ∀ value, good value → better (f value)) : Within allowed better (result.map f) := by
  rcases h with hfault | hvalue
  · exact .error hfault
  · exact .ok (hf _ hvalue)

theorem bind (h : Within allowed good result) {next : α → Except ε β}
    (hnext : ∀ value, good value → Within allowed better (next value)) :
    Within allowed better (result >>= next) := by
  rcases h with hfault | hvalue
  · exact .error hfault
  · exact hnext _ hvalue

theorem imp (h : Within allowed good result) {weaker : α → Prop}
    (hvalues : ∀ value, good value → weaker value) : Within allowed weaker result := by
  rcases h with hfault | hvalue
  · exact .error hfault
  · exact .ok (hvalues _ hvalue)

/-- The steps over a list, by induction on it. -/
theorem mapM {step : α → Except ε β} {list : List α}
    (h : ∀ member ∈ list, Within allowed better (step member)) :
    Within allowed (fun values ↦ ∀ value ∈ values, better value) (list.mapM step) := by
  induction list with
  | nil => exact .ok (List.forall_mem_nil _)
  | cons first rest ih =>
    have hrest := ih fun member hmember ↦ h member (List.mem_cons_of_mem first hmember)
    rw [List.mapM_cons]
    refine (h first List.mem_cons_self).bind fun value hvalue ↦ ?_
    exact hrest.bind fun values hvalues ↦ .ok (List.forall_mem_cons.2 ⟨hvalue, hvalues⟩)

/-- Where the fault is known, it is enough that this one is allowed. -/
theorem of_ends {fault? : Option ε} (h : Ends good fault? result)
    (hfault : ∀ fault, fault? = some fault → allowed fault) : Within allowed good result := by
  rcases h with fault | hvalue
  · exact .error (hfault fault rfl)
  · exact .ok hvalue

theorem good_of_ok (h : Within allowed good result) {value : α} (hok : result = .ok value) :
    good value := by
  subst hok
  rcases h with - | hgood
  exact hgood

theorem allowed_of_error (h : Within allowed good result) {fault : ε}
    (herror : result = .error fault) : allowed fault := by
  subst herror
  rcases h with hallowed | -
  exact hallowed

/-- A fault that is not allowed does not come about. -/
theorem ne_error (h : Within allowed good result) {fault : ε} (hfault : ¬allowed fault) :
    result ≠ .error fault :=
  fun herror ↦ hfault (h.allowed_of_error herror)

end Within

/-! ### Computations that have ended with a value -/

/-- A changed value comes from one that was there before the change. -/
theorem exists_of_map_eq_ok {result : Except ε α} {f : α → β} {value : β}
    (h : result.map f = .ok value) : ∃ first, result = .ok first ∧ f first = value := by
  cases result with
  | error fault => cases h
  | ok first => exact ⟨first, rfl, Except.ok.inj h⟩

/-- If two steps give a value, so does the first. -/
theorem exists_of_bind_eq_ok {result : Except ε α} {next : α → Except ε β} {value : β}
    (h : result >>= next = .ok value) : ∃ first, result = .ok first ∧ next first = .ok value := by
  cases result with
  | error fault => cases h
  | ok first => exact ⟨first, rfl, h⟩

theorem eq_ok_of_mapError_eq_ok {result : Except ε α} {f : ε → δ} {value : α}
    (h : result.mapError f = .ok value) : result = .ok value := by
  cases result with
  | error fault => cases h
  | ok first => exact congrArg Except.ok (Except.ok.inj h)

/-- What is related to members of a list is so to one for each of its own. -/
theorem exists_of_forall₂_of_mem {related : α → β → Prop} {list : List α} {values : List β}
    (h : List.Forall₂ related list values) {value : β} (hvalue : value ∈ values) :
    ∃ member ∈ list, related member value := by
  induction h with
  | nil => cases hvalue
  | @cons member first list values hfirst _ ih =>
    rcases List.mem_cons.1 hvalue with rfl | hrest
    · exact ⟨member, List.mem_cons_self, hfirst⟩
    · obtain ⟨other, hother, hrelated⟩ := ih hrest
      exact ⟨other, List.mem_cons_of_mem _ hother, hrelated⟩

/-- The values of the steps over a list are those of its members. -/
theorem forall₂_of_mapM {step : α → Except ε β} {list : List α} {values : List β}
    (h : list.mapM step = .ok values) :
    List.Forall₂ (fun member value ↦ step member = .ok value) list values :=
  (Ends.mapM fun member _ ↦ Ends.of_result (step member)).good_of_ok h

/-- The steps over a list come to values if each of them does. -/
theorem exists_mapM_eq_ok {step : α → Except ε β} {list : List α}
    (h : ∀ member ∈ list, ∃ value, step member = .ok value) :
    ∃ values, list.mapM step = .ok values := by
  have hends : ∀ member ∈ list, Ends (step member = .ok ·) none (step member) := by
    intro member hmember
    obtain ⟨value, hvalue⟩ := h member hmember
    rw [hvalue]
    exact .ok rfl
  obtain ⟨values, -, hvalues⟩ := (Ends.mapM_none hends).exists_ok rfl
  exact ⟨values, hvalues⟩

/-- Which values the steps over a list come to depends on which members it has. -/
theorem mem_iff_of_mapM {step : α → Except ε β} {list : List α} {values : List β}
    (h : list.mapM step = .ok values) {value : β} :
    value ∈ values ↔ ∃ member ∈ list, step member = .ok value := by
  have hvalues := forall₂_of_mapM h
  refine ⟨exists_of_forall₂_of_mem hvalues, ?_⟩
  rintro ⟨member, hmember, hvalue⟩
  obtain ⟨found, hfound, hstep⟩ := exists_of_forall₂_of_mem hvalues.flip hmember
  rwa [Except.ok.inj (hvalue.symm.trans hstep)]

end NoteChart
