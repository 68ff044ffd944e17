import NoteChart.Proofs.Layout.Placement

/-!
# Charts whose numbers run out

Limits are there to refuse a chart that is too large, and a chart can grow out of the doubles before
it reaches them. The canvas is measured first and compared with its limits afterwards, and a number
without a double ends the measuring. `Overflows` says of which charts this is true. It is the only
way in which drawing ends with a fault that is no refusal (`draw_error_iff`).
-/

namespace NoteChart

/-- The fault is one of arithmetic. -/
def Fault.IsArithmetic (fault : Fault) : Prop := fault = .numberTooLarge ∨ fault = .notANumber

/-- Faults of arithmetic answer nobody. -/
theorem Fault.IsArithmetic.isRefusal {fault : Fault} (h : fault.IsArithmetic) :
    fault.isRefusal = false := by
  obtain rfl | rfl := h <;> rfl

/-- An offset has no pixel for reasons of arithmetic only. -/
theorem Layout.isArithmetic_of_pixelFault? {height : Binary64} {offset : Nat} {fault : Fault}
    (h : pixelFault? height offset = some fault) : fault.IsArithmetic := by
  rw [pixelFault?] at h
  split at h
  · cases h
    exact .inl rfl
  · rcases height with - | negative | ⟨negative, units⟩ <;> rw [scaledFault?] at h
    · cases h
      exact .inr rfl
    · split at h <;> cases h
      · exact .inr rfl
      · exact .inl rfl
    · split at h <;> cases h
      exact .inl rfl

namespace Recipe

variable {recipe : Recipe} {fault : Fault}

theorem isArithmetic_of_snapFault? (h : recipe.snapFault? = some fault) :
    fault.IsArithmetic := by
  rw [snapFault?] at h
  split at h <;> cases h
  exact .inl rfl

/-- The numbers of a chart lead out of the doubles: all its snap numbers do, so that its rows have
no height, or the pixel of its last row does. -/
def Overflows (recipe : Recipe) (fault : Fault) : Prop :=
  recipe.snapFault? = some fault ∨
    ∃ layout, recipe.layout = .ok layout ∧
      Layout.pixelFault? layout.rowHeight recipe.lastOffset = some fault

/-- Numbers run out as faults of arithmetic only. -/
theorem Overflows.isArithmetic (h : recipe.Overflows fault) : fault.IsArithmetic := by
  obtain hsnap | ⟨layout, -, hpixel⟩ := h
  · exact isArithmetic_of_snapFault? hsnap
  · exact Layout.isArithmetic_of_pixelFault? hpixel

/-- The canvas of a layout cannot be drawn for want of a number exactly where the last row has no
pixel. -/
theorem LaidOut.draw_error_iff {layout : Layout} (h : recipe.LaidOut layout)
    (hskin : recipe.skin.WellFormed) (maxWidth maxHeight : Int) :
    layout.draw maxWidth maxHeight = .error fault ∧ fault.isRefusal = false ↔
      Layout.pixelFault? layout.rowHeight recipe.lastOffset = some fault := by
  obtain ⟨cause, hcause, herror⟩ | ⟨hnone, ⟨width, height⟩, -, hsize⟩ :=
    h.ends_canvasSize.error_or_ok
  · have hdraw : layout.draw maxWidth maxHeight = .error cause := by
      rw [Layout.draw, herror]
      rfl
    rw [hdraw, hcause, Except.error.injEq, Option.some.injEq]
    exact and_iff_left_of_imp fun heq ↦ heq ▸ (Layout.isArithmetic_of_pixelFault? hcause).isRefusal
  -- a canvas that can be measured is at worst too large, and that is a refusal
  · rw [(h.ends_draw hskin hsize maxWidth maxHeight).error_iff, hnone]
    refine iff_of_false ?_ (by simp)
    rintro ⟨hlarge, hrefusal⟩
    split at hlarge <;> cases hlarge
    cases hrefusal

/-- **Drawing** ends with a refusal, unless the numbers of a chart that is not refused run out. -/
theorem draw_error_iff (hskin : recipe.skin.WellFormed) (hkeymode : 0 < recipe.keymode)
    (hzoom : recipe.zoom.isNonpositive = false) :
    recipe.draw = .error fault ∧ fault.isRefusal = false ↔
      recipe.refusal? = none ∧ recipe.Overflows fault := by
  obtain ⟨cause, hcause, herror⟩ | ⟨hnone, layout, h, hok⟩ :=
    (ends_layout_of_pos hskin hkeymode hzoom).error_or_ok
  · have hdraw : recipe.draw = .error cause := by
      rw [Recipe.draw, herror]
      rfl
    rw [hdraw, Except.error.injEq]
    -- no layout: the chart is refused, or its rows have no height
    rcases Option.or_eq_some_iff.1 hcause with hrefused | ⟨hrefused, hsnap⟩
    · have hrefusal := isRefusal_of_refusal? hrefused
      refine iff_of_false ?_ (by simp [hrefused])
      rintro ⟨rfl, hnot⟩
      rw [hrefusal] at hnot
      cases hnot
    · simp only [hrefused, true_and, Overflows, hsnap, herror, Option.some.injEq, reduceCtorEq,
        false_and, exists_false, or_false]
      exact and_iff_left_of_imp fun heq ↦ heq ▸ (isArithmetic_of_snapFault? hsnap).isRefusal
  · obtain ⟨hrefused, hsnap⟩ := Option.or_eq_none_iff.1 hnone
    have hdraw : recipe.draw = layout.draw recipe.maxWidth recipe.maxHeight := by
      rw [Recipe.draw, hok]
      rfl
    rw [hdraw, h.draw_error_iff hskin]
    simp [Overflows, hrefused, hsnap, hok]

end Recipe

end NoteChart
