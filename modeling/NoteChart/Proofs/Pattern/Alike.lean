import NoteChart.Proofs.PatternText.WellFormed

/-!
# Patterns that are alike

Two rows are alike when they hold the same notes, in whatever order and however often, and reserve
the same steps. All that goes through a pattern goes through its rows as they are stored, and sees
order and repetition. What is told of a pattern in the end does not: it is a sum over steps, a
greatest column or whether there is a note at all, and none of these asks more of the notes than
which there are (`mem_notes_iff_of_alike`).

The greatest column is a fold. It is known by what bounds it (`highestColumn_le_iff`), and the
bounds are the same for the same set of notes.
-/

namespace NoteChart

/-! ### Rows -/

namespace Row

variable {a b c : Row}

theorem within_iff : a.within b ↔ ∀ note ∈ a.notes, note ∈ b.notes := by
  simp [within]

/-- Rows are alike for their sets of notes and their reserved steps, and for nothing else. -/
theorem alike_iff :
    a.alike b ↔ (∀ note, note ∈ a.notes ↔ note ∈ b.notes) ∧ a.reserved = b.reserved := by
  rw [alike, Bool.and_eq_true, Bool.and_eq_true, within_iff, within_iff, beq_iff_eq]
  exact and_congr_left fun _ ↦ ⟨fun h note ↦ ⟨h.1 note, h.2 note⟩,
    fun h ↦ ⟨fun note ↦ (h note).1, fun note ↦ (h note).2⟩⟩

theorem alike_equivalence : Equivalence fun a b : Row ↦ (a.alike b : Prop) where
  refl _ := alike_iff.2 ⟨fun _ ↦ Iff.rfl, rfl⟩
  symm h := by
    obtain ⟨hnotes, hreserved⟩ := alike_iff.1 h
    exact alike_iff.2 ⟨fun note ↦ (hnotes note).symm, hreserved.symm⟩
  trans h hnext := by
    obtain ⟨hnotes, hreserved⟩ := alike_iff.1 h
    obtain ⟨hmore, hsame⟩ := alike_iff.1 hnext
    exact alike_iff.2 ⟨fun note ↦ (hnotes note).trans (hmore note), hreserved.trans hsame⟩

end Row

/-! ### Patterns -/

namespace Pattern

variable {a b : Pattern}

/-- Patterns are alike row by row. -/
theorem alike_iff : a.alike b ↔ List.Forall₂ (fun row other ↦ row.alike other) a.rows b.rows := by
  simp [alike, List.forall₂_iff_zip]

/-- Rows that are alike one by one make one set of notes. -/
theorem mem_notes_iff_of_alike (h : a.alike b) (note : Note) : note ∈ a.notes ↔ note ∈ b.notes := by
  have hrows := alike_iff.1 h
  rw [notes, notes]
  generalize a.rows = rows, b.rows = others at hrows ⊢
  induction hrows with
  | nil => rfl
  | cons hrow _ ih =>
    rw [List.flatMap_cons, List.flatMap_cons, List.mem_append, List.mem_append]
    exact or_congr ((Row.alike_iff.1 hrow).1 note) ih

theorem rowCount_of_alike (h : a.alike b) : a.rowCount = b.rowCount := by
  have hrows := alike_iff.1 h
  rw [rowCount, rowCount]
  generalize a.rows = rows, b.rows = others at hrows ⊢
  induction hrows with
  | nil => rfl
  | cons hrow _ ih => rw [List.foldr_cons, List.foldr_cons, (Row.alike_iff.1 hrow).2, ih]

/-- A bound on the highest column is a bound on the column of every note. -/
theorem highestColumn_le_iff {pattern : Pattern} {keymode bound : Int} :
    pattern.highestColumn keymode ≤ bound ↔
      -1 ≤ bound ∧ ∀ note ∈ pattern.notes, note.lane.columnIn keymode ≤ bound := by
  rw [highestColumn, List.foldl_max_le_iff, List.forall_mem_map]

theorem columnIn_le_highestColumn {pattern : Pattern} {note : Note} (hnote : note ∈ pattern.notes)
    (keymode : Int) : note.lane.columnIn keymode ≤ pattern.highestColumn keymode :=
  (highestColumn_le_iff.1 le_rfl).2 note hnote

/-- The highest column does not tell alike patterns apart, since it is known by its bounds. -/
theorem highestColumn_of_alike (h : a.alike b) (keymode : Int) :
    a.highestColumn keymode = b.highestColumn keymode := by
  refine eq_of_forall_ge_iff fun bound ↦ ?_
  simp only [highestColumn_le_iff, mem_notes_iff_of_alike h]

theorem keymodeGuess_of_alike (h : a.alike b) : a.keymodeGuess = b.keymodeGuess :=
  congrArg keymodeFor (highestColumn_of_alike h 4)

/-- A pattern without a note is empty to the eye, however many rows it has. -/
theorem isVisuallyEmpty_iff (pattern : Pattern) : pattern.isVisuallyEmpty ↔ pattern.notes = [] := by
  simp [isVisuallyEmpty, noteCount]

theorem isVisuallyEmpty_of_alike (h : a.alike b) : a.isVisuallyEmpty = b.isVisuallyEmpty := by
  rw [Bool.eq_iff_iff, isVisuallyEmpty_iff, isVisuallyEmpty_iff, List.eq_nil_iff_forall_not_mem,
    List.eq_nil_iff_forall_not_mem]
  simp only [mem_notes_iff_of_alike h]

end Pattern

end NoteChart
