import LayoutTree.Layout.Document

/-!
# Reading a layout document step by step

What it means that a part of a document is read, and what it means that it is refused: a sequence is
read if each of its parts is, and refused by the first part that is (`bind_eq_ok`,
`bind_eq_error`); `within` moves a violation one step out and leaves what is read as it is.
-/

namespace LayoutTree.Document

variable {α β : Type}

theorem bind_eq_ok {r : Except Violation α} {f : α → Except Violation β} {b : β} :
    (r >>= f) = .ok b ↔ ∃ a, r = .ok a ∧ f a = .ok b := by
  cases r <;> simp [bind, Except.bind]

theorem bind_eq_error {r : Except Violation α} {f : α → Except Violation β} {v : Violation} :
    (r >>= f) = .error v ↔ r = .error v ∨ ∃ a, r = .ok a ∧ f a = .error v := by
  cases r <;> simp [bind, Except.bind]

theorem within_eq_ok {step : Step} {r : Except Violation α} {a : α} :
    within step r = .ok a ↔ r = .ok a := by
  cases r with
  | ok b => exact Iff.rfl
  | error u => exact iff_of_false (fun h => by cases h) fun h => by cases h

theorem within_eq_error {step : Step} {r : Except Violation α} {v : Violation} :
    within step r = .error v ↔ ∃ u, r = .error u ∧ u.within step = v := by
  cases r with
  | ok b =>
    refine iff_of_false (fun h => by cases h) ?_
    rintro ⟨u, h, -⟩
    cases h
  | error u =>
    constructor
    · intro h
      exact ⟨u, rfl, Except.error.inj h⟩
    · rintro ⟨u', h, rfl⟩
      rw [Except.error.inj h]
      rfl

/-- The children of a control are the controls at its field `children`. -/
theorem readChildren_eq (fields : List (String × Data)) : readChildren fields =
    match Data.field? fields "children" with
    | none => .ok []
    | some v => within (.field "children") (readControls v) := by
  induction fields with
  | nil => rw [readChildren, Data.field?, List.lookup_nil]
  | cons f rest ih =>
    obtain ⟨name, v⟩ := f
    rw [readChildren, Data.field?, List.lookup_cons]
    by_cases h : name = "children"
    · subst h
      simp
    · rw [if_neg h, beq_eq_false_iff_ne.2 (Ne.symm h), ih]
      rfl

end LayoutTree.Document
