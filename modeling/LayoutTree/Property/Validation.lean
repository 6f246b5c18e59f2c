/-!
# Outcomes of validation

What is wrong with a raw value: errors, which block it, and warnings, which do not.
-/

namespace LayoutTree

/-- The errors and warnings about a raw value. -/
structure Validation where
  /-- What blocks the value. -/
  errors : List String
  /-- What should be looked at. -/
  warnings : List String
  deriving DecidableEq, Repr

namespace Validation

/-- Nothing is wrong. -/
def clean : Validation := ⟨[], []⟩

/-- Whether nothing blocks the value. -/
def isValid (v : Validation) : Bool := v.errors.isEmpty

/-- The outcome with one more error. -/
def addError (v : Validation) (message : String) : Validation :=
  { v with errors := v.errors ++ [message] }

/-- The outcome with one more warning. -/
def addWarning (v : Validation) (message : String) : Validation :=
  { v with warnings := v.warnings ++ [message] }

/-- Two outcomes together. -/
def merge (v w : Validation) : Validation :=
  ⟨v.errors ++ w.errors, v.warnings ++ w.warnings⟩

theorem isValid_merge (v w : Validation) : (v.merge w).isValid = (v.isValid && w.isValid) := by
  simp only [merge, isValid]
  cases v.errors <;> simp

theorem merge_clean (v : Validation) : v.merge clean = v := by
  simp [merge, clean]

end Validation

end LayoutTree
