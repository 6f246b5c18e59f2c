import LayoutTree.Property.Validator

/-!
# The verdict of a chain of validators

What a chain of validators finds about a raw value is what each of them says, one after the other
(`validate_eq`). A validator that fails itself says exactly one thing, an error. So the chain blocks
a value exactly if one of its members objects to it (`isValid_validate_iff`), in whatever order they
stand.
-/

namespace LayoutTree.Validator

variable (v : Validator) (scope : ValidationScope) (n : Node) (name value : String)

/-- The error about a validator that fails itself. -/
def failureText (message : String) : String := "Error in validator " ++ v.name ++ ": " ++ message

/-- The errors that a validator comes to. -/
def errorsOn : List String :=
  match v.applies n.cls name with
  | .error message => [v.failureText message]
  | .ok false => []
  | .ok true =>
    match v.check scope n name value with
    | .error message => [v.failureText message]
    | .ok found => found.errors

/-- The warnings that a validator comes to. -/
def warningsOn : List String :=
  match v.applies n.cls name with
  | .error _ => []
  | .ok false => []
  | .ok true =>
    match v.check scope n name value with
    | .error _ => []
    | .ok found => found.warnings

/-- A validator objects to a raw value: it fails, or it applies and reports an error. -/
inductive Objects : Prop
  | failsToApply {message : String} (applies : v.applies n.cls name = .error message)
  | failsToCheck {message : String} (applies : v.applies n.cls name = .ok true)
    (check : v.check scope n name value = .error message)
  | reports {found : Validation} (applies : v.applies n.cls name = .ok true)
    (check : v.check scope n name value = .ok found) (errors : found.errors ≠ [])

theorem contribution_eq : v.contribution scope n name value =
    ⟨v.errorsOn scope n name value, v.warningsOn scope n name value⟩ := by
  rw [contribution, run, errorsOn, warningsOn]
  cases v.applies n.cls name with
  | error message => rfl
  | ok applies =>
    cases applies with
    | false => rfl
    | true => cases v.check scope n name value <;> rfl

theorem objects_iff :
    v.Objects scope n name value ↔ v.errorsOn scope n name value ≠ [] := by
  rw [errorsOn]
  cases happlies : v.applies n.cls name with
  | error message => exact iff_of_true (.failsToApply happlies) (List.cons_ne_nil _ _)
  | ok applies =>
    cases applies with
    | false =>
      refine iff_of_false (fun h => ?_) (absurd rfl)
      cases h with
      | failsToApply h => cases happlies.symm.trans h
      | failsToCheck h _ => cases happlies.symm.trans h
      | reports h _ _ => cases happlies.symm.trans h
    | true =>
      cases hcheck : v.check scope n name value with
      | error message => exact iff_of_true (.failsToCheck happlies hcheck) (List.cons_ne_nil _ _)
      | ok found =>
        refine ⟨fun h => ?_, .reports happlies hcheck⟩
        cases h with
        | failsToApply h => cases happlies.symm.trans h
        | failsToCheck _ h => cases hcheck.symm.trans h
        | reports _ h errors => exact Except.ok.inj (hcheck.symm.trans h) ▸ errors

/-- **A chain** finds what its members say, in their order. -/
theorem validate_eq (validators : Chain Validator) : validate validators scope n name value =
    ⟨validators.members.flatMap fun v => v.errorsOn scope n name value,
      validators.members.flatMap fun v => v.warningsOn scope n name value⟩ := by
  have hfold : ∀ (vs : List Validator) (found : Validation),
      vs.foldl (fun found v => found.merge (v.contribution scope n name value)) found =
        found.merge ⟨vs.flatMap fun v => v.errorsOn scope n name value,
          vs.flatMap fun v => v.warningsOn scope n name value⟩ := by
    intro vs
    induction vs with
    | nil => exact fun found => found.merge_clean.symm
    | cons v vs ih =>
      intro found
      rw [List.foldl_cons, ih, contribution_eq]
      simp only [Validation.merge, List.flatMap_cons, List.append_assoc]
  exact hfold _ _

/-- **A chain blocks** a raw value exactly if one of its members objects to it. -/
theorem isValid_validate_iff (validators : Chain Validator) :
    (validate validators scope n name value).isValid = true ↔
      ∀ v ∈ validators.members, ¬ v.Objects scope n name value := by
  simp only [validate_eq, Validation.isValid, List.isEmpty_iff, List.flatMap_eq_nil_iff,
    objects_iff, ne_eq, Decidable.not_not]

end LayoutTree.Validator
