import LayoutTree.Conversion.Engine

/-!
# Conversions that end in an undocumented way

A conversion is documented to have a value or to report a failed conversion (`Documented`). Any
other end comes from the type and not from the text. What matters is what stands in the type
(`StandsIn`):

* a type with a note in it cannot be looked up (`isKey_iff`), which shows where the zero of the type
  is asked for;
* the zero of a class may be an object that cannot be made;
* nothing is known about the values of a plain class, or of a name that stands for nothing, where
  one stands in a type that no converter serves (`fault?_eq_none_iff`).

The main statement, `documented_convert_iff`, says that there is nothing else.
-/

namespace LayoutTree

namespace Target

/-! ## What stands in a type -/

/-- The types that a type is made of. -/
def parts : Target → List Target
  | .list item | .set item => [item]
  | .tuple items => items
  | .dict key value => [key, value]
  | .union members => members
  | .annotated base => [base]
  | _ => []

/-- A type is the other type itself, or stands in one that the other is made of. -/
inductive StandsIn (t : Target) : Target → Prop
  | self : StandsIn t t
  | inside {part whole : Target} (hpart : part ∈ whole.parts) (h : StandsIn t part) :
    StandsIn t whole

/-- Some type with a property stands in the type. -/
def Has (P : Target → Prop) (t : Target) : Prop := ∃ u, P u ∧ StandsIn u t

/-- A property stands in a type if the type has it, or in one of the types that it is made of. -/
theorem has_iff {P : Target → Prop} {t : Target} :
    Has P t ↔ P t ∨ ∃ part ∈ t.parts, Has P part := by
  constructor
  · rintro ⟨u, hu, h⟩
    cases h with
    | self => exact .inl hu
    | inside hpart h => exact .inr ⟨_, hpart, u, hu, h⟩
  · rintro (h | ⟨part, hpart, u, hu, h⟩)
    · exact ⟨t, h, .self⟩
    · exact ⟨u, hu, .inside hpart h⟩

theorem has_of_parts_eq_nil {P : Target → Prop} {t : Target} (h : t.parts = []) :
    Has P t ↔ P t := by
  rw [has_iff, h]
  simp

/-! ## Types that cannot be looked up -/

/-- A type is one with a note. -/
def IsNoted (t : Target) : Prop := ∃ base, t = .annotated base

mutual

theorem isKey_iff (t : Target) : t.isKey = true ↔ ¬ t.Has IsNoted := by
  rw [has_iff]
  cases t with
  | annotated base => simp [isKey, IsNoted]
  | list item | set item => simp [isKey, isKey_iff item, parts, IsNoted]
  | tuple items | union items => simp [isKey, areKeys_iff items, parts, IsNoted]
  | dict key value => simp [isKey, isKey_iff key, isKey_iff value, parts, IsNoted]
  | _ => simp [isKey, parts, IsNoted]

theorem areKeys_iff (ts : List Target) : areKeys ts = true ↔ ∀ t ∈ ts, ¬ t.Has IsNoted := by
  cases ts with
  | nil => exact iff_of_true rfl nofun
  | cons t ts => rw [areKeys, Bool.and_eq_true, isKey_iff t, areKeys_iff ts, List.forall_mem_cons]

end

/-! ## Types about whose values nothing is known -/

/-- A type is a class that nothing else is known about, or a name that stands for nothing. -/
def IsUnknown : Target → Prop
  | .kind .. => True
  | .undefined _ => True
  | _ => False

end Target

namespace Structural

mutual

/-- There is no fault in a type that can be looked up exactly where nothing in it is unknown. -/
theorem fault?_eq_none_iff (t : Target) (hkey : t.isKey = true) :
    fault? t = none ↔ ¬ t.Has Target.IsUnknown := by
  rw [Target.has_iff]
  cases t with
  | annotated base => cases hkey
  | list item | set item =>
    simp [fault?, fault?_eq_none_iff item hkey, Target.parts, Target.IsUnknown]
  | tuple items | union items =>
    simp [fault?, firstFault?_eq_none_iff items hkey, Target.parts, Target.IsUnknown]
  | dict key value =>
    rw [Target.isKey, Bool.and_eq_true] at hkey
    simp [fault?, fault?_eq_none_iff key hkey.1, fault?_eq_none_iff value hkey.2, Target.parts,
      Target.IsUnknown]
  | _ => simp [fault?, Target.parts, Target.IsUnknown]

theorem firstFault?_eq_none_iff (ts : List Target) (hkeys : Target.areKeys ts = true) :
    firstFault? ts = none ↔ ∀ t ∈ ts, ¬ t.Has Target.IsUnknown := by
  cases ts with
  | nil => exact iff_of_true rfl nofun
  | cons t ts =>
    rw [Target.areKeys, Bool.and_eq_true] at hkeys
    rw [firstFault?, Option.or_eq_none_iff, fault?_eq_none_iff t hkeys.1,
      firstFault?_eq_none_iff ts hkeys.2, List.forall_mem_cons]

end

end Structural

/-! ## The ends of a conversion -/

/-- A converter of the library claims only types that nothing else stands in, and that are known. -/
theorem Converter.not_has_isUnknown_of_claims {c : Converter} (hc : c ∈ standard.members)
    {t : Target} (h : c.claims t = true) : ¬ t.Has Target.IsUnknown := by
  have hclaimed : standard.members.any (·.claims t) = true := List.any_eq_true.2 ⟨c, hc, h⟩
  cases t with
  | list | set | tuple | dict | union | annotated | kind | undefined => cases hclaimed
  | _ =>
    rw [Target.has_of_parts_eq_nil rfl]
    exact id

namespace Conversion

/-- The documented ends: a value, or a failed conversion that is reported. -/
def Documented (r : Except ConversionFault Value) : Prop :=
  (∃ v, r = .ok v) ∨ ∃ e, r = .error (.failure e)

theorem documented_ok (v : Value) : Documented (.ok v) := .inl ⟨v, rfl⟩

theorem documented_failure (e : ConversionFailure) : Documented (.error (.failure e)) :=
  .inr ⟨e, rfl⟩

theorem documented_error_iff {fault : ConversionFault} :
    Documented (.error fault) ↔ ∃ e, fault = .failure e := by
  simp [Documented]

/-! ## The empty text -/

/-- A type has a zero unless it cannot be looked up or an object of the class cannot be made. -/
theorem documented_zero_iff (t : Target) :
    Documented t.zero ↔
      ¬ t.Has Target.IsNoted ∧ ∀ name message, t ≠ .kind name (.fails message) := by
  rw [Target.zero]
  split
  · next hkey =>
    rw [and_iff_right ((Target.isKey_iff t).1 hkey)]
    cases t with
    | kind name construction =>
      cases construction with
      | fails message =>
        exact iff_of_false (fun h => by simpa using documented_error_iff.1 h) fun h => h _ _ rfl
      | _ => exact iff_of_true (documented_ok _) nofun
    | enumeration e =>
      rw [Target.zeroOfKey]
      exact iff_of_true (by split <;> exact documented_ok _) nofun
    | _ => exact iff_of_true (documented_ok _) nofun
  · next hkey =>
    refine iff_of_false (fun h => by simpa using documented_error_iff.1 h) fun h => hkey ?_
    exact (Target.isKey_iff t).2 h.1

/-! ## Other texts -/

theorem documented_mapError (value : String) (t : Target) (r : Except Refusal Value) :
    Documented (r.mapError (faultOf value t)) := by
  cases r with
  | ok v => exact documented_ok v
  | error refusal => cases refusal <;> exact documented_failure _

theorem documented_structural (value : String) (t : Target) :
    Documented (Structural.convert value t) := by
  rw [Structural.convert]
  split
  · exact documented_ok _
  · split
    · exact documented_ok _
    · exact documented_failure _

mutual

/-- The faults of a type are no failed conversions. -/
theorem not_documented_of_fault {fault : ConversionFault} (t : Target)
    (h : Structural.fault? t = some fault) : ¬ Documented (.error fault) := by
  cases t with
  | kind | undefined =>
    cases h
    exact fun h => by simpa using documented_error_iff.1 h
  | list item | set item => exact not_documented_of_fault item h
  | tuple items => exact not_documented_of_firstFault items h
  | dict key value =>
    rcases Option.or_eq_some_iff.1 h with h | ⟨-, h⟩
    · exact not_documented_of_fault key h
    · exact not_documented_of_fault value h
  | union members => exact not_documented_of_firstFault members h
  | _ => cases h

theorem not_documented_of_firstFault {fault : ConversionFault} (ts : List Target)
    (h : Structural.firstFault? ts = some fault) : ¬ Documented (.error fault) := by
  cases ts with
  | nil => cases h
  | cons t ts =>
    rcases Option.or_eq_some_iff.1 h with h | ⟨-, h⟩
    · exact not_documented_of_fault t h
    · exact not_documented_of_firstFault ts h

end

/-- A text that is not empty is converted in a documented way unless its type can be looked up and
nothing is known about some type in it. -/
theorem documented_apply_iff (value : String) (t : Target) :
    Documented (apply (find? Converter.standard t) value t) ↔
      (¬ t.Has Target.IsNoted → ¬ t.Has Target.IsUnknown) := by
  cases hfind : find? Converter.standard t with
  | some c =>
    have hmem : c ∈ Converter.standard.members :=
      List.mem_of_find?_eq_some (p := fun c : Converter => c.claims t) hfind
    have hclaims : c.claims t = true := List.find?_some (p := fun c : Converter => c.claims t) hfind
    exact iff_of_true (documented_mapError value t _)
      fun _ => Converter.not_has_isUnknown_of_claims hmem hclaims
  | none =>
    rw [apply, ← Target.isKey_iff]
    cases hkey : t.isKey with
    | false => exact iff_of_true (documented_failure _) nofun
    | true =>
      rw [forall_prop_of_true rfl, ← Structural.fault?_eq_none_iff t hkey]
      cases hfault : Structural.fault? t with
      | none => exact iff_of_true (documented_structural value t) rfl
      | some fault => exact iff_of_false (not_documented_of_fault t hfault) nofun

/-- **Which conversions end as documented**, for any raw value and any type, absence aside: for no
value or the empty text, those to a type without a note in it, other than a class whose objects
cannot be made; for any other text, those to a type with a note in it or nothing unknown in it. -/
theorem documented_convert_iff (value : Option String) (t : Target) :
    Documented (convert Converter.standard value t) ↔
      if value.getD "" = "" then
        ¬ t.unwrapped.Has Target.IsNoted ∧ ∀ name message, t.unwrapped ≠ .kind name (.fails message)
      else ¬ t.unwrapped.Has Target.IsNoted → ¬ t.unwrapped.Has Target.IsUnknown := by
  rw [convert]
  generalize t.unwrapped = t
  cases value with
  | none => exact documented_zero_iff t
  | some value =>
    rw [convertWith, Option.getD_some]
    by_cases hempty : value = ""
    · rw [if_pos hempty, if_pos (String.isEmpty_iff.2 hempty)]
      exact documented_zero_iff t
    · rw [if_neg hempty, if_neg (mt String.isEmpty_iff.1 hempty)]
      split
      · next hany =>
        refine iff_of_true (documented_ok _) fun _ => ?_
        rcases hany with rfl | rfl <;>
        · rw [Target.has_of_parts_eq_nil rfl]
          exact id
      · exact documented_apply_iff value t

/-- A text that is converted to a plain class: nothing is known about the values of the class, which
is not reported as a failed conversion. -/
theorem not_documented_plainClass :
    ¬ ∀ (value : Option String) (t : Target), Documented (convert Converter.standard value t) := by
  intro hall
  have hend : convert Converter.standard (some "x") (.kind "StackPanel" .object) =
      .error (.noSchema "StackPanel") := rfl
  obtain ⟨e, he⟩ := documented_error_iff.1 (hend ▸ hall (some "x") (.kind "StackPanel" .object))
  cases he

end Conversion

end LayoutTree
