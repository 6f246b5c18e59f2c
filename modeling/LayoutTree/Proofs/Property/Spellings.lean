import LayoutTree.Proofs.Property.Bounds

/-!
# Spellings of attached properties

An attached property can be named in several ways: a name is matched without regard to case and
underscores, and some properties go by a short name as well as by the qualified one. The setter
treats all spellings alike. The validators of the library do not: they know a range for the short
names `x` and `y`, and none for `canvas.left` and `canvas.top`.

So what validation asks of a raw value depends on the key of the name (`isValid_validate_attached`).
The main statement is `isValid_spellings_iff`: two spellings of a property are validated alike
exactly if they have one key, or the property is not one of those two, or the raw value is a
position or is refused under both.
-/

namespace LayoutTree

open LayoutTree.Text LayoutTree.Number LayoutTree.Setter

namespace Validator

/-! ## What the validators of the library know of attached properties -/

/-- The attached property that a name stands for. -/
def attachedName? (name : String) : Option String :=
  (attachedProperties.lookup (propertyKey name)).map Prod.fst

/-- The keys of attached properties that have a range. -/
def positionKeys : List String := ["x", "y"]

/-- Their range. -/
def positions : NumberRange := .ofInts (-10000) 10000

/-- A raw value is blank, or it is read as a number of the range. -/
def IsPosition (value : String) : Prop :=
  isBlankString value = true ∨ ∃ x, readDouble value = .ok x ∧ positions.Contains x

/-- A raw value has a sign of a script. -/
def HasScript (value : String) : Prop :=
  ∃ sign ∈ scriptSigns, hasInfix sign.toList (fold value.toList) = true

theorem lookup_standardRanges {key : String} (h : key ∈ attachedProperties.map Prod.fst) :
    standardRanges.lookup key = if key ∈ positionKeys then some positions else none := by
  simp only [attachedProperties, List.map_cons, List.map_nil, List.mem_cons, List.not_mem_nil,
    or_false] at h
  rcases h with rfl | rfl | rfl | rfl | rfl | rfl | rfl | rfl | rfl | rfl | rfl | rfl | rfl | rfl |
    rfl | rfl | rfl <;> rfl

/-- No other validator that depends on the key knows an attached property. -/
theorem not_mem_keys {key : String} (h : key ∈ attachedProperties.map Prod.fst) :
    key ∉ standardLimits.keys ∧ key ∉ pathKeys ∧
      (boundPairs.any fun pair => pair.1 = key || pair.2 = key) = false ∧ key ≠ dataContextKey := by
  revert key
  decide

/-- No class of the library declares a property with the key of an attached one. -/
theorem enumeration?_of_attached {c : NodeClass} (hc : c ∈ NodeClass.widgets) {name : String}
    (h : propertyKey name ∈ attachedProperties.map Prod.fst) : enumeration? c name = none := by
  have hall : ∀ c ∈ NodeClass.widgets, ∀ key ∈ attachedProperties.map Prod.fst,
      c.accessors.lookup key = none := by decide +kernel
  rw [enumeration?, NodeClass.accessor?, hall c hc _ h]
  rfl

/-- The validators that only know other properties. -/
def othersOfStandard : List Validator := [textLength "StringLengthValidator" standardLimits,
  imagePath "FilePathValidator" none, boundOrder, membership, dataContext]

theorem isValid_othersOfStandard (scope : ValidationScope) {n : Node}
    (hn : n.cls ∈ NodeClass.widgets) {name : String}
    (h : propertyKey name ∈ attachedProperties.map Prod.fst) (value : String) :
    ∀ v ∈ othersOfStandard, (v.contribution scope n name value).isValid = true := by
  obtain ⟨hlength, hpath, hbounds, hcontext⟩ := not_mem_keys h
  have happlies : ∀ v ∈ othersOfStandard, v.applies n.cls name = .ok false := by
    simp [othersOfStandard, textLength, imagePath, boundOrder, membership, dataContext, ofCheck,
      hlength, hpath, hbounds, hcontext, enumeration?_of_attached hn h]
  intro v hv
  rw [contribution, run, happlies v hv]
  rfl

theorem isValid_checkRange_iff (name value : String) :
    (checkRange name positions value).isValid = true ↔ IsPosition value := by
  refine ⟨Build.blank_or_number_of_checkRange, ?_⟩
  rintro (hblank | ⟨x, hread, hlow, hhigh⟩)
  · rw [checkRange, if_pos hblank]
    rfl
  · rw [checkRange]
    split
    · rfl
    · simp only [hread, Except.toOption, hlow, hhigh, Bool.and_self, Bool.not_true,
        Bool.false_eq_true, if_false]
      split <;> rfl

theorem isValid_checkInjection_iff (name value : String) :
    (checkInjection name value).isValid = true ↔ ¬ HasScript value := by
  simp [checkInjection, Validation.isValid, HasScript]

/-- **What validation asks of a raw value** for an attached property: that it has no sign of a
script and, if the name is a short name of a position, that it is a position. -/
theorem isValid_validate_attached (scope : ValidationScope) {n : Node}
    (hn : n.cls ∈ NodeClass.widgets) {name : String}
    (h : propertyKey name ∈ attachedProperties.map Prod.fst) (value : String) :
    (validate standard scope n name value).isValid = true ↔
      ¬ HasScript value ∧ (propertyKey name ∈ positionKeys → IsPosition value) := by
  have hrange : ((numericRange "NumericRangeValidator" standardRanges).contribution scope n name
      value).isValid = true ↔ (propertyKey name ∈ positionKeys → IsPosition value) := by
    simp only [contribution, run, numericRange, ofCheck, lookup_standardRanges h]
    by_cases hkey : propertyKey name ∈ positionKeys
    · simp only [hkey, if_true, Option.isSome_some, true_implies]
      exact isValid_checkRange_iff name value
    · simp only [hkey, if_false, Option.isSome_none, false_implies, iff_true]
      rfl
  have hscript : (injection.contribution scope n name value).isValid = true ↔ ¬ HasScript value :=
    isValid_checkInjection_iff name value
  -- Of the seven validators of the library, five say nothing of attached properties.
  have hothers := isValid_othersOfStandard scope hn h value
  simp only [othersOfStandard, List.forall_mem_cons, List.not_mem_nil, false_implies,
    implies_true, and_true] at hothers
  obtain ⟨hlength, hpath, hbounds, hmembers, hcontext⟩ := hothers
  rw [Build.isValid_validate]
  simp only [standard, List.all_cons, List.all_nil, hlength, hpath, hbounds, hmembers, hcontext,
    Bool.and_true, Bool.true_and, Bool.and_eq_true, hrange, hscript]
  exact and_comm

/-! ## Two spellings -/

/-- The attached properties that have short names with a range. -/
def positionNames : List String := ["Canvas.Left", "Canvas.Top"]

theorem mem_of_attachedName? {name property : String} (h : attachedName? name = some property) :
    ∃ e ∈ attachedProperties, e.1 = propertyKey name ∧ e.2.1 = property := by
  obtain ⟨⟨property, type⟩, hlookup, rfl⟩ := Option.map_eq_some_iff.1 h
  exact ⟨_, FileStore.mem_of_lookup_eq_some hlookup, rfl, rfl⟩

/-- Two keys of a property are both short names of a position or neither is, unless they are the two
names of a position. -/
theorem mem_positionKeys_iff {e e' : String × String × Target} (he : e ∈ attachedProperties)
    (he' : e' ∈ attachedProperties) (h : e.2.1 = e'.2.1) :
    (e.1 ∈ positionKeys ↔ e'.1 ∈ positionKeys) ↔ e.1 = e'.1 ∨ e.2.1 ∉ positionNames := by
  have hall : ∀ e ∈ attachedProperties, ∀ e' ∈ attachedProperties, e.2.1 = e'.2.1 →
      ((e.1 ∈ positionKeys ↔ e'.1 ∈ positionKeys) ↔ e.1 = e'.1 ∨ e.2.1 ∉ positionNames) := by
    decide
  exact hall e he e' he' h

/-- A number is stored as an attached property when it is assigned under a name. -/
def Stores (n : Node) (name value property : String) (x : Double) : Prop :=
  Setter.find? Setter.standard n name = some attachedProperty ∧
    (attachedProperty.apply Converter.standard n name value).node.attached.lookup property =
      some (.number x)

/-- Numbers are stored as positions under all names of them, whatever their range. -/
theorem stores_position {n : Node} (hn : n.cls ∈ NodeClass.widgets) {name property : String}
    (hname : attachedName? name = some property) (hposition : property ∈ positionNames)
    {value : String} {x : Double} (hx : readDouble value = .ok x) :
    Stores n name value property x := by
  obtain ⟨⟨_, type⟩, hlookup, rfl⟩ := Option.map_eq_some_iff.1 hname
  have hmem := FileStore.mem_of_lookup_eq_some hlookup
  have hnumber : type = .number := by
    have hall : ∀ e ∈ attachedProperties, e.2.1 ∈ positionNames → e.2.2 = .number := by
      decide
    exact hall _ hmem hposition
  have hnode : n.cls.isNode = true := by
    have hall : ∀ c ∈ NodeClass.widgets, c.isNode = true := by decide
    exact hall _ hn
  have hclasses : classesKeys.contains (propertyKey name) = false := by
    have hall : ∀ e ∈ attachedProperties, classesKeys.contains e.1 = false := by decide
    exact hall _ hmem
  subst hnumber
  refine ⟨?_, ?_⟩
  · have hfirst : styleClasses.claims n name = false := by
      simp only [styleClasses, builtIn, hclasses, Bool.false_and]
    have hsecond : attachedProperty.claims n name = true := by
      simp only [attachedProperty, builtIn, hlookup, hnode, Option.isSome_some, Bool.and_self]
    rw [Setter.find?, Chain.find?, Setter.standard, List.find?_cons, hfirst, List.find?_cons,
      hsecond]
  · have hconvert := convert_number value (t := .number) rfl
    rw [convertedNumber?_of_readDouble hx] at hconvert
    simp only [attachedProperty, builtIn, hlookup]
    cases hv : Conversion.convert Converter.standard (some value) .number with
    | error fault => simp [hv, Except.toOption] at hconvert
    | ok v =>
      simp only [hv, Except.toOption, Option.map_some, Option.some.injEq] at hconvert
      rw [hconvert]
      exact lookup_putNamed_self _ _ _

/-- Two demands that differ in the condition of one part are the same if the conditions are, or if
that does not matter. -/
theorem demands_iff {a b c d : Prop} :
    (¬ c ∧ (a → d) ↔ ¬ c ∧ (b → d)) ↔ (a ↔ b) ∨ c ∨ d := by
  tauto

/-- **Two spellings of an attached property** are validated alike exactly if they have one key, or
the property is no position that has a short name, or the raw value is refused under both for the
sign of a script, or it is blank or in the range of the short names. A number is stored under either
spelling, if it is let through. -/
theorem isValid_spellings_iff (scope : ValidationScope) {n : Node}
    (hn : n.cls ∈ NodeClass.widgets) {name other property : String}
    (hname : attachedName? name = some property) (hother : attachedName? other = some property)
    (value : String) :
    ((validate standard scope n name value).isValid =
        (validate standard scope n other value).isValid ↔
      propertyKey name = propertyKey other ∨ property ∉ positionNames ∨ HasScript value ∨
        IsPosition value) ∧
    (property ∈ positionNames → ∀ x, readDouble value = .ok x →
      Stores n name value property x ∧ Stores n other value property x) := by
  obtain ⟨e, he, hkey, hproperty⟩ := mem_of_attachedName? hname
  obtain ⟨e', he', hkey', hproperty'⟩ := mem_of_attachedName? hother
  have hiff := mem_positionKeys_iff he he' (hproperty.trans hproperty'.symm)
  rw [hkey, hkey', hproperty] at hiff
  have hvalid := isValid_validate_attached scope hn
    (hkey ▸ List.mem_map.2 ⟨e, he, rfl⟩ : propertyKey name ∈ _) value
  have hvalid' := isValid_validate_attached scope hn
    (hkey' ▸ List.mem_map.2 ⟨e', he', rfl⟩ : propertyKey other ∈ _) value
  refine ⟨?_, fun hposition x hx =>
    ⟨stores_position hn hname hposition hx, stores_position hn hother hposition hx⟩⟩
  rw [Bool.eq_iff_iff, hvalid, hvalid', ← or_assoc, ← hiff]
  exact demands_iff

/-! ## A position out of range -/

/-- A button of the library. -/
def placedButton : Node := .ofClass 0 (.contentControl "Button" NodeClass.buttonSlots)

/-- No files. -/
def noFiles : ValidationScope := ⟨⟨[], []⟩, none⟩

theorem isValid_spellings_iff_canvasLeft : placedButton.cls ∈ NodeClass.widgets ∧
    attachedName? "X" = some "Canvas.Left" ∧ attachedName? "CANVAS.LEFT" = some "Canvas.Left" ∧
    ((validate standard noFiles placedButton "X" "20000").isValid =
        (validate standard noFiles placedButton "CANVAS.LEFT" "20000").isValid ↔
      propertyKey "X" = propertyKey "CANVAS.LEFT" ∨ "Canvas.Left" ∉ positionNames ∨
        HasScript "20000" ∨ IsPosition "20000") ∧
    ("Canvas.Left" ∈ positionNames → ∀ x, readDouble "20000" = .ok x →
      Stores placedButton "X" "20000" "Canvas.Left" x ∧
        Stores placedButton "CANVAS.LEFT" "20000" "Canvas.Left" x) := by
  have hn : placedButton.cls ∈ NodeClass.widgets := by
    simp [placedButton, Node.ofClass, NodeClass.widgets]
  have hname : attachedName? "X" = some "Canvas.Left" := by decide
  have hother : attachedName? "CANVAS.LEFT" = some "Canvas.Left" := by decide
  exact ⟨hn, hname, hother, isValid_spellings_iff noFiles hn hname hother "20000"⟩

/-- What is refused under the short name is let through and stored under the qualified one. -/
theorem not_alike_canvasLeft :
    attachedName? "X" = some "Canvas.Left" ∧ attachedName? "Canvas.Left" = some "Canvas.Left" ∧
    (validate standard noFiles placedButton "X" "20000").errors =
      ["X: 20000 is outside of [-10000, 10000]"] ∧
    (validate standard noFiles placedButton "Canvas.Left" "20000").errors = [] ∧
    Stores placedButton "Canvas.Left" "20000" "Canvas.Left" (.ofInt 20000) := by
  have hn : placedButton.cls ∈ NodeClass.widgets := by
    simp [placedButton, Node.ofClass, NodeClass.widgets]
  have hname : attachedName? "Canvas.Left" = some "Canvas.Left" := by decide
  have hread : readDouble "20000" = .ok (.ofInt 20000) := by decide
  refine ⟨by decide, hname, by decide, by decide, ?_⟩
  exact stores_position hn hname (by decide) hread

end Validator

end LayoutTree
