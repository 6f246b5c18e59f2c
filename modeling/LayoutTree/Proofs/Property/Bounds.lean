import LayoutTree.Proofs.Number.Reading
import LayoutTree.Proofs.Property.Entries

/-!
# Bounds in order

A property that bounds another, such as `Minimum` and `Maximum`, is checked against the other bound
before it is assigned. The check reads the raw value in its own way, and the assignment converts it:
`convertedNumber?` is what a raw value becomes, and `given?` the number that an entry gives to a
bound. An entry gives a bound this number and leaves the other bounds alone (`bound?_entryNode`).
What the check reads is what is assigned (`convertedNumber?_of_readDouble`), but it does not read
all that is assigned.

* `inOrder_size`: the bounds of sizes stay in order as long as no raw value is empty.
* `inOrder_iff`: the bounds of a node are in order after every entry exactly when no number that the
  check does not read slips past the other bound, and none of the two is NaN.
-/

namespace LayoutTree

open LayoutTree.Text LayoutTree.Number LayoutTree.Validator

/-! ## Keys of bounds -/

/-- The keys of the properties that are bounds. -/
def boundKeys : List String := boundPairs.flatMap fun pair => [pair.1, pair.2]

/-- The number assigned to a bound. -/
def bound? (n : Node) (key : String) : Option Double := (assigned? n key).map Prod.snd

/-- Numbers are the values of both bounds of a pair. -/
def NodeClass.HoldsBounds (c : NodeClass) (pair : String × String) : Prop :=
  ∀ key ∈ [pair.1, pair.2], ∃ a, c.accessor? key = some a ∧ a.target = .number

/-- The setter of a bound is the one of declared properties. -/
theorem Setter.find?_of_mem_boundKeys {n : Node} {name : String} {a : Accessor}
    (hkey : propertyKey name ∈ boundKeys) (ha : n.cls.accessor? name = some a) :
    Setter.find? Setter.standard n name = some .declared := by
  have hfirst : [styleClasses, attachedProperty, gridTracks, toolTip, imageSource].find?
      (fun m => m.claims n name) = none := by
    generalize hname : propertyKey name = key at hkey
    simp only [boundKeys, boundPairs, List.flatMap_cons, List.flatMap_nil, List.append_nil,
      List.cons_append, List.nil_append, List.mem_cons, List.not_mem_nil, or_false] at hkey
    rcases hkey with rfl | rfl | rfl | rfl | rfl | rfl
    all_goals
      simp [styleClasses, attachedProperty, gridTracks, toolTip, imageSource, builtIn, hname,
        classesKeys, attachedProperties, tracks?, imageKeys, List.lookup_cons]
  have hclaims : declared.claims n name = true := by simp [declared, builtIn, ha]
  change ([styleClasses, attachedProperty, gridTracks, toolTip, imageSource] ++ [declared]).find?
    (fun m => m.claims n name) = some declared
  rw [List.find?_append, hfirst, Option.none_or, List.find?_cons, hclaims]

/-- A number lies in a range. -/
def Validator.NumberRange.Contains (range : NumberRange) (x : Double) : Prop :=
  Double.le range.low x = true ∧ Double.le x range.high = true

/-! ## Conversion of numbers -/

/-- The number that a raw value is converted to. -/
def convertedNumber? (value : String) : Option Double :=
  if value.isEmpty then some 0 else (readDouble (trimmed value)).toOption

/-- What the check of a bound reads is what the bound is given. -/
theorem convertedNumber?_of_readDouble {value : String} {x : Double}
    (h : readDouble value = .ok x) : convertedNumber? value = some x := by
  have hne : value.isEmpty = false := by
    by_contra hempty
    have hvalue : value = "" := String.isEmpty_iff.1 (by simpa using hempty)
    subst hvalue
    cases h.symm.trans (by rfl : readDouble "" = .error (.notDouble ""))
  rw [convertedNumber?, hne, readDouble_trimmed h]
  rfl

theorem convert_number (value : String) {t : Target} (ht : t.unwrapped = .number) :
    (Conversion.convert Converter.standard (some value) t).toOption =
      (convertedNumber? value).map .number := by
  rw [Conversion.convert, ht, Conversion.convertWith, convertedNumber?]
  split
  · rfl
  · have hfind : Conversion.find? Converter.standard .number = some Converter.toPrimitive := by rfl
    rw [if_neg (by decide), hfind]
    simp only [Conversion.apply, Converter.toPrimitive, Converter.builtIn, Convert.primitive,
      Convert.bare]
    cases readDouble (trimmed value) with
    | ok x => rfl
    | error e => rfl

/-- A declared number takes the number that the raw value is converted to. -/
theorem Setter.node_assignDeclared {a : Accessor} (ha : a.target = .number) (n : Node)
    (value : String) :
    (assignDeclared Converter.standard n a value).node =
      match convertedNumber? value with
      | some x => n.assign a.slot (.number x)
      | none => n := by
  have hconvert := convert_number value (t := a.type) ha
  have htext : a.acceptsText = false := by
    rw [Accessor.acceptsText, Target.acceptsText, ← Accessor.target, ha]
  rw [assignDeclared, if_neg (by simp [ha])]
  cases hx : convertedNumber? value with
  | none =>
    rw [hx] at hconvert
    split
    · next v hv => simp [hv, Except.toOption] at hconvert
    · simp [htext, Assignment.failed]
    · rfl
  | some x =>
    rw [hx] at hconvert
    split
    · next v hv =>
      simp only [hv, Except.toOption, Option.map_some, Option.some.injEq] at hconvert
      rw [hconvert]
      rfl
    · next hv => simp [hv, Except.toOption] at hconvert
    · next hv => simp [hv, Except.toOption] at hconvert

/-! ## Bounds and other slots -/

theorem bound?_eq {n : Node} {key : String} {a : Accessor} (ha : n.cls.accessor? key = some a) :
    bound? n key = (n.slot? a.slot).bind Value.number? := by
  simp only [bound?, assigned?, ha, Option.bind_eq_bind, Option.bind_some]
  cases n.slot? a.slot with
  | none => rfl
  | some v =>
    rw [Option.bind_some, Option.bind_some]
    cases v.number? with
    | none => rfl
    | some x => rfl

theorem bound?_congr {n m : Node} {key : String} (hcls : m.cls = n.cls)
    (hslots : m.slots = n.slots) : bound? m key = bound? n key := by
  simp only [bound?, assigned?, Node.slot?, hcls, hslots]

theorem propertyKey_of_mem_boundKeys {key : String} (h : key ∈ boundKeys) :
    propertyKey key = key ∧ key ≠ "" ∧ key ≠ dataContextKey ∧ key ≠ propertyKey "source" := by
  have hall : ∀ key ∈ boundKeys,
      propertyKey key = key ∧ key ≠ "" ∧ key ≠ dataContextKey ∧ key ≠ propertyKey "source" := by
    decide +kernel
  exact hall key h

/-- What happens to the slots of other properties does not concern a bound. -/
theorem Node.SameOutside.bound?_eq {name key : String} {n m : Node} (h : SameOutside name n m)
    (hkey : key ∈ boundKeys) (hne : propertyKey name ≠ key) : bound? m key = bound? n key := by
  have hslot : ∀ a, n.cls.accessor? key = some a → m.slot? a.slot = n.slot? a.slot := by
    intro a ha
    refine h.slot a.slot ?_
    rw [NodeClass.propertyKey_slot ha, (propertyKey_of_mem_boundKeys hkey).1]
    exact hne.symm
  cases ha : n.cls.accessor? key with
  | none => simp [bound?, assigned?, h.cls, ha]
  | some a =>
    rw [LayoutTree.bound?_eq ha, LayoutTree.bound?_eq (h.cls ▸ ha), hslot a ha]

namespace Build

variable {s : Setup} {d : Descriptor} {key : String} {a : Accessor}

/-! ## The number that an entry gives -/

/-- The number that an entry gives to the bound of a key: that of its raw value, unless validation
blocks it. -/
def given? (s : Setup) (d : Descriptor) (entry : Property) (n : Node) (key : String) :
    Option Double :=
  if propertyKey entry.name = key ∧ bindingTarget? entry.name = none then
    entry.value.bind fun value =>
      if (check s d entry.name value n).isValid then convertedNumber? value else none
  else none

/-- An entry for the bound itself gives it its number. -/
theorem bound?_entryNode_self (hs : s.IsStandard) (hkey : key ∈ boundKeys) {n : Node}
    (ha : n.cls.accessor? key = some a) (hnumber : a.target = .number) {entry : Property}
    (hentry : propertyKey entry.name = key) :
    bound? (entryNode s d entry n) key = (given? s d entry n key).or (bound? n key) := by
  obtain ⟨hself, hempty, hcontext, -⟩ := propertyKey_of_mem_boundKeys hkey
  have hname : entry.name.isEmpty = false := by
    by_contra h
    have hname : entry.name = "" := String.isEmpty_iff.1 (by simpa using h)
    exact hempty (by rw [← hentry, hname]; rfl)
  have haccessor : n.cls.accessor? entry.name = some a := by
    rw [← ha, NodeClass.accessor?, NodeClass.accessor?, hentry, hself]
  have hfind : Setter.find? s.setters n entry.name = some Setter.declared := by
    rw [hs.setters]
    exact Setter.find?_of_mem_boundKeys (hentry ▸ hkey) haccessor
  rw [entryNode, given?, hname]
  simp only [Bool.false_eq_true, if_false, hentry, true_and, hcontext, or_false]
  cases entry.value with
  | none => simp
  | some value =>
    cases hbinding : bindingTarget? entry.name with
    | some target =>
      simp only [reduceCtorEq, if_false, Option.none_or]
      cases hbind : s.applier n target value with
      | ok node =>
        obtain ⟨hcls, hslots⟩ := hs.binds _ _ _ _ hbind
        exact bound?_congr hcls hslots
      | error message => rfl
    | none =>
      simp only [if_true, Option.bind_some]
      cases hvalid : (check s d entry.name value n).isValid with
      | false => simp
      | true =>
        have happly : (Setter.declared.apply s.converters n entry.name value).node =
            (Setter.assignDeclared Converter.standard n a value).node := by
          simp only [Setter.declared, Setter.builtIn, haccessor, hs.converters]
        simp only [Bool.true_eq_false, if_false, if_true, hfind, happly,
          Setter.node_assignDeclared hnumber]
        cases convertedNumber? value with
        | none => rfl
        | some x =>
          rw [Option.some_or, LayoutTree.bound?_eq (a := a) (by rw [Node.cls_assign]; exact ha),
            Node.slot?_assign_self]
          rfl

/-- **An entry gives a bound its number, or leaves it alone.** -/
theorem bound?_entryNode (hs : s.IsStandard) (hkey : key ∈ boundKeys) {n : Node}
    (ha : n.cls.accessor? key = some a) (hnumber : a.target = .number) (entry : Property) :
    bound? (entryNode s d entry n) key = (given? s d entry n key).or (bound? n key) := by
  by_cases hentry : propertyKey entry.name = key
  · exact bound?_entryNode_self hs hkey ha hnumber hentry
  · have hsource := (propertyKey_of_mem_boundKeys hkey).2.2.2
    rw [given?, if_neg fun h => hentry h.1, Option.none_or]
    rcases sameOutside_entryNode (d := d) hs entry n with h | h
    · exact h.bound?_eq hkey hentry
    · exact h.bound?_eq hkey hsource.symm

/-! ## The check of a bound -/

theorem isValid_validate (validators : Chain Validator) (scope : ValidationScope) (n : Node)
    (name value : String) :
    (validate validators scope n name value).isValid =
      validators.members.all fun v => (v.contribution scope n name value).isValid := by
  have hfold : ∀ (vs : List Validator) (found : Validation),
      (vs.foldl (fun found v => found.merge (v.contribution scope n name value)) found).isValid =
        (found.isValid && vs.all fun v => (v.contribution scope n name value).isValid) := by
    intro vs
    induction vs with
    | nil => simp
    | cons v vs ih =>
      intro found
      rw [List.foldl_cons, ih, Validation.isValid_merge, List.all_cons, Bool.and_assoc]
  exact (hfold _ _).trans (Bool.true_and _)

/-- A raw value that validation lets through is one that each validator of the library lets through.
-/
theorem isValid_contribution (hs : s.IsStandard) {v : Validator} (hv : v ∈ standard.members)
    {n : Node} {name value : String} (h : (check s d name value n).isValid = true) :
    (v.contribution (.ofSource s.files d.source) n name value).isValid = true := by
  rw [check, if_pos hs.validates, isValid_validate, hs.validators] at h
  exact List.all_eq_true.1 h v hv

/-- A bound that the check reads and lets through is on the right side of the other bound. -/
theorem checkBound_eq_nil (hs : s.IsStandard) {pair : String × String} (hpair : pair ∈ boundPairs)
    {n : Node} {name value : String} {x : Double} (hread : readDouble value = .ok x)
    (hname : propertyKey name = pair.1 ∨ propertyKey name = pair.2)
    (h : (check s d name value n).isValid = true) : checkBound n name x pair = [] := by
  have hvalid := isValid_contribution hs (v := boundOrder) (by simp [standard]) h
  have happlies : (boundPairs.any fun pair =>
      pair.1 = propertyKey name || pair.2 = propertyKey name) = true := by
    refine List.any_eq_true.2 ⟨pair, hpair, ?_⟩
    rcases hname with hname | hname
    · simp [hname]
    · simp [hname]
  have hread' : (readDouble value).toOption = some x := by rw [hread]; rfl
  simp only [contribution, run, boundOrder, ofCheck, happlies, hread', Validation.isValid,
    List.isEmpty_iff] at hvalid
  exact List.flatMap_eq_nil_iff.1 hvalid pair hpair

theorem not_lt_of_isValid (hs : s.IsStandard) {pair : String × String} (hpair : pair ∈ boundPairs)
    {n : Node} {name value : String} {x y : Double} (hread : readDouble value = .ok x)
    (h : (check s d name value n).isValid = true) :
    (propertyKey name = pair.1 → bound? n pair.2 = some y → Double.lt y x = false) ∧
      (propertyKey name = pair.2 → bound? n pair.1 = some y → Double.lt x y = false) := by
  have hne : pair.1 ≠ pair.2 := by
    have hall : ∀ pair ∈ boundPairs, pair.1 ≠ pair.2 := by decide
    exact hall pair hpair
  constructor
  · intro hname hy
    have hnil := checkBound_eq_nil hs hpair hread (.inl hname) h
    obtain ⟨⟨other, y'⟩, hassigned, rfl⟩ := Option.map_eq_some_iff.1 hy
    simp only [checkBound, hname, if_true, hassigned] at hnil
    split at hnil
    · cases hnil
    · next hlt => exact eq_false_of_ne_true hlt
  · intro hname hy
    have hnil := checkBound_eq_nil hs hpair hread (.inr hname) h
    obtain ⟨⟨other, y'⟩, hassigned, rfl⟩ := Option.map_eq_some_iff.1 hy
    simp only [checkBound, hname, hne.symm, if_false, if_true, hassigned] at hnil
    split at hnil
    · cases hnil
    · next hlt => exact eq_false_of_ne_true hlt

/-! ## One entry -/

/-- The bounds of a pair are in order, as far as both are assigned. -/
def InOrder (n : Node) (pair : String × String) : Prop :=
  ∀ x y, bound? n pair.1 = some x → bound? n pair.2 = some y → Double.le x y = true

/-- No bound of a pair is NaN while both are assigned. -/
def Comparable (n : Node) (pair : String × String) : Prop :=
  ∀ x y, bound? n pair.1 = some x → bound? n pair.2 = some y → x ≠ .nan ∧ y ≠ .nan

/-- An entry gives a bound a number on the wrong side of the other bound, by a raw value that the
check of bounds does not read. -/
def SlipsPast (s : Setup) (d : Descriptor) (entry : Property) (n : Node) (pair : String × String) :
    Prop :=
  (∀ value ∈ entry.value, (readDouble value).toOption = none) ∧
    ((∃ x y, given? s d entry n pair.1 = some x ∧ bound? n pair.2 = some y ∧
        Double.lt y x = true) ∨
      ∃ x y, bound? n pair.1 = some x ∧ given? s d entry n pair.2 = some y ∧
        Double.lt y x = true)

theorem given?_eq_some {entry : Property} {n : Node} {x : Double}
    (h : given? s d entry n key = some x) :
    propertyKey entry.name = key ∧ ∃ value, entry.value = some value ∧
      (check s d entry.name value n).isValid = true ∧ convertedNumber? value = some x := by
  rw [given?] at h
  split at h
  · next hentry =>
    obtain ⟨value, hvalue, h⟩ := Option.bind_eq_some_iff.1 h
    split at h
    · next hvalid => exact ⟨hentry.1, value, hvalue, hvalid, h⟩
    · cases h
  · cases h

/-- An entry gives a number to one bound only. -/
theorem given?_eq_none {entry : Property} {n : Node} {x : Double} {other : String}
    (h : given? s d entry n key = some x) (hne : key ≠ other) :
    given? s d entry n other = none := by
  cases hother : given? s d entry n other with
  | none => rfl
  | some y => exact absurd ((given?_eq_some h).1.symm.trans (given?_eq_some hother).1) hne

section Pair

variable {pair : String × String} {n : Node} {entry : Property}

theorem ne_of_mem_boundPairs (hpair : pair ∈ boundPairs) : pair.1 ≠ pair.2 := by
  have hall : ∀ pair ∈ boundPairs, pair.1 ≠ pair.2 := by decide
  exact hall pair hpair

theorem bounds_entryNode (d : Descriptor) (entry : Property) (hs : s.IsStandard)
    (hpair : pair ∈ boundPairs) (hbounds : n.cls.HoldsBounds pair) :
    bound? (entryNode s d entry n) pair.1 = (given? s d entry n pair.1).or (bound? n pair.1) ∧
      bound? (entryNode s d entry n) pair.2 = (given? s d entry n pair.2).or (bound? n pair.2) := by
  have hkeys : ∀ key ∈ [pair.1, pair.2],
      bound? (entryNode s d entry n) key = (given? s d entry n key).or (bound? n key) := by
    intro key hkey
    obtain ⟨a, ha, hnumber⟩ := hbounds key hkey
    exact bound?_entryNode hs (List.mem_flatMap.2 ⟨pair, hpair, hkey⟩) ha hnumber entry
  exact ⟨hkeys _ (by simp), hkeys _ (by simp)⟩

/-- A number that does not slip past the other bound is on its right side. -/
theorem not_lt_of_given? (hs : s.IsStandard) (hpair : pair ∈ boundPairs)
    (hslip : ¬ SlipsPast s d entry n pair) {x y : Double} :
    (given? s d entry n pair.1 = some x → bound? n pair.2 = some y → Double.lt y x = false) ∧
      (bound? n pair.1 = some x → given? s d entry n pair.2 = some y → Double.lt y x = false) := by
  constructor
  · intro hx hy
    obtain ⟨hname, value, hvalue, hvalid, hconverted⟩ := given?_eq_some hx
    cases hread : readDouble value with
    | ok z =>
      obtain rfl := Option.some.inj ((convertedNumber?_of_readDouble hread).symm.trans hconverted)
      exact (not_lt_of_isValid hs hpair hread hvalid).1 hname hy
    | error e =>
      by_contra hlt
      refine hslip ⟨fun other hother => ?_, .inl ⟨x, y, hx, hy, by simpa using hlt⟩⟩
      obtain rfl := Option.some.inj (hvalue.symm.trans hother)
      rw [hread]
      rfl
  · intro hx hy
    obtain ⟨hname, value, hvalue, hvalid, hconverted⟩ := given?_eq_some hy
    cases hread : readDouble value with
    | ok z =>
      obtain rfl := Option.some.inj ((convertedNumber?_of_readDouble hread).symm.trans hconverted)
      exact (not_lt_of_isValid hs hpair hread hvalid).2 hname hx
    | error e =>
      by_contra hlt
      refine hslip ⟨fun other hother => ?_, .inr ⟨x, y, hx, hy, by simpa using hlt⟩⟩
      obtain rfl := Option.some.inj (hvalue.symm.trans hother)
      rw [hread]
      rfl

/-- **One entry keeps the bounds in order** if its number does not slip past the other bound. -/
theorem InOrder.entryNode (h : InOrder n pair) (hs : s.IsStandard) (hpair : pair ∈ boundPairs)
    (hbounds : n.cls.HoldsBounds pair) (hslip : ¬ SlipsPast s d entry n pair)
    (hcomparable : Comparable (entryNode s d entry n) pair) :
    InOrder (Build.entryNode s d entry n) pair := by
  intro x y hx hy
  obtain ⟨hx', hy'⟩ := hcomparable x y hx hy
  obtain ⟨hlow, hhigh⟩ := bounds_entryNode d entry hs hpair hbounds
  have hne := ne_of_mem_boundPairs hpair
  rw [hlow] at hx
  rw [hhigh] at hy
  rw [Double.le_iff_not_lt hx' hy']
  cases hgiven : given? s d entry n pair.1 with
  | some z =>
    rw [hgiven, Option.some_or] at hx
    rw [given?_eq_none hgiven hne, Option.none_or] at hy
    exact (not_lt_of_given? hs hpair hslip).1 (hgiven.trans hx) hy
  | none =>
    rw [hgiven, Option.none_or] at hx
    cases hother : given? s d entry n pair.2 with
    | some z =>
      rw [hother, Option.some_or] at hy
      exact (not_lt_of_given? hs hpair hslip).2 hx (hother.trans hy)
    | none =>
      rw [hother, Option.none_or] at hy
      exact (Double.le_iff_not_lt hx' hy').1 (h x y hx hy)

/-- A number that slips past the other bound brings the bounds out of order. -/
theorem SlipsPast.not_inOrder (h : SlipsPast s d entry n pair) (hs : s.IsStandard)
    (hpair : pair ∈ boundPairs) (hbounds : n.cls.HoldsBounds pair) :
    ¬ InOrder (Build.entryNode s d entry n) pair := by
  intro horder
  have hne := ne_of_mem_boundPairs hpair
  have hfalse : ∀ x y, Double.lt y x = true →
      bound? (Build.entryNode s d entry n) pair.1 = some x →
      bound? (Build.entryNode s d entry n) pair.2 = some y → False := by
    intro x y hlt hx hy
    have hle := horder x y hx hy
    obtain ⟨hx', hy'⟩ := Double.ne_nan_of_le hle
    rw [(Double.le_iff_not_lt hx' hy').1 hle] at hlt
    cases hlt
  obtain ⟨hlow, hhigh⟩ := bounds_entryNode d entry hs hpair hbounds
  obtain ⟨-, ⟨x, y, hx, hy, hlt⟩ | ⟨x, y, hx, hy, hlt⟩⟩ := h
  · refine hfalse x y hlt ?_ ?_
    · rw [hlow, hx, Option.some_or]
    · rw [hhigh, given?_eq_none hx hne, Option.none_or, hy]
  · refine hfalse x y hlt ?_ ?_
    · rw [hlow, given?_eq_none hy hne.symm, Option.none_or, hx]
    · rw [hhigh, hy, Option.some_or]

end Pair

/-! ## All entries -/

/-- A new node of a class after some entries. -/
def newNodeAfter (s : Setup) (d : Descriptor) (c : NodeClass) (id : Nat) (result : NodeResult)
    (p : Progress) (done : List Property) : Stage Work :=
  applyProperties s d done ⟨.ofClass id c, result, none⟩ p

section Run

variable {c : NodeClass} {id : Nat} {result : NodeResult} {p : Progress}

theorem node_newNodeAfter_append (hs : s.IsStandard) (done : List Property) (entry : Property) :
    (newNodeAfter s d c id result p (done ++ [entry])).value.node =
      (let reached := newNodeAfter s d c id result p done
      if reached.halt.isSome ∨ reached.progress.cancelled = true then reached.value.node
      else entryNode s d entry reached.value.node) := by
  refine node_applyProperties_append ?_ done entry _ p
  rw [hs.setters]
  exact fun m hm => Setter.applyLater_standard hm

theorem cls_newNodeAfter (hs : s.IsStandard) (done : List Property) :
    (newNodeAfter s d c id result p done).value.node.cls = c := by
  induction done using List.reverseRecOn with
  | nil => rfl
  | append_singleton done entry ih =>
    rw [node_newNodeAfter_append hs]
    dsimp only
    split
    · exact ih
    · rw [cls_entryNode hs, ih]

/-- The bounds of a new node stay in order, if nothing slips past and nothing is NaN. -/
theorem inOrder_newNodeAfter (hs : s.IsStandard) {pair : String × String}
    (hpair : pair ∈ boundPairs) (hbounds : c.HoldsBounds pair) {entries : List Property}
    (hslip : ∀ done entry, done ++ [entry] <+: entries →
      (newNodeAfter s d c id result p done).halt = none →
      (newNodeAfter s d c id result p done).progress.cancelled = false →
        ¬ SlipsPast s d entry (newNodeAfter s d c id result p done).value.node pair)
    (hcomparable : ∀ done, done <+: entries →
      Comparable (newNodeAfter s d c id result p done).value.node pair)
    {done : List Property} (hdone : done <+: entries) :
    InOrder (newNodeAfter s d c id result p done).value.node pair := by
  induction done using List.reverseRecOn with
  | nil =>
    intro x y hx
    obtain ⟨a, ha, -⟩ := hbounds pair.1 List.mem_cons_self
    have ha : (newNodeAfter s d c id result p []).value.node.cls.accessor? pair.1 = some a := ha
    rw [LayoutTree.bound?_eq ha] at hx
    cases hx
  | append_singleton done entry ih =>
    have hbefore := ih ((List.prefix_append _ _).trans hdone)
    have hcompare := hcomparable _ hdone
    rw [node_newNodeAfter_append hs] at hcompare ⊢
    dsimp only at hcompare ⊢
    split
    · exact hbefore
    · next hreached =>
      rw [if_neg hreached] at hcompare
      rw [not_or, Option.not_isSome_iff_eq_none, Bool.not_eq_true] at hreached
      exact hbefore.entryNode hs hpair ((cls_newNodeAfter hs done).symm ▸ hbounds)
        (hslip done entry hdone hreached.1 hreached.2) hcompare

end Run

/-! ## Sizes -/

/-- The keys of the bounds of sizes. -/
def sizeKeys : List String := ["minwidth", "maxwidth", "minheight", "maxheight"]

/-- What the check of ranges lets through is blank, or it is read as a number in the range. -/
theorem blank_or_number_of_checkRange {name value : String} {range : NumberRange}
    (h : (checkRange name range value).isValid = true) :
    isBlankString value = true ∨ ∃ x, readDouble value = .ok x ∧ range.Contains x := by
  by_cases hblank : isBlankString value = true
  · exact .inl hblank
  · right
    rw [checkRange, if_neg hblank] at h
    cases hread : readDouble value with
    | error e => simp [hread, Except.toOption, Validation.isValid] at h
    | ok x =>
      refine ⟨x, rfl, ?_⟩
      by_contra hout
      have hout : (Double.le range.low x && Double.le x range.high) = false := by
        rw [NumberRange.Contains, ← Bool.and_eq_true] at hout
        exact eq_false_of_ne_true hout
      simp [hread, Except.toOption, hout, Validation.isValid] at h

/-- A raw value that validation lets through is one that the check of ranges lets through. -/
theorem isValid_checkRange (hs : s.IsStandard) {name value : String} {range : NumberRange}
    (hrange : standardRanges.lookup (propertyKey name) = some range) {n : Node}
    (h : (check s d name value n).isValid = true) : (checkRange name range value).isValid = true := by
  have hvalid := isValid_contribution hs
    (v := numericRange "NumericRangeValidator" standardRanges) (by simp [standard]) h
  simpa [Validator.contribution, Validator.run, numericRange, ofCheck, hrange] using hvalid

/-- A blank raw value stands for no number, unless it is empty. -/
theorem convertedNumber?_of_blank {value : String} (h : isBlankString value = true) {x : Double}
    (hx : convertedNumber? value = some x) : value = "" ∧ x = 0 := by
  rw [convertedNumber?] at hx
  split at hx
  · next hempty => exact ⟨String.isEmpty_iff.1 hempty, (Option.some.inj hx).symm⟩
  · have htrim : trimmed value = "" := by
      have hstart : trimStart value.toList = [] :=
        List.dropWhile_eq_nil_iff.2 (List.all_eq_true.1 h)
      rw [trimmed, onChars, trim, hstart]
      rfl
    rw [htrim] at hx
    cases hx.symm.trans (by rfl : (readDouble "").toOption = none)

/-- The number of a size is one that the check of bounds reads, and no NaN, or the zero that an
empty raw value stands for. -/
theorem given?_of_size (hs : s.IsStandard) (hkey : key ∈ sizeKeys) {entry : Property} {n : Node}
    {x : Double} (h : given? s d entry n key = some x) :
    entry.value = some "" ∧ x = 0 ∨
      x ≠ .nan ∧ ∃ value, entry.value = some value ∧ readDouble value = .ok x := by
  obtain ⟨hname, value, hvalue, hvalid, hconverted⟩ := given?_eq_some h
  have hranges : ∀ key ∈ sizeKeys, ∃ range, standardRanges.lookup key = some range := by
    intro key hkey
    simp only [sizeKeys, List.mem_cons, List.not_mem_nil, or_false] at hkey
    rcases hkey with rfl | rfl | rfl | rfl
    all_goals exact ⟨_, rfl⟩
  obtain ⟨range, hrange⟩ := hranges key hkey
  rcases blank_or_number_of_checkRange (isValid_checkRange hs (hname ▸ hrange) hvalid) with
    hblank | ⟨z, hread, hz⟩
  · obtain ⟨rfl, hx⟩ := convertedNumber?_of_blank hblank hconverted
    exact .inl ⟨hvalue, hx⟩
  · obtain rfl := Option.some.inj ((convertedNumber?_of_readDouble hread).symm.trans hconverted)
    exact .inr ⟨(Double.ne_nan_of_le hz.1).2, value, hvalue, hread⟩

section Sizes

variable {c : NodeClass} {id : Nat} {result : NodeResult} {p : Progress}

theorem bound?_ne_nan_of_size (hs : s.IsStandard) (hkey : key ∈ sizeKeys)
    (ha : c.accessor? key = some a) (hnumber : a.target = .number) (done : List Property)
    {x : Double} (hx : bound? (newNodeAfter s d c id result p done).value.node key = some x) :
    x ≠ .nan := by
  have hbound : key ∈ boundKeys := by
    have hall : ∀ key ∈ sizeKeys, key ∈ boundKeys := by decide
    exact hall key hkey
  induction done using List.reverseRecOn with
  | nil =>
    have ha : (newNodeAfter s d c id result p []).value.node.cls.accessor? key = some a := ha
    rw [LayoutTree.bound?_eq ha] at hx
    cases hx
  | append_singleton done entry ih =>
    rw [node_newNodeAfter_append hs] at hx
    dsimp only at hx
    split at hx
    · exact ih hx
    · have hcls : (newNodeAfter s d c id result p done).value.node.cls = c :=
        cls_newNodeAfter hs done
      rw [bound?_entryNode hs hbound (a := a) (by rw [hcls]; exact ha) hnumber] at hx
      cases hgiven : given? s d entry (newNodeAfter s d c id result p done).value.node key with
      | none =>
        rw [hgiven, Option.none_or] at hx
        exact ih hx
      | some y =>
        rw [hgiven, Option.some_or, Option.some.injEq] at hx
        rcases given?_of_size hs hkey hgiven with ⟨-, rfl⟩ | ⟨hne, -⟩
        · rw [← hx]
          decide
        · exact hx ▸ hne

/-- **Sizes stay in order** as long as no raw value is empty. -/
theorem inOrder_size (hs : s.IsStandard) {pair : String × String} (hpair : pair ∈ boundPairs)
    (hsize : ∀ key ∈ [pair.1, pair.2], key ∈ sizeKeys) (hbounds : c.HoldsBounds pair)
    {entries : List Property} (hempty : ∀ entry ∈ entries, entry.value ≠ some "")
    {done : List Property} (hdone : done <+: entries) :
    InOrder (newNodeAfter s d c id result p done).value.node pair := by
  refine inOrder_newNodeAfter hs hpair hbounds ?_ ?_ hdone
  · intro done entry hentry _ _ hslip
    have hgiven : ∀ key ∈ sizeKeys, ∀ x,
        given? s d entry (newNodeAfter s d c id result p done).value.node key = some x → False := by
      intro key hkey x hx
      rcases given?_of_size hs hkey hx with ⟨hvalue, -⟩ | ⟨-, value, hvalue, hread⟩
      · exact hempty entry (hentry.subset (by simp)) hvalue
      · have hunread := hslip.1 value hvalue
        rw [hread] at hunread
        cases hunread
    obtain ⟨-, ⟨x, -, hx, -⟩ | ⟨-, y, -, hy, -⟩⟩ := hslip
    · exact hgiven _ (hsize _ (by simp)) x hx
    · exact hgiven _ (hsize _ (by simp)) y hy
  · intro done _ x y hx hy
    obtain ⟨low, hlow, hlowNumber⟩ := hbounds pair.1 (by simp)
    obtain ⟨high, hhigh, hhighNumber⟩ := hbounds pair.2 (by simp)
    exact ⟨bound?_ne_nan_of_size hs (hsize _ (by simp)) hlow hlowNumber done hx,
      bound?_ne_nan_of_size hs (hsize _ (by simp)) hhigh hhighNumber done hy⟩

end Sizes

/-! ## Order after every entry -/

/-- **Bounds in order.** The bounds of a new node are in order after each entry, whatever the
entries are, exactly when no entry that the build comes to slips past the other bound, and no bound
is NaN while both are assigned. -/
theorem inOrder_iff {s : Setup} (hs : s.IsStandard) {pair : String × String}
    (hpair : pair ∈ boundPairs) {c : NodeClass} (hbounds : c.HoldsBounds pair) (d : Descriptor)
    (entries : List Property) (id : Nat) (result : NodeResult) (p : Progress) :
    let after := newNodeAfter s d c id result p
    (∀ done, done <+: entries → InOrder (after done).value.node pair) ↔
      (∀ done entry, done ++ [entry] <+: entries → (after done).halt = none →
        (after done).progress.cancelled = false →
          ¬ SlipsPast s d entry (after done).value.node pair) ∧
        ∀ done, done <+: entries → Comparable (after done).value.node pair := by
  intro after
  constructor
  · intro horder
    refine ⟨fun done entry hdone hhalt hcancelled hslip => ?_, fun done hdone x y hx hy =>
      Double.ne_nan_of_le (horder done hdone x y hx hy)⟩
    have hreached : ¬((after done).halt.isSome = true ∨
        (after done).progress.cancelled = true) := by
      simp [hhalt, hcancelled]
    have hnext : (after (done ++ [entry])).value.node =
        entryNode s d entry (after done).value.node :=
      (node_newNodeAfter_append hs done entry).trans (if_neg hreached)
    exact hslip.not_inOrder hs hpair ((cls_newNodeAfter hs done).symm ▸ hbounds)
      (hnext ▸ horder _ hdone)
  · rintro ⟨hslip, hcomparable⟩ done hdone
    exact inOrder_newNodeAfter hs hpair hbounds hslip hcomparable hdone

/-- A build with what the library has. -/
def plainSetup : Setup :=
  (Builder.standard .standard ⟨[], []⟩ .standard).setup .standard .direct

theorem isStandard_plainSetup : plainSetup.IsStandard where
  setters := rfl
  validators := rfl
  converters := rfl
  validates := rfl
  binds := by
    intro n target path m h
    change storeBinding n target path = .ok m at h
    rw [storeBinding] at h
    split at h
    · cases h
      exact ⟨rfl, rfl⟩
    · cases h

/-- A build that has not begun. -/
def plainStart : Progress :=
  Builder.initial .standard (.ofClass 0 (.panel "StackPanel" [])) none .direct

/-- A slider. -/
def sliderClass : NodeClass := .control "Slider" NodeClass.rangeSlots

/-- The minimum of a slider is 5, its maximum is left empty. -/
def emptyMaximum : List Property := [⟨"Minimum", some "5"⟩, ⟨"Maximum", some ""⟩]

/-- The slider after some entries. -/
def sliderAfter : List Property → Stage Work :=
  newNodeAfter plainSetup (.ofType "Slider") sliderClass 1 (.ofState "Slider" .success none)
    (Builder.initial .standard (.ofClass 0 (.panel "StackPanel" [])) none .direct)

theorem not_inOrder_emptyMaximum :
    ¬ InOrder (sliderAfter emptyMaximum).value.node ("minimum", "maximum") := by
  intro h
  have hle := h 5 0 (by decide +kernel) (by decide +kernel)
  revert hle
  decide +kernel

theorem inOrder_iff_emptyMaximum :
    SlipsPast plainSetup (.ofType "Slider") ⟨"Maximum", some ""⟩
        (sliderAfter [⟨"Minimum", some "5"⟩]).value.node ("minimum", "maximum") ∧
      ¬ ∀ done, done <+: emptyMaximum →
        InOrder (sliderAfter done).value.node ("minimum", "maximum") := by
  have hslip : SlipsPast plainSetup (.ofType "Slider") ⟨"Maximum", some ""⟩
      (sliderAfter [⟨"Minimum", some "5"⟩]).value.node ("minimum", "maximum") := by
    refine ⟨fun value hvalue => ?_, .inr ⟨5, 0, ?_, ?_, ?_⟩⟩
    · obtain rfl := Option.some.inj hvalue
      rfl
    · decide +kernel
    · decide +kernel
    · decide +kernel
  have hbounds : sliderClass.HoldsBounds ("minimum", "maximum") := by
    intro key hkey
    simp only [List.mem_cons, List.not_mem_nil, or_false] at hkey
    rcases hkey with rfl | rfl
    · exact ⟨⟨"Minimum", "minimum", .number⟩, by decide +kernel, rfl⟩
    · exact ⟨⟨"Maximum", "maximum", .number⟩, by decide +kernel, rfl⟩
  have hiff := inOrder_iff isStandard_plainSetup (by decide) hbounds (.ofType "Slider")
    emptyMaximum 1 (.ofState "Slider" .success none)
    (Builder.initial .standard (.ofClass 0 (.panel "StackPanel" [])) none .direct)
  exact ⟨hslip, fun horder => (hiff.1 horder).1 [⟨"Minimum", some "5"⟩] ⟨"Maximum", some ""⟩
    (List.prefix_refl _) rfl rfl hslip⟩

end Build

end LayoutTree

