import LayoutTree.Proofs.Property.Bounds

/-!
# Numbers in their ranges

Numeric properties are checked against ranges by their raw values, and what is stored is the number
that the raw value is converted to. An entry gives a slot the number of a raw value that validation
lets through, or leaves it alone (`slot?_entryNode`). Such a raw value is read as a number of the
range, or it is empty and stands for zero (`contains_of_isValid`). Zero lies in every range but that
of font sizes (`contains_zero`).

The main statement is `inRange_newNodeAfter`: what a slot with a range holds is a number of the
range, or the zero that an empty font size stands for.
-/

namespace LayoutTree

open LayoutTree.Text LayoutTree.Number LayoutTree.Validator

/-! ## Ranges -/

/-- The key of font sizes, the only property whose range does not start at or below zero. -/
def fontSizeKey : String := "fontsize"

theorem contains_zero {key : String} {range : NumberRange}
    (hrange : standardRanges.lookup key = some range) (hkey : key ≠ fontSizeKey) :
    range.Contains 0 := by
  have hall : ∀ e ∈ standardRanges, e.1 ≠ fontSizeKey →
      Double.le e.2.low 0 = true ∧ Double.le 0 e.2.high = true := by
    decide +kernel
  exact hall (key, range) (FileStore.mem_of_lookup_eq_some hrange) hkey

theorem ne_source_of_lookup {key : String} {range : NumberRange}
    (hrange : standardRanges.lookup key = some range) : key ≠ propertyKey "source" := by
  have hall : ∀ e ∈ standardRanges, e.1 ≠ propertyKey "source" := by decide +kernel
  exact hall (key, range) (FileStore.mem_of_lookup_eq_some hrange)

namespace Build

variable {s : Setup} {d : Descriptor}

/-- A setter that is found for the property of a slot of numbers assigns the number that the raw
value is converted to, or leaves the slot alone. -/
theorem slot?_apply {setter : Setter} (hsetter : setter ∈ Setter.standard.members) {n : Node}
    {slot name : String} {a : Accessor} (ha : n.cls.accessor? name = some a)
    (hnumber : a.target = .number) (hsource : propertyKey slot ≠ propertyKey "source")
    (value : String) :
    (setter.apply Converter.standard n name value).node.slot? slot = n.slot? slot ∨
      ∃ x, convertedNumber? value = some x ∧
        (setter.apply Converter.standard n name value).node.slot? slot = some (.number x) := by
  rcases Setter.slots_standard hsetter Converter.standard n name value with
    ⟨-, hslots⟩ | hother | rfl
  · exact .inl (by rw [Node.slot?, Node.slot?, hslots])
  · exact .inl (hother.slot slot hsource)
  · have happly : (Setter.declared.apply Converter.standard n name value).node =
        (Setter.assignDeclared Converter.standard n a value).node := by
      simp only [Setter.declared, Setter.builtIn, ha]
    rw [happly, Setter.node_assignDeclared hnumber]
    cases convertedNumber? value with
    | none => exact .inl rfl
    | some x =>
      by_cases hslot : slot = a.slot
      · exact .inr ⟨x, rfl, by rw [hslot, Node.slot?_assign_self]⟩
      · exact .inl (Node.slot?_assign_ne _ hslot)

/-- **An entry gives a slot a number**, or leaves it alone. -/
theorem slot?_entryNode (hs : s.IsStandard) {n : Node} {slot : String} {a : Accessor}
    (ha : n.cls.accessor? slot = some a) (hnumber : a.target = .number)
    (hsource : propertyKey slot ≠ propertyKey "source") (entry : Property) :
    (entryNode s d entry n).slot? slot = n.slot? slot ∨
      ∃ x, given? s d entry n (propertyKey slot) = some x ∧
        (entryNode s d entry n).slot? slot = some (.number x) := by
  by_cases hentry : propertyKey entry.name = propertyKey slot
  · rw [entryNode, given?, hentry]
    split
    · exact .inl rfl
    · cases hvalue : entry.value with
      | none => exact .inl rfl
      | some value =>
        cases bindingTarget? entry.name with
        | some target =>
          left
          dsimp only
          cases hbind : s.applier n target value with
          | ok m => exact congrArg (List.lookup slot) (hs.binds _ _ _ _ hbind).2
          | error message => rfl
        | none =>
          dsimp only
          split
          · exact .inl rfl
          · next hvalid =>
            rw [not_or, Bool.not_eq_false] at hvalid
            rw [if_pos ⟨rfl, rfl⟩, Option.bind_some, if_pos hvalid.1]
            split
            · next setter hfind =>
              rw [hs.setters] at hfind
              rw [hs.converters]
              refine slot?_apply ?_ ?_ hnumber hsource value
              · exact List.mem_of_find?_eq_some
                  (p := fun m : Setter => m.claims n entry.name) hfind
              · rw [← ha, NodeClass.accessor?, NodeClass.accessor?, hentry]
            · exact .inl rfl
  · left
    rcases sameOutside_entryNode (d := d) hs entry n with h | h
    · exact h.slot slot (Ne.symm hentry)
    · exact h.slot slot hsource

/-- A raw value that validation lets through stands for a number of the range, or it is empty. -/
theorem contains_of_isValid (hs : s.IsStandard) {n : Node} {name value : String}
    {range : NumberRange} (hrange : standardRanges.lookup (propertyKey name) = some range)
    (hvalid : (check s d name value n).isValid = true) {x : Double}
    (hx : convertedNumber? value = some x) : range.Contains x ∨ value = "" ∧ x = 0 := by
  rcases blank_or_number_of_checkRange (isValid_checkRange hs hrange hvalid) with
    hblank | ⟨z, hread, hz⟩
  · exact .inr (convertedNumber?_of_blank hblank hx)
  · obtain rfl := Option.some.inj ((convertedNumber?_of_readDouble hread).symm.trans hx)
    exact .inl hz

/-! ## Nodes -/

/-- A number is in the range of a slot, or it is the zero of a font size that was given empty. -/
def InRange (entries : List Property) (slot : String) (range : NumberRange) (x : Double) : Prop :=
  range.Contains x ∨ propertyKey slot = fontSizeKey ∧ x = 0 ∧
    ∃ entry ∈ entries, propertyKey entry.name = fontSizeKey ∧ entry.value = some ""

/-- The number that an entry gives to a slot with a range. -/
theorem inRange_of_given? (hs : s.IsStandard) {n : Node} {slot : String} {range : NumberRange}
    (hrange : standardRanges.lookup (propertyKey slot) = some range) {entries : List Property}
    {entry : Property} (hentry : entry ∈ entries) {x : Double}
    (h : given? s d entry n (propertyKey slot) = some x) : InRange entries slot range x := by
  obtain ⟨hname, value, hvalue, hvalid, hconverted⟩ := given?_eq_some h
  rcases contains_of_isValid hs (hname ▸ hrange) hvalid hconverted with hin | ⟨rfl, rfl⟩
  · exact .inl hin
  · by_cases hkey : propertyKey slot = fontSizeKey
    · exact .inr ⟨hkey, rfl, entry, hentry, hname.trans hkey, hvalue⟩
    · exact .inl (contains_zero hrange hkey)

/-- **Numbers in their ranges.** Whatever entries a new node of a class has gone through, a slot of
numbers whose property has a range holds a number of the range, if it holds anything; only the slot
of a font size may hold the zero that an empty raw value stands for. -/
theorem inRange_newNodeAfter {s : Setup} (hs : s.IsStandard) (d : Descriptor) {c : NodeClass}
    (id : Nat) (result : NodeResult) (p : Progress) (entries : List Property) {slot : String}
    {a : Accessor} (ha : c.accessor? slot = some a) (hnumber : a.target = .number)
    {range : NumberRange} (hrange : standardRanges.lookup (propertyKey slot) = some range)
    {v : Value} (hv : (newNodeAfter s d c id result p entries).value.node.slot? slot = some v) :
    ∃ x, v = .number x ∧ InRange entries slot range x := by
  induction entries using List.reverseRecOn generalizing v with
  | nil => cases hv
  | append_singleton done entry ih =>
    have hmono : ∀ x, InRange done slot range x → InRange (done ++ [entry]) slot range x := by
      rintro x (hin | ⟨hkey, hzero, e, he, hempty⟩)
      · exact .inl hin
      · exact .inr ⟨hkey, hzero, e, List.mem_append_left _ he, hempty⟩
    have hbefore : (newNodeAfter s d c id result p done).value.node.slot? slot = some v →
        ∃ x, v = .number x ∧ InRange (done ++ [entry]) slot range x :=
      fun hv => (ih hv).imp fun x hx => hx.imp_right (hmono x)
    rw [node_newNodeAfter_append hs] at hv
    dsimp only at hv
    split at hv
    · exact hbefore hv
    · have ha : (newNodeAfter s d c id result p done).value.node.cls.accessor? slot = some a := by
        rw [cls_newNodeAfter hs]
        exact ha
      rcases slot?_entryNode (d := d) hs ha hnumber (ne_source_of_lookup hrange) entry with
        hsame | ⟨x, hgiven, hslot⟩
      · exact hbefore (hsame.symm.trans hv)
      · exact ⟨x, (Option.some.inj (hslot.symm.trans hv)).symm,
          inRange_of_given? hs hrange (by simp) hgiven⟩

/-- A button. -/
def buttonClass : NodeClass := .contentControl "Button" NodeClass.buttonSlots

/-- A button after some entries. -/
def buttonAfter : List Property → Stage Work :=
  newNodeAfter plainSetup (.ofType "Button") buttonClass 1 (.ofState "Button" .success none)
    plainStart

/-- A font size that is left empty is zero, which is not in the range of font sizes. -/
theorem not_inRange_emptyFontSize :
    ¬ ∀ (entries : List Property) (slot : String) (a : Accessor) (range : NumberRange) (v : Value),
      buttonClass.accessor? slot = some a → a.target = .number →
      standardRanges.lookup (propertyKey slot) = some range →
      (buttonAfter entries).value.node.slot? slot = some v →
        ∃ x, v = .number x ∧ range.Contains x := by
  intro hall
  have hzero : ((buttonAfter [⟨"FontSize", some ""⟩]).value.node.slot? "font_size").bind
      Value.number? = some 0 := by decide +kernel
  obtain ⟨v, hv, hzero⟩ := Option.bind_eq_some_iff.1 hzero
  obtain ⟨x, rfl, hlow, -⟩ := hall [⟨"FontSize", some ""⟩] "font_size"
    ⟨"FontSize", "font_size", NodeClass.maybe .number⟩ (.ofInts 1 1000) v
    (by decide +kernel) (by decide +kernel) (by rfl) hv
  cases hzero
  revert hlow
  decide +kernel

/-- The second width is no number, so the button keeps the first one. -/
theorem inRange_newNodeAfter_widths :
    ∃ x, (buttonAfter [⟨"Width", some " 250 "⟩, ⟨"width", some "wide"⟩]).value.node.slot? "width" =
        some (.number x) ∧ (NumberRange.ofInts 0 10000).Contains x := by
  have hsome : ((buttonAfter [⟨"Width", some " 250 "⟩, ⟨"width", some "wide"⟩]).value.node.slot?
      "width").isSome = true := by decide +kernel
  have ha : buttonClass.accessor? "width" = some ⟨"Width", "width", NodeClass.maybe .number⟩ := by
    decide +kernel
  have hrange : standardRanges.lookup (propertyKey "width") = some (.ofInts 0 10000) := by rfl
  obtain ⟨v, hv⟩ := Option.isSome_iff_exists.1 hsome
  rw [buttonAfter] at hv ⊢
  obtain ⟨x, rfl, hin | ⟨hkey, -⟩⟩ := inRange_newNodeAfter isStandard_plainSetup (.ofType "Button")
    1 (.ofState "Button" .success none) plainStart
    [⟨"Width", some " 250 "⟩, ⟨"width", some "wide"⟩] ha (by decide +kernel) hrange hv
  · exact ⟨x, hv, hin⟩
  · exact absurd hkey (by decide +kernel)

end Build

end LayoutTree
