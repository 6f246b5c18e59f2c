import LayoutTree.Proofs.Layout.LiveControls
import LayoutTree.Proofs.Layout.Overriding

/-!
# Controls without a type deleted

Deleting controls without a type moves the others among their siblings, but it changes neither their
attributes nor the elements in them that are no controls. So the forest stays the same
(`forest_without`), unless such an element declares the defaults of a type in a section of defaults.

* `forest_recovers`: the forest is that of the live controls with a type, and the log that of those
  without one; with these deleted the forest is the same and the log empty.
-/

namespace LayoutTree.XmlFormat

open LayoutTree.Text

/-! ## Siblings -/

/-- Only controls without a type are deleted among siblings, counted from `position`, and below
them. -/
def Spares (gone : List Nat → Bool) (position : Nat) (es : List Xml.Element) : Prop :=
  ∀ i route e c, es[i]? = some e → e.at? route = some c → gone ((position + i) :: route) = true →
    isControl c.name = true ∧ isTyped c = false

section Siblings

variable {gone : List Nat → Bool} {position : Nat} {e : Xml.Element} {rest : List Xml.Element}

theorem Spares.head (h : Spares gone position (e :: rest)) (hgone : gone [position] = true) :
    isControl e.name = true ∧ isTyped e = false :=
  h 0 [] e e rfl rfl hgone

theorem Spares.below {es : List Xml.Element} (h : Spares gone position es) {i : Nat}
    (he : es[i]? = some e) : Spares (fun route => gone ((position + i) :: route)) 0 e.children := by
  intro j route d c hd hc hgone
  rw [Nat.zero_add] at hgone
  refine h i (j :: route) e c he ?_ hgone
  rw [Xml.Element.at?, hd, Option.bind_some, hc]

theorem Spares.tail (h : Spares gone position (e :: rest)) : Spares gone (position + 1) rest := by
  intro i route d c hd hc hgone
  rw [Nat.add_right_comm, Nat.add_assoc] at hgone
  exact h (i + 1) route d c hd hc hgone

end Siblings

/-! ## What stays the same -/

theorem isTyped_without (gone : List Nat → Bool) (e : Xml.Element) :
    isTyped (e.without gone) = isTyped e := by
  rw [isTyped, isTyped, typeOf, typeOf, Xml.Element.attributes_without]

theorem setElements_cons (d : Descriptor) (e : Xml.Element) (es : List Xml.Element) :
    setElements d (e :: es) =
      setElements (if isControl e.name then d else d.set e.name.localName (some (trimmed e.text)))
        es := by
  rw [setElements, setElements, List.filter_cons]
  by_cases hcontrol : isControl e.name = true <;> simp [hcontrol]

theorem setElements_withoutFrom {gone : List Nat → Bool} {position : Nat} {es : List Xml.Element}
    (h : Spares gone position es) (d : Descriptor) :
    setElements d (Xml.Element.withoutFrom gone position es) = setElements d es := by
  induction es generalizing position d with
  | nil => rfl
  | cons e rest ih =>
    rw [Xml.Element.withoutFrom, setElements_cons]
    split
    · next hgone => rw [if_pos (h.head hgone).1, ih h.tail]
    · rw [setElements_cons, Xml.Element.name_without, Xml.Element.text_without, ih h.tail]

theorem ownDescriptor_without {gone : List Nat → Bool} {e : Xml.Element}
    (h : Spares gone 0 e.children) (t : Defaults) :
    ownDescriptor t (e.without gone) = ownDescriptor t e := by
  rw [ownDescriptor, Xml.Element.children_without, setElements_withoutFrom h, typeOf, groupOf,
    Xml.Element.attributes_without]
  rfl

section Forests

variable (file : FilePath) (t : Defaults)

mutual

theorem control_without {gone : List Nat → Bool} : ∀ {e : Xml.Element}, Spares gone 0 e.children →
    ∀ p q, (control file t p (e.without gone)).2 = (control file t q e).2
  | .mk name attributes text children, h, p, q => by
    rw [control_eq, control_eq, isTyped_without, ownDescriptor_without h,
      Xml.Element.children_without, controls_withoutFrom h 0 0]
    split <;> rfl

/-- **Deleting controls without a type** leaves the nodes of the others as they are. -/
theorem controls_withoutFrom {gone : List Nat → Bool} {position : Nat} :
    ∀ {es : List Xml.Element}, Spares gone position es → ∀ p q,
      (controls file t p (Xml.Element.withoutFrom gone position es)).2 = (controls file t q es).2
  | [], _, p, q => by rw [Xml.Element.withoutFrom, controls, controls]
  | e :: rest, h, p, q => by
    rw [Xml.Element.withoutFrom, controls]
    split
    · next hgone =>
      obtain ⟨hcontrol, htyped⟩ := h.head hgone
      rw [if_pos hcontrol, control_eq, if_neg (by simp [htyped]), controls_withoutFrom h.tail p]
      rfl
    · rw [controls, Xml.Element.name_without]
      by_cases hcontrol : isControl e.name = true
      · rw [if_pos hcontrol, if_pos hcontrol]
        have hbelow := h.below List.getElem?_cons_zero
        exact congrArg₂ (fun d ds => d.toList ++ ds) (control_without hbelow p q)
          (controls_withoutFrom h.tail (p + 1) (q + 1))
      · rw [if_neg hcontrol, if_neg hcontrol]
        exact controls_withoutFrom h.tail (p + 1) (q + 1)

end

end Forests

/-! ## Whole documents -/

/-- Only controls without a type are deleted from a document, and none that declares defaults. -/
structure Prunes (root : Xml.Element) (gone : List Nat → Bool) : Prop where
  untyped : ∀ route e, root.at? route = some e → gone route = true →
    isControl e.name = true ∧ isTyped e = false
  defaults : ∀ i j s, root.children[i]? = some s → key s.name = "defaults" → gone [i, j] = false

theorem Prunes.spares {root : Xml.Element} {gone : List Nat → Bool} (h : Prunes root gone) :
    Spares gone 0 root.children := by
  intro i route e c he hc hgone
  rw [Nat.zero_add] at hgone
  refine h.untyped (i :: route) c ?_ hgone
  rw [Xml.Element.at?, he, Option.bind_some, hc]

theorem flatMap_withoutFrom {α : Type} {f : Xml.Element → List α}
    (hf : ∀ gone e, f (e.without gone) = f e) {gone : List Nat → Bool} (h : ∀ i, gone [i] = false)
    (position : Nat) (es : List Xml.Element) :
    (Xml.Element.withoutFrom gone position es).flatMap f = es.flatMap f := by
  induction es generalizing position with
  | nil => rfl
  | cons e rest ih =>
    rw [Xml.Element.withoutFrom, if_neg (by simp [h]), List.flatMap_cons, hf, ih,
      List.flatMap_cons]

theorem flatMap_filter_withoutFrom {α : Type} {f : Xml.Element → List α} {kind : String}
    (hkind : kind ≠ "control") {gone : List Nat → Bool} {position : Nat} {es : List Xml.Element}
    (hspares : Spares gone position es)
    (hf : ∀ i s, es[i]? = some s → key s.name = kind →
      f (s.without fun route => gone ((position + i) :: route)) = f s) :
    ((Xml.Element.withoutFrom gone position es).filter fun s => key s.name = kind).flatMap f =
      (es.filter fun s => key s.name = kind).flatMap f := by
  induction es generalizing position with
  | nil => rfl
  | cons s rest ih =>
    have hrest := ih hspares.tail fun i r hr hkind => by
      rw [Nat.add_right_comm, Nat.add_assoc]
      exact hf (i + 1) r hr hkind
    rw [Xml.Element.withoutFrom]
    split
    · next hgone =>
      -- what is deleted is a control, so it is no section
      have hcontrol : key s.name = "control" := of_decide_eq_true (hspares.head hgone).1
      rw [List.filter_cons_of_neg (by simpa [hcontrol] using hkind.symm), hrest]
    · by_cases hsection : key s.name = kind
      · rw [List.filter_cons_of_pos (by simpa using hsection),
          List.filter_cons_of_pos (by simpa using hsection), List.flatMap_cons, List.flatMap_cons,
          hrest]
        exact congrArg (· ++ _) (hf 0 s rfl hsection)
      · rw [List.filter_cons_of_neg (by simpa using hsection),
          List.filter_cons_of_neg (by simpa using hsection), hrest]

/-- What is read of the sections of a kind stays the same if it does for each of them. -/
theorem Prunes.flatMap_sections {root : Xml.Element} {gone : List Nat → Bool} (h : Prunes root gone)
    {α : Type} {f : Xml.Element → List α} {kind : String} (hkind : kind ≠ "control")
    (hf : ∀ i s, root.children[i]? = some s → key s.name = kind →
      f (s.without fun route => gone (i :: route)) = f s) :
    (sections kind (root.without gone)).flatMap f = (sections kind root).flatMap f := by
  rw [sections, Xml.Element.children_without]
  refine flatMap_filter_withoutFrom hkind h.spares fun i s hs hsection => ?_
  rw [Nat.zero_add]
  exact hf i s hs hsection

theorem defaultsOf_without {root : Xml.Element} {gone : List Nat → Bool} (h : Prunes root gone) :
    defaultsOf (root.without gone) = defaultsOf root := by
  rw [defaultsOf_eq, defaultSteps, List.flatMap_assoc, h.flatMap_sections (by decide),
    defaultsOf_eq, defaultSteps, List.flatMap_assoc]
  intro i s hs hsection
  rw [Xml.Element.children_without]
  refine flatMap_withoutFrom (fun _ e => ?_) (fun j => h.defaults i j s hs hsection) 0 s.children
  rw [Xml.Element.name_without, Xml.Element.attributes_without]

/-- **Deleting controls without a type** leaves the forest as it is. -/
theorem forest_without (file : FilePath) {root : Xml.Element} {gone : List Nat → Bool}
    (h : Prunes root gone) : (forest file (root.without gone)).2 = (forest file root).2 := by
  rw [forest, defaultsOf_without h, forest]
  dsimp only
  rw [List.flatMap_map, List.flatMap_map]
  refine h.flatMap_sections (by decide) fun i s hs _ => ?_
  have hbelow := h.spares.below hs
  rw [Nat.zero_add] at hbelow
  rw [Xml.Element.children_without, controls_withoutFrom file _ hbelow 0 0]

/-! ## The live controls without a type -/

/-- The routes to the live controls without a type. -/
def typelessRoutes (root : Xml.Element) : List (List Nat) :=
  ((liveControls root).filter fun x => !isTyped x.2).map Prod.fst

theorem mem_typelessRoutes {root : Xml.Element} {route : List Nat} :
    route ∈ typelessRoutes root ↔ ∃ e, Live root route e ∧ isTyped e = false := by
  simp only [typelessRoutes, List.mem_map, List.mem_filter, Bool.not_eq_true', Prod.exists,
    exists_and_right, exists_eq_right, (inOrder_liveControls root).mem_iff]

theorem Live.isControl {root e : Xml.Element} {route : List Nat} (h : Live root route e) :
    isControl e.name = true := by
  cases h with
  | inSection _ _ _ control => exact control
  | nested _ _ _ control => exact control

/-- A live control stands below a section of controls. -/
theorem Live.exists_section {root e : Xml.Element} {route : List Nat} (h : Live root route e) :
    ∃ i more s, route = i :: more ∧ root.children[i]? = some s ∧ key s.name = "controls" := by
  induction h with
  | inSection atRoot kind child control => exact ⟨_, _, _, rfl, atRoot, kind⟩
  | nested parent typed child control ih =>
    obtain ⟨i, more, s, rfl, hs, hkind⟩ := ih
    exact ⟨i, _, s, rfl, hs, hkind⟩

theorem prunes_typelessRoutes (root : Xml.Element) :
    Prunes root fun route => (typelessRoutes root).contains route where
  untyped route e hat hgone := by
    obtain ⟨c, hlive, htyped⟩ := mem_typelessRoutes.1 (List.contains_iff_mem.1 hgone)
    obtain rfl := Option.some.inj (hlive.at?.symm.trans hat)
    exact ⟨hlive.isControl, htyped⟩
  defaults i j s hs hkind := by
    rw [Bool.eq_false_iff]
    intro hgone
    obtain ⟨c, hlive, -⟩ := mem_typelessRoutes.1 (List.contains_iff_mem.1 hgone)
    obtain ⟨_, _, r, hroute, hr, hcontrols⟩ := hlive.exists_section
    obtain ⟨rfl, -⟩ := List.cons.inj hroute
    obtain rfl := Option.some.inj (hr.symm.trans hs)
    exact absurd (hcontrols.symm.trans hkind) (by decide)

section Logs

variable (file : FilePath) (t : Defaults) {gone : List Nat → Bool}

mutual

theorem log_control_without {route : List Nat} : ∀ e : Xml.Element, isTyped e = true →
    (∀ x ∈ liveAt route e, isTyped x.2 = false → gone x.1 = true) →
    ∀ position, (control file t position (e.without fun r => gone (route ++ r))).1 = []
  | .mk name attributes text children => by
    intro htyped hgone position
    rw [control_eq, isTyped_without, if_pos htyped, Xml.Element.children_without]
    rw [liveAt_eq, if_pos htyped] at hgone
    exact log_controls_withoutFrom children (fun x hx => hgone x (List.mem_cons_of_mem _ hx)) 0

theorem log_controls_withoutFrom {route : List Nat} {position : Nat} : ∀ es : List Xml.Element,
    (∀ x ∈ liveIn route position es, isTyped x.2 = false → gone x.1 = true) → ∀ p,
      (controls file t p
        (Xml.Element.withoutFrom (fun r => gone (route ++ r)) position es)).1 = []
  | [] => by
    intro _ p
    rw [Xml.Element.withoutFrom, controls]
  | e :: rest => by
    intro hgone p
    rw [liveIn] at hgone
    have hrest := log_controls_withoutFrom rest fun x hx =>
      hgone x (List.mem_append_right _ hx)
    rw [Xml.Element.withoutFrom]
    split
    · exact hrest p
    · next hkeep =>
      rw [controls, Xml.Element.name_without]
      by_cases hcontrol : isControl e.name = true
      · rw [if_pos hcontrol] at hgone
        have htyped : isTyped e = true := by
          by_contra htyped
          refine hkeep (hgone (route ++ [position], e) (List.mem_append_left _ ?_)
            (Bool.eq_false_iff.2 htyped))
          rw [liveAt_eq]
          exact List.mem_cons_self
        have hself := log_control_without e htyped
          (fun x hx => hgone x (List.mem_append_left _ hx)) p
        simp only [List.append_assoc, List.singleton_append] at hself
        rw [if_pos hcontrol]
        exact List.append_eq_nil_iff.2 ⟨hself, hrest (p + 1)⟩
      · rw [if_neg hcontrol]
        exact hrest (p + 1)

end

theorem log_sections {position : Nat} {es : List Xml.Element}
    (hgone : ∀ x ∈ liveSections position es, isTyped x.2 = false → gone x.1 = true) :
    ((Xml.Element.withoutFrom gone position es).filter fun s => key s.name = "controls").flatMap
      (fun s => (controls file t 0 s.children).1) = [] := by
  induction es generalizing position with
  | nil => rfl
  | cons s rest ih =>
    rw [liveSections] at hgone
    have hrest := ih fun x hx => hgone x (List.mem_append_right _ hx)
    rw [Xml.Element.withoutFrom]
    split
    · exact hrest
    · by_cases hkind : key s.name = "controls"
      · rw [if_pos hkind] at hgone
        rw [List.filter_cons_of_pos (by simpa using hkind), List.flatMap_cons, hrest,
          Xml.Element.children_without, List.append_nil]
        have hsection : ∀ x ∈ liveIn [position] 0 s.children, isTyped x.2 = false →
            gone x.1 = true := fun x hx => hgone x (List.mem_append_left _ hx)
        exact log_controls_withoutFrom file t s.children hsection 0
      · rw [List.filter_cons_of_neg (by simpa using hkind)]
        exact hrest

end Logs

/-- With the live controls without a type deleted, nothing is reported. -/
theorem log_without_typelessRoutes (file : FilePath) (root : Xml.Element) :
    (forest file (root.without fun route => (typelessRoutes root).contains route)).1 = [] := by
  rw [forest]
  dsimp only
  rw [List.flatMap_map, sections, Xml.Element.children_without]
  refine log_sections file _ fun x hx htyped => List.contains_iff_mem.2 ?_
  exact mem_typelessRoutes.2 ⟨x.2, (inOrder_liveControls root).mem_iff x.1 x.2 |>.1 hx, htyped⟩

/-! ## Recovery -/

/-- **Recovery prunes the controls without a type and nothing else.** Each live control with a type
stands for one node, each of the others for one warning, both in the order of the document, and a
node is as deep as its control among controls. The forest stays the same when controls without a
type are deleted, as long as none of them declares defaults. In particular it does when the live
ones are, and then there is no warning. -/
theorem forest_recovers (file : FilePath) (root : Xml.Element) :
    Xml.InOrder (Live root) (liveControls root) ∧
      Descriptor.levelsAll 0 (forest file root).2 =
        ((liveControls root).filter fun x => isTyped x.2).map
          (fun x => (x.1.length - 2, ownDescriptor (defaultsOf root) x.2)) ∧
      (forest file root).1 =
        ((liveControls root).filter fun x => !isTyped x.2).map
          (fun x => missingType file (x.1.getLastD 0) x.2.attributes) ∧
      (∀ gone, Prunes root gone → (forest file (root.without gone)).2 = (forest file root).2) ∧
      forest file (root.without fun route => (typelessRoutes root).contains route) =
        ([], (forest file root).2) :=
  ⟨inOrder_liveControls root, (tellsOf_forest file root).nodes, (tellsOf_forest file root).log,
    fun _ h => forest_without file h,
    Prod.ext (log_without_typelessRoutes file root)
      (forest_without file (prunes_typelessRoutes root))⟩

/-- A document with a control without a type between controls that have one. -/
def mixedLayout : Xml.Element :=
  .mk ⟨none, "Layout"⟩ [] "" [
    .mk ⟨none, "Controls"⟩ [] "" [
      .mk ⟨none, "Control"⟩ [⟨⟨none, "Type"⟩, "Panel"⟩] "" [
        .mk ⟨none, "Control"⟩ [⟨⟨none, "Width"⟩, "80"⟩] "" [
          .mk ⟨none, "Control"⟩ [⟨⟨none, "Type"⟩, "Button"⟩] "" []],
        .mk ⟨none, "Control"⟩ [⟨⟨none, "Type"⟩, "Label"⟩] "" []]]]

theorem forest_without_mixedLayout : Prunes mixedLayout (fun route => route == [0, 0, 0]) ∧
    (forest (.ofString "a.xml") (mixedLayout.without fun route => route == [0, 0, 0])).2 =
      (forest (.ofString "a.xml") mixedLayout).2 := by
  have hprunes : Prunes mixedLayout (fun route => route == [0, 0, 0]) := by
    refine ⟨fun route e he hgone => ?_, fun i j s _ _ => by simp⟩
    cases eq_of_beq hgone
    cases Option.some.inj he
    exact ⟨by decide, by decide⟩
  obtain ⟨-, -, -, hsame, -⟩ := forest_recovers (.ofString "a.xml") mixedLayout
  exact ⟨hprunes, hsame _ hprunes⟩

end LayoutTree.XmlFormat
