import LayoutTree.Proofs.Layout.LiveControls
import LayoutTree.Proofs.Layout.Overriding
import LayoutTree.Proofs.Xml.LocalName

/-!
# Namespaces in XML layouts

Sections, controls, types, groups and the properties of controls are found by their local names, so
the nodes of a document stay the same without its namespaces, as long as its defaults do
(`nodesWith_bare`). The defaults do not: the name of an attribute in a section of defaults becomes
the name of a default in its written form, namespace and all.

* `forest_bare_iff`: the forest stays the same exactly if no default of a type that a live control
  has is named with a namespace.
-/

namespace LayoutTree

open LayoutTree.Text

theorem mem_keys_lastOfEach {key : String} {ps : List Property} :
    key ∈ (lastOfEach ps).map Property.key ↔ key ∈ ps.map Property.key := by
  rw [map_key_lastOfEach, mem_keys_firstOfEach]

theorem mem_keys_overridden {key : String} {ps own : List Property} :
    key ∈ (overridden ps own).map Property.key ↔
      key ∈ ps.map Property.key ∨ key ∈ own.map Property.key := by
  rw [overridden, List.map_append, map_key_getD_lastWith, List.mem_append, mem_keys_apartFrom,
    mem_keys_lastOfEach]
  constructor
  · exact fun h => h.imp_right And.left
  · rintro (h | h)
    · exact .inl h
    · exact (Classical.em (key ∈ ps.map Property.key)).imp_right fun hps => ⟨h, hps⟩

namespace XmlFormat

/-! ## Controls -/

theorem setElements_map_bare (d : Descriptor) (es : List Xml.Element) :
    setElements d (es.map Xml.Element.bare) = setElements d es := by
  rw [setElements, setElements, List.filter_map, List.foldl_map]
  simp only [Function.comp_def, Xml.Element.name_bare, Xml.Element.text_bare]
  rfl

theorem setAttributes_map_bare (d : Descriptor) (attributes : List Xml.Attribute) :
    setAttributes d (attributes.map Xml.Attribute.bare) = setAttributes d attributes := by
  rw [setAttributes, setAttributes, List.filter_map, List.foldl_map]
  rfl

theorem attribute?_map_bare (k : String) (attributes : List Xml.Attribute) :
    attribute? k (attributes.map Xml.Attribute.bare) = attribute? k attributes := by
  rw [attribute?, List.find?_map, Option.map_map]
  rfl

theorem typeOf_bare (e : Xml.Element) : typeOf e.bare = typeOf e := by
  rw [typeOf, Xml.Element.attributes_bare, attribute?_map_bare, typeOf]

theorem ownDescriptor_bare (t : Defaults) (e : Xml.Element) :
    ownDescriptor t e.bare = ownDescriptor t e := by
  rw [ownDescriptor, typeOf_bare, groupOf, Xml.Element.attributes_bare, attribute?_map_bare,
    setAttributes_map_bare, Xml.Element.children_bare, setElements_map_bare]
  rfl

section Reading

variable (file : FilePath) (t : Defaults)

mutual

theorem control_bare (position : Nat) : ∀ e : Xml.Element,
    (control file t position e.bare).2 = (control file t position e).2
  | .mk name attributes text children => by
    rw [control_eq, control_eq, ownDescriptor_bare, isTyped, typeOf_bare, ← isTyped,
      Xml.Element.children_bare, controls_map_bare 0]
    split <;> rfl

theorem controls_map_bare (position : Nat) : ∀ es : List Xml.Element,
    (controls file t position (es.map Xml.Element.bare)).2 = (controls file t position es).2
  | [] => rfl
  | e :: rest => by
    have hrest := controls_map_bare (position + 1) rest
    have hcontrol : isControl e.bare.name = isControl e.name := by
      rw [Xml.Element.name_bare]
      rfl
    rw [List.map_cons, controls, controls, hcontrol]
    by_cases h : isControl e.name = true
    · rw [if_pos h, if_pos h]
      exact congrArg₂ (fun d ds => d.toList ++ ds) (control_bare position e) hrest
    · rw [if_neg h, if_neg h]
      exact hrest

end

end Reading

/-! ## Nodes over a table of defaults -/

/-- The nodes of the controls of a document over a table of defaults. -/
def nodesWith (file : FilePath) (t : Defaults) (root : Xml.Element) : List Descriptor :=
  (sections "controls" root).flatMap fun s => (controls file t 0 s.children).2

theorem snd_forest (file : FilePath) (root : Xml.Element) :
    (forest file root).2 = nodesWith file (defaultsOf root) root := by
  rw [forest, nodesWith]
  exact List.flatMap_map ..

theorem sections_bare (kind : String) (root : Xml.Element) :
    sections kind root.bare = (sections kind root).map Xml.Element.bare := by
  rw [sections, Xml.Element.children_bare, List.filter_map, sections]
  simp only [Function.comp_def, Xml.Element.name_bare]
  rfl

theorem nodesWith_bare (file : FilePath) (t : Defaults) (root : Xml.Element) :
    nodesWith file t root.bare = nodesWith file t root := by
  rw [nodesWith, sections_bare, List.flatMap_map, nodesWith]
  simp only [Xml.Element.children_bare, controls_map_bare]

/-- **Two tables give the same nodes** if they do for each live control with a type. -/
theorem nodesWith_eq_iff (file : FilePath) {t u : Defaults} {root : Xml.Element} :
    nodesWith file t root = nodesWith file u root ↔
      ∀ route e, Live root route e → isTyped e = true → ownDescriptor t e = ownDescriptor u e := by
  have hlevels : ∀ t, Descriptor.levelsAll 0 (nodesWith file t root) =
      ((liveControls root).filter fun x => isTyped x.2).map (entryOf t) := by
    intro t
    have hnodes := (tellsOf_liveSections 0 root.children : TellsOf file t 0 _ _).nodes
    dsimp only at hnodes
    rw [List.flatMap_map] at hnodes
    exact hnodes
  have hmem : ∀ route e, (route, e) ∈ (liveControls root).filter (fun x => isTyped x.2) ↔
      Live root route e ∧ isTyped e = true := by
    intro route e
    rw [List.mem_filter, (inOrder_liveControls root).mem_iff]
  constructor
  · intro h route e hlive htyped
    have hentries := congrArg (Descriptor.levelsAll 0) h
    rw [hlevels, hlevels, List.map_inj_left] at hentries
    exact congrArg Prod.snd (hentries (route, e) ((hmem route e).2 ⟨hlive, htyped⟩))
  · intro h
    apply @Descriptor.levelsAll_inj 0
    rw [hlevels, hlevels, List.map_inj_left]
    rintro ⟨route, e⟩ hx
    obtain ⟨hlive, htyped⟩ := (hmem route e).1 hx
    rw [entryOf, entryOf, h route e hlive htyped]

/-! ## Defaults -/

/-- The attributes that give defaults of a type, in the order of the document. -/
def defaultAttributes (root : Xml.Element) (type : String) : List Xml.Attribute :=
  (((sections "defaults" root).flatMap Xml.Element.children).filter fun d =>
    folded d.name.localName = folded type).flatMap Xml.Element.attributes

theorem added_defaultSteps (root : Xml.Element) (type : String) :
    Defaults.added (defaultSteps root) type =
      (defaultAttributes root type).map fun a => ⟨a.name.text, some a.value⟩ := by
  rw [defaultSteps, defaultAttributes, Defaults.added]
  induction (sections "defaults" root).flatMap Xml.Element.children with
  | nil => rfl
  | cons d rest ih =>
    rw [List.flatMap_cons, List.filterMap_append, ih, List.filterMap_cons, List.filter_cons]
    by_cases htype : folded d.name.localName = folded type
    · simp [Defaults.Step.default?, htype, Function.comp_def]
    · simp [Defaults.Step.default?, htype, Function.comp_def]

theorem defaultAttributes_bare (root : Xml.Element) (type : String) :
    defaultAttributes root.bare type = (defaultAttributes root type).map Xml.Attribute.bare := by
  have hname : ∀ d : Xml.Element, d.bare.name.localName = d.name.localName := fun d => by
    rw [Xml.Element.name_bare]
    rfl
  rw [defaultAttributes, sections_bare, List.flatMap_map, defaultAttributes]
  simp only [Xml.Element.children_bare, ← List.map_flatMap, List.filter_map, List.flatMap_map,
    Function.comp_def, hname, Xml.Element.attributes_bare]

theorem properties_ownDescriptor (root e : Xml.Element) :
    (ownDescriptor (defaultsOf root) e).properties =
      overridden (lastOfEach ((defaultAttributes root (typeOf e)).map fun a =>
        ⟨a.name.text, some a.value⟩)) (specifics e.attributes e.children) := by
  rw [ownDescriptor, properties_setElements, defaultsOf_eq, ← added_defaultSteps,
    ← foldl_setProperty_eq (nodup_lastOfEach _), ← Defaults.entries_ofSteps]
  rfl

/-! ## Without namespaces -/

section Names

variable {root : Xml.Element}

theorem at?_of_mem_defaults {d : Xml.Element}
    (h : d ∈ (sections "defaults" root).flatMap Xml.Element.children) :
    ∃ route, root.at? route = some d := by
  obtain ⟨s, hs, hd⟩ := List.mem_flatMap.1 h
  obtain ⟨i, hi⟩ := List.getElem?_of_mem (List.mem_filter.1 hs).1
  obtain ⟨j, hj⟩ := List.getElem?_of_mem hd
  refine ⟨[i, j], ?_⟩
  rw [Xml.Element.at?, hi, Option.bind_some, Xml.Element.at?, hj, Option.bind_some,
    Xml.Element.at?]

theorem brace_notMem_of_mem_defaultAttributes (h : root.IsNamed) {type : String}
    {a : Xml.Attribute} (ha : a ∈ defaultAttributes root type) :
    '\x7d' ∉ a.name.localName.toList := by
  obtain ⟨d, hd, ha⟩ := List.mem_flatMap.1 ha
  obtain ⟨route, hroute⟩ := at?_of_mem_defaults (List.mem_filter.1 hd).1
  exact (h route d hroute).2 a ha

/-- The properties that a control gives itself have names without a closing brace. -/
theorem brace_notMem_of_mem_specifics (h : root.IsNamed) {route : List Nat} {e : Xml.Element}
    (he : root.at? route = some e) {p : Property} (hp : p ∈ specifics e.attributes e.children) :
    '\x7d' ∉ p.name.toList := by
  rcases List.mem_append.1 hp with hp | hp
  · obtain ⟨a, ha, rfl⟩ := List.mem_map.1 hp
    exact (h route e he).2 a (List.mem_filter.1 ha).1
  · obtain ⟨c, hc, rfl⟩ := List.mem_map.1 hp
    obtain ⟨i, hi⟩ := List.getElem?_of_mem (List.mem_filter.1 hc).1
    refine (h (route ++ [i]) c ?_).1
    rw [Xml.Element.at?_append_singleton, he, Option.bind_some, hi]

theorem brace_mem_key_iff {p : Property} : '\x7d' ∈ p.key.toList ↔ '\x7d' ∈ p.name.toList := by
  rw [Property.key, folded, String.toList_ofList, brace_mem_fold_iff]

end Names

/-- Of defaults overridden by properties without a closing brace in their names, a key holds one if
the name of a default does. -/
theorem exists_brace_iff {own : List Property} (hown : ∀ p ∈ own, '\x7d' ∉ p.name.toList)
    (attributes : List Xml.Attribute) :
    (∃ key ∈ (overridden (lastOfEach (attributes.map fun a => ⟨a.name.text, some a.value⟩))
        own).map Property.key, '\x7d' ∈ key.toList) ↔
      ∃ a ∈ attributes, '\x7d' ∈ a.name.text.toList := by
  constructor
  · rintro ⟨key, hkey, hbrace⟩
    rw [mem_keys_overridden, mem_keys_lastOfEach, List.map_map, List.mem_map, List.mem_map] at hkey
    rcases hkey with ⟨a, ha, rfl⟩ | ⟨p, hp, rfl⟩
    · exact ⟨a, ha, brace_mem_key_iff.1 hbrace⟩
    · exact absurd (brace_mem_key_iff.1 hbrace) (hown p hp)
  · rintro ⟨a, ha, hbrace⟩
    refine ⟨Property.key ⟨a.name.text, some a.value⟩, ?_, brace_mem_key_iff.2 hbrace⟩
    rw [mem_keys_overridden, mem_keys_lastOfEach, List.map_map]
    exact .inl (List.mem_map.2 ⟨a, ha, rfl⟩)

/-- **Namespaces matter for defaults only.** The forest of a document is the same without namespaces
exactly if no attribute that gives a default of the type of a live control has one. -/
theorem forest_bare_iff (file : FilePath) {root : Xml.Element} (h : root.IsNamed) :
    (forest file root.bare).2 = (forest file root).2 ↔
      ∀ route e, Live root route e → isTyped e = true →
        ∀ a ∈ defaultAttributes root (typeOf e), a.name.space = none := by
  rw [snd_forest, snd_forest, nodesWith_bare, nodesWith_eq_iff]
  refine forall₂_congr fun route e => forall₂_congr fun hlive _ => ?_
  have hown : ∀ p ∈ specifics e.attributes e.children, '\x7d' ∉ p.name.toList := fun p hp =>
    brace_notMem_of_mem_specifics h hlive.at? hp
  have hlocal : ∀ a ∈ defaultAttributes root (typeOf e), '\x7d' ∉ a.name.localName.toList :=
    fun a ha => brace_notMem_of_mem_defaultAttributes h ha
  constructor
  · intro heq a ha
    by_contra hspace
    have hbrace := (exists_brace_iff hown _).2
      ⟨a, ha, (Xml.Name.brace_mem_text_iff (hlocal a ha)).2 hspace⟩
    rw [← properties_ownDescriptor, ← heq, properties_ownDescriptor,
      defaultAttributes_bare] at hbrace
    obtain ⟨b, hb, hbrace⟩ := (exists_brace_iff hown _).1 hbrace
    obtain ⟨c, hc, rfl⟩ := List.mem_map.1 hb
    exact hlocal c hc hbrace
  · intro hspace
    have hnames : (defaultAttributes root (typeOf e)).map
        ((fun a => (⟨a.name.text, some a.value⟩ : Property)) ∘ Xml.Attribute.bare) =
          (defaultAttributes root (typeOf e)).map fun a => ⟨a.name.text, some a.value⟩ := by
      refine List.map_congr_left fun a ha => ?_
      have htext : a.name.text = a.name.localName := by
        rw [Xml.Name.text, hspace a ha]
      exact congrArg (fun name => (⟨name, some a.value⟩ : Property)) htext.symm
    rw [ownDescriptor_eq, ownDescriptor_eq (defaultsOf root), properties_ownDescriptor,
      properties_ownDescriptor, defaultAttributes_bare, List.map_map, hnames]

/-- A document whose elements and attributes have a namespace, apart from the attribute that gives a
default. -/
def qualifiedLayout : Xml.Element :=
  .mk ⟨some "u", "Layout"⟩ [] "" [
    .mk ⟨some "u", "Defaults"⟩ [] "" [
      .mk ⟨some "u", "Button"⟩ [⟨⟨none, "Width"⟩, "120"⟩] "" []],
    .mk ⟨some "u", "Controls"⟩ [] "" [
      .mk ⟨some "u", "Control"⟩ [⟨⟨some "u", "Type"⟩, "Button"⟩, ⟨⟨some "u", "Width"⟩, "80"⟩] "" [
        .mk ⟨some "u", "ToolTip"⟩ [] "Saves" []]]]

theorem forest_bare_qualifiedLayout : qualifiedLayout.IsNamed ∧
    (forest (.ofString "a.xml") qualifiedLayout.bare).2 =
      (forest (.ofString "a.xml") qualifiedLayout).2 := by
  have hnamed : qualifiedLayout.IsNamed := by
    simp [Xml.Element.everywhere_mk, qualifiedLayout, Xml.Element.HasLocalNames,
      Xml.Element.attributes, Xml.Element.name]
  have hdefaults : ((sections "defaults" qualifiedLayout).flatMap Xml.Element.children).flatMap
      Xml.Element.attributes = [⟨⟨none, "Width"⟩, "120"⟩] := by decide
  refine ⟨hnamed, (forest_bare_iff (.ofString "a.xml") hnamed).2 fun _ e _ _ a ha => ?_⟩
  obtain ⟨d, hd, ha⟩ := List.mem_flatMap.1 ha
  have hmem := List.mem_flatMap.2 ⟨d, (List.mem_filter.1 hd).1, ha⟩
  rw [hdefaults, List.mem_singleton] at hmem
  rw [hmem]

/-- A document that gives a default by an attribute with a namespace. -/
def prefixedLayout : Xml.Element :=
  .mk ⟨none, "Layout"⟩ [] "" [
    .mk ⟨none, "Defaults"⟩ [] "" [.mk ⟨none, "Button"⟩ [⟨⟨some "u", "Width"⟩, "120"⟩] "" []],
    .mk ⟨none, "Controls"⟩ [] "" [.mk ⟨none, "Control"⟩ [⟨⟨none, "Type"⟩, "Button"⟩] "" []]]

/-- Without its namespaces the document has another forest. -/
theorem not_forest_bare_prefixedLayout : prefixedLayout.HasDistinctAttributes ∧
    (forest (.ofString "a.xml") prefixedLayout.bare).2 ≠
      (forest (.ofString "a.xml") prefixedLayout).2 := by
  refine ⟨?_, fun h => ?_⟩
  · simp [Xml.Element.everywhere_mk, prefixedLayout, Xml.Element.attributes]
  · have hnames := congrArg (List.map fun d => d.properties.map Property.name) h
    revert hnames
    decide

end XmlFormat

end LayoutTree
