import LayoutTree.Layout.Document
import LayoutTree.Layout.TextFormat
import LayoutTree.Layout.XmlFormat
import LayoutTree.Proofs.Layout.NodeLine
import LayoutTree.Proofs.Layout.Shape

/-!
# Plans of layouts

A plan is what a layout says apart from the form in which it is written: defaults by type, and nodes
with a type, a group, properties and nodes below (`Plan`, `Part`). Its shape has the properties of
each node after the defaults of its type (`Plan.shapes`).

A plan can be written as structured data and as XML elements (`Plan.data`, `Plan.element`). Both
are read as the same descriptors, which start with the defaults (`Plan.seeded`), and these have the
shape of the plan (`shapes_seeded`).
-/

namespace LayoutTree

open LayoutTree.Text LayoutTree.Layout

/-- A node of a plan: its type, its group, its properties in order, and the nodes below it. -/
inductive Part
  | mk (typeName : String) (group : Option String) (properties : List (String × String))
      (parts : List Part)

/-- A layout, whatever form it is written in. -/
structure Plan where
  /-- The default properties by type. -/
  defaults : List (String × List (String × String))
  /-- The nodes in order. -/
  parts : List Part

/-- Named values as properties. -/
def asProperties (ps : List (String × String)) : List Property :=
  ps.map fun p => ⟨p.1, some p.2⟩

namespace Part

/-- The type of a node. -/
def typeName : Part → String
  | mk typeName _ _ _ => typeName

/-- The group of a node. -/
def group : Part → Option String
  | mk _ group _ _ => group

/-- The properties of a node in order. -/
def properties : Part → List (String × String)
  | mk _ _ properties _ => properties

mutual

/-- A node and the nodes below it. -/
def walk : Part → List Part
  | mk typeName group properties parts => mk typeName group properties parts :: walkAll parts

/-- Several nodes and the nodes below them. -/
def walkAll : List Part → List Part
  | [] => []
  | p :: ps => walk p ++ walkAll ps

end

mutual

/-- What a node says, given the defaults of each type. -/
def shape (defaults : String → List Property) : Part → Shape
  | mk typeName group properties parts =>
    .mk typeName group (effective (defaults typeName ++ asProperties properties))
      (shapes defaults parts)

/-- What several nodes say. -/
def shapes (defaults : String → List Property) : List Part → List Shape
  | [] => []
  | p :: ps => shape defaults p :: shapes defaults ps

end

mutual

/-- The descriptor of a node that starts with the defaults of its type. -/
def seeded (t : Defaults) : Part → Descriptor
  | mk typeName group properties parts =>
    ⟨typeName,
      (asProperties properties).foldl (fun ps entry => setProperty entry false ps)
        (t.entries typeName),
      group, seededAll t parts, none⟩

/-- The descriptors of several nodes. -/
def seededAll (t : Defaults) : List Part → List Descriptor
  | [] => []
  | p :: ps => seeded t p :: seededAll t ps

end

mutual

/-- Descriptors that start with the defaults have the shape of the node. -/
theorem shape_seeded {t : Defaults} {defaults : String → List Property} (h : t.Holds defaults) :
    ∀ p : Part, (seeded t p).shape = shape defaults p
  | mk typeName group properties parts => by
    have hvalues : effective ((asProperties properties).foldl
        (fun ps entry => setProperty entry false ps) (t.entries typeName)) =
        effective (defaults typeName ++ asProperties properties) := by
      funext key
      rw [effective_foldl_setProperty, effective_append, effective_append, h.values]
    rw [seeded, Descriptor.shape, shape, hvalues, shapes_seededAll h parts]

theorem shapes_seededAll {t : Defaults} {defaults : String → List Property} (h : t.Holds defaults) :
    ∀ ps : List Part, Descriptor.shapes (seededAll t ps) = shapes defaults ps
  | [] => rfl
  | p :: ps => by
    rw [seededAll, Descriptor.shapes, shapes, shape_seeded h p, shapes_seededAll h ps]

end

end Part

namespace Plan

variable (l : Plan)

/-! ## The shape of a plan -/

/-- The defaults of a type in order: those of all types of its name, case aside. -/
def defaultsOf (typeName : String) : List Property :=
  l.defaults.flatMap fun d => if folded d.1 = folded typeName then asProperties d.2 else []

/-- What the nodes of a plan say. -/
def shapes : List Shape := Part.shapes l.defaultsOf l.parts

/-- The defaults of a type added to a table. -/
def declareBlock (t : Defaults) (d : String × List (String × String)) : Defaults :=
  d.2.foldl (fun t p => t.add d.1 p.1 (some p.2)) (t.declare d.1)

/-- The table of the defaults. -/
def table : Defaults := l.defaults.foldl declareBlock .empty

/-- The nodes as descriptors that start with the defaults of their types. -/
def seeded : List Descriptor := Part.seededAll l.table l.parts

theorem holds_declareBlock {t : Defaults} {added : String → List Property} (h : t.Holds added)
    (d : String × List (String × String)) : (declareBlock t d).Holds fun other =>
      added other ++ if folded d.1 = folded other then asProperties d.2 else [] := by
  have hblock : declareBlock t d =
      (asProperties d.2).foldl (fun t p => t.add d.1 p.name p.value) (t.declare d.1) := by
    rw [declareBlock, asProperties, List.foldl_map]
  rw [hblock]
  exact (h.declare d.1).addAll d.1 _

/-- **The table holds the defaults of the plan.** -/
theorem holds_table : l.table.Holds l.defaultsOf := by
  have hfold : ∀ (ds : List (String × List (String × String))) {t : Defaults}
      {added : String → List Property}, t.Holds added → (ds.foldl declareBlock t).Holds fun other =>
        added other ++
          ds.flatMap fun d => if folded d.1 = folded other then asProperties d.2 else [] := by
    intro ds
    induction ds with
    | nil =>
      intro t added h
      simpa using h
    | cons d ds ih =>
      intro t added h
      simpa [List.flatMap_cons] using ih (holds_declareBlock h d)
  exact hfold l.defaults .empty

theorem shapes_seeded : Descriptor.shapes l.seeded = l.shapes :=
  Part.shapes_seededAll l.holds_table l.parts

end Plan

/-! ## Plans that can be written in every form -/

/-- The names that stand for something else than a property in one of the forms. -/
def reservedNames : List String :=
  TextFormat.propertiesFileNames ++ TextFormat.childrenFileNames ++
    ["Type", "Group", "Control", "Grupo"]

/-- A property that can be written in every form. Its value is any text, but of the characters that
end a line only those that have an escape can occur. -/
structure IsPlainProperty (p : String × String) : Prop where
  name : IsName p.1.toList
  unreserved : ∀ r ∈ reservedNames, folded p.1 ≠ folded r
  breaks : ∀ c ∈ p.2.toList, isLineBreak c = true → c = '\n' ∨ c = '\r'

instance (p : String × String) : Decidable (IsPlainProperty p) :=
  decidable_of_iff (IsName p.1.toList ∧ (∀ r ∈ reservedNames, folded p.1 ≠ folded r) ∧
      (p.2.toList.all fun c => decide (isLineBreak c = true → c = '\n' ∨ c = '\r')) = true)
    ⟨fun h => ⟨h.1, h.2.1, by simpa only [List.all_eq_true, decide_eq_true_eq] using h.2.2⟩,
      fun h => ⟨h.name, h.unreserved,
        by simpa only [List.all_eq_true, decide_eq_true_eq] using h.breaks⟩⟩

/-- A node that can be written in every form. -/
structure Part.IsPlain (p : Part) : Prop where
  typeName : IsName p.typeName.toList
  group : ∀ g ∈ p.group, IsName g.toList
  properties : ∀ q ∈ p.properties, IsPlainProperty q
  contents : ∀ q ∈ p.properties, folded q.1 = folded TextFormat.contentName →
    namesChildren q.2 = false

instance (p : Part) : Decidable p.IsPlain :=
  decidable_of_iff (IsName p.typeName.toList ∧ (∀ g ∈ p.group, IsName g.toList) ∧
      (∀ q ∈ p.properties, IsPlainProperty q) ∧
      ∀ q ∈ p.properties, folded q.1 = folded TextFormat.contentName → namesChildren q.2 = false)
    ⟨fun h => ⟨h.1, h.2.1, h.2.2.1, h.2.2.2⟩,
      fun h => ⟨h.typeName, h.group, h.properties, h.contents⟩⟩

/-- A plan that can be written in every form. -/
structure Plan.IsPlain (l : Plan) : Prop where
  types : ∀ d ∈ l.defaults, IsName d.1.toList
  defaults : ∀ d ∈ l.defaults, ∀ p ∈ d.2, IsPlainProperty p ∧ ';' ∉ p.2.toList
  parts : ∀ p ∈ Part.walkAll l.parts, p.IsPlain

instance (l : Plan) : Decidable l.IsPlain :=
  decidable_of_iff ((∀ d ∈ l.defaults, IsName d.1.toList) ∧
      (∀ d ∈ l.defaults, ∀ p ∈ d.2, IsPlainProperty p ∧ ';' ∉ p.2.toList) ∧
      ∀ p ∈ Part.walkAll l.parts, p.IsPlain)
    ⟨fun h => ⟨h.1, h.2.1, h.2.2⟩, fun h => ⟨h.types, h.defaults, h.parts⟩⟩

theorem Part.mem_walk_self (p : Part) : p ∈ p.walk := by
  obtain ⟨typeName, group, properties, parts⟩ := p
  exact List.mem_cons_self

theorem trimmed_of_isName {s : String} (h : IsName s.toList) : trimmed s = s := by
  rw [trimmed, onChars, trim_of_isNameChar h.chars, String.ofList_toList]

/-! ## Structured data -/

/-- Properties as the fields of an object. -/
def dataProperties (ps : List (String × String)) : List (String × Data) :=
  ps.map fun p => (p.1, .text p.2)

namespace Part

mutual

/-- A node as structured data. -/
def data : Part → Data
  | mk typeName group properties parts =>
    .object (("type", .text typeName) :: ((group.map fun g => ("group", Data.text g)).toList ++
      [("properties", .object (dataProperties properties)), ("children", .list (dataAll parts))]))

/-- Nodes as structured data. -/
def dataAll : List Part → List Data
  | [] => []
  | p :: ps => data p :: dataAll ps

end

mutual

/-- A node as a control of a layout document. -/
def control : Part → Control
  | mk typeName group properties parts =>
    .mk typeName group (dataProperties properties) (controls parts)

/-- Nodes as controls of a layout document. -/
def controls : List Part → List Control
  | [] => []
  | p :: ps => control p :: controls ps

end

theorem readType_of_lookup {fields : List (String × Data)} {s : String}
    (h : Data.field? fields "type" = some (.text s)) (hs : s.isEmpty = false) :
    Document.readType fields = .ok s := by
  simp only [Document.readType, h, hs, Bool.false_eq_true, if_false]
  rfl

theorem readGroup_of_lookup {fields : List (String × Data)} {s : String}
    (h : Data.field? fields "group" = some (.text s)) (hs : s ≠ "") :
    Document.readGroup fields = .ok (some s) := by
  have hpresent : Document.present? fields "group" = some (.text s) := by
    unfold Document.present?
    rw [h]
    split
    · next heq => exact absurd (Data.text.inj (Option.some.inj heq)) hs
    · rfl
  rw [Document.readGroup, hpresent]
  rfl

mutual

/-- The data of a node follows the schema. -/
theorem readControl_data : ∀ p : Part, (∀ q ∈ walk p, q.IsPlain) →
    Document.readControl p.data = .ok p.control
  | mk typeName group properties parts, h => by
    have hself : IsPlain (mk typeName group properties parts) := h _ (mem_walk_self _)
    have hitems := readItems_dataAll parts (fun q hq => h q (List.mem_cons_of_mem _ hq)) 0
    rw [data, Document.readControl, control,
      readType_of_lookup rfl (isEmpty_of_isName hself.typeName)]
    cases group with
    | none =>
      simp only [Option.map_none, Option.toList_none, List.nil_append, Document.readChildren,
        Document.readControls, hitems]
      rfl
    | some g =>
      have hgroup : g ≠ "" := by
        rintro rfl
        exact (hself.group "" rfl).ne_nil rfl
      rw [readGroup_of_lookup rfl hgroup]
      simp only [Option.map_some, Option.toList_some, List.singleton_append, Document.readChildren,
        Document.readControls, hitems]
      rfl

theorem readItems_dataAll : ∀ ps : List Part, (∀ q ∈ walkAll ps, q.IsPlain) → ∀ index,
    Document.readItems index (dataAll ps) = .ok (controls ps)
  | [], _, _ => by rw [dataAll, Document.readItems, controls]
  | p :: ps, h, index => by
    have hp := readControl_data p fun q hq => h q (List.mem_append_left _ hq)
    have hps := readItems_dataAll ps (fun q hq => h q (List.mem_append_right _ hq)) (index + 1)
    rw [dataAll, Document.readItems, hp, hps, controls]
    rfl

end

theorem setAll_dataProperties (d : Descriptor) (ps : List (String × String)) :
    Document.setAll d (dataProperties ps) = { d with
      properties := (asProperties ps).foldl (fun qs entry => setProperty entry false qs)
        d.properties } := by
  induction ps generalizing d with
  | nil =>
    obtain ⟨typeName, properties, group, children, source⟩ := d
    rfl
  | cons p ps ih => exact ih (d.set p.1 (some p.2))

mutual

theorem descriptor_control (t : Defaults) : ∀ p : Part, (∀ q ∈ walk p, q.IsPlain) →
    Document.descriptor t p.control = seeded t p
  | mk typeName group properties parts, h => by
    have hself : IsPlain (mk typeName group properties parts) := h _ (mem_walk_self _)
    have hparts := descriptors_controls t parts fun q hq => h q (List.mem_cons_of_mem _ hq)
    have hgroup : Context.nonEmpty? group = group := by
      cases group with
      | none => rfl
      | some g => simp [Context.nonEmpty?, isEmpty_of_isName (hself.group g rfl)]
    rw [control, Document.descriptor, hparts, hgroup, seeded, setAll_dataProperties]
    rfl

theorem descriptors_controls (t : Defaults) : ∀ ps : List Part, (∀ q ∈ walkAll ps, q.IsPlain) →
    Document.descriptors t (controls ps) = seededAll t ps
  | [], _ => by rw [controls, Document.descriptors, seededAll]
  | p :: ps, h => by
    rw [controls, Document.descriptors, seededAll,
      descriptor_control t p fun q hq => h q (List.mem_append_left _ hq),
      descriptors_controls t ps fun q hq => h q (List.mem_append_right _ hq)]

end

end Part

namespace Plan

/-- The fields of a plan as structured data. -/
def fields (l : Plan) : List (String × Data) :=
  [("defaults", .object (l.defaults.map fun d => (d.1, .object (dataProperties d.2)))),
    ("controls", .list (Part.dataAll l.parts))]

/-- A plan as structured data. -/
def data (l : Plan) : Data := .object l.fields

/-- A plan as a layout document. -/
def document (l : Plan) : Document :=
  ⟨l.defaults.map fun d => (d.1, dataProperties d.2), Part.controls l.parts⟩

variable {l : Plan}

theorem readDefaults_data (ds : List (String × List (String × String))) :
    Document.readDefaults (ds.map fun d => (d.1, .object (dataProperties d.2))) =
      .ok (ds.map fun d => (d.1, dataProperties d.2)) := by
  induction ds with
  | nil => rfl
  | cons d ds ih =>
    rw [List.map_cons, Document.readDefaults, ih]
    rfl

/-- The data of a plan follows the schema. -/
theorem read_fields (h : l.IsPlain) : Document.read l.fields = .ok l.document := by
  have hdefaults : Document.present? l.fields "defaults" =
    some (.object (l.defaults.map fun d => (d.1, .object (dataProperties d.2)))) := rfl
  have hcontrols : Data.field? l.fields "controls" = some (.list (Part.dataAll l.parts)) := rfl
  simp only [Document.read, hdefaults, hcontrols, Document.readControls, Document.readObject,
    Part.readItems_dataAll l.parts h.parts 0]
  change (Document.within _ (Document.readDefaults _) >>= _) = _
  rw [readDefaults_data]
  rfl

theorem ofData_data (h : l.IsPlain) (file : FilePath) :
    Document.ofData file l.data = .ok l.document.forest := by
  simp only [Document.ofData, data, read_fields h]

theorem table_document : l.document.table = l.table := by
  rw [Document.table, document, table, List.foldl_map]
  congr 1
  funext t d
  change (dataProperties d.2).foldl _ _ = _
  rw [dataProperties, List.foldl_map]
  rfl

theorem forest_document (h : l.IsPlain) : l.document.forest = l.seeded := by
  rw [Document.forest, table_document]
  exact Part.descriptors_controls l.table l.parts h.parts

end Plan

/-! ## XML elements -/

/-- Properties as attributes. -/
def attributesOf (ps : List (String × String)) : List Xml.Attribute :=
  ps.map fun p => ⟨⟨none, p.1⟩, p.2⟩

/-- The attributes of a node. -/
def Part.attributes (typeName : String) (group : Option String) (ps : List (String × String)) :
    List Xml.Attribute :=
  ⟨⟨none, "Type"⟩, typeName⟩ ::
    ((group.map fun g => ⟨⟨none, "Group"⟩, g⟩).toList ++ attributesOf ps)

theorem key_type : XmlFormat.key ⟨none, "Type"⟩ = "type" := by decide

theorem key_group : XmlFormat.key ⟨none, "Group"⟩ = "group" := by decide

theorem key_of_mem_attributesOf {ps : List (String × String)} (h : ∀ q ∈ ps, IsPlainProperty q)
    {a : Xml.Attribute} (ha : a ∈ attributesOf ps) :
    XmlFormat.key a.name ≠ "type" ∧ XmlFormat.key a.name ≠ "group" := by
  obtain ⟨q, hq, rfl⟩ := List.mem_map.1 ha
  have hunreserved := (h q hq).unreserved
  rw [← key_type, ← key_group]
  exact ⟨hunreserved "Type" (by decide), hunreserved "Group" (by decide)⟩

namespace Part

theorem attribute_type (typeName : String) (group : Option String) (ps : List (String × String)) :
    XmlFormat.attribute? "type" (attributes typeName group ps) = some typeName := by
  rw [attributes, XmlFormat.attribute?, List.find?_cons_of_pos (by simp [key_type])]
  rfl

theorem attribute_group (typeName : String) (group : Option String) {ps : List (String × String)}
    (h : ∀ q ∈ ps, IsPlainProperty q) :
    XmlFormat.attribute? "group" (attributes typeName group ps) = group := by
  rw [attributes, XmlFormat.attribute?, List.find?_cons_of_neg (by simp [key_type])]
  cases group with
  | some g =>
    rw [Option.map_some, Option.toList_some, List.singleton_append,
      List.find?_cons_of_pos (by simp [key_group])]
    rfl
  | none =>
    have hnone : (attributesOf ps).find? (fun a => XmlFormat.key a.name = "group") = none :=
      List.find?_eq_none.2 fun a ha => by simpa using (key_of_mem_attributesOf h ha).2
    rw [Option.map_none, Option.toList_none, List.nil_append, hnone]
    rfl

/-- The properties of a node are the attributes other than its type and its group. -/
theorem filter_attributes (typeName : String) (group : Option String)
    {ps : List (String × String)} (h : ∀ q ∈ ps, IsPlainProperty q) :
    (attributes typeName group ps).filter
      (fun a => XmlFormat.key a.name ≠ "type" ∧ XmlFormat.key a.name ≠ "group") =
      attributesOf ps := by
  have hps : (attributesOf ps).filter
      (fun a => XmlFormat.key a.name ≠ "type" ∧ XmlFormat.key a.name ≠ "group") =
      attributesOf ps :=
    List.filter_eq_self.2 fun a ha => by simpa using key_of_mem_attributesOf h ha
  rw [attributes, List.filter_cons_of_neg (by simp [key_type]), List.filter_append, hps]
  cases group with
  | none => rfl
  | some g =>
    rw [Option.map_some, Option.toList_some, List.filter_cons_of_neg (by simp [key_group])]
    rfl

theorem setAttributes_attributes (d : Descriptor) (typeName : String) (group : Option String)
    {ps : List (String × String)} (h : ∀ q ∈ ps, IsPlainProperty q) :
    XmlFormat.setAttributes d (attributes typeName group ps) = { d with
      properties := (asProperties ps).foldl (fun qs entry => setProperty entry false qs)
        d.properties } := by
  rw [XmlFormat.setAttributes, filter_attributes typeName group h]
  clear h
  induction ps generalizing d with
  | nil =>
    obtain ⟨typeName, properties, group, children, source⟩ := d
    rfl
  | cons p ps ih => exact ih (d.set p.1 (some p.2))

mutual

/-- A node as an XML element. -/
def element : Part → Xml.Element
  | mk typeName group properties parts =>
    .mk ⟨none, "Control"⟩ (attributes typeName group properties) "" (elements parts)

/-- Nodes as XML elements. -/
def elements : List Part → List Xml.Element
  | [] => []
  | p :: ps => element p :: elements ps

end

theorem isControl_element (p : Part) : XmlFormat.isControl p.element.name = true := by
  obtain ⟨typeName, group, properties, parts⟩ := p
  have hname : XmlFormat.isControl ⟨none, "Control"⟩ = true := by decide
  rw [element]
  exact hname

theorem filter_elements (ps : List Part) :
    (elements ps).filter (fun e => !XmlFormat.isControl e.name) = [] := by
  induction ps with
  | nil => rw [elements, List.filter_nil]
  | cons p ps ih =>
    rw [elements, List.filter_cons_of_neg (by simp [isControl_element p]), ih]

mutual

theorem control_element (file : FilePath) (t : Defaults) : ∀ p : Part,
    (∀ q ∈ walk p, q.IsPlain) → ∀ position,
      (XmlFormat.control file t position p.element).2 = some (seeded t p)
  | mk typeName group properties parts, h, position => by
    have hself : IsPlain (mk typeName group properties parts) := h _ (mem_walk_self _)
    have hparts := controls_elements file t parts (fun q hq => h q (List.mem_cons_of_mem _ hq)) 0
    have hname : IsName typeName.toList := hself.typeName
    have hproperties : ∀ q ∈ properties, IsPlainProperty q := hself.properties
    have hgroup : (if (trimmed (group.getD "")).isEmpty = true then none
        else some (trimmed (group.getD ""))) = group := by
      cases group with
      | none => rfl
      | some g =>
        have hg := hself.group g rfl
        simp [trimmed_of_isName hg, isEmpty_of_isName hg]
    simp only [element, XmlFormat.control, attribute_type, attribute_group _ _ hproperties,
      Option.getD_some, trimmed_of_isName hname, isEmpty_of_isName hname, Bool.false_eq_true,
      if_false, hgroup, hparts, setAttributes_attributes _ _ _ hproperties, XmlFormat.setElements,
      filter_elements, List.foldl_nil]
    rw [seeded]
    rfl

theorem controls_elements (file : FilePath) (t : Defaults) : ∀ ps : List Part,
    (∀ q ∈ walkAll ps, q.IsPlain) → ∀ position,
      (XmlFormat.controls file t position (elements ps)).2 = seededAll t ps
  | [], _, _ => by rw [elements, XmlFormat.controls, seededAll]
  | p :: ps, h, position => by
    have hp := control_element file t p (fun q hq => h q (List.mem_append_left _ hq)) position
    have hps := controls_elements file t ps (fun q hq => h q (List.mem_append_right _ hq))
      (position + 1)
    have hcontrol : XmlFormat.isControl p.element.name = true := isControl_element p
    rw [elements, XmlFormat.controls, if_pos hcontrol]
    simp only [hp, hps]
    rfl

end

end Part

namespace Plan

/-- A plan as an XML element. -/
def element (l : Plan) : Xml.Element :=
  .mk ⟨none, "Layout"⟩ [] "" [
    .mk ⟨none, "Defaults"⟩ [] "" (l.defaults.map fun d => .mk ⟨none, d.1⟩ (attributesOf d.2) "" []),
    .mk ⟨none, "Controls"⟩ [] "" (Part.elements l.parts)]

variable {l : Plan}

theorem defaultsOf_element : XmlFormat.defaultsOf l.element = l.table := by
  have hsections : XmlFormat.sections "defaults" l.element =
      [.mk ⟨none, "Defaults"⟩ [] ""
        (l.defaults.map fun d => .mk ⟨none, d.1⟩ (attributesOf d.2) "" [])] := by
    have hdefaults : XmlFormat.key ⟨none, "Defaults"⟩ = "defaults" := by decide
    have hcontrols : XmlFormat.key ⟨none, "Controls"⟩ ≠ "defaults" := by decide
    simp [XmlFormat.sections, element, Xml.Element.children, Xml.Element.name, hdefaults, hcontrols]
  rw [XmlFormat.defaultsOf, hsections, List.flatMap_singleton, Xml.Element.children, table,
    List.foldl_map]
  congr 1
  funext t d
  change (attributesOf d.2).foldl _ _ = _
  rw [attributesOf, List.foldl_map]
  rfl

theorem forest_element (h : l.IsPlain) (file : FilePath) :
    (XmlFormat.forest file l.element).2 = l.seeded := by
  have hsections : XmlFormat.sections "controls" l.element =
      [.mk ⟨none, "Controls"⟩ [] "" (Part.elements l.parts)] := by
    have hdefaults : XmlFormat.key ⟨none, "Defaults"⟩ ≠ "controls" := by decide
    have hcontrols : XmlFormat.key ⟨none, "Controls"⟩ = "controls" := by decide
    simp [XmlFormat.sections, element, Xml.Element.children, Xml.Element.name, hdefaults, hcontrols]
  simp only [XmlFormat.forest, hsections, defaultsOf_element, List.map_cons, List.map_nil,
    List.flatMap_cons, List.flatMap_nil, List.append_nil, Xml.Element.children]
  exact Part.controls_elements file l.table l.parts h.parts 0

end Plan

end LayoutTree
