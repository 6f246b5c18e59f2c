import LayoutTree.Layout.Document
import LayoutTree.Layout.XmlFormat
import LayoutTree.Proofs.Layout.Keyed

/-!
# Defaults overridden in place

In layout documents and in XML a node starts with the defaults of its type, and then its own
properties are set one by one: those of a control of a document in order, or the attributes of an
element and then its child elements. The defaults of both are made of the same steps
(`Document.table_eq`, `XmlFormat.defaultsOf_eq`).

* `properties_of_control`: the defaults keep their places, and each gives way to the last property of
  the node with its key; the other properties of the node come after them, in order of first
  occurrence and as written last.
-/

namespace LayoutTree

open LayoutTree.Text

/-! ## Layout documents -/

namespace Document

/-- The properties of a control or of a type in a document, in order. -/
def specifics (properties : List (String × Data)) : List Property :=
  properties.map fun (name, v) => ⟨name, renderScalar v⟩

/-- The steps that make the defaults of a document. -/
def defaultSteps (document : Document) : List Defaults.Step :=
  document.defaults.flatMap fun (type, properties) =>
    .declare type :: (specifics properties).map (.add type)

theorem table_eq (document : Document) : document.table = .ofSteps document.defaultSteps := by
  rw [table, defaultSteps, Defaults.ofSteps, List.foldl_flatMap]
  congr 1
  funext t block
  rw [List.foldl_cons, List.foldl_map, specifics, List.foldl_map]
  rfl

theorem properties_setAll (d : Descriptor) (properties : List (String × Data)) :
    (setAll d properties).properties =
      (specifics properties).foldl (fun ps entry => setProperty entry false ps) d.properties := by
  induction properties generalizing d with
  | nil => rfl
  | cons p rest ih => exact ih (d.set p.1 (renderScalar p.2))

end Document

/-! ## Layouts in XML -/

namespace XmlFormat

/-- The properties of a control: its attributes other than type and group, and then the elements in
it other than controls. -/
def specifics (attributes : List Xml.Attribute) (children : List Xml.Element) : List Property :=
  (attributes.filter fun a => key a.name ≠ "type" ∧ key a.name ≠ "group").map
      (fun a => ⟨a.name.localName, some a.value⟩) ++
    (children.filter fun e => !isControl e.name).map
      fun e => ⟨e.name.localName, some (trimmed e.text)⟩

/-- The steps that make the defaults of a document. -/
def defaultSteps (root : Xml.Element) : List Defaults.Step :=
  ((sections "defaults" root).flatMap Xml.Element.children).flatMap fun e =>
    .declare e.name.localName ::
      e.attributes.map fun a => .add e.name.localName ⟨a.name.text, some a.value⟩

theorem defaultsOf_eq (root : Xml.Element) : defaultsOf root = .ofSteps (defaultSteps root) := by
  rw [defaultsOf, defaultSteps, Defaults.ofSteps]
  generalize (sections "defaults" root).flatMap Xml.Element.children = elements
  rw [List.foldl_flatMap]
  congr 1
  funext t e
  rw [List.foldl_cons, List.foldl_map]
  rfl

theorem properties_setElements (d : Descriptor) (attributes : List Xml.Attribute)
    (children : List Xml.Element) : (setElements (setAttributes d attributes) children).properties =
      (specifics attributes children).foldl (fun ps entry => setProperty entry false ps)
        d.properties := by
  have hattributes : ∀ (as : List Xml.Attribute) (d : Descriptor),
      (as.foldl (fun d a => d.set a.name.localName (some a.value)) d).properties =
        as.foldl (fun ps a => setProperty ⟨a.name.localName, some a.value⟩ false ps)
          d.properties := by
    intro as
    induction as with
    | nil => exact fun d => rfl
    | cons a as ih => exact fun d => ih _
  have helements : ∀ (es : List Xml.Element) (d : Descriptor),
      (es.foldl (fun d e => d.set e.name.localName (some (trimmed e.text))) d).properties =
        es.foldl (fun ps e => setProperty ⟨e.name.localName, some (trimmed e.text)⟩ false ps)
          d.properties := by
    intro es
    induction es with
    | nil => exact fun d => rfl
    | cons e es ih => exact fun d => ih _
  rw [setElements, helements, setAttributes, hattributes, specifics, List.foldl_append,
    List.foldl_map, List.foldl_map]

end XmlFormat

/-! ## Overriding -/

/-- **Properties override defaults in place**, in layout documents and in XML alike. Whatever steps
the defaults are made of, those of the type come first, in the order in which their keys were added,
and each gives way to the last property of the node with its key. The other properties of the node
follow in order of first occurrence, each as it was written last. No two of them have the same
key. -/
theorem properties_of_control :
    (∀ document : Document, document.table = .ofSteps document.defaultSteps) ∧
    (∀ root, XmlFormat.defaultsOf root = .ofSteps (XmlFormat.defaultSteps root)) ∧
    ∀ steps,
      let t := Defaults.ofSteps steps
      let expected := fun type own => overridden (lastOfEach (Defaults.added steps type)) own
      (∀ type group properties children,
        (Document.descriptor t (.mk type group properties children)).properties =
          expected type (Document.specifics properties)) ∧
      (∀ file position name attributes text children,
        (XmlFormat.control file t position (.mk name attributes text children)).2.map
            Descriptor.properties =
          (let type := trimmed ((XmlFormat.attribute? "type" attributes).getD "")
          if type.isEmpty then none
          else some (expected type (XmlFormat.specifics attributes children)))) ∧
      ∀ type own, ((expected type own).map Property.key).Nodup := by
  refine ⟨Document.table_eq, XmlFormat.defaultsOf_eq, fun steps => ?_⟩
  intro t expected
  have hset : ∀ type own,
      own.foldl (fun ps entry => setProperty entry false ps) (t.entries type) =
        expected type own := by
    intro type own
    rw [Defaults.entries_ofSteps]
    exact foldl_setProperty_eq (nodup_lastOfEach _) own
  refine ⟨?_, ?_, ?_⟩
  · intro type group properties children
    rw [Document.descriptor]
    exact (Document.properties_setAll _ properties).trans (hset type _)
  · intro file position name attributes text children
    rw [XmlFormat.control]
    dsimp only
    split
    · rfl
    · exact congrArg some ((XmlFormat.properties_setElements _ attributes children).trans (hset _ _))
  · intro type own
    exact nodup_overridden (nodup_lastOfEach _) own

/-- A default that is overridden twice, and a property of the node that is written twice. -/
example : overridden [⟨"Width", some "1"⟩, ⟨"Height", some "2"⟩]
    [⟨"Text", some "a"⟩, ⟨"WIDTH", none⟩, ⟨"TEXT", some "b"⟩, ⟨"width", some "3"⟩] =
      [⟨"width", some "3"⟩, ⟨"Height", some "2"⟩, ⟨"TEXT", some "b"⟩] := by
  decide +kernel

end LayoutTree
