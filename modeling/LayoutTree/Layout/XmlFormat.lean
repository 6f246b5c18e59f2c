import LayoutTree.Diagnostic.Log
import LayoutTree.Layout.Defaults
import LayoutTree.Layout.Source
import LayoutTree.Xml.Reader

/-!
# Layouts in XML

A layout written as elements: sections with defaults and sections with controls below the root.
Attributes and child elements of a control are its properties, nested controls its children. A
control without a type is logged and left out together with what it holds.

* `controls`: the descriptors of the controls among some elements.
* `forest`: the forest that a root element describes.
-/

namespace LayoutTree.XmlFormat

open LayoutTree.Text

/-- The folded local name of an element or attribute. -/
def key (name : Xml.Name) : String :=
  folded name.localName

/-- The value of the first attribute with a key. -/
def attribute? (key : String) (attributes : List Xml.Attribute) : Option String :=
  (attributes.find? fun a => XmlFormat.key a.name = key).map (·.value)

/-- The part of the program that log entries about XML sources come from. -/
def channel : String := "dynui.parsing.xml_format"

/-- The log entry about a control without a type at a place among its siblings. -/
def missingType (file : FilePath) (position : Nat) (attributes : List Xml.Attribute) : LogEntry :=
  let element : Data := .object [
    ("control", .integer position),
    ("attributes", .object (attributes.map fun a => (a.name.text, .text a.value)))]
  ⟨.warning, channel,
    "Skipped control: " ++
      Context.format "Control element without a Type attribute"
        (some { Context.ofFile file.text with excerpt := .element (.data element) })⟩

/-- Whether an element is a control. -/
def isControl (name : Xml.Name) : Bool :=
  key name = "control"

/-- A descriptor with the attributes of a control as properties. -/
def setAttributes (d : Descriptor) (attributes : List Xml.Attribute) : Descriptor :=
  (attributes.filter fun a => key a.name ≠ "type" ∧ key a.name ≠ "group").foldl
    (fun d a => d.set a.name.localName (some a.value)) d

/-- A descriptor with the child elements of a control as properties. -/
def setElements (d : Descriptor) (children : List Xml.Element) : Descriptor :=
  (children.filter fun e => !isControl e.name).foldl
    (fun d e => d.set e.name.localName (some (trimmed e.text))) d

mutual

/-- The descriptor of a control at a place among its siblings, unless it has no type. -/
def control (file : FilePath) (defaults : Defaults) (position : Nat) :
    Xml.Element → Log × Option Descriptor
  | .mk _ attributes _ children =>
    let type := trimmed ((attribute? "type" attributes).getD "")
    if type.isEmpty then ([missingType file position attributes], none)
    else
      let group := trimmed ((attribute? "group" attributes).getD "")
      let d := defaults.seed type (if group.isEmpty then none else some group)
      let (log, nested) := controls file defaults 0 children
      (log, some { setElements (setAttributes d attributes) children with children := nested })

/-- The descriptors of the controls among elements, counted from `position`. -/
def controls (file : FilePath) (defaults : Defaults) (position : Nat) :
    List Xml.Element → Log × List Descriptor
  | [] => ([], [])
  | e :: rest =>
    let (log, d?) := if isControl e.name then control file defaults position e else ([], none)
    let (more, ds) := controls file defaults (position + 1) rest
    (log ++ more, d?.toList ++ ds)

end

/-- The sections of a kind below the root element. -/
def sections (kind : String) (root : Xml.Element) : List Xml.Element :=
  root.children.filter fun e => key e.name = kind

/-- The defaults that one element of a section declares for the type that it is named for. -/
def declare (t : Defaults) (e : Xml.Element) : Defaults :=
  e.attributes.foldl (fun t a => t.add e.name.localName a.name.text (some a.value))
    (t.declare e.name.localName)

/-- The defaults that a document declares. -/
def defaultsOf (root : Xml.Element) : Defaults :=
  ((sections "defaults" root).flatMap Xml.Element.children).foldl declare .empty

/-- The forest that a root element describes, and what reading it logged. -/
def forest (file : FilePath) (root : Xml.Element) : Log × List Descriptor :=
  let defaults := defaultsOf root
  let results := (sections "controls" root).map fun e => controls file defaults 0 e.children
  (results.flatMap (·.1), results.flatMap (·.2))

/-- The failure to read an XML text from a file. -/
def failureOf (file : FilePath) (s : List Char) (e : Xml.Failure) : ParseFailure :=
  let (line, column) := Xml.position s e.offset
  .source ⟨.invalidXml (e.message s),
    { Context.ofFile file.text with line := some (line - 1), column := some column }⟩

/-- The forest of an XML file, and what reading it logged. -/
def parse (store : FileStore) (file : FilePath) : Log × Except ParseFailure (List Descriptor) :=
  match Source.read store file with
  | .error e => ([], .error e)
  | .ok (_, s) =>
    match Xml.readChars s with
    | .error e => ([], .error (failureOf file s e))
    | .ok root =>
      let (log, ds) := forest file root
      (log, .ok ds)

end LayoutTree.XmlFormat
