import LayoutTree.Build.Report
import LayoutTree.Data
import LayoutTree.Layout.Descriptor

/-!
# Printed documents

Descriptors and reports as structured data. Descriptors leave out what is not there; reports say
that it is not.
-/

namespace LayoutTree

/-- A text, or null where there is none. -/
def Data.ofText? : Option String → Data
  | some s => .text s
  | none => .null

/-- The fields that hold something. -/
def Data.known (fields : List (String × Option Data)) : Data :=
  .object (fields.filterMap fun f => f.2.map fun v => (f.1, v))

/-- A property as structured data. -/
def Property.document (p : Property) : Data :=
  .known [("name", some (.text p.name)), ("raw_value", p.value.map .text)]

mutual

/-- A descriptor as structured data. -/
def Descriptor.document : Descriptor → Data
  | ⟨typeName, properties, group, children, source⟩ =>
    .known [
      ("type_name", some (.text typeName)),
      ("properties", some (.list (properties.map Property.document))),
      ("group_name", group.map .text), ("children", some (.list (Descriptor.documents children))),
      ("source_file", source.map .text)]

/-- Descriptors as structured data. -/
def Descriptor.documents : List Descriptor → List Data
  | [] => []
  | d :: rest => d.document :: Descriptor.documents rest

end

/-- A number that counts something. -/
def Data.count (n : Nat) : Data := .integer n

/-- The summary of a plugin as structured data. -/
def PluginInfo.document (i : PluginInfo) : Data :=
  .object [
    ("name", .text i.name), ("version", .text i.version), ("description", .text i.description),
    ("types", .count i.types), ("setters", .count i.setters), ("validators", .count i.validators),
    ("converters", .count i.converters), ("type_names", .list (i.typeNames.map .text))]

/-- What became of a node, as structured data. -/
def NodeResult.document (n : NodeResult) : Data :=
  .object [
    ("type_name", .text n.typeName), ("state", .text n.state.name), ("source_file", .ofText? n.source),
    ("applied", .count n.applied), ("skipped", .count n.skipped), ("blocked", .count n.blocked),
    ("failed", .count n.failed)]

/-- A message as structured data. -/
def BuildMessage.document (m : BuildMessage) : Data :=
  .object [
    ("severity", .text m.severity.name), ("message", .text m.text), ("type_name", .ofText? m.typeName),
    ("property", .ofText? m.property), ("source_file", .ofText? m.source)]

/-- The fields of a report that are not lists of nodes and messages. -/
def Report.counts (r : Report) : List (String × Data) := [
  ("plugins", .list (r.plugins.map PluginInfo.document)),
  ("setters", .count r.setters), ("validators", .count r.validators), ("converters", .count r.converters),
  ("error_count", .count (r.messageCount .error)), ("warning_count", .count (r.messageCount .warning)),
  ("info_count", .count (r.messageCount .info)), ("total_nodes", .count r.nodes.length),
  ("succeeded", .count (r.stateCount .success)), ("skipped", .count (r.stateCount .skipped)),
  ("failed", .count (r.stateCount .failed))]

/-- A report as structured data. -/
def Report.document (r : Report) : Data :=
  .object (
    [("source_file", .ofText? r.source), ("nodes", .list (r.nodes.map NodeResult.document)),
      ("messages", .list (r.messages.map BuildMessage.document))] ++ r.counts)

end LayoutTree
