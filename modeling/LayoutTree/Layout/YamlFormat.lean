import LayoutTree.Layout.Document
import LayoutTree.Yaml.Reader

/-!
# Layouts in YAML

A layout document written as YAML. An empty file holds no nodes. `YamlFormat.parse` gives the forest
of a file.
-/

namespace LayoutTree.YamlFormat

/-- The failure to read a YAML text from a file. -/
def failureOf (file : FilePath) (s : List Char) : Yaml.Failure → ParseFailure
  | .unprintable => .source ⟨.invalidYaml none, Context.ofFile file.text⟩
  | .invalidCode code => .code code
  | .longNumber digits => .number (.tooLong digits)
  | .problem p m =>
    .source ⟨.invalidYaml (some p.message),
      { Context.ofFile file.text with
        line := some m.line, column := some m.column, excerpt := .lines (m.snippet s) }⟩

/-- The forest of a YAML file. -/
def parse (store : FileStore) (file : FilePath) : Except ParseFailure (List Descriptor) :=
  match Source.read store file with
  | .error e => .error e
  | .ok (_, s) =>
    match Yaml.readChars s with
    | .error e => .error (failureOf file s e)
    | .ok none => .ok []
    | .ok (some (.text "")) => .ok []
    | .ok (some document) => Document.ofData file document

end LayoutTree.YamlFormat
