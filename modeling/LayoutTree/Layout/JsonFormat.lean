import LayoutTree.Layout.Document

/-!
# Layouts in JSON

A layout document written as JSON. `JsonFormat.parse` gives the forest of a file.
-/

namespace LayoutTree.JsonFormat

/-- The failure to read a JSON text from a file. -/
def failureOf (file : FilePath) (s : List Char) (e : Json.Failure) : ParseFailure :=
  match e.cause with
  | .longInteger digits => .number (.tooLong digits)
  | cause =>
    let (line, column) := e.position s
    .source ⟨.invalidJson cause.message,
      { Context.ofFile file.text with line := some line, column := some column }⟩

/-- The forest of a JSON file. -/
def parse (store : FileStore) (file : FilePath) : Except ParseFailure (List Descriptor) :=
  match Source.read store file with
  | .error e => .error e
  | .ok (_, s) =>
    match Json.readChars s with
    | .error e => .error (failureOf file s e)
    | .ok document => Document.ofData file document

end LayoutTree.JsonFormat
