import LayoutTree.Diagnostic.Context
import LayoutTree.Files.Store
import LayoutTree.Number.Read

/-!
# Layout sources

Reading the text of a layout file, and the errors that a whole source can have. A source is UTF-8;
its lines end in a line feed after reading, and a byte order mark in front is dropped. `SourceFault`
is the cause of an error, `SourceFault.message` its wording.
-/

namespace LayoutTree

open LayoutTree.Text

/-- Why a whole source cannot be read. -/
inductive SourceFault
  /-- No format claims the extension, perhaps empty. -/
  | unsupported (extension : String)
  /-- There is no such file. -/
  | notFound
  /-- The bytes are not UTF-8. -/
  | notUtf8
  /-- The path leads to no file for another reason. -/
  | unreadable (reason : FileError)
  /-- The text is not JSON. -/
  | invalidJson (detail : String)
  /-- The text is not well-formed XML. -/
  | invalidXml (detail : String)
  /-- The text is not YAML. -/
  | invalidYaml (detail : Option String)
  /-- The document does not follow the layout schema. -/
  | invalidDocument (detail : Option String)
  deriving DecidableEq, Repr

/-- A headline with a detail on a line of its own. -/
def withDetail (headline : String) : Option String → String
  | none => headline
  | some detail => headline ++ "\n    " ++ detail

namespace SourceFault

/-- The message of a fault, without its context. -/
def message : SourceFault → String
  | .unsupported extension =>
    "No parser available for " ++
      quoted (if extension.isEmpty then "files without extension" else extension)
  | .notFound => "Source file not found"
  | .notUtf8 => "Source file is not valid UTF-8"
  | .unreadable reason => "Cannot read source file: " ++ reason.reason
  | .invalidJson detail => withDetail "Invalid JSON" (some detail)
  | .invalidXml detail => withDetail "Invalid XML" (some detail)
  | .invalidYaml detail => withDetail "Invalid YAML" detail
  | .invalidDocument detail => withDetail "Invalid document structure" detail

end SourceFault

/-- A fault of a source and where it arose. -/
structure SourceError where
  /-- The cause. -/
  fault : SourceFault
  /-- Where it arose. -/
  context : Context

/-- The message of an error together with its context. -/
def SourceError.text (e : SourceError) : String :=
  Context.format e.fault.message (some e.context)

/-- Why a layout file yields no forest. -/
inductive ParseFailure
  /-- The source as a whole has a fault. -/
  | source (e : SourceError)
  /-- The file system refuses the path itself. -/
  | path (reason : FileError) (p : FilePath)
  /-- A number of the document cannot be held. -/
  | number (reason : Number.ReadError)
  /-- An escape of the document stands for a code that no character has. -/
  | code (number : Nat)

/-- The message of a failure. -/
def ParseFailure.text : ParseFailure → String
  | .source e => e.text
  | .path reason p => reason.message p
  | .number reason => reason.message
  | .code n =>
    if n < 0x80000000 then "chr() arg not in range(0x110000)"
    else "Python int too large to convert to C int"

namespace Source

/-- A fault of the file at a path. -/
def faultOf (p : FilePath) (fault : SourceFault) : SourceError :=
  ⟨fault, Context.ofFile p.text⟩

/-- The text of the bytes of a file, if they are UTF-8. -/
def decode? (bytes : ByteArray) : Option (List Char) :=
  (String.fromUTF8? bytes).map fun s => dropByteOrderMark (normalizeNewlines s.toList)

/-- The text of the bytes of the file at a path. -/
def decode (p : FilePath) (bytes : ByteArray) : Except SourceError (List Char) :=
  match decode? bytes with
  | some s => .ok s
  | none => .error (faultOf p .notUtf8)

/-- The failure to open the file at a path. -/
def failureOf (p : FilePath) : FileError → ParseFailure
  | .missing => .source (faultOf p .notFound)
  | .embeddedNul => .path .embeddedNul p
  | reason => .source (faultOf p (.unreadable reason))

/-- The location and the text of the file at a path. -/
def read (store : FileStore) (p : FilePath) : Except ParseFailure (Location × List Char) :=
  match store.read p with
  | .error reason => .error (failureOf p reason)
  | .ok (loc, bytes) =>
    match decode p bytes with
    | .error e => .error (.source e)
    | .ok s => .ok (loc, s)

theorem decode_eq_ok_iff {p : FilePath} {bytes : ByteArray} {s : List Char} :
    decode p bytes = .ok s ↔ decode? bytes = some s := by
  unfold decode
  split <;> simp_all

/-- The bytes of a text are UTF-8. -/
theorem decode_toUTF8 (p : FilePath) (s : String) :
    decode p s.toUTF8 = .ok (dropByteOrderMark (normalizeNewlines s.toList)) := by
  have hvalid : s.toUTF8.IsValidUTF8 := s.isValidUTF8
  rw [decode_eq_ok_iff, decode?, String.fromUTF8?, dif_pos hvalid]
  rfl

end Source

end LayoutTree
