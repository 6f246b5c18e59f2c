import LayoutTree.Layout.JsonFormat
import LayoutTree.Layout.TextFormat
import LayoutTree.Layout.XmlFormat
import LayoutTree.Layout.YamlFormat
import LayoutTree.Registry.Chain

/-!
# Layout formats

A format reads the files of some extensions. `Formats.find` picks the format of a path: the first
one that claims its extension, in any case of letters. `Formats.parse` reads a file with it and puts
the path down as the source of every node that names none.

* `find_register`: a format registered later is asked first.
-/

namespace LayoutTree

open LayoutTree.Text

/-- A format of layout files. -/
structure LayoutFormat where
  /-- What tells the format apart from others. -/
  key : String
  /-- The short name. -/
  name : String
  /-- The name of the reader in log entries. -/
  reader : String
  /-- The extensions that the format claims, in lower case and with their dot. -/
  extensions : List String
  /-- The forest of a file, and what reading it logged. -/
  parse : FileStore → FilePath → Log × Except ParseFailure (List Descriptor)

namespace LayoutFormat

/-- The written form of a format: its reader and its extensions. -/
def text (f : LayoutFormat) : String :=
  f.reader ++ "(" ++ joinWith ", " f.extensions ++ ")"

/-- Whether a format claims a path. -/
def claims (f : LayoutFormat) (p : FilePath) : Bool :=
  f.extensions.contains (onChars lower p.extension)

/-- The text format. -/
def lineText : LayoutFormat :=
  ⟨"text", "text", "TextFormatParser", [".txt", ".ui", ".dui"],
    fun store p => TextFormat.parse store .ok p⟩

/-- The JSON format. -/
def json : LayoutFormat :=
  ⟨"json", "json", "JsonFormatParser", [".json"], fun store p => ([], JsonFormat.parse store p)⟩

/-- The XML format. -/
def xml : LayoutFormat :=
  ⟨"xml", "xml", "XmlFormatParser", [".xml"], XmlFormat.parse⟩

/-- The YAML format. -/
def yaml : LayoutFormat :=
  ⟨"yaml", "yaml", "YamlFormatParser", [".yaml", ".yml"],
    fun store p => ([], YamlFormat.parse store p)⟩

end LayoutFormat

instance : Keyed LayoutFormat := ⟨LayoutFormat.key⟩

/-- Formats in the order in which they are asked. -/
abbrev Formats := Chain LayoutFormat

namespace Formats

/-- The formats of the library. -/
def standard : Formats := ⟨[.lineText, .json, .xml, .yaml]⟩

/-- The format of a path. -/
def find (formats : Formats) (p : FilePath) : Option LayoutFormat :=
  formats.find? fun f => f.claims p

/-- The part of the program that log entries about the choice of a format come from. -/
def channel : String := "dynui.parsing.dispatcher"

/-- The forest of a file, read in the format of its path, and what reading it logged. -/
def parse (formats : Formats) (store : FileStore) (p : FilePath) :
    Log × Except ParseFailure (List Descriptor) :=
  match Formats.find formats p with
  | none => ([], .error (.source (Source.faultOf p (.unsupported p.extension))))
  | some f =>
    match store.isFile p with
    | .error reason => ([], .error (.path reason p))
    | .ok false => ([], .error (.source (Source.faultOf p .notFound)))
    | .ok true =>
      let (log, result) := f.parse store p
      (⟨.debug, channel, "Parsing " ++ p.text ++ " with " ++ f.text⟩ :: log,
        result.map (Descriptor.stampSources p.text))

theorem find_register (formats : Formats) (f : LayoutFormat) (p : FilePath) :
    Formats.find (formats.register f) p = if f.claims p then some f else Formats.find formats p := by
  simp only [find, Chain.find?, Chain.register, List.find?_cons]
  split <;> simp_all

end Formats

end LayoutTree
