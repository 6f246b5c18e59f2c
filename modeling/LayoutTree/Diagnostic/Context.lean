import LayoutTree.Text.Search
import LayoutTree.Yaml.Writer

/-!
# Where an error arose

The context of an error message: a file, a position in it, the node and property at work, and an
excerpt of the source. `Context.format` puts a message and its context together; a message without a
context stands alone (`format_none`).
-/

namespace LayoutTree

open LayoutTree.Text

/-- A value shown in an excerpt. Parts that are no structured data are shown by a placeholder. -/
inductive Element
  /-- Structured data. -/
  | data (value : Data)
  /-- A list. -/
  | list (items : List Element)
  /-- Named values. -/
  | object (fields : List (String × Element))
  /-- Something that is no structured data. -/
  | other

namespace Element

/-- The placeholder of a part that is no structured data. -/
def placeholder : String := "<runtime object>"

mutual

/-- The element as structured data, with placeholders. -/
def toData : Element → Data
  | .data value => value
  | .list items => .list (itemsToData items)
  | .object fields => .object (fieldsToData fields)
  | .other => .text placeholder

/-- The elements of a list as structured data. -/
def itemsToData : List Element → List Data
  | [] => []
  | e :: es => toData e :: itemsToData es

/-- Named elements as structured data. -/
def fieldsToData : List (String × Element) → List (String × Data)
  | [] => []
  | (name, e) :: fields => (name, toData e) :: fieldsToData fields

end

/-- Whether there is anything to show. -/
def isSomething : Element → Bool
  | .data value => value.isSomething
  | .list items => !items.isEmpty
  | .object fields => !fields.isEmpty
  | .other => true

end Element

/-- The part of the source that an error message shows. -/
inductive Excerpt
  /-- Nothing is shown. -/
  | none
  /-- A value of the document. -/
  | element (e : Element)
  /-- Lines of the source. -/
  | lines (text : String)

/-- Where an error arose. Lines and columns count from zero. -/
structure Context where
  /-- The file at work. -/
  fileName : Option String
  /-- The line in the file. -/
  line : Option Int
  /-- The column in the line, shown only after a line. -/
  column : Option Int
  /-- The type of the node at work. -/
  typeName : Option String
  /-- The property at work, shown only with a type. -/
  property : Option String
  /-- The part of the source to show. -/
  excerpt : Excerpt

namespace Context

/-- A context that names nothing. -/
def empty : Context := ⟨none, none, none, none, none, .none⟩

/-- A context that names a file. -/
def ofFile (name : String) : Context := { empty with fileName := some name }

/-- What stands for a file without a name. -/
def unnamedFile : String := "<unicode string>"

/-- The text, unless it is empty. -/
def nonEmpty? : Option String → Option String
  | some s => if s.isEmpty then none else some s
  | none => none

/-- The position in the file, after a comma. -/
def position (c : Context) : String :=
  match c.line with
  | none => ""
  | some line =>
    ", line " ++ toString (line + 1) ++
      match c.column with
      | none => ""
      | some column => ", column " ++ toString (column + 1)

/-- The line that names the node and property at work. -/
def subject (c : Context) (indent : String) : String :=
  match nonEmpty? c.typeName with
  | none => ""
  | some type =>
    indent ++ "on node " ++ quoted type ++
      (match nonEmpty? c.property with
        | none => ""
        | some property => ", property " ++ quoted property) ++ "\n"

/-- The lines that say where the error arose. -/
def location (c : Context) (indent : String) : String :=
  indent ++ "in \"" ++ (nonEmpty? c.fileName).getD unnamedFile ++ "\"" ++ c.position ++ "\n" ++
    c.subject indent

/-- The lines of a text that are not blank, each after an indentation. Without an indentation the
text stays as it is. -/
def indented (indent text : String) : String :=
  if indent.isEmpty then text
  else
    joinWith "\n" (((lines text.toList).filter fun l => !isBlankText l).map fun l =>
      indent ++ String.ofList l)

/-- The lines that show the excerpt. -/
def snippet (c : Context) (indent : String) : String :=
  match c.excerpt with
  | .none => ""
  | .lines text => indented indent text
  | .element e =>
    if e.isSomething then indent ++ " ...\n" ++ indented indent (Yaml.render e.toData) ++ "\n" else ""

/-- The indentation of the location in a message. -/
def locationIndent : String := "    "

/-- The indentation of the excerpt in a message. -/
def snippetIndent : String := "        "

/-- A message together with its context. -/
def format (message : String) : Option Context → String
  | none => message
  | some c =>
    onChars trimEnd (message ++ "\n" ++ c.location locationIndent ++ c.snippet snippetIndent)

theorem format_none (message : String) : format message none = message := rfl

end Context

end LayoutTree
