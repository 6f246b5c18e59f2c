import LayoutTree.Xml.Token

/-!
# Document types

What the document type declaration of an XML document contributes: the entities that it declares,
and whether others may be declared out of sight. Declarations of elements and notations say nothing
about the tree and are passed over.
-/

namespace LayoutTree.Xml

/-- What an entity stands for. -/
inductive EntityValue
  /-- A text. -/
  | text (s : List Char)
  /-- Something outside of the document. -/
  | outside
  deriving DecidableEq, Repr

/-- What a document type contributes. -/
structure DocumentType where
  /-- The declared entities, the first declaration of a name first. -/
  entities : List (String × EntityValue)
  /-- Whether entities may be declared outside of the document. -/
  isOpen : Bool

/-- No document type. -/
def DocumentType.absent : DocumentType := ⟨[], false⟩

namespace DocumentType

/-- A part of a declaration. -/
inductive Part
  /-- A word. -/
  | word (s : String)
  /-- A quoted text. -/
  | quoted (s : List Char)
  /-- A single mark. -/
  | mark (c : Char)
  deriving DecidableEq, Repr

/-- Where the reading of parts stands; texts are kept latest character first. -/
inductive Place
  /-- Between parts. -/
  | idle
  /-- In a word. -/
  | word (s : List Char)
  /-- In a quoted text. -/
  | quoted (mark : Char) (s : List Char)
  /-- In a comment, after this many dashes. -/
  | comment (dashes : Nat)
  /-- In an instruction, perhaps after a question mark. -/
  | instruction (mark : Bool)

/-- A character that separates words. -/
def isMark (c : Char) : Bool :=
  "[]<>()|,%;*+?".toList.contains c

/-- The parts of a text. -/
def parts (place : Place) : List Char → List Part
  | [] =>
    match place with
    | .word s => [.word (Lexer.ofReversed s)]
    | _ => []
  | c :: r =>
    match place with
    | .quoted mark s =>
      if c == mark then .quoted s.reverse :: parts .idle r else parts (.quoted mark (c :: s)) r
    | .comment dashes =>
      if dashes == 2 && c == '>' then parts .idle r
      else parts (.comment (if c == '-' then min 2 (dashes + 1) else 0)) r
    | .instruction mark =>
      if mark && c == '>' then parts .idle r else parts (.instruction (c == '?')) r
    | .idle =>
      if Lexer.isSpace c then parts .idle r
      else if c == '"' || c == '\'' then parts (.quoted c []) r
      else if c == '?' then parts (.instruction false) r
      else if isMark c then .mark c :: parts .idle r
      else parts (.word [c]) r
    | .word s =>
      if s == ['-', '-', '!'] then parts (.comment (if c == '-' then 1 else 0)) r
      else if Lexer.isSpace c then .word (Lexer.ofReversed s) :: parts .idle r
      else if isMark c then .word (Lexer.ofReversed s) :: .mark c :: parts .idle r
      else parts (.word (c :: s)) r

/-- The text of an entity with its character references read. -/
def literalValue (code : Option Nat) (hex : Bool) : List Char → List Char
  | [] => []
  | '&' :: '#' :: 'x' :: r => literalValue (some 0) true r
  | '&' :: '#' :: r => literalValue (some 0) false r
  | c :: r =>
    match code with
    | none => c :: literalValue none false r
    | some n =>
      if c == ';' then Char.ofNat n :: literalValue none false r
      else
        match Lexer.hexValue? c with
        | some d => literalValue (some ((if hex then 16 else 10) * n + d)) hex r
        | none => literalValue none false r

/-- The entities that the parts of a document type declare. -/
def entitiesOf : List Part → List (String × EntityValue)
  | .word "!ENTITY" :: .word name :: .quoted s :: r =>
    (name, .text (literalValue none false s)) :: entitiesOf r
  | .word "!ENTITY" :: .word name :: .word _ :: r => (name, .outside) :: entitiesOf r
  | _ :: r => entitiesOf r
  | [] => []

/-- Whether the parts of a document type point outside of the document. -/
def pointsOutside : List Part → Bool
  | .word _ :: .word id :: _ => id == "SYSTEM" || id == "PUBLIC"
  | _ => false

/-- Whether a document type names its root element. -/
def isNamed : List Part → Bool
  | .word _ :: _ => true
  | _ => false

/-- What the text of a document type contributes. -/
def read? (body : List Char) : Option DocumentType :=
  let ps := parts .idle body
  if isNamed ps then some ⟨entitiesOf ps, pointsOutside ps⟩ else none

end DocumentType

end LayoutTree.Xml
