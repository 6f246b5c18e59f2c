import LayoutTree.Xml.DocumentType
import LayoutTree.Xml.Element

/-!
# Reading XML

The tree of an XML document, from its tokens. `Builder.take` adds one token to the elements that are
open; it checks what tokens alone cannot show: tags that match, attributes that differ, prefixes
that are bound and entities that are declared. `read` gives the root element, or the first error
with its position.
-/

namespace LayoutTree.Xml

/-- Why a text is no XML document. -/
inductive Cause
  /-- Something stands where no such thing may stand. -/
  | syntaxError
  /-- The text ends before the root element is complete. -/
  | noElement
  /-- A character cannot stand where it does. -/
  | invalidToken
  /-- The text ends within a token. -/
  | unclosedToken
  /-- An end tag names another element than the one to end. -/
  | mismatchedTag
  /-- An attribute stands twice in a tag. -/
  | duplicateAttribute
  /-- Something follows the root element. -/
  | junkAfterRoot
  /-- An entity is not declared; it is named where it might be declared elsewhere. -/
  | undefinedEntity (name : Option String)
  /-- An entity refers to itself. -/
  | recursiveEntity
  /-- The text of an entity does not hold whole elements. -/
  | asynchronousEntity
  /-- An attribute value refers to something outside of the document. -/
  | externalEntityInAttribute
  /-- A code stands for no character of a document. -/
  | invalidCode
  /-- An XML declaration does not stand first. -/
  | misplacedDeclaration
  /-- The text ends within literal content. -/
  | unclosedLiteral
  /-- A prefix has no namespace. -/
  | unboundPrefix
  /-- A prefix is bound to nothing. -/
  | undeclaredPrefix
  /-- The XML declaration is malformed. -/
  | invalidDeclaration
  /-- The prefix `xml` is bound to another namespace. -/
  | reservedXml
  /-- The prefix `xmlns` is bound. -/
  | reservedXmlns
  /-- A prefix is bound to a namespace of the standard. -/
  | reservedNamespace
  deriving DecidableEq, Repr

/-- The message of a cause. -/
def Cause.message : Cause → String
  | .syntaxError => "syntax error"
  | .noElement => "no element found"
  | .invalidToken => "not well-formed (invalid token)"
  | .unclosedToken => "unclosed token"
  | .mismatchedTag => "mismatched tag"
  | .duplicateAttribute => "duplicate attribute"
  | .junkAfterRoot => "junk after document element"
  | .undefinedEntity none => "undefined entity"
  | .undefinedEntity (some name) => "undefined entity &" ++ name ++ ";"
  | .recursiveEntity => "recursive entity reference"
  | .asynchronousEntity => "asynchronous entity"
  | .externalEntityInAttribute => "reference to external entity in attribute"
  | .invalidCode => "reference to invalid character number"
  | .misplacedDeclaration => "XML or text declaration not at start of entity"
  | .unclosedLiteral => "unclosed CDATA section"
  | .unboundPrefix => "unbound prefix"
  | .undeclaredPrefix => "must not undeclare prefix"
  | .invalidDeclaration => "XML declaration not well-formed"
  | .reservedXml =>
    "reserved prefix (xml) must not be undeclared or bound to another namespace name"
  | .reservedXmlns => "reserved prefix (xmlns) must not be declared or undeclared"
  | .reservedNamespace => "prefix must not be bound to one of the reserved namespace names"

/-- An error and its offset in the text. -/
structure Failure where
  cause : Cause
  offset : Nat
  deriving DecidableEq, Repr

/-! ## The XML declaration -/

/-- Blanks dropped, and how many. -/
def dropSpaces (s : List Char) : List Char :=
  s.dropWhile Lexer.isSpace

/-- A character of a value in the XML declaration. -/
def isValueChar (c : Char) : Bool :=
  c.isAlphanum || c == '.' || c == '-' || c == '_'

/-- A name and a value of the XML declaration, with what follows them. -/
structure Setting where
  name : List Char
  value : List Char
  /-- The text from the name on. -/
  fromName : List Char
  /-- The text from the value on. -/
  fromValue : List Char
  rest : List Char

/-- The next setting of the XML declaration. Nothing may follow; otherwise the setting stands after
blanks. The error is the text from the offending place on. -/
def nextSetting (s : List Char) : Except (List Char) (Option Setting) :=
  match s with
  | [] => .ok none
  | c :: _ =>
    if !Lexer.isSpace c then .error s
    else
      let fromName := dropSpaces s
      if fromName.isEmpty then .ok none
      else
        let name := fromName.takeWhile fun c => c != '=' && !Lexer.isSpace c && c.toNat < 128
        let afterName := dropSpaces (fromName.drop name.length)
        match afterName with
        | '=' :: r =>
          if name.isEmpty then .error afterName
          else
            match dropSpaces r with
            | mark :: fromValue =>
              if mark == '"' || mark == '\'' then
                let value := fromValue.takeWhile isValueChar
                match fromValue.drop value.length with
                | c :: rest =>
                  if c == mark then .ok (some ⟨name, value, fromName, fromValue, rest⟩)
                  else .error (c :: rest)
                | [] => .error []
              else .error (mark :: fromValue)
            | [] => .error []
        | _ => .error afterName

/-- The value of the last setting, and nothing but blanks after it. -/
def lastSetting (setting : Setting) : Except (List Char) Bool :=
  if setting.name != "standalone".toList then .error setting.fromName
  else if setting.value != "yes".toList && setting.value != "no".toList then
    .error setting.fromValue
  else
    let rest := dropSpaces setting.rest
    if rest.isEmpty then .ok (setting.value == "yes".toList) else .error rest

/-- Whether an XML declaration says that the document stands alone. -/
def readDeclaration (body : List Char) : Except (List Char) Bool := do
  match ← nextSetting body with
  | none => .error []
  | some version =>
    if version.name != "version".toList then .error version.fromName
    else
      match ← nextSetting version.rest with
      | none => .ok false
      | some second =>
        if second.name != "encoding".toList then lastSetting second
        else if !(second.value.head?.any Char.isAlpha) then .error second.fromValue
        else
          match ← nextSetting second.rest with
          | none => .ok false
          | some third => lastSetting third

/-! ## Namespaces -/

/-- The namespace of the prefix `xml`. -/
def xmlNamespace : String := "http://www.w3.org/XML/1998/namespace"

/-- The namespace of the prefix `xmlns`. -/
def xmlnsNamespace : String := "http://www.w3.org/2000/xmlns/"

/-- Prefixes with their namespaces, innermost first. The default namespace has the empty prefix. -/
abbrev Bindings := List (String × String)

/-- A qualified name cut at its colon. -/
def splitName (name : String) : Option String × String :=
  let s := name.toList
  let before := s.takeWhile (· != ':')
  if before.length == s.length then (none, name)
  else (some (String.ofList before), String.ofList (s.drop (before.length + 1)))

/-- The prefix that an attribute binds, if it binds one. -/
def boundPrefix? (name : String) : Option String :=
  match splitName name with
  | (none, "xmlns") => some ""
  | (some "xmlns", p) => some p
  | _ => none

/-- Why a prefix cannot be bound to a namespace. -/
def bindingFault? (pre uri : String) : Option Cause :=
  if uri.isEmpty && !pre.isEmpty then some .undeclaredPrefix
  else if pre == "xmlns" then some .reservedXmlns
  else if uri.toList.contains '\x7d' then some .syntaxError
  else if pre == "xml" then if uri == xmlNamespace then none else some .reservedXml
  else if uri == xmlNamespace || uri == xmlnsNamespace then some .reservedNamespace
  else none

/-- The namespace of a prefix. -/
def Bindings.find? (bindings : Bindings) (pre : String) : Option String :=
  if pre == "xml" then some xmlNamespace else List.lookup pre bindings

/-- The name of an element, if its prefix is bound. -/
def elementName? (bindings : Bindings) (name : String) : Option Name :=
  match splitName name with
  | (some pre, localName) => (bindings.find? pre).map fun uri => ⟨some uri, localName⟩
  | (none, localName) =>
    match bindings.find? "" with
    | some uri => some ⟨if uri.isEmpty then none else some uri, localName⟩
    | none => some ⟨none, localName⟩

/-- The name of an attribute, if its prefix is bound. The default namespace does not apply. -/
def attributeName? (bindings : Bindings) (name : String) : Option Name :=
  match splitName name with
  | (some pre, localName) => (bindings.find? pre).map fun uri => ⟨some uri, localName⟩
  | (none, localName) => some ⟨none, localName⟩

/-! ## References -/

/-- The character of a code that a document may hold. -/
def character? (n : Nat) : Option Char :=
  if n.isValidChar then
    let c := Char.ofNat n
    if Lexer.isAllowed c then some c else none
  else none

/-- The character that a predefined entity stands for. -/
def predefined? : String → Option Char
  | "lt" => some '<'
  | "gt" => some '>'
  | "amp" => some '&'
  | "quot" => some '"'
  | "apos" => some '\''
  | _ => none

/-- The parts of the text of an entity in an attribute value, unless it cannot stand there. -/
def piecesFrom (r : Option RefPart) (start : Nat) : List Char → Option (List Piece)
  | [] => if r.isNone then some [] else none
  | c :: rest =>
    match r with
    | some r =>
      match Lexer.stepReference r c with
      | none => none
      | some (.inl r) => piecesFrom (some r) start rest
      | some (.inr r) => (piecesFrom none start rest).map (.reference r start :: ·)
    | none =>
      if c == '&' then piecesFrom (some .opened) start rest
      else if c == '<' then none
      else (piecesFrom none start rest).map (.char c :: ·)

/-- The text of an attribute value in a tag at `tagStart`. The fuel bounds how deep entities nest;
`openNames` are those whose text is being read. -/
def expand (doc : DocumentType) (tagStart : Nat) (fuel : Nat) (openNames : List String) :
    List Piece → Except Failure (List Char)
  | [] => .ok []
  | .char c :: rest => do
    let s ← expand doc tagStart fuel openNames rest
    .ok ((if Lexer.isSpace c then ' ' else c) :: s)
  | .reference (.code n) start :: rest => do
    match character? n with
    | none => .error ⟨.invalidCode, start⟩
    | some c => .ok (c :: (← expand doc tagStart fuel openNames rest))
  | .reference (.entity name) start :: rest => do
    match predefined? name with
    | some c => .ok (c :: (← expand doc tagStart fuel openNames rest))
    | none =>
      match doc.entities.lookup name with
      | none =>
        if doc.isOpen then expand doc tagStart fuel openNames rest
        else .error ⟨.undefinedEntity none, tagStart⟩
      | some .outside => .error ⟨.externalEntityInAttribute, start⟩
      | some (.text s) =>
        match fuel with
        | 0 => .error ⟨.recursiveEntity, start⟩
        | fuel + 1 =>
          if openNames.contains name then .error ⟨.recursiveEntity, start⟩
          else
            match piecesFrom none start s with
            | none => .error ⟨.invalidToken, start⟩
            | some pieces =>
              let before ← expand doc tagStart fuel (name :: openNames) pieces
              .ok (before ++ (← expand doc tagStart (fuel + 1) openNames rest))
termination_by pieces => (fuel, pieces.length)

/-! ## The tree -/

/-- An element that is still open. -/
structure Frame where
  /-- The name as written. -/
  rawName : String
  name : Name
  attributes : List Attribute
  /-- The prefixes bound inside. -/
  bindings : Bindings
  /-- The text before the first child, latest character first. -/
  text : List Char
  /-- The children so far, latest first. -/
  children : List Element

/-- The element that a frame becomes. -/
def Frame.element (f : Frame) : Element :=
  .mk f.name f.attributes (Lexer.ofReversed f.text) f.children.reverse

/-- The tree under construction. -/
structure Builder where
  /-- The open elements, innermost first. -/
  frames : List Frame
  /-- The root element, once it is complete. -/
  root : Option Element
  /-- What the document type contributes. -/
  doc : DocumentType
  /-- Whether the document stands alone. -/
  standalone : Bool
  /-- Whether there has been a document type. -/
  typed : Bool

namespace Builder

/-- Nothing read yet. -/
def start : Builder := ⟨[], none, .absent, false, false⟩

/-- A complete element in its place. -/
def place (b : Builder) (e : Element) : Builder :=
  match b.frames with
  | [] => { b with root := some e }
  | f :: rest => { b with frames := { f with children := e :: f.children } :: rest }

/-- A character of the content. -/
def addChar (b : Builder) (c : Char) : Builder :=
  match b.frames with
  | [] => b
  | f :: rest =>
    if f.children.isEmpty then { b with frames := { f with text := c :: f.text } :: rest } else b

/-- The attributes of a tag with their texts, and the prefixes that they bind. -/
def readAttributes (doc : DocumentType) (start : Nat) (seen : List String) (bindings : Bindings) :
    List RawAttribute → Except Failure (List (String × String) × Bindings)
  | [] => .ok ([], bindings)
  | a :: rest => do
    if seen.contains a.name then throw ⟨.duplicateAttribute, a.start⟩
    let value := String.ofList (← expand doc start doc.entities.length [] a.value)
    match boundPrefix? a.name with
    | some pre =>
      match bindingFault? pre value with
      | some cause => throw ⟨cause, start⟩
      | none => readAttributes doc start (a.name :: seen) ((pre, value) :: bindings) rest
    | none =>
      let (more, bindings) ← readAttributes doc start (a.name :: seen) bindings rest
      .ok ((a.name, value) :: more, bindings)

/-- The attributes of a tag with their names resolved. -/
def resolveAttributes (start : Nat) (bindings : Bindings) (seen : List Name) :
    List (String × String) → Except Failure (List Attribute)
  | [] => .ok []
  | (name, value) :: rest =>
    match attributeName? bindings name with
    | none => .error ⟨.unboundPrefix, start⟩
    | some name =>
      if seen.contains name then .error ⟨.duplicateAttribute, start⟩
      else (resolveAttributes start bindings (name :: seen) rest).map (⟨name, value⟩ :: ·)

/-- The tree after a start tag. -/
def openTag (b : Builder) (start : Nat) (rawName : String) (attributes : List RawAttribute)
    (isEmpty : Bool) : Except Failure Builder := do
  let outer := (b.frames.head?.map (·.bindings)).getD []
  let (raw, bindings) ← readAttributes b.doc start [] outer attributes
  let attributes ← resolveAttributes start bindings [] raw
  match elementName? bindings rawName with
  | none => throw ⟨.unboundPrefix, start⟩
  | some name =>
    let frame : Frame := ⟨rawName, name, attributes, bindings, [], []⟩
    .ok (if isEmpty then b.place frame.element else { b with frames := frame :: b.frames })

/-- The tree after an end tag. -/
def closeTag (b : Builder) (start : Nat) (rawName : String) : Except Failure Builder :=
  match b.frames with
  | [] => .error ⟨.asynchronousEntity, start⟩
  | f :: rest =>
    if f.rawName == rawName then .ok ({ b with frames := rest }.place f.element)
    else .error ⟨.mismatchedTag, start + 2⟩

/-- Whether the content of the root element is being read. -/
def isInside (b : Builder) : Bool :=
  !b.frames.isEmpty

/-- The error at something that cannot stand outside of the root element. -/
def strayFault (b : Builder) (start : Nat) : Failure :=
  ⟨if b.root.isSome then .junkAfterRoot else .syntaxError, start⟩

/-- The tree after a token that is no reference to a declared entity. -/
def take (b : Builder) (t : Token) : Except Failure Builder :=
  match t.kind with
  | .char c => .ok (b.addChar c)
  | .reference (.code n) =>
    match character? n with
    | some c => .ok (b.addChar c)
    | none => .error ⟨.invalidCode, t.start⟩
  | .reference (.entity name) =>
    match predefined? name with
    | some c => .ok (b.addChar c)
    | none =>
      .error ⟨.undefinedEntity
        (if (b.doc.isOpen && !b.standalone) || (b.doc.entities.lookup name).isSome then some name
          else none), t.start⟩
  | .startTag name attributes isEmpty => b.openTag t.start name attributes isEmpty
  | .endTag name => b.closeTag t.start name
  | .declaration body =>
    if t.start != 0 then
      .error ⟨if b.root.isSome then .junkAfterRoot else .misplacedDeclaration, t.start⟩
    else
      match readDeclaration body with
      | .ok standalone => .ok { b with standalone }
      | .error rest => .error ⟨.invalidDeclaration, t.start + 5 + (body.length - rest.length)⟩
  | .documentType body =>
    if b.typed then .error ⟨.syntaxError, t.start⟩
    else
      match DocumentType.read? body with
      | some doc => .ok { b with doc, typed := true }
      | none => .error ⟨.syntaxError, t.start⟩
  | .stray => .error (b.strayFault t.start)

/-- The text of an internal entity that a token refers to. -/
def entityText? (b : Builder) (t : Token) : Option (String × List Char) :=
  match t.kind with
  | .reference (.entity name) =>
    if (predefined? name).isSome then none
    else
      match b.doc.entities.lookup name with
      | some (.text s) => some (name, s)
      | _ => none
  | _ => none

/-- The tree after several tokens. Entities are read where they are referred to; inside one, every
error stands at the outermost reference, `outer`. The fuel bounds how deep they nest. -/
def takeAll (fuel : Nat) (openNames : List String) (outer : Option Nat) (b : Builder) :
    List Token → Except Failure Builder
  | [] => .ok b
  | t :: rest =>
    let t : Token := ⟨t.kind, outer.getD t.start⟩
    match b.entityText? t with
    | none =>
      match b.take t with
      | .error e => .error { e with offset := outer.getD e.offset }
      | .ok b => takeAll fuel openNames outer b rest
    | some (name, s) =>
      match fuel with
      | 0 => .error ⟨.recursiveEntity, t.start⟩
      | fuel + 1 =>
        if openNames.contains name then .error ⟨.recursiveEntity, t.start⟩
        else
          let (tokens, ending) := tokenizeContent s
          match takeAll fuel (name :: openNames) (some t.start) b tokens with
          | .error e => .error e
          | .ok inner =>
            match ending with
            | .complete =>
              if inner.frames.length != b.frames.length then
                .error ⟨.asynchronousEntity, t.start⟩
              else takeAll (fuel + 1) openNames outer inner rest
            | .refused _ => .error ⟨.invalidToken, t.start⟩
            | _ => .error ⟨.unclosedToken, t.start⟩
termination_by tokens => (fuel, tokens.length)

end Builder

/-- The most entities that a chain of references can pass through. -/
def entityBound (tokens : List Token) : Nat :=
  tokens.foldl
    (fun n t => match t.kind with
      | .documentType body => n + body.length
      | _ => n) 0

/-- The root element of a document. -/
def readChars (s : List Char) : Except Failure Element :=
  let (tokens, ending) := tokenize s
  match Builder.takeAll (entityBound tokens) [] none .start tokens with
  | .error e => .error e
  | .ok b =>
    match ending with
    | .refused i => .error ⟨.invalidToken, i⟩
    | .unclosed i => .error ⟨.unclosedToken, i⟩
    | .unclosedLiteral i => .error ⟨.unclosedLiteral, i⟩
    | .complete =>
      match b.root with
      | some e => if b.isInside then .error ⟨.noElement, s.length⟩ else .ok e
      | none => .error ⟨.noElement, s.length⟩

/-- The line and column of an offset, the line counted from one and the column from zero. -/
def position (s : List Char) (offset : Nat) : Nat × Nat :=
  let before := s.take offset
  (before.count '\n' + 1, (before.reverse.takeWhile (· != '\n')).length)

/-- The message of a failure in a text. -/
def Failure.message (e : Failure) (s : List Char) : String :=
  let (line, column) := position s e.offset
  e.cause.message ++ ": line " ++ toString line ++ ", column " ++ toString column

end LayoutTree.Xml
