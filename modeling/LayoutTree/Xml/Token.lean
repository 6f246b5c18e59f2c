import LayoutTree.Xml.NameTable

/-!
# XML tokens

The tags, references and characters of an XML document, read one character at a time. `Lexer.step`
is the automaton: it either takes a character or refuses it. `tokenize` reads a whole text; what it
yields before a refusal counts, since an error in an earlier token comes first.

Positions are offsets into the text; every token keeps the offset of its first character.
-/

namespace LayoutTree.Xml

/-! ## Tokens -/

/-- A reference between an ampersand and a semicolon. -/
inductive Reference
  /-- A named entity. -/
  | entity (name : String)
  /-- The code of a character. -/
  | code (n : Nat)
  deriving DecidableEq, Repr

/-- A part of an attribute value. -/
inductive Piece
  /-- A character. -/
  | char (c : Char)
  /-- A reference and its offset. -/
  | reference (r : Reference) (start : Nat)
  deriving DecidableEq, Repr

/-- An attribute as written. -/
structure RawAttribute where
  /-- The qualified name. -/
  name : String
  /-- The offset of the name. -/
  start : Nat
  /-- The value. -/
  value : List Piece
  deriving DecidableEq, Repr

/-- What a token is. -/
inductive TokenKind
  /-- A character of the content. -/
  | char (c : Char)
  /-- A reference in the content. -/
  | reference (r : Reference)
  /-- A start tag; an empty one is its own end. -/
  | startTag (name : String) (attributes : List RawAttribute) (isEmpty : Bool)
  /-- An end tag. -/
  | endTag (name : String)
  /-- The XML declaration, with the text after its name. -/
  | declaration (body : List Char)
  /-- The document type, with the text after the keyword. -/
  | documentType (body : List Char)
  /-- Something that cannot stand outside of the root element. -/
  | stray

/-- A token and the offset of its first character. -/
structure Token where
  kind : TokenKind
  start : Nat

/-! ## The automaton -/

/-- What a reference has been read so far, latest character first. -/
inductive RefPart
  /-- Nothing after the ampersand. -/
  | opened
  /-- The name of an entity. -/
  | entity (name : List Char)
  /-- A number sign. -/
  | number
  /-- Decimal digits of this value. -/
  | decimal (n : Nat)
  /-- A number sign and an `x`. -/
  | hex
  /-- Hexadecimal digits of this value. -/
  | hexDigits (n : Nat)

/-- A start tag under construction: its name, and its attributes, latest first. -/
structure OpenTag where
  name : String
  attributes : List RawAttribute

/-- Whether a qualified name has had its colon. -/
inductive ColonState
  /-- Not yet. -/
  | before
  /-- It is the last character. -/
  | here
  /-- It stands further back. -/
  | behind
  deriving DecidableEq

/-- Where the automaton is within a token. Texts are kept latest character first. -/
inductive Lex
  /-- Between tokens. -/
  | idle
  /-- After this many closing brackets in the content. -/
  | brackets (n : Nat)
  /-- In a reference in the content. -/
  | reference (r : RefPart)
  /-- After `<`. -/
  | opened
  /-- In the name of a start tag. -/
  | tagName (name : List Char) (colon : ColonState)
  /-- After blanks in a start tag. -/
  | tagGap (tag : OpenTag)
  /-- In the name of an attribute. -/
  | attributeName (tag : OpenTag) (start : Nat) (name : List Char) (colon : ColonState)
  /-- After the name of an attribute and blanks. -/
  | attributeEquals (tag : OpenTag) (start : Nat) (name : String)
  /-- After the equals sign. -/
  | attributeQuote (tag : OpenTag) (start : Nat) (name : String)
  /-- In the value of an attribute. -/
  | attributeValue (tag : OpenTag) (start : Nat) (name : String) (mark : Char) (value : List Piece)
  /-- In a reference in the value of an attribute. -/
  | attributeReference (tag : OpenTag) (start : Nat) (name : String) (mark : Char)
      (value : List Piece) (refStart : Nat) (r : RefPart)
  /-- After the closing quote of a value. -/
  | attributeEnd (tag : OpenTag)
  /-- After a slash that ends a start tag. -/
  | slash (tag : OpenTag)
  /-- After `</`. -/
  | endOpened
  /-- In the name of an end tag. -/
  | endName (name : List Char)
  /-- After the name of an end tag and blanks. -/
  | endGap (name : String)
  /-- After `<!`. -/
  | bang
  /-- After `<!-`. -/
  | commentOpened
  /-- In a comment, after this many dashes. -/
  | comment (dashes : Nat)
  /-- In the opening of literal content, of which this is still to come. -/
  | literalOpened (expected : List Char)
  /-- In literal content, after this many closing brackets. -/
  | literal (brackets : Nat)
  /-- After `<?`. -/
  | instructionOpened
  /-- In the target of an instruction. -/
  | instructionTarget (name : List Char)
  /-- In an instruction; the text is kept where it is the XML declaration. -/
  | instruction (declaration : Option (List Char)) (mark : Bool)
  /-- After a question mark that directly follows the target of an instruction. -/
  | targetMark (isDeclaration : Bool)
  /-- In a keyword after `<!`. -/
  | keyword (name : List Char)
  /-- In the document type, at a bracket depth, perhaps in quotes. -/
  | documentType (body : List Char) (depth : Nat) (quote : Option Char)
  /-- In a word outside of the root element: whether it is a name, and whether it has had its colon.
  -/
  | strayWord (isName : Bool) (colon : ColonState)
  /-- After a closing parenthesis outside of the root element. -/
  | strayParenthesis
  /-- In a word after a percent or number sign outside of the root element; the sign alone is kept
  while nothing follows it. -/
  | straySign (sign : Char) (alone : Bool)
  /-- In a quoted text outside of the root element. -/
  | strayQuoted (mark : Char)
  /-- After a quoted text outside of the root element. -/
  | strayQuoteEnd

/-- The automaton between two characters. -/
structure Lexer where
  /-- How many elements are open. -/
  depth : Nat
  /-- Whether the root element has been opened. -/
  rooted : Bool
  /-- Where it is within a token. -/
  lex : Lex
  /-- The offset at which the token starts. -/
  start : Nat
  /-- The tokens so far, latest first. -/
  tokens : List Token

namespace Lexer

/-- A blank character. -/
def isSpace (c : Char) : Bool :=
  c == ' ' || c == '\t' || c == '\n' || c == '\r'

/-- A character that may stand in a document. -/
def isAllowed (c : Char) : Bool :=
  (c.toNat ≥ 0x20 || isSpace c) && c.toNat != 0xFFFE && c.toNat != 0xFFFF

/-- The automaton in another place of the same token. -/
def into (l : Lexer) (lex : Lex) : Lexer :=
  { l with lex }

/-- The automaton after a token. -/
def emit (l : Lexer) (kind : TokenKind) : Lexer :=
  { l with lex := .idle, tokens := ⟨kind, l.start⟩ :: l.tokens }

/-- The automaton after a token that leaves no trace. -/
def skip (l : Lexer) : Lexer :=
  { l with lex := .idle }

/-- The automaton at the start of a token. -/
def begin (l : Lexer) (i : Nat) (lex : Lex) : Lexer :=
  { l with lex, start := i }

/-- The automaton after a start tag. -/
def openElement (l : Lexer) (tag : OpenTag) (isEmpty : Bool) : Lexer :=
  let l := l.emit (.startTag tag.name tag.attributes.reverse isEmpty)
  { l with rooted := true, depth := if isEmpty then l.depth else l.depth + 1 }

/-- The automaton after an end tag. -/
def closeElement (l : Lexer) (name : String) : Lexer :=
  let l := l.emit (.endTag name)
  { l with depth := l.depth - 1 }

/-- The string that a text kept latest character first stands for. -/
def ofReversed (s : List Char) : String :=
  String.ofList s.reverse

/-- One more character of a qualified name. -/
def extendName (name : List Char) (colon : ColonState) (c : Char) :
    Option (List Char × ColonState) :=
  match colon with
  | .here => if isNameStart c then some (c :: name, .behind) else none
  | .before =>
    if c == ':' then some (c :: name, .here)
    else if isNameChar c then some (c :: name, .before) else none
  | .behind => if isNameChar c then some (c :: name, .behind) else none

/-- The greatest code that a character reference keeps; greater ones stay just above it. -/
def codeBound : Nat := 0x110000

/-- The value of a digit in base sixteen. -/
def hexValue? (c : Char) : Option Nat :=
  if '0' ≤ c && c ≤ '9' then some (c.toNat - 48)
  else if 'a' ≤ c && c ≤ 'f' then some (c.toNat - 87)
  else if 'A' ≤ c && c ≤ 'F' then some (c.toNat - 55)
  else none

/-- A reference after one more character: further in it, or complete. -/
def stepReference (r : RefPart) (c : Char) : Option (RefPart ⊕ Reference) :=
  match r with
  | .opened =>
    if c == '#' then some (.inl .number)
    else if isNameStart c then some (.inl (.entity [c])) else none
  | .entity name =>
    if c == ';' then some (.inr (.entity (ofReversed name)))
    else if isNameChar c then some (.inl (.entity (c :: name))) else none
  | .number =>
    if c == 'x' then some (.inl .hex)
    else if '0' ≤ c && c ≤ '9' then some (.inl (.decimal (c.toNat - 48))) else none
  | .decimal n =>
    if c == ';' then some (.inr (.code n))
    else if '0' ≤ c && c ≤ '9' then some (.inl (.decimal (min codeBound (10 * n + (c.toNat - 48)))))
    else none
  | .hex => (hexValue? c).map fun d => .inl (.hexDigits d)
  | .hexDigits n =>
    if c == ';' then some (.inr (.code n))
    else (hexValue? c).map fun d => .inl (.hexDigits (min codeBound (16 * n + d)))

/-- A character between tokens outside of the root element. -/
def stepOutside (l : Lexer) (i : Nat) (c : Char) : Option Lexer :=
  if isSpace c then some l.skip
  else if c == '<' then some (l.begin i .opened)
  else if c == '"' || c == '\'' then some (l.begin i (.strayQuoted c))
  else if isNameChar c then some (l.begin i (.strayWord (isNameStart c) .before))
  else if c == ':' then some (l.begin i (.strayWord false .behind))
  else if c == ')' then some (l.begin i .strayParenthesis)
  else if c == '%' || c == '#' then some (l.begin i (.straySign c true))
  else if ">,[](|".toList.contains c then
    some ((l.begin i .idle).emit .stray)
  else none

/-- A character between tokens in the content of an element. -/
def stepInside (l : Lexer) (i : Nat) (c : Char) : Option Lexer :=
  if c == '<' then some (l.begin i .opened)
  else if c == '&' then some (l.begin i (.reference .opened))
  else if c == ']' then some (((l.begin i .idle).emit (.char c)).into (.brackets 1))
  else if isAllowed c then some ((l.begin i .idle).emit (.char c))
  else none

/-- A character between tokens. -/
def stepIdle (l : Lexer) (i : Nat) (c : Char) : Option Lexer :=
  if l.depth == 0 then stepOutside l i c else stepInside l i c

/-- A character after `<`. -/
def stepOpened (l : Lexer) (c : Char) : Option Lexer :=
  if c == '!' then some (l.into .bang)
  else if c == '?' then some (l.into .instructionOpened)
  else if l.depth == 0 && l.rooted && isNameStart c then some (l.emit .stray)
  else if c == '/' && l.depth != 0 then some (l.into .endOpened)
  else if isNameStart c then some (l.into (.tagName [c] .before))
  else none

/-- A character after `<!`. -/
def stepBang (l : Lexer) (c : Char) : Option Lexer :=
  if c == '-' then some (l.into .commentOpened)
  else if l.depth != 0 then
    if c == '[' then some (l.into (.literalOpened "CDATA[".toList)) else none
  else if c == '[' then some (l.emit .stray)
  else if c.isAlpha then some (l.into (.keyword [c]))
  else none

/-- A character that ends the name part of a start tag, or stands between its attributes. -/
def stepTagGap (l : Lexer) (tag : OpenTag) (i : Nat) (c : Char) : Option Lexer :=
  if isSpace c then some (l.into (.tagGap tag))
  else if c == '>' then some (l.openElement tag false)
  else if c == '/' then some (l.into (.slash tag))
  else if isNameStart c then some (l.into (.attributeName tag i [c] .before))
  else none

/-- A character that ends the target of an instruction. -/
def stepTargetEnd (l : Lexer) (name : List Char) (c : Char) : Option Lexer :=
  let isDeclaration := name.reverse == "xml".toList
  if !isDeclaration && (name.reverse.map Char.toLower) == "xml".toList then none
  else if c == '?' then some (l.into (.targetMark isDeclaration))
  else if isSpace c then
    some (l.into (.instruction (if isDeclaration then some [c] else none) false))
  else none

/-- A character of a word outside of the root element. -/
def stepStrayWord (l : Lexer) (isName : Bool) (colon : ColonState) (c : Char) : Option Lexer :=
  if isNameChar c then
    some (l.into (.strayWord isName (if colon == .here then .behind else colon)))
  else
    let isName := isName && colon != .here
    if c == ':' then
      some (l.into (if isName && colon == .before then .strayWord true .here else .strayWord false .behind))
    else if isSpace c || ">),|[%".toList.contains c || (isName && "+*?".toList.contains c) then
      some (l.emit .stray)
    else none

/-- A character after a percent or number sign outside of the root element. -/
def stepStraySign (l : Lexer) (sign : Char) (alone : Bool) (c : Char) : Option Lexer :=
  if alone then
    if isNameStart c then some (l.into (.straySign sign false))
    else if sign == '%' && (isSpace c || c == '%') then some (l.emit .stray)
    else none
  else if isNameChar c then some l
  else if (if sign == '%' then c == ';' else isSpace c || ")>%|".toList.contains c) then
    some (l.emit .stray)
  else none

/-- A character in the document type. -/
def stepDocumentType (l : Lexer) (body : List Char) (depth : Nat) (quote : Option Char) (c : Char) :
    Option Lexer :=
  if !isAllowed c then none
  else
    match quote with
    | some mark => some (l.into (.documentType (c :: body) depth (if c == mark then none else quote)))
    | none =>
      if c == '"' || c == '\'' then some (l.into (.documentType (c :: body) depth (some c)))
      else if c == '[' then some (l.into (.documentType (c :: body) (depth + 1) none))
      else if c == ']' then some (l.into (.documentType (c :: body) (depth - 1) none))
      else if c == '>' && depth == 0 then some (l.emit (.documentType body.reverse))
      else some (l.into (.documentType (c :: body) depth none))

/-- The automaton after one more character, unless it refuses it. -/
def step (l : Lexer) (i : Nat) (c : Char) : Option Lexer :=
  match l.lex with
  | .idle => stepIdle l i c
  | .brackets n =>
    if c == ']' then some (((l.begin i .idle).emit (.char c)).into (.brackets (n + 1)))
    else if c == '>' && 2 ≤ n then none
    else stepIdle l i c
  | .reference r =>
    (stepReference r c).map fun
      | .inl r => l.into (.reference r)
      | .inr r => l.emit (.reference r)
  | .opened => stepOpened l c
  | .tagName name colon =>
    if colon != .here && (isSpace c || c == '>' || c == '/') then
      stepTagGap l ⟨ofReversed name, []⟩ i c
    else (extendName name colon c).map fun (name, colon) => l.into (.tagName name colon)
  | .tagGap tag => stepTagGap l tag i c
  | .attributeName tag start name colon =>
    if colon != .here && c == '=' then some (l.into (.attributeQuote tag start (ofReversed name)))
    else if colon != .here && isSpace c then
      some (l.into (.attributeEquals tag start (ofReversed name)))
    else (extendName name colon c).map fun (name, colon) => l.into (.attributeName tag start name colon)
  | .attributeEquals tag start name =>
    if c == '=' then some (l.into (.attributeQuote tag start name))
    else if isSpace c then some l else none
  | .attributeQuote tag start name =>
    if c == '"' || c == '\'' then some (l.into (.attributeValue tag start name c []))
    else if isSpace c then some l else none
  | .attributeValue tag start name mark value =>
    if c == mark then
      some (l.into (.attributeEnd ⟨tag.name, ⟨name, start, value.reverse⟩ :: tag.attributes⟩))
    else if c == '&' then some (l.into (.attributeReference tag start name mark value i .opened))
    else if c == '<' || !isAllowed c then none
    else some (l.into (.attributeValue tag start name mark (.char c :: value)))
  | .attributeReference tag start name mark value refStart r =>
    (stepReference r c).map fun
      | .inl r => l.into (.attributeReference tag start name mark value refStart r)
      | .inr r => l.into (.attributeValue tag start name mark (.reference r refStart :: value))
  | .attributeEnd tag =>
    if isSpace c || c == '>' || c == '/' then stepTagGap l tag i c else none
  | .slash tag => if c == '>' then some (l.openElement tag true) else none
  | .endOpened => if isNameStart c then some (l.into (.endName [c])) else none
  | .endName name =>
    if c == '>' then some (l.closeElement (ofReversed name))
    else if isSpace c then some (l.into (.endGap (ofReversed name)))
    else if isNameChar c || c == ':' then some (l.into (.endName (c :: name)))
    else none
  | .endGap name =>
    if c == '>' then some (l.closeElement name) else if isSpace c then some l else none
  | .bang => stepBang l c
  | .commentOpened => if c == '-' then some (l.into (.comment 0)) else none
  | .comment dashes =>
    if dashes == 2 then if c == '>' then some l.skip else none
    else if c == '-' then some (l.into (.comment (dashes + 1)))
    else if isAllowed c then some (l.into (.comment 0)) else none
  | .literalOpened expected =>
    match expected with
    | [] => none
    | [e] => if c == e then some (l.begin (i + 1) (.literal 0)) else none
    | e :: rest => if c == e then some (l.into (.literalOpened rest)) else none
  | .literal brackets =>
    if c == ']' then
      if brackets == 2 then some (((l.emit (.char ']')).begin (l.start + 1) (.literal 2)))
      else some ((if brackets == 0 then l.begin i (.literal 1) else l.into (.literal 2)))
    else if c == '>' && brackets == 2 then some l.skip
    else if isAllowed c then
      let l := (List.replicate brackets (TokenKind.char ']')).foldl emit l
      some ((l.emit (.char c)).begin (i + 1) (.literal 0))
    else none
  | .instructionOpened => if isNameStart c then some (l.into (.instructionTarget [c])) else none
  | .instructionTarget name =>
    if isNameChar c then some (l.into (.instructionTarget (c :: name))) else stepTargetEnd l name c
  | .instruction declaration mark =>
    if mark && c == '>' then
      match declaration with
      | none => some l.skip
      | some body => some (l.emit (.declaration body.reverse))
    else if !isAllowed c then none
    else
      let body := declaration.map fun body => if mark then '?' :: body else body
      if c == '?' then some (l.into (.instruction body true))
      else some (l.into (.instruction (body.map (c :: ·)) false))
  | .keyword name =>
    if isSpace c then
      if ofReversed name == "DOCTYPE" && !l.rooted then some (l.into (.documentType [] 0 none))
      else some (l.emit .stray)
    else if c.isAlpha then some (l.into (.keyword (c :: name))) else none
  | .documentType body depth quote => stepDocumentType l body depth quote c
  | .targetMark isDeclaration =>
    if c != '>' then none
    else if isDeclaration then some (l.emit (.declaration []))
    else some l.skip
  | .strayWord isName colon => stepStrayWord l isName colon c
  | .strayParenthesis =>
    if isSpace c || ">,|)?*+".toList.contains c then some (l.emit .stray) else none
  | .straySign sign alone => stepStraySign l sign alone c
  | .strayQuoted mark =>
    if !isAllowed c then none
    else if c == mark then some (l.into .strayQuoteEnd) else some l
  | .strayQuoteEnd =>
    if isSpace c || c == '>' || c == '%' || c == '[' then some (l.emit .stray) else none

end Lexer

/-- How the reading of a text ends. -/
inductive Ending
  /-- Between two tokens, or after something that only the end of the text completes. -/
  | complete
  /-- In a token that starts at an offset. -/
  | unclosed (start : Nat)
  /-- In literal content, at an offset. -/
  | unclosedLiteral (start : Nat)
  /-- At a character that is refused. -/
  | refused (offset : Nat)

/-- The tokens of the rest of a text, and how it ends. -/
def tokenizeFrom (l : Lexer) (i : Nat) : List Char → List Token × Ending
  | c :: r =>
    match l.step i c with
    | some l => tokenizeFrom l (i + 1) r
    | none => (l.tokens.reverse, .refused i)
  | [] =>
    match l.lex with
    | .idle => (l.tokens.reverse, .complete)
    | .brackets _ => (l.tokens.reverse, .complete)
    | .strayWord _ .here => (l.tokens.reverse, .unclosed l.start)
    | .strayWord _ _ => ((l.emit .stray).tokens.reverse, .complete)
    | .strayParenthesis => ((l.emit .stray).tokens.reverse, .complete)
    | .straySign '#' false => ((l.emit .stray).tokens.reverse, .complete)
    | .strayQuoteEnd => ((l.emit .stray).tokens.reverse, .complete)
    | .literal _ => (l.tokens.reverse, .unclosedLiteral l.start)
    | _ => (l.tokens.reverse, .unclosed l.start)

/-- The tokens of a document, and how it ends. -/
def tokenize (s : List Char) : List Token × Ending :=
  tokenizeFrom ⟨0, false, .idle, 0, []⟩ 0 s

/-- The tokens of a text that stands in the content of an element, and how it ends. -/
def tokenizeContent (s : List Char) : List Token × Ending :=
  tokenizeFrom ⟨1, true, .idle, 0, []⟩ 0 s

end LayoutTree.Xml
