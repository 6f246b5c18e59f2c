import LayoutTree.Yaml.Scalar

/-!
# YAML tokens

A YAML text as a list of tokens. Indentation opens and closes block collections, and a colon turns
the token before it into a key, so a token counts as final only once no colon can follow it on its
line:
`Scanner.final` is how many tokens are. A failure keeps the tokens that were final before it,
because whatever is wrong with those comes first.

* `fetch`: the scanner after one more token of the text.
* `tokenize`: the final tokens of a text, and the failure that ends them, if any.
-/

namespace LayoutTree.Yaml

/-- What a token is. -/
inductive TokenKind
  | streamEnd
  | directive (d : Directive)
  | documentStart
  | documentEnd
  | blockSequenceStart
  | blockMappingStart
  | blockEnd
  | flowSequenceStart
  | flowMappingStart
  | flowSequenceEnd
  | flowMappingEnd
  | key
  | value
  | blockEntry
  | flowEntry
  | alias (name : String)
  | anchor (name : String)
  | tag (t : Tag)
  | scalar (text : String)
  deriving DecidableEq, Repr

/-- The name of a kind of tokens in messages. -/
def TokenKind.name : TokenKind → String
  | .streamEnd => "<stream end>"
  | .directive _ => "<directive>"
  | .documentStart => "<document start>"
  | .documentEnd => "<document end>"
  | .blockSequenceStart => "<block sequence start>"
  | .blockMappingStart => "<block mapping start>"
  | .blockEnd => "<block end>"
  | .flowSequenceStart => "["
  | .flowMappingStart => "\x7b"
  | .flowSequenceEnd => "]"
  | .flowMappingEnd => "\x7d"
  | .key => "?"
  | .value => ":"
  | .blockEntry => "-"
  | .flowEntry => ","
  | .alias _ => "<alias>"
  | .anchor _ => "<anchor>"
  | .tag _ => "<tag>"
  | .scalar _ => "<scalar>"

/-- A token and where it starts. -/
structure Token where
  kind : TokenKind
  mark : Mark
  deriving DecidableEq, Repr

/-- A token that a colon may still turn into a key. -/
structure PendingKey where
  /-- The flow level it stands on. -/
  level : Nat
  /-- How many tokens stand before it. -/
  index : Nat
  /-- Whether only a key can stand there. -/
  required : Bool
  mark : Mark

/-- The state of the reading between two tokens. -/
structure Scanner where
  cursor : Cursor
  /-- How many flow collections are open. -/
  flowLevel : Nat
  /-- The tokens so far, latest first. -/
  tokens : List Token
  /-- How many tokens there are. -/
  count : Nat
  /-- The column of the innermost block collection, one more than counted from zero; zero where
  there is none. -/
  indent : Nat
  /-- The columns of the block collections around it. -/
  indents : List Nat
  /-- Whether a key may start here. -/
  allowKey : Bool
  /-- The tokens that may still become keys. -/
  pending : List PendingKey

namespace Scanner

/-- The start of a text. -/
def start (s : List Char) : Scanner := ⟨Cursor.start s, 0, [], 0, 0, [], true, []⟩

/-- The position of the reading. -/
def mark (s : Scanner) : Mark := s.cursor.mark

/-- Whether a flow collection is open. -/
def inFlow (s : Scanner) : Bool := s.flowLevel != 0

/-- How many tokens are final. -/
def final (s : Scanner) : Nat :=
  s.pending.foldl (fun n k => min n k.index) s.count

/-- One more token. -/
def push (s : Scanner) (kind : TokenKind) (mark : Mark) : Scanner :=
  { s with tokens := ⟨kind, mark⟩ :: s.tokens, count := s.count + 1 }

/-- A token put in front of the last ones, so that `index` tokens stand before it. -/
def insert (s : Scanner) (index : Nat) (kind : TokenKind) (mark : Mark) : Scanner :=
  let after := s.count - index
  { s with
    tokens := s.tokens.take after ++ ⟨kind, mark⟩ :: s.tokens.drop after
    count := s.count + 1 }

/-- The reading at another place. -/
def moveTo (s : Scanner) (c : Cursor) : Scanner := { s with cursor := c }

/-- A token of one or more characters, and the place after them. -/
def pushOver (s : Scanner) (kind : TokenKind) (length : Nat) : Scanner :=
  (s.push kind s.mark).moveTo (s.cursor.forward length)

/-- Whether a pending key is too far away to become one. -/
def isStale (s : Scanner) (k : PendingKey) : Bool :=
  k.mark.line != s.mark.line || 1024 < s.mark.offset - k.mark.offset

/-- The scanner without the keys that are too far away; a required one among them is an error. -/
def dropStale (s : Scanner) : Except Failure Scanner :=
  if s.pending.any fun k => s.isStale k && k.required then s.cursor.fail .missingColon
  else .ok { s with pending := s.pending.filter fun k => !s.isStale k }

/-- The scanner without the pending key of this flow level; a required one is an error. -/
def dropKey (s : Scanner) : Except Failure Scanner :=
  if s.pending.any fun k => k.level == s.flowLevel && k.required then s.cursor.fail .missingColon
  else .ok { s with pending := s.pending.filter fun k => k.level != s.flowLevel }

/-- The scanner with the next token pending as a key, where one may start. -/
def saveKey (s : Scanner) : Except Failure Scanner :=
  if s.allowKey then do
    let required := !s.inFlow && s.indent == s.mark.column + 1
    let s ← s.dropKey
    .ok { s with pending := s.pending ++ [⟨s.flowLevel, s.count, required, s.mark⟩] }
  else .ok s

/-- The block collections that are indented further than a column closed. The column counts from
one; zero closes all. -/
def unwind (s : Scanner) (column : Nat) : Scanner :=
  if s.inFlow then s
  else
    let inner := (s.indent :: s.indents).takeWhile (column < ·)
    let rest := (s.indent :: s.indents).dropWhile (column < ·)
    let s := inner.foldl (fun s _ => s.push .blockEnd s.mark) s
    { s with indent := rest.headD 0, indents := rest.drop 1 }

/-- Whether a column, counted from one, opens a further block collection. -/
def opens (s : Scanner) (column : Nat) : Bool := s.indent < column

/-- A further block collection at a column counted from one. -/
def addIndent (s : Scanner) (column : Nat) : Scanner :=
  { s with indents := s.indent :: s.indents, indent := column }

/-- The place of the next token, and whether a line ends before it. -/
def toNextToken (fuel : Nat) (c : Cursor) : Cursor × Bool :=
  match fuel with
  | 0 => (c, false)
  | fuel + 1 =>
    let c := c.skipSpaces
    let c := if c.peek == some '#' then c.skipLine else c
    match c.lineBreak with
    | none => (c, false)
    | some (_, c) => ((toNextToken fuel c).1, true)

/-- The scanner at the next token. -/
def advance (s : Scanner) : Scanner :=
  let c := if s.mark.offset == 0 && s.cursor.peek.any (·.toNat == 0xFEFF) then s.cursor.next
    else s.cursor
  let (c, broken) := toNextToken (c.rest.length + 1) c
  { s with cursor := c, allowKey := s.allowKey || (broken && !s.inFlow) }

/-! ## The tokens -/

/-- The end of the text. -/
def fetchEnd (s : Scanner) : Except Failure Scanner := do
  let s ← (s.unwind 0).dropKey
  .ok ({ s with allowKey := false, pending := [] }.push .streamEnd s.mark)

/-- A directive. -/
def fetchDirective (s : Scanner) : Except Failure Scanner := do
  let s ← (s.unwind 0).dropKey
  let (d, c) ← directive s.cursor
  .ok (({ s with allowKey := false }.push (.directive d) s.mark).moveTo c)

/-- A mark that starts or ends a document. -/
def fetchDocumentMark (s : Scanner) (kind : TokenKind) : Except Failure Scanner := do
  let s ← (s.unwind 0).dropKey
  .ok ({ s with allowKey := false }.pushOver kind 3)

/-- The start of a flow collection. -/
def fetchFlowStart (s : Scanner) (kind : TokenKind) : Except Failure Scanner := do
  let s ← s.saveKey
  .ok ({ s with flowLevel := s.flowLevel + 1, allowKey := true }.pushOver kind 1)

/-- The end of a flow collection. -/
def fetchFlowEnd (s : Scanner) (kind : TokenKind) : Except Failure Scanner := do
  let s ← s.dropKey
  .ok ({ s with flowLevel := s.flowLevel - 1, allowKey := false }.pushOver kind 1)

/-- A comma in a flow collection. -/
def fetchFlowEntry (s : Scanner) : Except Failure Scanner := do
  let s ← { s with allowKey := true }.dropKey
  .ok (s.pushOver .flowEntry 1)

/-- The block collection that an entry at this place belongs to, opened if it is new. -/
def openBlock (s : Scanner) (kind : TokenKind) (entries : String) : Except Failure Scanner :=
  if s.inFlow then .ok s
  else if !s.allowKey then s.cursor.fail (.notAllowed entries)
  else
    let column := s.mark.column + 1
    .ok (if s.opens column then (s.addIndent column).push kind s.mark else s)

/-- A dash before an item. -/
def fetchBlockEntry (s : Scanner) : Except Failure Scanner := do
  let s ← s.openBlock .blockSequenceStart "sequence entries"
  let s ← { s with allowKey := true }.dropKey
  .ok (s.pushOver .blockEntry 1)

/-- A question mark before a key. -/
def fetchKey (s : Scanner) : Except Failure Scanner := do
  let s ← s.openBlock .blockMappingStart "mapping keys"
  let s ← { s with allowKey := !s.inFlow }.dropKey
  .ok (s.pushOver .key 1)

/-- A colon before a value. It turns a pending token into a key. -/
def fetchValue (s : Scanner) : Except Failure Scanner := do
  match s.pending.find? fun k => k.level == s.flowLevel with
  | some k =>
    let s := { s with pending := s.pending.filter fun k => k.level != s.flowLevel }
    let s := s.insert k.index .key k.mark
    let column := k.mark.column + 1
    let s := if !s.inFlow && s.opens column then
        (s.addIndent column).insert k.index .blockMappingStart k.mark
      else s
    .ok ({ s with allowKey := false }.pushOver .value 1)
  | none =>
    let s ← s.openBlock .blockMappingStart "mapping values"
    let s ← { s with allowKey := !s.inFlow }.dropKey
    .ok (s.pushOver .value 1)

/-- A token with a text of its own that may be a key. -/
def fetchText {α : Type} (s : Scanner) (read : Cursor → Except Failure (α × Cursor))
    (kind : α → TokenKind) : Except Failure Scanner := do
  let s ← s.saveKey
  let (a, c) ← read s.cursor
  .ok (({ s with allowKey := false }.push (kind a) s.mark).moveTo c)

/-- A block scalar. -/
def fetchBlockScalar (s : Scanner) : Except Failure Scanner := do
  let s ← { s with allowKey := true }.dropKey
  let (text, c) ← blockScalar (max 1 s.indent) s.cursor
  .ok ((s.push (.scalar (String.ofList text)) s.mark).moveTo c)

/-- A plain scalar. -/
def fetchPlain (s : Scanner) : Except Failure Scanner := do
  let s ← s.saveKey
  let p := plainScalar s.inFlow s.indent s.cursor
  .ok (({ s with allowKey := p.broken }.push (.scalar (String.ofList p.text)) s.mark).moveTo
    p.cursor)

/-- Whether a plain scalar may start with a character, given the next one. -/
def startsPlain (s : Scanner) (c : Char) (next : Option Char) : Bool :=
  !(atBlankOrEnd (some c) || "-?:,[]\x7b\x7d#&*!|>'\"%@\x60".toList.contains c) ||
    (!atBlankOrEnd next && (c == '-' || (!s.inFlow && (c == '?' || c == ':'))))

/-- The next token of the text; `s` stands at it. -/
def fetchAt (s : Scanner) : Except Failure Scanner :=
  match s.cursor.peek with
  | none => s.fetchEnd
  | some c =>
    let next := s.cursor.peekAt 1
    let first := s.mark.column == 0
    if c == '%' && first then s.fetchDirective
    else if c == '-' && first && s.cursor.atDocumentMark then s.fetchDocumentMark .documentStart
    else if c == '.' && first && s.cursor.atDocumentMark then s.fetchDocumentMark .documentEnd
    else if c == '[' then s.fetchFlowStart .flowSequenceStart
    else if c == '\x7b' then s.fetchFlowStart .flowMappingStart
    else if c == ']' then s.fetchFlowEnd .flowSequenceEnd
    else if c == '\x7d' then s.fetchFlowEnd .flowMappingEnd
    else if c == ',' then s.fetchFlowEntry
    else if c == '-' && atBlankOrEnd next then s.fetchBlockEntry
    else if c == '?' && (s.inFlow || atBlankOrEnd next) then s.fetchKey
    else if c == ':' && (s.inFlow || atBlankOrEnd next) then s.fetchValue
    else if c == '*' then s.fetchText anchorName .alias
    else if c == '&' then s.fetchText anchorName .anchor
    else if c == '!' then s.fetchText Yaml.tag .tag
    else if (c == '|' || c == '>') && !s.inFlow then s.fetchBlockScalar
    else if c == '\'' || c == '"' then
      s.fetchText quotedScalar fun text => .scalar (String.ofList text)
    else if s.startsPlain c next then s.fetchPlain
    else s.cursor.fail (.cannotStart c)

/-- The scanner after one more token of the text. -/
def fetch (s : Scanner) : Except Failure Scanner := do
  let s ← s.advance.dropStale
  (s.unwind (s.mark.column + 1)).fetchAt

/-- Whether the end of the text has been read. -/
def isDone (s : Scanner) : Bool :=
  match s.tokens with
  | ⟨.streamEnd, _⟩ :: _ => true
  | _ => false

end Scanner

/-- The tokens of a text, and the failure that ends them. -/
structure Tokens where
  /-- The tokens that are final. -/
  list : List Token
  /-- Why there are no more, unless the text ends. -/
  failure : Option Failure

/-- The tokens of a scanner that are final, and the failure after them. -/
def Tokens.failed (s : Scanner) (e : Failure) : Tokens :=
  ⟨s.tokens.reverse.take s.final, some e⟩

/-- The tokens from a scanner on. -/
def tokenizeFrom (fuel : Nat) (s : Scanner) : Tokens :=
  match fuel with
  | 0 => ⟨s.tokens.reverse, none⟩
  | fuel + 1 =>
    match s.fetch with
    | .error e => Tokens.failed s e
    | .ok after =>
      if after.isDone then ⟨after.tokens.reverse, none⟩
      else
        match after.dropStale with
        | .error e => Tokens.failed s e
        | .ok after => tokenizeFrom fuel after

/-- Whether a character may stand in a YAML text. -/
def isAllowed (c : Char) : Bool :=
  let n := c.toNat
  n == 9 || n == 10 || n == 13 || (0x20 ≤ n && n ≤ 0x7E) || n == 0x85 ||
    (0xA0 ≤ n && n ≤ 0xD7FF) || (0xE000 ≤ n && n ≤ 0xFFFD) || 0x10000 ≤ n

/-- The tokens of a text. -/
def tokenize (text : List Char) : Tokens :=
  tokenizeFrom (text.length + 1) (.start text)

end LayoutTree.Yaml
