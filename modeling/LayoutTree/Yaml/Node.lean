import LayoutTree.Yaml.Token

/-!
# YAML nodes

The tree that the tokens of a YAML text describe, with anchors and aliases followed. `Parse` is a
reading of the tokens; it fails where a token does not fit, and where there are no more tokens with
the failure that ended them. Nesting takes fuel; four times the number of tokens is always enough.

* `node`: a node in a block or in a flow collection.
* `single`: the only document of a text.
-/

namespace LayoutTree.Yaml

/-- A node of a document. -/
inductive Node
  /-- A text. -/
  | scalar (text : String) (mark : Mark)
  /-- A list. -/
  | sequence (items : List Node) (mark : Mark)
  /-- Keys with their values. -/
  | mapping (entries : List (Node × Node)) (mark : Mark)
  /-- An alias of a node that holds it. -/
  | cycle (mark : Mark)

/-- The position of a node. -/
def Node.mark : Node → Mark
  | .scalar _ m => m
  | .sequence _ m => m
  | .mapping _ m => m
  | .cycle m => m

/-- What a parse has read and what is to come. -/
structure ParseState where
  tokens : List Token
  /-- Why there are no more tokens. -/
  failure : Option Failure
  /-- The nodes of the anchors so far; a node that is still being read stands for itself. -/
  anchors : List (String × Node)
  /-- The tag handles of the document. -/
  handles : List (String × String)

/-- A reading of tokens. -/
abbrev Parse := StateT ParseState (Except Failure)

namespace Parse

/-- The token after the last one of a text that ends. -/
def endToken : Token := ⟨.streamEnd, default⟩

/-- The next token. -/
def peek : Parse Token := do
  let s ← get
  match s.tokens, s.failure with
  | t :: _, _ => pure t
  | [], some e => throw e
  | [], none => pure endToken

/-- The place behind the next token. -/
def drop : Parse Unit := do
  let _ ← peek
  modify fun s => { s with tokens := s.tokens.drop 1 }

/-- The next token, and the place behind it. -/
def take : Parse Token := do
  let t ← peek
  drop
  pure t

/-- A problem at a position. -/
def fail {α : Type} (p : Problem) (m : Mark) : Parse α := throw (.problem p m)

/-- A problem at a token that does not fit. -/
def unexpected {α : Type} (what : String) (t : Token) : Parse α :=
  fail (.expectedToken what t.kind.name) t.mark

/-- The node of an alias. -/
def resolve (name : String) (m : Mark) : Parse Node := do
  match (← get).anchors.lookup name with
  | some n => pure n
  | none => fail (.undefinedAlias name) m

/-- An anchor declared for the node at a position. -/
def declare (anchor : Option String) (m : Mark) : Parse Unit := do
  match anchor with
  | none => pure ()
  | some name =>
    if ((← get).anchors.lookup name).isSome then fail .secondAnchor m
    else modify fun s => { s with anchors := (name, .cycle m) :: s.anchors }

/-- The node of an anchor, once it is complete. -/
def complete (anchor : Option String) (n : Node) : Parse Node := do
  match anchor with
  | none => pure ()
  | some name => modify fun s => { s with anchors := (name, n) :: s.anchors }
  pure n

/-- What stands before the content of a node. -/
structure Properties where
  anchor : Option String
  tag : Option (Tag × Mark)
  /-- Where they start, unless there are none. -/
  start : Option Mark

/-- The anchor at this place, if there is one. -/
def anchor? : Parse (Option (String × Mark)) := do
  let t ← peek
  match t.kind with
  | .anchor name => do
    drop
    pure (some (name, t.mark))
  | _ => pure none

/-- The tag at this place, if there is one. -/
def tag? : Parse (Option (Tag × Mark)) := do
  let t ← peek
  match t.kind with
  | .tag tag => do
    drop
    pure (some (tag, t.mark))
  | _ => pure none

/-- The anchor and the tag at this place, in either order. -/
def properties : Parse Properties := do
  match ← anchor? with
  | some (name, m) => pure ⟨some name, ← tag?, some m⟩
  | none =>
    match ← tag? with
    | none => pure ⟨none, none, none⟩
    | some (tag, m) => pure ⟨(← anchor?).map (·.1), some (tag, m), some m⟩

/-- Refuses a tag whose handle is not declared. -/
def checkTag (p : Properties) : Parse Unit := do
  match p.tag with
  | some (⟨some handle, _⟩, m) =>
    if ((← get).handles.lookup handle).isSome then pure ()
    else fail (.undefinedHandle handle) m
  | _ => pure ()

/-- An empty text. -/
def empty (m : Mark) : Node := .scalar "" m

/-- Whether a node is missing before a token of these kinds. -/
def isOneOf (t : Token) (kinds : List TokenKind) : Bool := kinds.contains t.kind

mutual

/-- A node. The flags tell whether block collections may stand here, and whether the items of a list
may stand here without further indentation. -/
def node (fuel : Nat) (block indentless : Bool) : Parse Node :=
  match fuel with
  | 0 => fail .recursiveNode default
  | fuel + 1 => do
    let t ← peek
    match t.kind with
    | .alias name => do
      drop
      resolve name t.mark
    | _ => do
      let p ← properties
      checkTag p
      let t ← peek
      let m := p.start.getD t.mark
      match t.kind with
      | .scalar text => do
        drop
        declare p.anchor m
        complete p.anchor (.scalar text m)
      | .flowSequenceStart => do
        declare p.anchor m
        drop
        complete p.anchor (.sequence (← flowItems fuel true) m)
      | .flowMappingStart => do
        declare p.anchor m
        drop
        complete p.anchor (.mapping (← flowEntries fuel true) m)
      | .blockEntry =>
        if indentless then do
          declare p.anchor m
          complete p.anchor (.sequence (← indentlessItems fuel) m)
        else missing p t m
      | .blockSequenceStart =>
        if block then do
          declare p.anchor m
          drop
          complete p.anchor (.sequence (← blockItems fuel) m)
        else missing p t m
      | .blockMappingStart =>
        if block then do
          declare p.anchor m
          drop
          complete p.anchor (.mapping (← blockEntries fuel) m)
        else missing p t m
      | _ => missing p t m
where
  /-- The node where no content stands: an empty text if an anchor or a tag calls for one. -/
  missing (p : Properties) (t : Token) (m : Mark) : Parse Node := do
    if p.anchor.isSome || p.tag.isSome then
      declare p.anchor m
      complete p.anchor (empty m)
    else unexpected "the node content" t

/-- The items of a block sequence, up to its end. -/
def blockItems (fuel : Nat) : Parse (List Node) :=
  match fuel with
  | 0 => fail .recursiveNode default
  | fuel + 1 => do
    let t ← take
    match t.kind with
    | .blockEntry => do
      let n ← peek
      let item ← if isOneOf n [.blockEntry, .blockEnd] then pure (empty t.mark)
        else node fuel true false
      pure (item :: (← blockItems fuel))
    | .blockEnd => pure []
    | _ => unexpected "<block end>" t

/-- The items of a sequence that is not indented further than the mapping around it. -/
def indentlessItems (fuel : Nat) : Parse (List Node) :=
  match fuel with
  | 0 => fail .recursiveNode default
  | fuel + 1 => do
    let t ← peek
    match t.kind with
    | .blockEntry => do
      drop
      let n ← peek
      let item ← if isOneOf n [.blockEntry, .key, .value, .blockEnd] then pure (empty t.mark)
        else node fuel true false
      pure (item :: (← indentlessItems fuel))
    | _ => pure []

/-- The value of an entry of a block mapping. -/
def blockValue (fuel : Nat) : Parse Node :=
  match fuel with
  | 0 => fail .recursiveNode default
  | fuel + 1 => do
    let t ← peek
    match t.kind with
    | .value => do
      drop
      if isOneOf (← peek) [.key, .value, .blockEnd] then pure (empty t.mark)
      else node fuel true true
    | _ => pure (empty t.mark)

/-- The entries of a block mapping, up to its end. -/
def blockEntries (fuel : Nat) : Parse (List (Node × Node)) :=
  match fuel with
  | 0 => fail .recursiveNode default
  | fuel + 1 => do
    let t ← take
    match t.kind with
    | .key => do
      let key ← if isOneOf (← peek) [.key, .value, .blockEnd] then pure (empty t.mark)
        else node fuel true true
      let v ← blockValue fuel
      pure ((key, v) :: (← blockEntries fuel))
    | .blockEnd => pure []
    | _ => unexpected "<block end>" t

/-- The value of an entry in a flow collection that ends with a token of the kind `close`. -/
def flowValue (fuel : Nat) (close : TokenKind) : Parse Node :=
  match fuel with
  | 0 => fail .recursiveNode default
  | fuel + 1 => do
    let t ← peek
    match t.kind with
    | .value => do
      drop
      if isOneOf (← peek) [.flowEntry, close] then pure (empty t.mark) else node fuel false false
    | _ => pure (empty t.mark)

/-- The key of an entry in a flow collection, after its mark. -/
def flowKey (fuel : Nat) (close : TokenKind) (t : Token) : Parse Node :=
  match fuel with
  | 0 => fail .recursiveNode default
  | fuel + 1 => do
    if isOneOf (← peek) [.value, .flowEntry, close] then pure (empty t.mark)
    else node fuel false false

/-- The items of a flow sequence, up to its end. -/
def flowItems (fuel : Nat) (first : Bool) : Parse (List Node) :=
  match fuel with
  | 0 => fail .recursiveNode default
  | fuel + 1 => do
    let t ← peek
    if t.kind == .flowSequenceEnd then do
      drop
      pure []
    else do
      if !first then
        if t.kind == .flowEntry then drop
        else fail (.expectedInFlow "',' or ']'" t.kind.name) t.mark
      let t ← peek
      match t.kind with
      | .flowSequenceEnd => do
        drop
        pure []
      | .key => do
        drop
        let key ← flowKey fuel .flowSequenceEnd t
        let v ← flowValue fuel .flowSequenceEnd
        pure (.mapping [(key, v)] t.mark :: (← flowItems fuel false))
      | _ => do
        let item ← node fuel false false
        pure (item :: (← flowItems fuel false))

/-- The entries of a flow mapping, up to its end. -/
def flowEntries (fuel : Nat) (first : Bool) : Parse (List (Node × Node)) :=
  match fuel with
  | 0 => fail .recursiveNode default
  | fuel + 1 => do
    let t ← peek
    if t.kind == .flowMappingEnd then do
      drop
      pure []
    else do
      if !first then
        if t.kind == .flowEntry then drop
        else fail (.expectedInFlow "',' or '\x7d'" t.kind.name) t.mark
      let t ← peek
      match t.kind with
      | .flowMappingEnd => do
        drop
        pure []
      | .key => do
        drop
        let key ← flowKey fuel .flowMappingEnd t
        let v ← flowValue fuel .flowMappingEnd
        pure ((key, v) :: (← flowEntries fuel false))
      | _ => do
        let key ← node fuel false false
        pure ((key, empty (← peek).mark) :: (← flowEntries fuel false))

end

/-! ## Documents -/

/-- The tag handles that every document has. -/
def defaultHandles : List (String × String) := [("!", "!"), ("!!", "tag:yaml.org,2002:")]

/-- The directives before a document. -/
def directives (fuel : Nat) (versioned : Bool) (handles : List (String × String)) :
    Parse (List (String × String)) :=
  match fuel with
  | 0 => pure handles
  | fuel + 1 => do
    let t ← peek
    match t.kind with
    | .directive d => do
      drop
      match d with
      | .version major =>
        if versioned then fail .duplicateVersion t.mark
        else if major != 1 then fail .incompatibleVersion t.mark
        else directives fuel true handles
      | .tagHandle handle value =>
        if (handles.lookup handle).isSome then fail (.duplicateHandle handle) t.mark
        else directives fuel versioned ((handle, value) :: handles)
      | .other => directives fuel versioned handles
    | _ => pure handles

/-- The marks that end documents. -/
def skipEnds (fuel : Nat) : Parse Unit :=
  match fuel with
  | 0 => pure ()
  | fuel + 1 => do
    if (← peek).kind == .documentEnd then
      drop
      skipEnds fuel

/-- The start of a document with its directives, or nothing at the end of the text. -/
def documentStart (fuel : Nat) : Parse (Option Mark) := do
  skipEnds fuel
  let t ← peek
  if t.kind == .streamEnd then pure none
  else
    let handles ← directives fuel false []
    let s ← peek
    if s.kind != .documentStart then unexpected "'<document start>'" s
    else
      drop
      modify fun s => { s with handles := handles ++ defaultHandles }
      pure (some t.mark)

/-- The content of a document after its start mark. -/
def content (fuel : Nat) : Parse Node := do
  let t ← peek
  match t.kind with
  | .directive _ => pure (empty t.mark)
  | .documentStart => pure (empty t.mark)
  | .documentEnd => pure (empty t.mark)
  | .streamEnd => pure (empty t.mark)
  | _ => node fuel true false

/-- The end of a document. -/
def documentEnd : Parse Unit := do
  if (← peek).kind == .documentEnd then drop

/-- The document that comes first, if there is one. -/
def firstDocument (fuel : Nat) : Parse (Option Node) := do
  let t ← peek
  let explicit := match t.kind with
    | .directive _ => true
    | .documentStart => true
    | .streamEnd => true
    | _ => false
  if explicit then
    match ← documentStart fuel with
    | none => pure none
    | some _ => do
      let n ← content fuel
      documentEnd
      pure (some n)
  else
    modify fun s => { s with handles := defaultHandles }
    let n ← node fuel true false
    documentEnd
    pure (some n)

/-- The only document, if there is one. -/
def single (fuel : Nat) : Parse (Option Node) := do
  match ← firstDocument fuel with
  | none => pure none
  | some n =>
    match ← documentStart fuel with
    | none => pure (some n)
    | some m => fail .anotherDocument m

end Parse

/-- The only document of a text, if there is one. -/
def Node.read (s : List Char) : Except Failure (Option Node) :=
  if !s.all isAllowed then .error .unprintable
  else
    let tokens := tokenize s
    ((Parse.single (4 * tokens.list.length + 8)).run ⟨tokens.list, tokens.failure, [], []⟩).map (·.1)

end LayoutTree.Yaml
