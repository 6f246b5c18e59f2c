import LayoutTree.Number.Read
import LayoutTree.Yaml.Problem

/-!
# Scalars, anchors, tags and directives

The parts of a YAML text that hold a text of their own. Each function starts at a cursor, gives the
text with the cursor after it, and fails at the place of the first character that does not fit.
Loops over lines take fuel; the length of the text is always enough.
-/

namespace LayoutTree.Yaml

/-! ## Quoted scalars -/

/-- The character of an escape that stands for a single character. -/
def escapedChar? (c : Char) : Option Char :=
  match c with
  | '0' => some '\x00'
  | 'a' => some '\x07'
  | 'b' => some '\x08'
  | 't' => some '\t'
  | '\t' => some '\t'
  | 'n' => some '\n'
  | 'v' => some '\x0b'
  | 'f' => some '\x0c'
  | 'r' => some '\r'
  | 'e' => some '\x1b'
  | ' ' => some ' '
  | '"' => some '"'
  | '\\' => some '\\'
  | '/' => some '/'
  | 'N' => some '\u0085'
  | '_' => some '\u00a0'
  | 'L' => some '\u2028'
  | 'P' => some '\u2029'
  | _ => none

/-- How many hexadecimal digits follow the letter of an escape. -/
def escapeDigits? (c : Char) : Option Nat :=
  match c with
  | 'x' => some 2
  | 'u' => some 4
  | 'U' => some 8
  | _ => none

/-- The value of a hexadecimal digit. -/
def hexDigit? (c : Char) : Option Nat :=
  if '0' ≤ c && c ≤ '9' then some (c.toNat - 48)
  else if 'a' ≤ c && c ≤ 'f' then some (c.toNat - 87)
  else if 'A' ≤ c && c ≤ 'F' then some (c.toNat - 55)
  else none

/-- The first of the next characters that is no hexadecimal digit. The end of the text counts. -/
def firstNonHex? (c : Cursor) (n : Nat) : Option (Option Char) :=
  ((List.range n).map c.peekAt).find? fun d => (d.bind hexDigit?).isNone

/-- The number that the next characters stand for in base sixteen. -/
def hexNumber (c : Cursor) (n : Nat) : Nat :=
  (c.rest.take n).foldl (fun m d => 16 * m + (hexDigit? d).getD 0) 0

/-- The line breaks after a first one inside a quoted scalar, blanks around them left out. -/
def quotedBreaks (fuel : Nat) (c : Cursor) : Except Failure (List Char × Cursor) :=
  match fuel with
  | 0 => .ok ([], c)
  | fuel + 1 =>
    if c.atDocumentMark then c.fail .unexpectedSeparator
    else
      let c := c.skip fun a => a == ' ' || a == '\t'
      match c.lineBreak with
      | none => .ok ([], c)
      | some (b, c) => do
        let (bs, c) ← quotedBreaks fuel c
        .ok (b :: bs, c)

/-- What line breaks inside a scalar stand for: a single line feed for a space, more for all but the
first. -/
def foldBreaks (first : Char) (more : List Char) : List Char :=
  if first != '\n' then first :: more else if more.isEmpty then [' '] else more

/-- The blanks and line breaks inside a quoted scalar. -/
def quotedBlanks (c : Cursor) : Except Failure (List Char × Cursor) :=
  let blanks := c.span fun a => a == ' ' || a == '\t'
  let c := c.forward blanks.length
  match c.peek with
  | none => c.fail .unexpectedEnd
  | some _ =>
    match c.lineBreak with
    | none => .ok (blanks, c)
    | some (b, c) => do
      let (more, c) ← quotedBreaks (c.rest.length + 1) c
      .ok (foldBreaks b more, c)

/-- The character that an escape after a backslash stands for; an escaped line break stands for the
breaks after it. -/
def escape (c : Cursor) : Except Failure (List Char × Cursor) :=
  match c.peek with
  | none => c.fail (.unknownEscape none)
  | some a =>
    match escapedChar? a with
    | some e => .ok ([e], c.next)
    | none =>
      match escapeDigits? a with
      | some n =>
        let c := c.next
        match firstNonHex? c n with
        | some found =>
          c.fail (.expected ("escape sequence of " ++ toString n ++ " hexadecimal numbers") found)
        | none =>
          let code := hexNumber c n
          if 0x10FFFF < code then .error (.invalidCode code)
          else .ok ([if code.isValidChar then Char.ofNat code else '\uFFFD'], c.forward n)
      | none =>
        if isLineEnd a then quotedBreaks (c.rest.length + 1) c.skipBreak
        else c.fail (.unknownEscape (some a))

/-- A quoted scalar from the place after its opening quote on. -/
def quotedText (fuel : Nat) (double : Bool) (c : Cursor) : Except Failure (List Char × Cursor) :=
  match fuel with
  | 0 => .ok ([], c)
  | fuel + 1 => do
    let quote := if double then '"' else '\''
    match c.rest with
    | [] => c.fail .unexpectedEnd
    | a :: r =>
      if a == quote then
        if !double && r.head? == some '\'' then
          let (s, c) ← quotedText fuel double (c.forward 2)
          .ok ('\'' :: s, c)
        else .ok ([], c.next)
      else if double && a == '\\' then
        let (e, c) ← escape c.next
        let (s, c) ← quotedText fuel double c
        .ok (e ++ s, c)
      else if atBlankOrEnd (some a) then
        let (b, c) ← quotedBlanks c
        let (s, c) ← quotedText fuel double c
        .ok (b ++ s, c)
      else
        let (s, c) ← quotedText fuel double c.next
        .ok (a :: s, c)

/-- A quoted scalar. -/
def quotedScalar (c : Cursor) : Except Failure (List Char × Cursor) :=
  quotedText (c.rest.length + 1) (c.peek == some '"') c.next

/-! ## Plain scalars -/

/-- Whether a plain scalar ends before this text. -/
def plainEnds (inFlow : Bool) (s : List Char) : Bool :=
  match s with
  | [] => true
  | a :: r =>
    atBlankOrEnd (some a) ||
      (a == ':' && (atBlankOrEnd r.head? || (inFlow && r.head?.any fun b => ",[]\x7b\x7d".toList.contains b))) ||
      (inFlow && ",?[]\x7b\x7d".toList.contains a)

/-- The characters of a plain scalar up to a blank or its end. -/
def plainRun (inFlow : Bool) : List Char → List Char
  | [] => []
  | a :: r => if plainEnds inFlow (a :: r) then [] else a :: plainRun inFlow r

/-- Blanks inside a plain scalar. -/
structure PlainGap where
  /-- What they stand for; nothing where the scalar ends. -/
  text : List Char
  /-- The place after them. -/
  cursor : Cursor
  /-- Whether they hold a line break. -/
  broken : Bool

/-- The line breaks after a first one inside a plain scalar, unless a document ends there. -/
def plainBreaks (fuel : Nat) (c : Cursor) : Option (List Char) × Cursor :=
  match fuel with
  | 0 => (some [], c)
  | fuel + 1 =>
    match c.rest with
    | ' ' :: _ => plainBreaks fuel c.next
    | _ =>
      match c.lineBreak with
      | none => (some [], c)
      | some (b, c) =>
        if c.atDocumentMark then (none, c)
        else
          let (bs, c) := plainBreaks fuel c
          (bs.map (b :: ·), c)

/-- The blanks at a place inside a plain scalar. -/
def plainGap (c : Cursor) : PlainGap :=
  let spaces := c.span (· == ' ')
  let c := c.forward spaces.length
  match c.lineBreak with
  | none => ⟨spaces, c, false⟩
  | some (b, c) =>
    if c.atDocumentMark then ⟨[], c, true⟩
    else
      match plainBreaks (c.rest.length + 1) c with
      | (none, c) => ⟨[], c, true⟩
      | (some bs, c) => ⟨foldBreaks b bs, c, true⟩

/-- What reading a plain scalar yields. -/
structure PlainScalar where
  text : List Char
  cursor : Cursor
  /-- Whether the reading went over a line end last. -/
  broken : Bool

/-- A plain scalar after the blanks `gap`, which end it if nothing follows them. -/
def plainFrom (fuel : Nat) (inFlow : Bool) (indent : Nat) (gap : List Char) (c : Cursor)
    (broken : Bool) : PlainScalar :=
  match fuel with
  | 0 => ⟨[], c, broken⟩
  | fuel + 1 =>
    if c.peek == some '#' then ⟨[], c, broken⟩
    else
      let run := plainRun inFlow c.rest
      if run.isEmpty then ⟨[], c, broken⟩
      else
        let g := plainGap (c.forward run.length)
        if g.text.isEmpty || g.cursor.peek == some '#' || (!inFlow && g.cursor.mark.column < indent)
        then ⟨gap ++ run, g.cursor, g.broken⟩
        else
          let s := plainFrom fuel inFlow indent g.text g.cursor g.broken
          ⟨gap ++ run ++ s.text, s.cursor, s.broken⟩

/-- A plain scalar, given the indentation of its further lines. -/
def plainScalar (inFlow : Bool) (indent : Nat) (c : Cursor) : PlainScalar :=
  plainFrom (c.rest.length + 1) inFlow indent [] c false

/-! ## Block scalars -/

/-- What happens to the line breaks at the end of a block scalar. -/
inductive Chomping
  /-- One is kept. -/
  | clip
  /-- None is kept. -/
  | strip
  /-- All are kept. -/
  | keep
  deriving DecidableEq

/-- The chomping that a sign stands for. -/
def chomping? : Option Char → Option Chomping
  | some '+' => some .keep
  | some '-' => some .strip
  | _ => none

/-- A digit at a place. -/
def digit? (c : Cursor) : Option Nat :=
  c.peek.bind fun a => if '0' ≤ a && a ≤ '9' then some (a.toNat - 48) else none

/-- The digit of a block scalar that gives its indentation. -/
def blockDigit (c : Cursor) : Except Failure (Option Nat × Cursor) :=
  match digit? c with
  | none => .ok (none, c)
  | some 0 => c.fail .zeroIndentation
  | some n => .ok (some n, c.next)

/-- The signs after the indicator of a block scalar: chomping and indentation. -/
def blockHeader (c : Cursor) : Except Failure ((Chomping × Option Nat) × Cursor) := do
  let (header, c) ←
    match chomping? c.peek with
    | some chomping => do
      let (n, c) ← blockDigit c.next
      pure ((chomping, n), c)
    | none => do
      let (n, c) ← blockDigit c
      match n, chomping? c.peek with
      | some n, some chomping => pure ((chomping, some n), c.next)
      | _, _ => pure ((.clip, n), c)
  if atSpaceOrEnd c.peek then .ok (header, c)
  else c.fail (.expected "chomping or indentation indicators" c.peek)

/-- The rest of a line that may hold a comment only. -/
def ignoredLine (c : Cursor) : Except Failure Cursor :=
  let c := c.skipSpaces
  let c := if c.peek == some '#' then c.skipLine else c
  if atBreakOrEnd c.peek then .ok c.skipBreak
  else c.fail (.expected "a comment or a line break" c.peek)

/-- The blank lines before a block scalar, and the widest indentation among them. -/
def leadingBreaks (fuel : Nat) (widest : Nat) (c : Cursor) : List Char × Nat × Cursor :=
  match fuel with
  | 0 => ([], widest, c)
  | fuel + 1 =>
    match c.rest with
    | ' ' :: _ => leadingBreaks fuel (max widest c.next.mark.column) c.next
    | _ =>
      match c.lineBreak with
      | none => ([], widest, c)
      | some (b, c) =>
        let (bs, widest, c) := leadingBreaks fuel widest c
        (b :: bs, widest, c)

/-- The place after the spaces up to an indentation. -/
def indentTo (indent : Nat) (c : Cursor) : Cursor :=
  c.forward (min (c.span (· == ' ')).length (indent - c.mark.column))

/-- The blank lines between the lines of a block scalar. -/
def blockBreaks (fuel : Nat) (indent : Nat) (c : Cursor) : List Char × Cursor :=
  match fuel with
  | 0 => ([], c)
  | fuel + 1 =>
    let c := indentTo indent c
    match c.lineBreak with
    | none => ([], c)
    | some (b, c) =>
      let (bs, c) := blockBreaks fuel indent c
      (b :: bs, c)

/-- Whether a line goes on at a place: neither a blank nor the end of the text stands there. -/
def isBlankChar (c : Option Char) : Bool :=
  c == some ' ' || c == some '\t'

/-- The lines of a block scalar after the blank lines `breaks`: its text without the breaks at its
end, the last line break, and the blank lines after it. -/
def blockLines (fuel : Nat) (folded : Bool) (indent : Nat) (breaks : List Char) (c : Cursor) :
    List Char × List Char × List Char × Cursor :=
  match fuel with
  | 0 => ([], [], breaks, c)
  | fuel + 1 =>
    if c.mark.column != indent || c.peek.isNone then ([], [], breaks, c)
    else
      let opensPlain := !isBlankChar c.peek
      let line := c.span (!isLineEnd ·)
      let c := c.forward line.length
      let (lineEnd, c) := match c.lineBreak with
        | some (b, c) => ([b], c)
        | none => ([], c)
      let (more, c) := blockBreaks (c.rest.length + 1) indent c
      if c.mark.column == indent && c.peek.isSome then
        let joint :=
          if folded && lineEnd == ['\n'] && opensPlain && !isBlankChar c.peek then
            if more.isEmpty then [' '] else []
          else lineEnd
        let (s, lastEnd, after, c) := blockLines fuel folded indent more c
        (breaks ++ line ++ joint ++ s, lastEnd, after, c)
      else (breaks ++ line, lineEnd, more, c)

/-- A block scalar, given the least indentation of its lines. -/
def blockScalar (minIndent : Nat) (c : Cursor) : Except Failure (List Char × Cursor) := do
  let folded := c.peek == some '>'
  let ((chomping, increment), c) ← blockHeader c.next
  let c ← ignoredLine c
  let (indent, breaks, c) :=
    match increment with
    | none =>
      let (breaks, widest, c) := leadingBreaks (c.rest.length + 1) 0 c
      (max minIndent widest, breaks, c)
    | some n =>
      let indent := minIndent + n - 1
      let (breaks, c) := blockBreaks (c.rest.length + 1) indent c
      (indent, breaks, c)
  let (s, lastEnd, after, c) := blockLines (c.rest.length + 1) folded indent breaks c
  .ok (s ++ (if chomping == .strip then [] else lastEnd) ++
    (if chomping == .keep then after else []), c)

/-! ## Anchors, tags and directives -/

/-- The name of an anchor or alias, after its indicator. -/
def anchorName (c : Cursor) : Except Failure (String × Cursor) :=
  let c := c.next
  let name := c.span isWordChar
  if name.isEmpty then c.fail (.expected "alphabetic or numeric character" c.peek)
  else
    let c := c.forward name.length
    if atBlankOrEnd c.peek || c.peek.any fun a => "?:,]\x7d%@\x60".toList.contains a then
      .ok (String.ofList name, c)
    else c.fail (.expected "alphabetic or numeric character" c.peek)

/-- A number in base sixteen with two digits at least. -/
def hexByte (n : Nat) : String :=
  String.ofList ('0' :: 'x' :: Text.hexPadded 2 n)

/-- How many continuation bytes follow a byte, and the bounds of the first one. -/
def continuation? (b : Nat) : Option (Nat × Nat × Nat) :=
  if b < 0x80 then some (0, 0, 0)
  else if 0xC2 ≤ b && b ≤ 0xDF then some (1, 0x80, 0xBF)
  else if b == 0xE0 then some (2, 0xA0, 0xBF)
  else if b == 0xED then some (2, 0x80, 0x9F)
  else if 0xE1 ≤ b && b ≤ 0xEF then some (2, 0x80, 0xBF)
  else if b == 0xF0 then some (3, 0x90, 0xBF)
  else if b == 0xF4 then some (3, 0x80, 0x8F)
  else if 0xF1 ≤ b && b ≤ 0xF3 then some (3, 0x80, 0xBF)
  else none

/-- The message about bytes that are not UTF-8. -/
def decodeMessage (first count : Nat) (byte : Nat) (reason : String) : String :=
  "'utf-8' codec can't decode " ++
    (if count == 1 then "byte " ++ hexByte byte ++ " in position " ++ toString first
      else "bytes in position " ++ toString first ++ "-" ++ toString (first + count - 1)) ++
    ": " ++ reason

/-- How many of the bytes continue a character, the first of them between bounds. -/
def continuationLength (lower upper n : Nat) : List Nat → Nat
  | [] => 0
  | b :: r =>
    if n == 0 then 0
    else if lower ≤ b && b ≤ upper then 1 + continuationLength 0x80 0xBF (n - 1) r
    else 0

/-- The first fault of bytes as UTF-8, from a position on. -/
def decodeFault? (fuel : Nat) (position : Nat) : List Nat → Option String
  | [] => none
  | b :: r =>
    match fuel with
    | 0 => none
    | fuel + 1 =>
      match continuation? b with
      | none => some (decodeMessage position 1 b "invalid start byte")
      | some (n, lower, upper) =>
        let k := continuationLength lower upper n r
        if k == n then decodeFault? fuel (position + n + 1) (r.drop n)
        else if r.length == k then
          some (decodeMessage position (k + 1) b "unexpected end of data")
        else some (decodeMessage position (k + 1) b "invalid continuation byte")

/-- The bytes of the escapes in a tag. -/
def tagBytes (fuel : Nat) (kind : String) (c : Cursor) : Except Failure (List Nat × Cursor) :=
  match fuel with
  | 0 => .ok ([], c)
  | fuel + 1 =>
    if c.peek != some '%' then .ok ([], c)
    else do
      let c := c.next
      match firstNonHex? c 2 with
      | some found =>
        c.fail (.expected "URI escape sequence of 2 hexadecimal numbers" found)
      | none =>
        let b := hexNumber c 2
        let (bs, c) ← tagBytes fuel kind (c.forward 2)
        .ok (b :: bs, c)

/-- A character of a tag. -/
def isTagChar (c : Char) : Bool :=
  c.isAlphanum || "-;/?:@&=+$,_.!~*'()[]%".toList.contains c

/-- The characters of a tag. -/
def tagText (fuel : Nat) (kind : String) (c : Cursor) : Except Failure (List Char × Cursor) :=
  match fuel with
  | 0 => .ok ([], c)
  | fuel + 1 =>
    match c.peek with
    | none => .ok ([], c)
    | some a =>
      if a == '%' then do
        let (bs, after) ← tagBytes (c.rest.length + 1) kind c
        match decodeFault? (bs.length + 1) 0 bs with
        | some message => c.fail (.invalidEscape message)
        | none =>
          let bytes := ByteArray.mk (bs.map fun b => UInt8.ofNat b).toArray
          let (s, c) ← tagText fuel kind after
          .ok (((String.fromUTF8? bytes).getD "").toList ++ s, c)
      else if isTagChar a then do
        let (s, c) ← tagText fuel kind c.next
        .ok (a :: s, c)
      else .ok ([], c)

/-- The part of a tag after its handle. -/
def tagSuffix (kind : String) (c : Cursor) : Except Failure (String × Cursor) := do
  let (s, after) ← tagText (c.rest.length + 1) kind c
  if after.mark.offset == c.mark.offset then c.fail (.expected "URI" c.peek)
  else .ok (String.ofList s, after)

/-- The handle of a tag. -/
def tagHandle (c : Cursor) : Except Failure (String × Cursor) :=
  if c.peek != some '!' then c.fail (.expected "'!'" c.peek)
  else
    let name := c.next.span isWordChar
    let after := c.next.forward name.length
    if c.next.peek == some ' ' then .ok ("!", c.next)
    else if after.peek == some '!' then
      .ok (String.ofList ('!' :: name ++ ['!']), after.next)
    else after.fail (.expected "'!'" after.peek)

/-- A tag: its handle, if it has one, and the rest of it. -/
structure Tag where
  handle : Option String
  suffix : String
  deriving DecidableEq, Repr

/-- A tag at its indicator. -/
def tag (c : Cursor) : Except Failure (Tag × Cursor) := do
  let (t, c) ←
    match c.peekAt 1 with
    | some '<' => do
      let (suffix, c) ← tagSuffix "tag" (c.forward 2)
      if c.peek != some '>' then c.fail (.expected "'>'" c.peek)
      else pure (⟨none, suffix⟩, c.next)
    | next =>
      if atBlankOrEnd next then pure (⟨none, "!"⟩, c.next)
      else
        let word := c.next.span fun a => !(a == ' ' || isLineEnd a)
        if word.contains '!' then do
          let (handle, c) ← tagHandle c
          let (suffix, c) ← tagSuffix "tag" c
          pure (⟨some handle, suffix⟩, c)
        else do
          let (suffix, c) ← tagSuffix "tag" c.next
          pure (⟨some "!", suffix⟩, c)
  if atSpaceOrEnd c.peek then .ok (t, c) else c.fail (.expected "' '" c.peek)

/-- A directive. -/
inductive Directive
  /-- The version of the format. -/
  | version (major : Nat)
  /-- A tag handle and what it stands for. -/
  | tagHandle (handle value : String)
  /-- Any other one. -/
  | other
  deriving DecidableEq, Repr

/-- A number of a version. -/
def versionNumber (c : Cursor) : Except Failure (Nat × Cursor) :=
  let ds := c.span Char.isDigit
  if ds.isEmpty then c.fail (.expected "a digit" c.peek)
  else if Number.maxIntegerDigits < ds.length then .error (.longNumber ds.length)
  else .ok (ds.foldl (fun n d => 10 * n + (d.toNat - 48)) 0, c.forward ds.length)

/-- A directive at its indicator, up to the end of its line. -/
def directive (c : Cursor) : Except Failure (Directive × Cursor) := do
  let c := c.next
  let name := c.span isWordChar
  if name.isEmpty then c.fail (.expected "alphabetic or numeric character" c.peek)
  else
    let c := c.forward name.length
    if !atSpaceOrEnd c.peek then c.fail (.expected "alphabetic or numeric character" c.peek)
    else
      let (d, c) ←
        if name == "YAML".toList then do
          let (major, c) ← versionNumber c.skipSpaces
          if c.peek != some '.' then c.fail (.expected "a digit or '.'" c.peek)
          else
            let (_, c) ← versionNumber c.next
            if atSpaceOrEnd c.peek then pure (Directive.version major, c)
            else c.fail (.expected "a digit or ' '" c.peek)
        else if name == "TAG".toList then do
          let (handle, c) ← tagHandle c.skipSpaces
          if c.peek != some ' ' then c.fail (.expected "' '" c.peek)
          else
            let (value, c) ← tagSuffix "directive" c.skipSpaces
            if atSpaceOrEnd c.peek then pure (Directive.tagHandle handle value, c)
            else c.fail (.expected "' '" c.peek)
        else pure (Directive.other, c.skipLine)
      let c ← ignoredLine c
      .ok (d, c)

end LayoutTree.Yaml
