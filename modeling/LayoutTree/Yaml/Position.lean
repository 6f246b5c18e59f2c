import LayoutTree.Text.Quoted

/-!
# Positions in a YAML text

A `Cursor` walks over a text and counts lines and columns; a `Mark` is a position that it has
passed.
`Mark.snippet` shows the line around a mark with a caret below it. Past the end of the text the
cursor sees nothing, and the end counts as blank and as the end of a line.
-/

namespace LayoutTree.Yaml

open LayoutTree.Text

/-- A position in a text; lines and columns count from zero. -/
structure Mark where
  offset : Nat
  line : Nat
  column : Nat
  deriving DecidableEq, Repr, Inhabited

/-- A place in a text. -/
structure Cursor where
  /-- The text from here on. -/
  rest : List Char
  /-- The position. -/
  mark : Mark

/-! ## Classes of characters, the end of the text among them -/

/-- A character that ends a line, or a carriage return. -/
def isLineEnd (c : Char) : Bool :=
  c == '\n' || c == '\r' || c.toNat == 0x85 || c.toNat == 0x2028 || c.toNat == 0x2029

/-- A line end. -/
def atBreak : Option Char → Bool
  | some c => isLineEnd c
  | none => false

/-- A line end or the end of the text. -/
def atBreakOrEnd : Option Char → Bool
  | some c => isLineEnd c
  | none => true

/-- A space, a line end or the end of the text. -/
def atSpaceOrEnd : Option Char → Bool
  | some c => c == ' ' || isLineEnd c
  | none => true

/-- A blank, a line end or the end of the text. -/
def atBlankOrEnd : Option Char → Bool
  | some c => c == ' ' || c == '\t' || isLineEnd c
  | none => true

/-- A character of an identifier. -/
def isWordChar (c : Char) : Bool :=
  c.isAlphanum || c == '-' || c == '_'

namespace Mark

/-- The position after one more character. -/
def after (m : Mark) (c : Char) (next : Option Char) : Mark :=
  if isLineEnd c && !(c == '\r' && next == some '\n') then ⟨m.offset + 1, m.line + 1, 0⟩
  else ⟨m.offset + 1, m.line, if c.toNat == 0xFEFF then m.column else m.column + 1⟩

/-- How many characters a snippet shows on each side of its mark. -/
def snippetReach : Nat := 36

/-- A side of a snippet: the characters nearest to the mark, and whether more are left out. -/
def side (line : List Char) : List Char × Bool :=
  if line.length ≤ snippetReach then (line, false) else (line.take (snippetReach + 1 - 5), true)

/-- The line around a mark, shortened where it is long, and a caret below the mark. -/
def snippet (m : Mark) (s : List Char) : String :=
  let (before, cutBefore) := side ((s.take m.offset).reverse.takeWhile (!isLineEnd ·))
  let (after, cutAfter) := side ((s.drop m.offset).takeWhile (!isLineEnd ·))
  let ellipsis := " ... ".toList
  let head := (if cutBefore then ellipsis else []) ++ before.reverse
  String.ofList
    (head ++ after ++ (if cutAfter then ellipsis else []) ++ '\n' :: List.replicate head.length ' ' ++
      ['^'])

end Mark

namespace Cursor

/-- The start of a text. -/
def start (s : List Char) : Cursor := ⟨s, ⟨0, 0, 0⟩⟩

/-- The next character. -/
def peek (c : Cursor) : Option Char := c.rest.head?

/-- The character after a number of others. -/
def peekAt (c : Cursor) (n : Nat) : Option Char := c.rest[n]?

/-- The place after one more character. -/
def next (c : Cursor) : Cursor :=
  match c.rest with
  | [] => c
  | a :: r => ⟨r, c.mark.after a r.head?⟩

/-- The place after a number of characters. -/
def forward (c : Cursor) : Nat → Cursor
  | 0 => c
  | n + 1 => c.next.forward n

/-- The characters of a class from here on. -/
def span (c : Cursor) (p : Char → Bool) : List Char :=
  c.rest.takeWhile p

/-- The place after the characters of a class. -/
def skip (c : Cursor) (p : Char → Bool) : Cursor :=
  c.forward (c.span p).length

/-- The place after the spaces. -/
def skipSpaces (c : Cursor) : Cursor := c.skip (· == ' ')

/-- The place after the rest of the line. -/
def skipLine (c : Cursor) : Cursor := c.skip (!isLineEnd ·)

/-- The line end at this place, brought to a single character, and the place after it. -/
def lineBreak (c : Cursor) : Option (Char × Cursor) :=
  match c.rest with
  | '\r' :: '\n' :: _ => some ('\n', c.forward 2)
  | a :: _ =>
    if a.toNat == 0x2028 || a.toNat == 0x2029 then some (a, c.next)
    else if isLineEnd a then some ('\n', c.next)
    else none
  | [] => none

/-- The place after the line end at this place, if there is one. -/
def skipBreak (c : Cursor) : Cursor :=
  match c.lineBreak with
  | some (_, c) => c
  | none => c

/-- Whether a mark that starts or ends a document stands here. -/
def atDocumentMark (c : Cursor) : Bool :=
  ("---".toList.isPrefixOf c.rest || "...".toList.isPrefixOf c.rest) && atBlankOrEnd (c.peekAt 3)

end Cursor

end LayoutTree.Yaml
