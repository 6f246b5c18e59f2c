import LayoutTree.Data
import LayoutTree.Number.Style
import LayoutTree.Text.Quoted
import LayoutTree.Yaml.Implicit

/-!
# Writing YAML

The block form of structured data. Containers are written over several lines, one entry a line;
texts stand plain where that reads back as the same text, and between quotes elsewhere. Long texts
are folded at spaces after column eighty.

* `choose`: the style of a scalar, decided by what it holds (`Shape`).
* `render`: the whole document.
-/

namespace LayoutTree.Yaml

open LayoutTree.Number LayoutTree.Text

/-! ## What a text holds -/

/-- A character that ends a line in a scalar. -/
def isBreak (c : Char) : Bool :=
  c == '\n' || c.toNat == 0x85 || c.toNat == 0x2028 || c.toNat == 0x2029

/-- A character that separates tokens. -/
def isSeparator (c : Char) : Bool :=
  c == '\x00' || c == ' ' || c == '\t' || c == '\r' || isBreak c

/-- A character that may stand outside double quotes. -/
def isOrdinary (c : Char) : Bool :=
  let n := c.toNat
  c == '\n' || (0x20 ≤ n && n ≤ 0x7E) ||
    ((n == 0x85 || (0xA0 ≤ n && n ≤ 0xD7FF) || (0xE000 ≤ n && n ≤ 0xFFFD) ||
      (0x10000 ≤ n && n < 0x10FFFF)) && n != 0xFEFF)

/-- What decides the style of a scalar. -/
structure Shape where
  /-- The text is empty. -/
  empty : Bool
  /-- The text holds line breaks. -/
  multiline : Bool
  /-- The text may stand without quotes. -/
  plain : Bool
  /-- The text may stand between single quotes. -/
  single : Bool
  deriving DecidableEq, Repr

/-- Whether a text starts with an indicator, given whether a separator follows its first
character. -/
def opensWithIndicator (c : Char) (spaceAfter : Bool) : Bool :=
  "#,[]\x7b\x7d&*!|>'\"%@\x60".toList.contains c || ("?:-".toList.contains c && spaceAfter)

/-- Whether an indicator stands inside a text: a colon before a separator, or a number sign after
one. -/
def holdsIndicator : List Char → Bool
  | [] => false
  | [_] => false
  | a :: b :: r =>
    (b == ':' && (match r with | [] => true | c :: _ => isSeparator c)) ||
      (b == '#' && isSeparator a) || holdsIndicator (b :: r)

/-- Whether a text holds indicators that make a plain scalar end or change its meaning. -/
def hasIndicators (s : List Char) : Bool :=
  "---".toList.isPrefixOf s || "...".toList.isPrefixOf s ||
    (match s with
      | [] => false
      | [c] => opensWithIndicator c true
      | c :: d :: _ => opensWithIndicator c (isSeparator d)) || holdsIndicator s

/-- Whether somewhere a character of the first class stands directly before one of the second. -/
def hasPair (first second : Char → Bool) : List Char → Bool
  | a :: b :: r => (first a && second b) || hasPair first second (b :: r)
  | _ => false

/-- Whether a text begins or ends with a space or a line break. -/
def hasOuterBlank (s : List Char) : Bool :=
  let outer := fun c : Char => c == ' ' || isBreak c
  s.head?.any outer || s.getLast?.any outer

/-- What a text holds. -/
def shape (s : List Char) : Shape :=
  let multiline := s.any isBreak
  let special := hasPair (· == ' ') isBreak s || !s.all isOrdinary
  let breakSpace := hasPair isBreak (· == ' ') s
  { empty := s.isEmpty
    multiline
    plain := s.isEmpty || !(hasOuterBlank s || breakSpace || special || multiline || hasIndicators s)
    single := s.isEmpty || !(breakSpace || special) }

/-- How a scalar is written. -/
inductive ScalarStyle
  /-- As it is. -/
  | plain
  /-- Between single quotes. -/
  | single
  /-- Between double quotes, with escapes. -/
  | double
  deriving DecidableEq, Repr

/-- The style of a scalar: `readsBack` tells whether it keeps its type without quotes, `key` whether
it stands before a colon on the same line. -/
def choose (readsBack key : Bool) (h : Shape) : ScalarStyle :=
  if readsBack && h.plain && !(key && (h.empty || h.multiline)) then .plain
  else if h.single && !(key && h.multiline) then .single
  else .double

/-! ## The pen -/

/-- What has been written so far, and where the writing stands. -/
structure Pen where
  /-- The text, latest character first. -/
  written : List Char
  /-- How many characters stand on the line. -/
  column : Nat
  /-- The last thing written separates tokens. -/
  spaced : Bool
  /-- Nothing but indicators stands on the line. -/
  atIndent : Bool

/-- Nothing written. -/
def Pen.start : Pen := ⟨[], 0, true, true⟩

/-- The line width beyond which texts are folded. -/
def foldWidth : Nat := 80

namespace Pen

/-- Characters written as they are. -/
def put (p : Pen) (cs : List Char) : Pen :=
  { p with written := cs.reverse ++ p.written, column := p.column + cs.length }

/-- A line ended by a given break. -/
def endLine (p : Pen) (br : Char) : Pen :=
  ⟨br :: p.written, 0, true, true⟩

/-- A new line, unless the pen is at the start of one already, filled up to an indentation. -/
def indent (p : Pen) (n : Nat) : Pen :=
  let p := if !p.atIndent || n < p.column || (p.column == n && !p.spaced) then p.endLine '\n' else p
  if p.column < n then { p.put (List.replicate (n - p.column) ' ') with spaced := true } else p

/-- An indicator, after a space where one is wanted and missing. -/
def indicator (p : Pen) (mark : Char) (wantsSpace spaced indents : Bool) : Pen :=
  let q := p.put (if p.spaced || !wantsSpace then [mark] else [' ', mark])
  { q with spaced, atIndent := p.atIndent && indents }

/-- The pen after text that is neither space nor indentation. -/
def inText (p : Pen) : Pen :=
  { p with spaced := false, atIndent := false }

/-- A run of spaces, or a new line in its place where the text is folded. -/
def gap (p : Pen) (width : Nat) (foldTo : Option Nat) : Pen :=
  match foldTo with
  | some n => if width == 1 && foldWidth < p.column then p.indent n else p.put (List.replicate width ' ')
  | none => p.put (List.replicate width ' ')

/-- Line breaks inside a quoted text: the first one is doubled when it is a line feed. -/
def breaks (p : Pen) (brs : List Char) (n : Nat) : Pen :=
  let p := if brs.head? == some '\n' then p.endLine '\n' else p
  (brs.foldl endLine p).indent n

end Pen

/-! ## Scalars -/

/-- A plain text after the spaces already counted. The indentation is given where the text may be
folded. -/
def writePlainFrom (p : Pen) (foldTo : Option Nat) (spaces : Nat) : List Char → Pen
  | [] => if spaces == 0 then p else p.put (List.replicate spaces ' ')
  | c :: r =>
    if c == ' ' then writePlainFrom p foldTo (spaces + 1) r
    else
      let p := if spaces == 0 then p else (p.gap spaces foldTo).inText
      writePlainFrom (p.put [c]) foldTo 0 r

/-- A plain text. -/
def writePlain (p : Pen) (foldTo : Option Nat) (s : List Char) : Pen :=
  if s.isEmpty then p
  else writePlainFrom ((if p.spaced then p else p.put [' ']).inText) foldTo 0 s

/-- A text between single quotes, after the spaces and line breaks already counted. `opening` tells
that nothing but the counted spaces has been written. -/
def writeSingleFrom (p : Pen) (n : Nat) (folds opening : Bool) (spaces : Nat) (brs : List Char) :
    List Char → Pen
  | [] =>
    let p := if spaces == 0 then p else p.put (List.replicate spaces ' ')
    if brs.isEmpty then p else p.breaks brs n
  | c :: r =>
    if c == ' ' then
      let p := if brs.isEmpty then p else p.breaks brs n
      writeSingleFrom p n folds (opening && brs.isEmpty) (spaces + 1) [] r
    else
      let p := if spaces == 0 then p else p.gap spaces (if folds && !opening then some n else none)
      if isBreak c then writeSingleFrom p n folds false 0 (brs ++ [c]) r
      else
        let p := if brs.isEmpty then p else p.breaks brs n
        writeSingleFrom (p.put (if c == '\'' then [c, c] else [c])) n folds false 0 [] r

/-- The escapes of double quotes that have a letter. -/
def escapeLetter? (c : Char) : Option Char :=
  match c.toNat with
  | 0 => some '0'
  | 7 => some 'a'
  | 8 => some 'b'
  | 9 => some 't'
  | 10 => some 'n'
  | 11 => some 'v'
  | 12 => some 'f'
  | 13 => some 'r'
  | 27 => some 'e'
  | 34 => some '"'
  | 92 => some '\\'
  | 0x85 => some 'N'
  | 0xA0 => some '_'
  | 0x2028 => some 'L'
  | 0x2029 => some 'P'
  | _ => none

/-- Whether a character stands as it is between double quotes. -/
def isVerbatim (c : Char) : Bool :=
  let n := c.toNat
  c != '"' && c != '\\' && n != 0x2028 && n != 0x2029 && n != 0xFEFF &&
    ((0x20 ≤ n && n ≤ 0x7E) || (0xA0 ≤ n && n ≤ 0xD7FF) || (0xE000 ≤ n && n ≤ 0xFFFD))

/-- The digits of a number in base sixteen, in capitals. -/
def capitalHex (width n : Nat) : List Char :=
  (hexPadded width n).map Char.toUpper

/-- An escaped character. -/
def escaped (c : Char) : List Char :=
  match escapeLetter? c with
  | some l => ['\\', l]
  | none =>
    if c.toNat ≤ 0xFF then '\\' :: 'x' :: capitalHex 2 c.toNat
    else if c.toNat ≤ 0xFFFF then '\\' :: 'u' :: capitalHex 4 c.toNat
    else '\\' :: 'U' :: capitalHex 8 c.toNat

/-- The end of a line inside double quotes; a space that opens the next line is escaped. -/
def foldDouble (p : Pen) (n : Nat) (next : List Char) : Pen :=
  let p := ((p.put ['\\']).indent n).inText
  if next.head? == some ' ' then p.put ['\\'] else p

/-- A text between double quotes. -/
def writeDoubleFrom (p : Pen) (n : Nat) (folds first : Bool) : List Char → Pen
  | [] => p
  | c :: r =>
    let inside := folds && !first && !r.isEmpty
    if isVerbatim c then
      let p := if inside && c == ' ' && foldWidth < p.column then foldDouble p n (c :: r) else p
      writeDoubleFrom (p.put [c]) n folds false r
    else
      let p := p.put (escaped c)
      let p := if inside && foldWidth < p.column - 1 then foldDouble p n r else p
      writeDoubleFrom p n folds false r

/-- A scalar in the style that suits it. -/
def writeScalar (p : Pen) (n : Nat) (key readsBack : Bool) (s : List Char) : Pen :=
  match choose readsBack key (shape s) with
  | .plain => writePlain p (if key then none else some n) s
  | .single =>
    (writeSingleFrom (p.indicator '\'' true false false) n (!key) true 0 [] s).indicator '\''
      false false false
  | .double =>
    (writeDoubleFrom (p.indicator '"' true false false) n (!key) true s).indicator '"'
      false false false

/-- The text of a number: a fraction keeps a point even before an exponent. -/
def numberChars (x : Double) : List Char :=
  match x with
  | .nan => ".nan".toList
  | .infinite negative => if negative then "-.inf".toList else ".inf".toList
  | _ =>
    let s := x.text.toList
    if s.contains '.' then s
    else (s.takeWhile (· != 'e')) ++
      (if s.contains 'e' then '.' :: '0' :: s.dropWhile (· != 'e') else [])

/-! ## Containers -/

/-- The most characters of a key that stands on one line with its value. -/
def maxKeyLength : Nat := 122

/-- Whether a key may stand on one line with its value. -/
def isSimpleKey (s : List Char) : Bool :=
  s.length ≤ maxKeyLength && !s.isEmpty && !s.any isBreak

/-- Where a value stands. -/
inductive Place
  /-- Alone in the document. -/
  | root
  /-- In a list. -/
  | item
  /-- In an object. -/
  | field
  deriving DecidableEq, Repr

/-- The indentation of the entries of a container. -/
def innerIndent (indentation : Option Nat) (sameColumn : Bool) : Nat :=
  match indentation with
  | none => 0
  | some n => if sameColumn then n else n + 2

/-- The indentation of the further lines of a scalar. -/
def scalarIndent (indentation : Option Nat) : Nat :=
  (indentation.getD 0) + 2

/-- A key and its colon. -/
def writeKey (p : Pen) (n : Nat) (key : String) : Pen :=
  let s := key.toList
  let p := p.indent n
  if isSimpleKey s then
    (writeScalar p (n + 2) true (isPlainText s) s).indicator ':' false false false
  else
    let p := writeScalar (p.indicator '?' true false true) (n + 2) false (isPlainText s) s
    (p.indent n).indicator ':' true false true

mutual

/-- A value, given the indentation of the container around it. -/
def writeNode (p : Pen) (place : Place) (indentation : Option Nat) : Data → Pen
  | .null => writeScalar p (scalarIndent indentation) false true "null".toList
  | .bool b =>
    writeScalar p (scalarIndent indentation) false true (if b then "true" else "false").toList
  | .integer i => writeScalar p (scalarIndent indentation) false true (toString i).toList
  | .number x => writeScalar p (scalarIndent indentation) false true (numberChars x)
  | .text s =>
    writeScalar p (scalarIndent indentation) false (isPlainText s.toList) s.toList
  | .list [] => (p.indicator '[' true true false).indicator ']' false false false
  | .object [] => (p.indicator '\x7b' true true false).indicator '\x7d' false false false
  | .list (v :: vs) =>
    writeItems p (innerIndent indentation (place == .field && !p.atIndent)) (v :: vs)
  | .object (f :: fs) => writeFields p (innerIndent indentation false) (f :: fs)

/-- The items of a list, each after a dash. -/
def writeItems (p : Pen) (n : Nat) : List Data → Pen
  | [] => p
  | v :: vs => writeItems (writeNode ((p.indent n).indicator '-' true false true) .item (some n) v) n vs

/-- The fields of an object, each after its key. -/
def writeFields (p : Pen) (n : Nat) : List (String × Data) → Pen
  | [] => p
  | (k, v) :: fs => writeFields (writeNode (writeKey p n k) .field (some n) v) n fs

end

/-- Whether a value alone in a document needs an end mark: it stands without quotes. -/
def needsEndMark : Data → Bool
  | .list _ => false
  | .object _ => false
  | .text s => choose (isPlainText s.toList) false (shape s.toList) == .plain
  | _ => true

/-- The YAML document of a value. -/
def render (v : Data) : String :=
  let p := (writeNode .start .root none v).indent 0
  let p := if needsEndMark v then (p.put "...".toList).inText.indent 0 else p
  String.ofList p.written.reverse

end LayoutTree.Yaml
