import LayoutTree.Text.Printable

/-!
# Quoted texts

How a text is shown inside a message. It stands between single quotes, or between double quotes
when it holds a single quote and no double one; the backslash, the quote in use and every character
that is not printable are escaped. The main statement is `quoteMark_of_no_single`: a text without a
single quote is always shown between single quotes.
-/

namespace LayoutTree.Text

/-- A hexadecimal digit in lower case. -/
def hexDigit (n : Nat) : Char :=
  (Nat.digitChar n)

/-- A number in hexadecimal, padded with zeros to a width. -/
def hexPadded (width n : Nat) : List Char :=
  let ds := Nat.toDigits 16 n
  List.replicate (width - ds.length) '0' ++ ds

/-- The quote that a text is shown between. -/
def quoteMark (s : List Char) : Char :=
  if s.contains '\'' && !s.contains '"' then '"' else '\''

/-- One character of a quoted text. -/
def quotedChar (mark c : Char) : List Char :=
  if c = mark ∨ c = '\\' then ['\\', c]
  else if c = '\t' then ['\\', 't']
  else if c = '\n' then ['\\', 'n']
  else if c = '\r' then ['\\', 'r']
  else if isPrintable c then [c]
  else
    let n := c.toNat
    if n < 0x100 then '\\' :: 'x' :: hexPadded 2 n
    else if n < 0x10000 then '\\' :: 'u' :: hexPadded 4 n
    else '\\' :: 'U' :: hexPadded 8 n

/-- A text as it is shown inside a message. -/
def quotedChars (s : List Char) : List Char :=
  let mark := quoteMark s
  mark :: s.flatMap (quotedChar mark) ++ [mark]

/-- A string as it is shown inside a message. -/
def quoted (s : String) : String :=
  String.ofList (quotedChars s.toList)

theorem quoteMark_of_no_single {s : List Char} (h : s.contains '\'' = false) :
    quoteMark s = '\'' := by
  unfold quoteMark
  rw [h]
  rfl

end LayoutTree.Text
