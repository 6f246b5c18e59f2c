import LayoutTree.Data
import LayoutTree.Number.Style
import LayoutTree.Text.Quoted

/-!
# Writing JSON

The compact text of structured data: a space after every comma and colon, doubles in their exact
form, and in strings only quotes, backslashes and control characters escaped. The main statements
are
`write_list` and `write_object`, the shape of the text of a container.
-/

namespace LayoutTree.Json

open LayoutTree.Number LayoutTree.Text

/-- One character of a string. -/
def writeChar (c : Char) : List Char :=
  if c = '"' then ['\\', '"']
  else if c = '\\' then ['\\', '\\']
  else if c = '\n' then ['\\', 'n']
  else if c = '\r' then ['\\', 'r']
  else if c = '\t' then ['\\', 't']
  else if c = '\x0c' then ['\\', 'f']
  else if c = '\x08' then ['\\', 'b']
  else if c.toNat < 32 then '\\' :: 'u' :: hexPadded 4 c.toNat
  else [c]

/-- A string between quotes. -/
def writeString (s : List Char) : List Char :=
  '"' :: s.flatMap writeChar ++ ['"']

/-- An integer in decimal digits. -/
def writeInt (n : Int) : List Char :=
  if n < 0 then '-' :: decimalChars n.natAbs else decimalChars n.natAbs

/-- A double: its exact text, or the word for a value that has none. -/
def writeDouble : Double → List Char
  | .nan => "NaN".toList
  | .infinite negative => if negative then "-Infinity".toList else "Infinity".toList
  | x => x.write .exact shortest

mutual

/-- The text of a value. -/
def write : Data → List Char
  | .null => "null".toList
  | .bool b => if b then "true".toList else "false".toList
  | .integer n => writeInt n
  | .number x => writeDouble x
  | .text s => writeString s.toList
  | .list [] => ['[', ']']
  | .list (v :: vs) => '[' :: write v ++ writeItems vs
  | .object [] => ['{', '}']
  | .object ((k, v) :: fs) =>
    '{' :: writeString k.toList ++ ':' :: ' ' :: write v ++ writeFields fs

/-- The items after the first, and the end of the list. -/
def writeItems : List Data → List Char
  | [] => [']']
  | v :: vs => ',' :: ' ' :: write v ++ writeItems vs

/-- The fields after the first, and the end of the object. -/
def writeFields : List (String × Data) → List Char
  | [] => ['}']
  | (k, v) :: fs => ',' :: ' ' :: writeString k.toList ++ ':' :: ' ' :: write v ++ writeFields fs

end

/-- The JSON text of a value. -/
def render (v : Data) : String :=
  String.ofList (write v)

theorem write_list (v : Data) (vs : List Data) :
    write (.list (v :: vs)) = '[' :: write v ++ writeItems vs := by
  rw [write]

theorem write_object (k : String) (v : Data) (fs : List (String × Data)) :
    write (.object ((k, v) :: fs)) =
      '{' :: writeString k.toList ++ ':' :: ' ' :: write v ++ writeFields fs := by
  rw [write]

end LayoutTree.Json
