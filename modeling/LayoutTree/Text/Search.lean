import LayoutTree.Text.Blank

/-!
# Searching and cutting texts

Parts of a text: whether one occurs in another, the pieces between separators, and the text with a
part exchanged. Everything is on lists of characters; `onChars` lifts a function to strings.
-/

namespace LayoutTree.Text

/-- A function on lists of characters as a function on strings. -/
def onChars (f : List Char → List Char) (s : String) : String :=
  String.ofList (f s.toList)

/-- A string without the blanks at both ends. -/
def trimmed (s : String) : String :=
  onChars trim s

/-- Whether a string holds nothing but blanks. -/
def isBlankString (s : String) : Bool :=
  isBlankText s.toList

/-- Whether `part` occurs in the text. -/
def hasInfix (part : List Char) : List Char → Bool
  | [] => part.isEmpty
  | c :: r => part.isPrefixOf (c :: r) || hasInfix part r

/-- The first occurrence of `part` cuts the text in two; the part itself is dropped. -/
def cutAt? (part : List Char) : List Char → Option (List Char × List Char)
  | [] => if part.isEmpty then some ([], []) else none
  | c :: r =>
    if part.isPrefixOf (c :: r) then some ([], (c :: r).drop part.length)
    else (cutAt? part r).map fun (a, b) => (c :: a, b)

/-- The pieces between the occurrences of a separator character, empty ones included. -/
def splitAt (sep : Char) : List Char → List (List Char)
  | [] => [[]]
  | c :: r =>
    if c = sep then [] :: splitAt sep r
    else match splitAt sep r with
      | [] => [[c]]
      | w :: ws => (c :: w) :: ws

/-- The non-empty pieces between separators. -/
def wordsFrom (isSep : Char → Bool) (current : List Char) : List Char → List (List Char)
  | [] => if current.isEmpty then [] else [current.reverse]
  | c :: r =>
    if isSep c then
      if current.isEmpty then wordsFrom isSep [] r else current.reverse :: wordsFrom isSep [] r
    else wordsFrom isSep (c :: current) r

/-- The non-empty pieces between separators. -/
def words (isSep : Char → Bool) (s : List Char) : List (List Char) :=
  wordsFrom isSep [] s

/-- Splitting never yields an empty list: a text without separators is one piece. -/
theorem splitAt_ne_nil (sep : Char) (s : List Char) : splitAt sep s ≠ [] := by
  cases s with
  | nil => simp [splitAt]
  | cons c r =>
    simp only [splitAt]
    split
    · simp
    · split <;> simp

/-- The strings joined, with a separator between neighbours. -/
def joinWith (sep : String) (parts : List String) : String :=
  String.intercalate sep parts

/-- The text without all occurrences of one character. -/
def without (c : Char) (s : List Char) : List Char :=
  s.filter (· != c)

end LayoutTree.Text
