import LayoutTree.Text.Case
import LayoutTree.Text.Search

/-!
# Symbolic names

Names of colors, members and the like are compared by what remains of them without blanks, dashes
and underscores, in folded case: `Semi-Bold`, `semi bold` and `SEMI_BOLD` are one name.
-/

namespace LayoutTree.Text

/-- Whether a character only separates the words of a symbolic name. -/
def isJoint (c : Char) : Bool :=
  isBlank c || c = '_' || c = '-'

/-- What symbolic names are compared by. -/
def symbol (s : List Char) : List Char :=
  fold (s.filter fun c => !isJoint c)

theorem symbol_append (s t : List Char) : symbol (s ++ t) = symbol s ++ symbol t := by
  simp [symbol, fold_append]

theorem symbol_cons_of_isJoint {c : Char} (s : List Char) (h : isJoint c = true) :
    symbol (c :: s) = symbol s := by
  simp [symbol, h]

end LayoutTree.Text
