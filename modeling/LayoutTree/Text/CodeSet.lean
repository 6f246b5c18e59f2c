/-!
# Sets of code points

A property of characters is stored as the increasing list of the code points where membership
changes: the first number opens a run of members, the second closes it, and so on. The main
statements are `CodeSet.contains_nil` and `CodeSet.contains_of_lt`: nothing is a member of the
empty list, and no code point before the first boundary is a member.
-/

namespace LayoutTree.Text

/-- A set of code points, given by the increasing list of the points where membership changes. -/
structure CodeSet where
  boundaries : List Nat

namespace CodeSet

/-- Membership of `n`, when the code points before the first boundary have membership `inside`. -/
def containsFrom (inside : Bool) : List Nat → Nat → Bool
  | [], _ => inside
  | b :: bs, n => if n < b then inside else containsFrom (!inside) bs n

/-- Membership of a code point. -/
def contains (s : CodeSet) (n : Nat) : Bool :=
  containsFrom false s.boundaries n

/-- Membership of a character. -/
def containsChar (s : CodeSet) (c : Char) : Bool :=
  s.contains c.toNat

theorem contains_nil (n : Nat) : (⟨[]⟩ : CodeSet).contains n = false := rfl

theorem contains_of_lt {b n : Nat} (bs : List Nat) (h : n < b) :
    (⟨b :: bs⟩ : CodeSet).contains n = false := by
  simp [contains, containsFrom, h]

end CodeSet

end LayoutTree.Text
