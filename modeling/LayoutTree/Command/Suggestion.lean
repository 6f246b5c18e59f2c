/-!
# Suggestions

Which of some words was meant by a word that is none of them. Two words are alike as far as the
blocks that they share in order go: their longest common block, and then those on either side of it.
-/

namespace LayoutTree.Command

/-- How long two texts agree from their beginning. -/
def agreement : List Char → List Char → Nat
  | a :: s, b :: t => if a = b then agreement s t + 1 else 0
  | _, _ => 0

/-- A block that two texts share: where it begins in each, and its length. -/
structure Block where
  left : Nat
  right : Nat
  length : Nat
  deriving DecidableEq, Repr

/-- The longest block of two texts, the first of several. -/
def longestBlock (s t : List Char) : Block :=
  let starts := (List.range s.length).flatMap fun i => (List.range t.length).map fun j => (i, j)
  starts.foldl
    (fun best (i, j) =>
      let n := agreement (s.drop i) (t.drop j)
      if best.length < n then ⟨i, j, n⟩ else best)
    ⟨0, 0, 0⟩

/-- How many characters lie in the blocks that two texts share, with at most `depth` blocks in a
row. -/
def sharedLength : Nat → List Char → List Char → Nat
  | 0, _, _ => 0
  | depth + 1, s, t =>
    let b := longestBlock s t
    if b.length = 0 then 0
    else
      b.length + sharedLength depth (s.take b.left) (t.take b.right)
        + sharedLength depth (s.drop (b.left + b.length)) (t.drop (b.right + b.length))

/-- Whether at least three fifths of two texts together are shared. -/
def areAlike (s t : List Char) : Bool :=
  3 * (s.length + t.length) ≤ 5 * (2 * sharedLength s.length s t)

/-- The words that are like a word, in alphabetical order. -/
def suggestions (word : String) (words : List String) : List String :=
  (words.filter fun w => areAlike w.toList word.toList).mergeSort (· ≤ ·)

theorem sharedLength_nil (depth : Nat) (t : List Char) : sharedLength depth [] t = 0 := by
  cases depth <;> simp [sharedLength, longestBlock]

end LayoutTree.Command
