import LayoutTree.Layout.Descriptor
import LayoutTree.Text.Search

/-!
# Fragments of a line

A line of the text format is cut into fragments at separators, and a fragment into a name and a
value at its first equals sign. Neither counts between double quotes or after a backslash.

* `splitFragments`: the trimmed fragments of a line; none of them is empty.
* `findAssignment`: where the name of a fragment ends.
* `readProperty`: the property that a fragment stands for.
-/

namespace LayoutTree.Layout

open LayoutTree.Text

/-- A text without the double quotes around it, if it stands between two. -/
def stripQuotes (s : List Char) : List Char :=
  match s with
  | '"' :: r => if 1 ≤ r.length && r.getLast? == some '"' then r.dropLast else s
  | _ => s

/-- The character that stands for an escaped one. -/
def escapeValue (c : Char) : Char :=
  if c = 'n' then '\n' else if c = 't' then '\t' else if c = 'r' then '\r' else c

/-- A text with its escapes read. A backslash at the end stands for itself. -/
def unescape : List Char → List Char
  | [] => []
  | ['\\'] => ['\\']
  | '\\' :: c :: r => escapeValue c :: unescape r
  | c :: r => c :: unescape r

/-- A fragment in front of others, trimmed; an empty one is left out. -/
def consFragment (current : List Char) (rest : List (List Char)) : List (List Char) :=
  let fragment := trim current.reverse
  if fragment.isEmpty then rest else fragment :: rest

/-- The fragments of a text after `current`, latest character first. The flags tell whether the text
starts between quotes and whether a backslash stands before it. -/
def fragmentsFrom (isSep : Char → Bool) (inQuotes escaped : Bool) (current : List Char) :
    List Char → List (List Char)
  | [] => consFragment current []
  | c :: r =>
    if escaped then fragmentsFrom isSep inQuotes false (c :: current) r
    else if c = '\\' then fragmentsFrom isSep inQuotes true (c :: current) r
    else if c = '"' then fragmentsFrom isSep (!inQuotes) false (c :: current) r
    else if isSep c && !inQuotes then consFragment current (fragmentsFrom isSep false false [] r)
    else fragmentsFrom isSep inQuotes false (c :: current) r

/-- The trimmed fragments of a line between separators. -/
def splitFragments (isSep : Char → Bool) (line : List Char) : List (List Char) :=
  fragmentsFrom isSep false false [] line

/-- The place of the first equals sign of a text that starts at the place `index`. -/
def assignmentFrom (index : Nat) (inQuotes escaped : Bool) : List Char → Option Nat
  | [] => none
  | c :: r =>
    if escaped then assignmentFrom (index + 1) inQuotes false r
    else if c = '\\' then assignmentFrom (index + 1) inQuotes true r
    else if c = '"' then assignmentFrom (index + 1) (!inQuotes) false r
    else if c = '=' && !inQuotes then some index
    else assignmentFrom (index + 1) inQuotes false r

/-- The place of the first equals sign outside of quotes and not after a backslash. -/
def findAssignment (fragment : List Char) : Option Nat :=
  assignmentFrom 0 false false fragment

/-- The property that a fragment stands for. A fragment without an equals sign is a name alone. -/
def readProperty (fragment : List Char) : Property :=
  match findAssignment fragment with
  | none => ⟨String.ofList (trim fragment), none⟩
  | some i =>
    ⟨String.ofList (trim (fragment.take i)),
      some (String.ofList (unescape (stripQuotes (trim (fragment.drop (i + 1))))))⟩

theorem consFragment_ne_nil_mem {current : List Char} {rest : List (List Char)}
    (h : ∀ f ∈ rest, f ≠ []) : ∀ f ∈ consFragment current rest, f ≠ [] := by
  intro f hf
  simp only [consFragment] at hf
  split at hf
  · exact h f hf
  · next hne =>
    rcases List.mem_cons.1 hf with rfl | hf
    · simpa using hne
    · exact h f hf

/-- No fragment is empty. -/
theorem ne_nil_of_mem_fragmentsFrom (isSep : Char → Bool) (inQuotes escaped : Bool)
    (current s : List Char) : ∀ f ∈ fragmentsFrom isSep inQuotes escaped current s, f ≠ [] := by
  fun_induction fragmentsFrom isSep inQuotes escaped current s with
  | case1 => exact consFragment_ne_nil_mem (by simp)
  | case2 =>
    rename_i ih
    exact ih
  | case3 =>
    rename_i ih
    exact ih
  | case4 =>
    rename_i ih
    exact ih
  | case5 =>
    rename_i ih
    exact consFragment_ne_nil_mem ih
  | case6 =>
    rename_i ih
    exact ih

end LayoutTree.Layout
