/-!
# Chains

Members in the order in which they are asked. A member registered later is asked first; one that is
registered several times is removed one registration at a time. The main statement is
`remove_register`: removing takes back the last registration.
-/

namespace LayoutTree

/-- Things that are told apart by a key. -/
class Keyed (α : Type) where
  /-- What tells a thing apart from others. -/
  key : α → String

/-- Members in the order in which they are asked. -/
structure Chain (α : Type) where
  /-- The members. -/
  members : List α

namespace Chain

variable {α : Type} [Keyed α]

/-- The chain with one member asked before all others. -/
def register (c : Chain α) (a : α) : Chain α :=
  ⟨a :: c.members⟩

/-- Whether a member with a key is in the chain. -/
def contains (c : Chain α) (key : String) : Bool :=
  c.members.any fun a => Keyed.key a = key

/-- The chain without the first member of a key. -/
def remove (c : Chain α) (key : String) : Chain α :=
  ⟨c.members.eraseP fun a => Keyed.key a = key⟩

/-- The first member that satisfies a condition. -/
def find? (c : Chain α) (p : α → Bool) : Option α :=
  c.members.find? p

theorem remove_register (c : Chain α) (a : α) : (c.register a).remove (Keyed.key a) = c := by
  simp [register, remove]

theorem contains_register (c : Chain α) (a : α) (key : String) :
    (c.register a).contains key = (Keyed.key a = key || c.contains key) := by
  simp [register, contains]

theorem remove_of_not_contains (c : Chain α) {key : String} (h : c.contains key = false) :
    c.remove key = c := by
  simp only [contains, List.any_eq_false] at h
  simp only [remove, List.eraseP_of_forall_not h]

end Chain

end LayoutTree
