import LayoutTree.Layout.Descriptor
import Mathlib.Data.List.TakeWhile

/-!
# Nodes by level

A forest written down as a list: its nodes with their depths, each without its children and before
the nodes below it. Nothing is lost by that (`levelsAll_inj`): the nodes below a node are those
that follow it at greater depths.
-/

namespace LayoutTree.Descriptor

mutual

/-- A node at a depth and the nodes below it, each before its children. -/
def levels (depth : Nat) : Descriptor → List (Nat × Descriptor)
  | ⟨typeName, properties, group, children, source⟩ =>
    (depth, ⟨typeName, properties, group, [], source⟩) :: levelsAll (depth + 1) children

/-- Nodes at a depth, in order, and the nodes below them. -/
def levelsAll (depth : Nat) : List Descriptor → List (Nat × Descriptor)
  | [] => []
  | d :: ds => levels depth d ++ levelsAll depth ds

end

theorem levels_eq (depth : Nat) (d : Descriptor) :
    d.levels depth = (depth, { d with children := [] }) :: levelsAll (depth + 1) d.children := by
  cases d
  rw [levels]

theorem levelsAll_append (depth : Nat) (ds es : List Descriptor) :
    levelsAll depth (ds ++ es) = levelsAll depth ds ++ levelsAll depth es := by
  induction ds with
  | nil => rfl
  | cons d ds ih => rw [List.cons_append, levelsAll, ih, levelsAll, List.append_assoc]

mutual

theorem le_of_mem_levels {depth : Nat} : ∀ {d : Descriptor}, ∀ x ∈ levels depth d, depth ≤ x.1
  | ⟨_, _, _, children, _⟩, x, hx => by
    rw [levels, List.mem_cons] at hx
    rcases hx with rfl | hx
    · exact Nat.le_refl _
    · exact Nat.le_of_succ_le (le_of_mem_levelsAll x hx)

theorem le_of_mem_levelsAll {depth : Nat} :
    ∀ {ds : List Descriptor}, ∀ x ∈ levelsAll depth ds, depth ≤ x.1
  | [], x, hx => by cases hx
  | d :: ds, x, hx => by
    rw [levelsAll, List.mem_append] at hx
    exact hx.elim (le_of_mem_levels x) (le_of_mem_levelsAll x)

end

/-- The nodes below the first of several nodes are those before the next one at its depth. -/
theorem takeWhile_levelsAll (depth : Nat) (ds es : List Descriptor) :
    (levelsAll (depth + 1) ds ++ levelsAll depth es).takeWhile (fun x => depth < x.1) =
      levelsAll (depth + 1) ds := by
  have hbelow : ∀ x ∈ levelsAll (depth + 1) ds, decide (depth < x.1) = true := fun x hx =>
    decide_eq_true (le_of_mem_levelsAll x hx)
  rw [List.takeWhile_append_of_pos hbelow]
  cases es with
  | nil => rw [levelsAll, List.takeWhile_nil, List.append_nil]
  | cons e es =>
    rw [levelsAll, levels_eq, List.cons_append,
      List.takeWhile_cons_of_neg (by simp), List.append_nil]

/-- **A forest is determined by its nodes and their depths.** -/
theorem levelsAll_inj {depth : Nat} :
    ∀ {ds es : List Descriptor}, levelsAll depth ds = levelsAll depth es → ds = es
  | [], [], _ => rfl
  | [], e :: es, h => by
    rw [levelsAll, levelsAll, levels_eq] at h
    cases h
  | d :: ds, [], h => by
    rw [levelsAll, levelsAll, levels_eq] at h
    cases h
  | ⟨_, _, _, ds, _⟩ :: rest, ⟨_, _, _, es, _⟩ :: more, h => by
    rw [levelsAll, levelsAll, levels, levels, List.cons_append, List.cons_append] at h
    obtain ⟨hself, hrest⟩ := List.cons.inj h
    have hbelow := congrArg (List.takeWhile fun x => decide (depth < x.1)) hrest
    rw [takeWhile_levelsAll, takeWhile_levelsAll] at hbelow
    obtain rfl := levelsAll_inj hbelow
    obtain rfl := levelsAll_inj (List.append_cancel_left hrest)
    cases hself
    rfl

end LayoutTree.Descriptor
