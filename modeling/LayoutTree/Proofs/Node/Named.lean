import LayoutTree.Node.Node
import Mathlib.Data.List.Nodup

/-!
# Lists of named values

A list of named values has one value for a name if no name stands in it twice, and putting an entry
in keeps that (`nodup_putNamed`). Then a value is looked up under its own name
(`lookup_eq_some_iff_mem`).
-/

namespace LayoutTree

/-! ## Putting an entry in -/

theorem map_fst_putNamed {α : Type} (name : String) (a : α) (l : List (String × α)) :
    (putNamed name a l).map Prod.fst =
      if name ∈ l.map Prod.fst then l.map Prod.fst else l.map Prod.fst ++ [name] := by
  induction l with
  | nil => rfl
  | cons e l ih =>
    by_cases h : e.1 = name
    · simp [putNamed, h]
    · have hne : name ≠ e.1 := fun hn => h hn.symm
      simp only [putNamed, h, if_false, List.map_cons, ih, List.mem_cons, hne, false_or]
      split <;> rfl

theorem nodup_putNamed {α : Type} (name : String) (a : α) {l : List (String × α)}
    (h : (l.map Prod.fst).Nodup) : ((putNamed name a l).map Prod.fst).Nodup := by
  rw [map_fst_putNamed]
  split
  · exact h
  · next hname =>
    rw [List.nodup_append', List.disjoint_singleton]
    exact ⟨h, List.nodup_singleton _, hname⟩

theorem mem_putNamed {α : Type} {name : String} {a : α} {l : List (String × α)} {e : String × α}
    (h : e ∈ putNamed name a l) : e = (name, a) ∨ e ∈ l := by
  induction l with
  | nil => exact .inl (List.mem_singleton.1 h)
  | cons b l ih =>
    rw [putNamed] at h
    split at h
    · next hname =>
      rcases List.mem_cons.1 h with rfl | h
      · exact .inl (by rw [hname])
      · exact .inr (List.mem_cons_of_mem _ h)
    · rcases List.mem_cons.1 h with rfl | h
      · exact .inr List.mem_cons_self
      · exact (ih h).imp_right (List.mem_cons_of_mem _)

/-! ## Looking a name up -/

theorem lookup_filter_ne {α : Type} (name other : String) (l : List (String × α)) :
    (l.filter fun e => e.1 ≠ name).lookup other = if other = name then none else l.lookup other := by
  induction l with
  | nil => simp
  | cons e l ih =>
    obtain ⟨k, a⟩ := e
    by_cases hk : k = name
    · subst hk
      rw [List.filter_cons_of_neg (by simp), ih]
      by_cases ho : other = k
      · simp [ho]
      · simp [ho, List.lookup_cons, beq_eq_false_iff_ne.2 ho]
    · rw [List.filter_cons_of_pos (by simpa using hk), List.lookup_cons, List.lookup_cons, ih]
      by_cases ho : other = k
      · simp [ho, hk]
      · simp [beq_eq_false_iff_ne.2 ho]

theorem lookup_eq_some_iff_mem {α : Type} {l : List (String × α)} (h : (l.map Prod.fst).Nodup)
    {k : String} {a : α} : l.lookup k = some a ↔ (k, a) ∈ l := by
  induction l with
  | nil => simp
  | cons e l ih =>
    obtain ⟨k', b⟩ := e
    rw [List.map_cons, List.nodup_cons] at h
    by_cases hk : k = k'
    · subst hk
      have hnot : (k, a) ∉ l := fun hm => h.1 (List.mem_map.2 ⟨_, hm, rfl⟩)
      simp [hnot, eq_comm]
    · simp [List.lookup_cons, beq_eq_false_iff_ne.2 hk, ih h.2, hk]

theorem lookup_isSome_iff {α : Type} {l : List (String × α)} {k : String} :
    (l.lookup k).isSome ↔ k ∈ l.map Prod.fst := by
  rw [List.lookup_isSome_iff, List.mem_map]
  refine exists_congr fun e => and_congr_right fun _ => ?_
  rw [beq_iff_eq, eq_comm]

theorem eq_of_subset_of_map_fst_eq {α : Type} {l l' : List (String × α)}
    (hkeys : l.map Prod.fst = l'.map Prod.fst) (hnodup : (l'.map Prod.fst).Nodup)
    (hsub : ∀ e ∈ l, e ∈ l') : l = l' := by
  have hlookup : ∀ e ∈ l, ∀ e' ∈ l', e.1 = e'.1 → e = e' := by
    intro e he e' he' hfst
    have h := (lookup_eq_some_iff_mem hnodup).2 (hsub e he)
    rw [hfst, (lookup_eq_some_iff_mem hnodup).2 he', Option.some.injEq] at h
    exact Prod.ext hfst h.symm
  refine List.ext_getElem (by simpa using congrArg List.length hkeys) fun i hi hi' => ?_
  refine hlookup _ (List.getElem_mem hi) _ (List.getElem_mem hi') ?_
  have hfst := List.getElem_of_eq hkeys (by rwa [List.length_map] : i < (l.map Prod.fst).length)
  rwa [List.getElem_map, List.getElem_map] at hfst

end LayoutTree
