import LayoutTree.Plugin.Plugin
import LayoutTree.Proofs.Node.Named
import Mathlib.Logic.Function.Basic

/-!
# The layers of a type name

Plugins may register types under one name, each on top of what the name stood for before. The types
that were registered under a name and not taken back again are its layers, the latest first; the
name stands for the first of them (`Layered`).

Registering a type puts a layer on top (`Layered.registerWith`). Taking a registration back removes
its layer if that is on top, and leaves it where it is if it is not (`Layered.revertType`). So a
plugin whose layers under a name are on top takes all of them away, and one that is covered by
another plugin takes away none (`Layered.revertTypes`): its layers come to light when the layers
above them go.
-/

namespace LayoutTree

namespace TypeRegistry

/-! ## Registries as they come about -/

/-- What holds of a registry that types were registered in and taken out of: a name has one entry,
which is kept under the name of its type, and serials are given out once. -/
structure WellFormed (r : TypeRegistry) : Prop where
  nodup : (r.entries.map Prod.fst).Nodup
  key_eq : ∀ e ∈ r.entries, e.1 = typeKey e.2.name
  serial_lt : ∀ e ∈ r.entries, e.2.serial < r.next

theorem wellFormed_empty : WellFormed empty := ⟨List.nodup_nil, by simp [empty], by simp [empty]⟩

/-! ## Layers -/

/-- A registry with layers under its names, above the types of another registry. -/
structure Layered (r₀ r : TypeRegistry) (layers : String → List NodeType) : Prop where
  initial : r₀.WellFormed
  /-- A name stands for its first layer. -/
  lookup_eq : ∀ k, r.entries.lookup k = (layers k).head?
  nodup : (r.entries.map Prod.fst).Nodup
  /-- The names of the other registry stay, in their order. -/
  kept : (r.entries.map Prod.fst).filter (· ∈ r₀.entries.map Prod.fst) = r₀.entries.map Prod.fst
  /-- The last layer is the type in the other registry; the layers above it are newer. -/
  base : ∀ k, ∃ above, layers k = above ++ (r₀.entries.lookup k).toList ∧
    ∀ t ∈ above, r₀.next ≤ t.serial
  named : ∀ k, ∀ t ∈ layers k, typeKey t.name = k
  /-- A layer is newer than those below it. -/
  sorted : ∀ k, (layers k).Pairwise fun t u => u.serial < t.serial
  fresh : ∀ k, ∀ t ∈ layers k, t.serial < r.next
  next_le : r₀.next ≤ r.next

namespace Layered

variable {r₀ r : TypeRegistry} {layers : String → List NodeType}

theorem refl (h : WellFormed r₀) : Layered r₀ r₀ fun k => (r₀.entries.lookup k).toList where
  initial := h
  lookup_eq k := by cases r₀.entries.lookup k <;> rfl
  nodup := h.nodup
  kept := List.filter_eq_self.2 fun k hk => by simpa using hk
  base k := ⟨[], rfl, by simp⟩
  named k t ht := by
    rw [Option.mem_toList, lookup_eq_some_iff_mem h.nodup] at ht
    exact (h.key_eq _ ht).symm
  sorted k := by cases r₀.entries.lookup k <;> simp
  fresh k t ht := by
    rw [Option.mem_toList, lookup_eq_some_iff_mem h.nodup] at ht
    exact h.serial_lt _ ht
  next_le := Nat.le_refl _

/-- An entry of the registry is on top of the layers of its name. -/
theorem mem_entries_iff (h : Layered r₀ r layers) {k : String} {t : NodeType} :
    (k, t) ∈ r.entries ↔ (layers k).head? = some t := by
  rw [← lookup_eq_some_iff_mem h.nodup, h.lookup_eq]

theorem mem_names_iff (h : Layered r₀ r layers) {k : String} :
    k ∈ r.entries.map Prod.fst ↔ layers k ≠ [] := by
  rw [← lookup_isSome_iff, h.lookup_eq]
  cases layers k <;> simp

/-- The names of the other registry are names of the registry. -/
theorem mem_names (h : Layered r₀ r layers) {k : String} (hk : k ∈ r₀.entries.map Prod.fst) :
    k ∈ r.entries.map Prod.fst := by
  rw [← h.kept, List.mem_filter] at hk
  exact hk.1

/-- A registry whose entries are all in the other registry is as the other one. -/
theorem entries_eq (h : Layered r₀ r layers) (hsub : ∀ e ∈ r.entries, e ∈ r₀.entries) :
    r.entries = r₀.entries := by
  have hkeys : r.entries.map Prod.fst = r₀.entries.map Prod.fst := by
    rw [← h.kept, List.filter_eq_self.2]
    intro k hk
    obtain ⟨e, he, rfl⟩ := List.mem_map.1 hk
    exact decide_eq_true (List.mem_map.2 ⟨e, hsub e he, rfl⟩)
  exact eq_of_subset_of_map_fst_eq hkeys h.initial.nodup hsub

theorem nodup_layers (h : Layered r₀ r layers) (k : String) : (layers k).Nodup :=
  (h.sorted k).imp fun hlt heq => absurd hlt (by rw [heq]; exact Nat.lt_irrefl _)

/-- A registry with layers is as registries come about. -/
theorem wellFormed (h : Layered r₀ r layers) : r.WellFormed where
  nodup := h.nodup
  key_eq e he := (h.named e.1 e.2 (List.mem_of_head? (h.mem_entries_iff.1 he))).symm
  serial_lt e he := h.fresh e.1 e.2 (List.mem_of_head? (h.mem_entries_iff.1 he))

/-- One layer more on top of those of a name leaves the layers of all other names. -/
theorem update_cons_cases (layers : String → List NodeType) (key : String) (t : NodeType)
    (k : String) :
    (k = key ∧ Function.update layers key (t :: layers key) k = t :: layers k) ∨
      (k ≠ key ∧ Function.update layers key (t :: layers key) k = layers k) := by
  by_cases hk : k = key
  · subst hk
    exact .inl ⟨rfl, Function.update_self k (t :: layers k) layers⟩
  · exact .inr ⟨hk, Function.update_of_ne hk (t :: layers key) layers⟩

theorem mem_update_cons {key k : String} {t u : NodeType}
    (h : u ∈ Function.update layers key (t :: layers key) k) :
    (k = key ∧ u = t) ∨ u ∈ layers k := by
  rcases update_cons_cases layers key t k with ⟨hkey, hk⟩ | ⟨-, hk⟩
  · rw [hk, List.mem_cons] at h
    exact h.imp (fun hu => ⟨hkey, hu⟩) id
  · exact .inr (hk ▸ h)

/-- A registered type is a new layer on top. -/
theorem registerWith (h : Layered r₀ r layers) (name : String) (cls : NodeClass)
    (create : Nat → Except String Node) :
    Layered r₀ (r.registerWith name cls create).2
      (Function.update layers (typeKey name)
        (⟨r.next, name, cls, create⟩ :: layers (typeKey name))) where
  initial := h.initial
  lookup_eq k := by
    rcases update_cons_cases layers (typeKey name) ⟨r.next, name, cls, create⟩ k with
      ⟨rfl, hk⟩ | ⟨hne, hk⟩
    · rw [hk]
      exact lookup_putNamed_self _ _ _
    · rw [hk, ← h.lookup_eq]
      exact lookup_putNamed_ne _ _ hne
  nodup := nodup_putNamed _ _ h.nodup
  kept := by
    have hkeys : (r.registerWith name cls create).2.entries.map Prod.fst =
        if typeKey name ∈ r.entries.map Prod.fst then r.entries.map Prod.fst
        else r.entries.map Prod.fst ++ [typeKey name] := map_fst_putNamed _ _ _
    rw [hkeys]
    split
    · exact h.kept
    · next hk =>
      rw [List.filter_append, h.kept,
        List.filter_cons_of_neg
          (by simpa using fun x hx => hk (h.mem_names (List.mem_map.2 ⟨_, hx, rfl⟩))),
        List.filter_nil, List.append_nil]
  base k := by
    obtain ⟨above, ha, hnext⟩ := h.base k
    rcases update_cons_cases layers (typeKey name) ⟨r.next, name, cls, create⟩ k with
      ⟨-, hk⟩ | ⟨-, hk⟩
    · exact ⟨_ :: above, by rw [hk, ha, List.cons_append],
        List.forall_mem_cons.2 ⟨h.next_le, hnext⟩⟩
    · exact ⟨above, hk.trans ha, hnext⟩
  named k t ht := by
    rcases mem_update_cons ht with ⟨rfl, rfl⟩ | ht
    · rfl
    · exact h.named k t ht
  sorted k := by
    rcases update_cons_cases layers (typeKey name) ⟨r.next, name, cls, create⟩ k with
      ⟨-, hk⟩ | ⟨-, hk⟩
    · rw [hk, List.pairwise_cons]
      exact ⟨fun t ht => h.fresh k t ht, h.sorted k⟩
    · rw [hk]
      exact h.sorted k
  fresh k t ht := by
    rcases mem_update_cons ht with ⟨-, rfl⟩ | ht
    · exact Nat.lt_succ_self _
    · exact Nat.lt_succ_of_lt (h.fresh k t ht)
  next_le := Nat.le_trans h.next_le (Nat.le_succ _)

/-- Below a layer that is newer than the other registry is the type in the other registry. -/
theorem base_of_cons (h : Layered r₀ r layers) {k : String} {t : NodeType} {below : List NodeType}
    (hk : layers k = t :: below) (hnew : r₀.next ≤ t.serial) :
    ∃ above, below = above ++ (r₀.entries.lookup k).toList ∧ ∀ u ∈ above, r₀.next ≤ u.serial := by
  obtain ⟨above, ha, habove⟩ := h.base k
  rw [hk] at ha
  cases above with
  | nil =>
    have ht : t ∈ (r₀.entries.lookup k).toList := by
      rw [← List.nil_append (Option.toList _), ← ha]
      exact List.mem_cons_self
    rw [Option.mem_toList, lookup_eq_some_iff_mem h.initial.nodup] at ht
    exact absurd (h.initial.serial_lt _ ht) (Nat.not_lt.2 hnew)
  | cons u above =>
    rw [List.cons_append, List.cons.injEq] at ha
    exact ⟨above, ha.2, fun v hv => habove v (List.mem_cons_of_mem _ hv)⟩

/-- A registry that differs from a layered one in that a name stands for the layer below its first
one, which is newer than the other registry. -/
theorem pop (h : Layered r₀ r layers) {k : String} {t : NodeType} {below : List NodeType}
    (hk : layers k = t :: below) (hnew : r₀.next ≤ t.serial) {r' : TypeRegistry}
    (hnext : r'.next = r.next) (hself : r'.entries.lookup k = below.head?)
    (hne : ∀ j, j ≠ k → r'.entries.lookup j = r.entries.lookup j)
    (hnodup : (r'.entries.map Prod.fst).Nodup)
    (hkept : (r'.entries.map Prod.fst).filter (· ∈ r₀.entries.map Prod.fst) =
      (r.entries.map Prod.fst).filter (· ∈ r₀.entries.map Prod.fst)) :
    Layered r₀ r' (Function.update layers k below) := by
  have hsub : ∀ j, Function.update layers k below j <:+ layers j := by
    intro j
    by_cases hj : j = k
    · subst hj
      rw [Function.update_self, hk]
      exact List.suffix_cons _ _
    · exact (Function.update_of_ne hj below layers).symm ▸ List.suffix_rfl
  refine ⟨h.initial, fun j => ?_, hnodup, hkept.trans h.kept, fun j => ?_,
    fun j u hu => h.named j u ((hsub j).mem hu), fun j => (h.sorted j).sublist (hsub j).sublist,
    fun j u hu => hnext ▸ h.fresh j u ((hsub j).mem hu), hnext ▸ h.next_le⟩
  · by_cases hj : j = k
    · subst hj
      rw [Function.update_self, hself]
    · rw [Function.update_of_ne hj, hne j hj, h.lookup_eq]
  · by_cases hj : j = k
    · subst hj
      rw [Function.update_self]
      exact h.base_of_cons hk hnew
    · rw [Function.update_of_ne hj]
      exact h.base j

/-- A name whose only layer is newer than the other registry is no name of that one. -/
theorem notMem_names (h : Layered r₀ r layers) {k : String} {t : NodeType} (hk : layers k = [t])
    (hnew : r₀.next ≤ t.serial) : k ∉ r₀.entries.map Prod.fst := by
  obtain ⟨above, ha, -⟩ := h.base_of_cons hk hnew
  rw [← lookup_isSome_iff]
  cases hl : r₀.entries.lookup k with
  | none => simp
  | some u => simp [hl] at ha

/-- A name that loses its only layer is unregistered. -/
theorem unregister (h : Layered r₀ r layers) {name : String} {t : NodeType}
    (ht : layers (typeKey name) = [t]) (hnew : r₀.next ≤ t.serial) :
    Layered r₀ (r.unregister name).2 (Function.update layers (typeKey name) []) := by
  have hfilter : (r.unregister name).2.entries.map Prod.fst =
      (r.entries.map Prod.fst).filter fun k => k ≠ typeKey name := by
    rw [TypeRegistry.unregister, List.filter_map]
    rfl
  refine h.pop ht hnew rfl ?_ (fun j hj => ?_) ?_ ?_
  · rw [TypeRegistry.unregister, lookup_filter_ne, if_pos rfl, List.head?_nil]
  · simp only [TypeRegistry.unregister, lookup_filter_ne, hj, if_false]
  · rw [hfilter]
    exact h.nodup.filter _
  · rw [hfilter, List.filter_filter]
    refine List.filter_congr fun k _ => ?_
    by_cases hk : k = typeKey name
    · rw [hk, decide_eq_false (h.notMem_names ht hnew), Bool.false_and]
    · rw [decide_eq_true hk, Bool.and_true]

/-- A name that loses its first layer is given back to the layer below. -/
theorem restore (h : Layered r₀ r layers) {k : String} {t u : NodeType} {below : List NodeType}
    (hk : layers k = t :: u :: below) (hnew : r₀.next ≤ t.serial) :
    Layered r₀ (r.restore u) (Function.update layers k (u :: below)) := by
  obtain rfl : typeKey u.name = k := h.named _ u (by simp [hk])
  have hin : typeKey u.name ∈ r.entries.map Prod.fst := h.mem_names_iff.2 (by simp [hk])
  have hmap : (r.restore u).entries.map Prod.fst = r.entries.map Prod.fst := by
    rw [TypeRegistry.restore, map_fst_putNamed, if_pos hin]
  refine h.pop hk hnew rfl ?_ (fun j hj => ?_) ?_ ?_
  · exact lookup_putNamed_self _ _ _
  · exact lookup_putNamed_ne _ _ hj
  · rw [hmap]
    exact h.nodup
  · rw [hmap]

/-- A registration that is on top is taken back; one that is covered is kept. -/
theorem revertType (h : Layered r₀ r layers) (plugin : String) (log : Log) {t : TypeRegistration}
    {above below : List NodeType} (ht : layers (typeKey t.name) = above ++ t.nodeType :: below)
    (hprev : t.previous = below.head?) (hnew : r₀.next ≤ t.nodeType.serial) :
    Layered r₀ (PluginRecord.revertType plugin (r, log) t).1
      (if above = [] then Function.update layers (typeKey t.name) below else layers) := by
  have hres : r.resolve t.name = (above ++ t.nodeType :: below).head? := by
    rw [resolve, h.lookup_eq, ht]
  cases above with
  | cons u above =>
    -- The layer on top is newer.
    have hne : t.nodeType.serial < u.serial := by
      have hs := h.sorted (typeKey t.name)
      rw [ht, List.cons_append, List.pairwise_cons] at hs
      exact hs.1 _ (by simp)
    simpa [PluginRecord.revertType, hres, Nat.ne_of_gt hne] using h
  | nil =>
    rw [List.nil_append] at ht hres
    rw [if_pos rfl]
    cases below with
    | nil =>
      have hr : (PluginRecord.revertType plugin (r, log) t).1 = (r.unregister t.name).2 := by
        simp [PluginRecord.revertType, hres, hprev]
      rw [hr]
      exact h.unregister ht hnew
    | cons u below =>
      have hr : (PluginRecord.revertType plugin (r, log) t).1 = r.restore u := by
        simp [PluginRecord.revertType, hres, hprev]
      rw [hr]
      exact h.restore ht hnew

end Layered

end TypeRegistry

end LayoutTree
