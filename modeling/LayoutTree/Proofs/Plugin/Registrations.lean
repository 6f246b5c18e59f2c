import LayoutTree.Proofs.Plugin.Layers

/-!
# Taking back the registrations of a plugin

A plugin registers types one after the other, and each registration keeps what its name stood for
before (`Linked`). As long as the plugin is loaded, its layers under a name lie next to each other
(`Owns`), whatever other plugins do.

The main statement is `Layered.revertTypes`: taking all registrations back removes the layers of
the plugin under the names where they are on top, and no layer under the other names. So the layers
of other plugins stay as they are (`Owns.revertTypes`).
-/

namespace LayoutTree

open TypeRegistry

namespace TypeRegistration

/-- The registrations under a name. -/
def under (k : String) (ts : List TypeRegistration) : List TypeRegistration :=
  ts.filter fun t => typeKey t.name = k

/-- The registered types. -/
def layersOf (ts : List TypeRegistration) : List NodeType := ts.map (·.nodeType)

/-- Registrations under one name, the latest first, each of which keeps what it covered: the one
before it, or what was there before. -/
def Linked (below : List NodeType) : List TypeRegistration → Prop
  | [] => True
  | t :: earlier => t.previous = (layersOf earlier ++ below).head? ∧ Linked below earlier

/-- The layers of registrations, the latest first, lie next to each other under each name, and the
registrations keep what they covered. -/
def Owns (layers : String → List NodeType) (ts : List TypeRegistration) : Prop :=
  ∀ k, ∃ above below, layers k = above ++ (layersOf (under k ts) ++ below) ∧
    Linked below (under k ts)

theorem mem_under {k : String} {ts : List TypeRegistration} {t : TypeRegistration} :
    t ∈ under k ts ↔ t ∈ ts ∧ typeKey t.name = k := by
  simp [under]

theorem under_cons_self (t : TypeRegistration) (ts : List TypeRegistration) :
    under (typeKey t.name) (t :: ts) = t :: under (typeKey t.name) ts :=
  List.filter_cons_of_pos (by simp)

theorem under_cons_of_ne {k : String} {t : TypeRegistration} (h : typeKey t.name ≠ k)
    (ts : List TypeRegistration) : under k (t :: ts) = under k ts :=
  List.filter_cons_of_neg (by simpa using h)

theorem layersOf_cons (t : TypeRegistration) (ts : List TypeRegistration) :
    layersOf (t :: ts) = t.nodeType :: layersOf ts := rfl

theorem mem_layersOf_under {k : String} {ts : List TypeRegistration} {e : NodeType}
    (h : e ∈ layersOf (under k ts)) : e ∈ layersOf ts := by
  obtain ⟨t, ht, rfl⟩ := List.mem_map.1 h
  exact List.mem_map.2 ⟨t, (mem_under.1 ht).1, rfl⟩

/-- A registration puts one layer on top of its name. -/
theorem layersOf_under_cons (t : TypeRegistration) (ts : List TypeRegistration)
    (layers : String → List NodeType) :
    (fun k => layersOf (under k (t :: ts)) ++ layers k) =
      Function.update (fun k => layersOf (under k ts) ++ layers k) (typeKey t.name)
        (t.nodeType :: (layersOf (under (typeKey t.name) ts) ++ layers (typeKey t.name))) := by
  funext k
  by_cases hk : k = typeKey t.name
  · rw [hk, Function.update_self, under_cons_self, layersOf_cons, List.cons_append]
  · rw [Function.update_of_ne hk, under_cons_of_ne (Ne.symm hk)]

/-- The earliest registration keeps what was there before. -/
theorem Linked.exists_previous_eq {below : List NodeType} {ts : List TypeRegistration}
    (h : Linked below ts) (hne : ts ≠ []) : ∃ t ∈ ts, t.previous = below.head? := by
  induction ts with
  | nil => exact absurd rfl hne
  | cons t ts ih =>
    by_cases hts : ts = []
    · subst hts
      exact ⟨t, List.mem_cons_self, h.1⟩
    · obtain ⟨u, hu, hprev⟩ := ih h.2 hts
      exact ⟨u, List.mem_cons_of_mem _ hu, hprev⟩

/-- What a registration keeps is registered by another one or was there before. -/
theorem Linked.head?_of_previous {below : List NodeType} {ts : List TypeRegistration}
    (h : Linked below ts) {t : TypeRegistration} (ht : t ∈ ts) {e : NodeType}
    (hprev : t.previous = some e) (he : e ∉ layersOf ts) : below.head? = some e := by
  induction ts with
  | nil => cases ht
  | cons u ts ih =>
    have he' : e ∉ layersOf ts := fun hmem => he (List.mem_cons_of_mem _ hmem)
    rcases List.mem_cons.1 ht with rfl | ht
    · cases ts with
      | nil => rw [← hprev, h.1]; rfl
      | cons v ts =>
        have hv : t.previous = some v.nodeType := h.1
        rw [hv, Option.some.injEq] at hprev
        exact absurd (hprev ▸ List.mem_cons_self) he'
    · exact ih h.2 ht he'

/-- What a registration keeps is registered before it, or was there before. -/
theorem Linked.mem_of_previous {below : List NodeType} {ts : List TypeRegistration}
    (h : Linked below ts) {t : TypeRegistration} (ht : t ∈ ts) {e : NodeType}
    (he : t.previous = some e) : e ∈ layersOf ts ++ below := by
  induction ts with
  | nil => exact absurd ht List.not_mem_nil
  | cons u ts ih =>
    rw [layersOf_cons, List.cons_append]
    refine List.mem_cons_of_mem _ ?_
    rcases List.mem_cons.1 ht with rfl | ht
    · exact List.mem_of_head? (h.1.symm.trans he)
    · exact ih h.2 ht

/-- A list inside of another one stays inside when a part without common members is taken away from
the front. -/
theorem exists_eq_append_of_disjoint {α : Type} {front rest above inner below : List α}
    (h : front ++ rest = above ++ (inner ++ below)) (hne : inner ≠ [])
    (hdisj : inner.Disjoint front) : ∃ above', rest = above' ++ (inner ++ below) := by
  rcases List.append_eq_append_iff.1 h with ⟨mid, -, hrest⟩ | ⟨mid, hfront, hinner⟩
  · exact ⟨mid, hrest⟩
  · cases mid with
    | nil => exact ⟨[], by simpa using hinner.symm⟩
    | cons a mid =>
      cases inner with
      | nil => exact absurd rfl hne
      | cons b inner =>
        rw [List.cons_append, List.cons_append, List.cons.injEq] at hinner
        exact absurd (by simp [hfront, hinner.1]) (hdisj (a := b) List.mem_cons_self)

theorem Owns.of_append {layers layers' new : String → List NodeType} {ts : List TypeRegistration}
    (h : Owns layers ts) (hlayers : ∀ k, layers' k = new k ++ layers k) : Owns layers' ts := by
  intro k
  obtain ⟨above, below, heq, hlinked⟩ := h k
  exact ⟨new k ++ above, below, by rw [hlayers, heq, List.append_assoc], hlinked⟩

end TypeRegistration

open TypeRegistration

/-- Registrations taken back, the latest first: where they are on top of a name, what they covered
is there again, and where they are covered, nothing changes. -/
theorem TypeRegistry.Layered.revertTypes {r₀ : TypeRegistry} (plugin : String) (log : Log)
    {ts : List TypeRegistration} {r : TypeRegistry}
    {layers above below : String → List NodeType} (h : Layered r₀ r layers)
    (hlayers : ∀ k, layers k = above k ++ (layersOf (under k ts) ++ below k))
    (hlinked : ∀ k, Linked (below k) (under k ts))
    (hnew : ∀ t ∈ ts, r₀.next ≤ t.nodeType.serial) :
    Layered r₀ (ts.foldl (PluginRecord.revertType plugin) (r, log)).1
      fun k => if above k = [] then below k else layers k := by
  induction ts generalizing log r layers above with
  | nil =>
    have heq : (fun k => if above k = [] then below k else layers k) = layers := by
      funext k
      split
      · next hk => rw [hlayers k, hk]; rfl
      · rfl
    rw [heq]
    exact h
  | cons t ts ih =>
    obtain ⟨hprev, -⟩ := under_cons_self t ts ▸ hlinked (typeKey t.name)
    have htop := hlayers (typeKey t.name)
    rw [under_cons_self, layersOf_cons, List.cons_append] at htop
    have hstep := h.revertType plugin log htop hprev (hnew t List.mem_cons_self)
    have hlinked' : ∀ k, Linked (below k) (under k ts) := by
      intro k
      by_cases hk : typeKey t.name = k
      · subst hk
        exact (under_cons_self t ts ▸ hlinked (typeKey t.name)).2
      · exact under_cons_of_ne hk ts ▸ hlinked k
    have hnew' : ∀ u ∈ ts, r₀.next ≤ u.nodeType.serial := fun u hu =>
      hnew u (List.mem_cons_of_mem _ hu)
    rw [List.foldl_cons]
    by_cases hcovered : above (typeKey t.name) = []
    · rw [if_pos hcovered] at hstep
      have hrest := @ih (PluginRecord.revertType plugin (r, log) t).2 _ _ above hstep
        (fun k => ?_) hlinked' hnew'
      · convert hrest using 2 with k
        by_cases hk : k = typeKey t.name
        · rw [hk, if_pos hcovered, if_pos hcovered]
        · rw [Function.update_of_ne hk]
      · by_cases hk : k = typeKey t.name
        · rw [hk, Function.update_self, hcovered, List.nil_append]
        · rw [Function.update_of_ne hk, hlayers k, under_cons_of_ne (Ne.symm hk)]
    · -- The layer stays, and covers those of the remaining registrations.
      rw [if_neg hcovered] at hstep
      have hrest := @ih (PluginRecord.revertType plugin (r, log) t).2 _ _
        (Function.update above (typeKey t.name) (above (typeKey t.name) ++ [t.nodeType]))
        hstep (fun k => ?_) hlinked' hnew'
      · convert hrest using 2 with k
        by_cases hk : k = typeKey t.name
        · rw [hk, Function.update_self, if_neg hcovered, if_neg (by simp)]
        · rw [Function.update_of_ne hk]
      · by_cases hk : k = typeKey t.name
        · rw [hk, Function.update_self, htop, List.append_assoc, List.singleton_append]
        · rw [Function.update_of_ne hk, hlayers k, under_cons_of_ne (Ne.symm hk)]

section Revert

variable {r₀ r : TypeRegistry} {ts : List TypeRegistration}
  {layers above below : String → List NodeType}

/-- The layers of other registrations still lie next to each other. -/
theorem TypeRegistration.Owns.revertTypes {us : List TypeRegistration} (h : Owns layers us)
    (hlayers : ∀ k, layers k = above k ++ (layersOf (under k ts) ++ below k))
    (hdisj : (layersOf us).Disjoint (layersOf ts)) :
    Owns (fun k => if above k = [] then below k else layers k) us := by
  intro k
  dsimp only
  split
  · next habove =>
    obtain ⟨above', below', heq, hlinked⟩ := h k
    by_cases hus : under k us = []
    · exact ⟨below k, [], by simp [hus, layersOf], hus ▸ trivial⟩
    · rw [hlayers k, habove, List.nil_append] at heq
      obtain ⟨above'', hbelow⟩ := exists_eq_append_of_disjoint heq (by simpa [layersOf] using hus)
        fun e he he' => hdisj (mem_layersOf_under he) (mem_layersOf_under he')
      exact ⟨above'', below', hbelow, hlinked⟩
  · exact h k

/-- A registered type that is a layer of a name is registered under that name. -/
theorem TypeRegistry.Layered.mem_under (h : Layered r₀ r layers)
    (hlayers : ∀ k, layers k = above k ++ (layersOf (under k ts) ++ below k)) {k : String}
    {e : NodeType} (he : e ∈ layersOf ts) (hk : e ∈ layers k) : e ∈ layersOf (under k ts) := by
  obtain ⟨t, ht, rfl⟩ := List.mem_map.1 he
  have hmem : t.nodeType ∈ layersOf (under (typeKey t.name) ts) :=
    List.mem_map.2 ⟨t, TypeRegistration.mem_under.2 ⟨ht, rfl⟩, rfl⟩
  have hlayer : t.nodeType ∈ layers (typeKey t.name) := by
    rw [hlayers]
    exact List.mem_append_right _ (List.mem_append_left _ hmem)
  rwa [← h.named k _ hk, h.named _ _ hlayer]

/-- A type that a name stands for after registrations are taken back is none of them. It was there
before, or a registration kept it and is taken back from the top. -/
theorem TypeRegistry.Layered.of_head?_revert (h : Layered r₀ r layers)
    (hlayers : ∀ k, layers k = above k ++ (layersOf (under k ts) ++ below k))
    (hlinked : ∀ k, Linked (below k) (under k ts)) {k : String} {e : NodeType}
    (he : (if above k = [] then below k else layers k).head? = some e) :
    e ∉ layersOf ts ∧ ((layers k).head? = some e ∨ ∃ t ∈ ts, typeKey t.name = k ∧
      (∃ u ∈ ts, (layers k).head? = some u.nodeType) ∧ t.previous = some e) := by
  have hnodup := h.nodup_layers k
  rw [hlayers k] at hnodup
  split at he
  · next habove =>
    have hmem : e ∈ below k := List.mem_of_head? he
    have hk : layers k = layersOf (under k ts) ++ below k := by
      rw [hlayers k, habove, List.nil_append]
    rw [habove, List.nil_append, List.nodup_append'] at hnodup
    refine ⟨fun hts => hnodup.2.2 (h.mem_under hlayers hts ?_) hmem, ?_⟩
    · rw [hk]
      exact List.mem_append_right _ hmem
    · by_cases hnone : under k ts = []
      · left
        rw [hk, hnone]
        exact he
      · right
        obtain ⟨t, ht, hprev⟩ := (hlinked k).exists_previous_eq hnone
        obtain ⟨u, us, hus⟩ := List.exists_cons_of_ne_nil hnone
        have hu : u ∈ under k ts := by rw [hus]; exact List.mem_cons_self
        refine ⟨t, (TypeRegistration.mem_under.1 ht).1, (TypeRegistration.mem_under.1 ht).2,
          ⟨u, (TypeRegistration.mem_under.1 hu).1, ?_⟩, hprev.trans he⟩
        rw [hk, hus]
        rfl
  · next habove =>
    obtain ⟨a, as, has⟩ := List.exists_cons_of_ne_nil habove
    have hea : a = e := by
      rw [hlayers k, has] at he
      exact Option.some.inj he
    refine ⟨fun hts => ?_, Or.inl he⟩
    have hunder := h.mem_under hlayers hts (List.mem_of_head? he)
    rw [has, List.cons_append, List.nodup_cons] at hnodup
    exact hnodup.1 (hea ▸ List.mem_append_right _ (List.mem_append_left _ hunder))

/-- What a registration kept is there again when it is taken back from the top, unless that was a
registration as well. -/
theorem TypeRegistry.Layered.head?_revert_of_previous (h : Layered r₀ r layers)
    (hlayers : ∀ k, layers k = above k ++ (layersOf (under k ts) ++ below k))
    (hlinked : ∀ k, Linked (below k) (under k ts)) {t u : TypeRegistration} {e : NodeType}
    (ht : t ∈ ts) (hu : u ∈ ts) (htop : (layers (typeKey t.name)).head? = some u.nodeType)
    (hprev : t.previous = some e) (he : e ∉ layersOf ts) :
    (if above (typeKey t.name) = [] then below (typeKey t.name)
      else layers (typeKey t.name)).head? = some e := by
  have hunder : u.nodeType ∈ layersOf (under (typeKey t.name) ts) :=
    h.mem_under hlayers (List.mem_map.2 ⟨u, hu, rfl⟩) (List.mem_of_head? htop)
  have habove : above (typeKey t.name) = [] := by
    by_contra hne
    obtain ⟨a, as, has⟩ := List.exists_cons_of_ne_nil hne
    have hnodup := h.nodup_layers (typeKey t.name)
    rw [hlayers, has] at htop hnodup
    rw [List.cons_append, List.nodup_cons] at hnodup
    have ha : a = u.nodeType := Option.some.inj htop
    exact hnodup.1 (ha ▸ List.mem_append_right _ (List.mem_append_left _ hunder))
  rw [if_pos habove]
  exact (hlinked _).head?_of_previous (TypeRegistration.mem_under.2 ⟨ht, rfl⟩) hprev
    fun hmem => he (mem_layersOf_under hmem)

end Revert

end LayoutTree
