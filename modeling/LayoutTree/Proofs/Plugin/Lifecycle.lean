import LayoutTree.Plugin.Manager
import LayoutTree.Proofs.Plugin.Actions
import Mathlib.Data.List.Induction

/-!
# Loading and unloading in any order

Plugins are loaded and unloaded by calls to a manager, in any order (`PluginCall.runAll`). What a
registry then consists of is described by `Consistent`: its chains are what the loaded plugins
registered, in front of what was there at the start, and each loaded plugin owns layers under the
names of types. One call keeps this (`Consistent.run`), so every sequence of calls does
(`consistent_runAll`).

So setters, validators and converters are always accounted for: each of them was there at the start
or is registered by a loaded plugin. Types need not be: a registration keeps what its name stood for
before, and when it is taken back it brings that back, even if the plugin that registered it is no
longer loaded (`BringsBack`). The main statement is `accounted_iff_not_bringsBack`: this is the only
way in which a type comes to be unaccounted for.
-/

namespace LayoutTree

open TypeRegistry TypeRegistration

/-! ## Calls -/

/-- A manager with the registry that its plugins extend. -/
structure PluginState where
  manager : PluginManager
  registry : Registry

/-- A call to a manager. -/
inductive PluginCall
  /-- A plugin is loaded. -/
  | load (p : Plugin)
  /-- The plugin of a name is unloaded. -/
  | unload (name : String)

namespace PluginCall

/-- One call. -/
def run (s : PluginState) : PluginCall → PluginState
  | load p => ⟨(s.manager.load s.registry p).manager, (s.manager.load s.registry p).registry⟩
  | unload name =>
    ⟨(s.manager.unload s.registry name).manager, (s.manager.unload s.registry name).registry⟩

/-- Calls one after the other. -/
def runAll (s : PluginState) (calls : List PluginCall) : PluginState := calls.foldl run s

end PluginCall

/-- A manager without plugins and a registry. -/
def PluginState.start (strict : Bool) (r : Registry) : PluginState := ⟨.empty strict, r⟩

/-- Plugins that register different things. -/
structure Plugin.Apart (p q : Plugin) : Prop where
  setters : (p.setters.map Keyed.key).Disjoint (q.setters.map Keyed.key)
  validators : (p.validators.map Keyed.key).Disjoint (q.validators.map Keyed.key)
  converters : (p.converters.map Keyed.key).Disjoint (q.converters.map Keyed.key)

/-- Calls that load different things under different names. -/
def PluginCall.Distinct (calls : List PluginCall) : Prop :=
  ∀ p q, .load p ∈ calls → .load q ∈ calls → p.name ≠ q.name → p.Apart q

/-! ## What one call does -/

namespace PluginManager

/-- Loading changes nothing, takes back what the plugin did, or adds the plugin. -/
theorem load_cases (m : PluginManager) (r : Registry) (p : Plugin) :
    ((m.load r p).manager = m ∧ (m.load r p).registry = r) ∨
    ((m.load r p).manager = m ∧
      (m.load r p).registry = ((p.takeAll r).record.revert p.name (p.takeAll r).registry).1) ∨
    (p.name ∉ m.names ∧ (m.load r p).manager.loaded = m.loaded ++ [⟨p, (p.takeAll r).record⟩] ∧
      (m.load r p).registry = (p.takeAll r).registry) := by
  rw [load]
  split
  · exact Or.inl ⟨rfl, rfl⟩
  · next hfind =>
    dsimp only
    split
    · exact Or.inr (Or.inl ⟨rfl, rfl⟩)
    · refine Or.inr (Or.inr ⟨fun hmem => hfind ?_, rfl, rfl⟩)
      obtain ⟨l, hl, hname⟩ := List.mem_map.1 hmem
      exact List.find?_isSome.2 ⟨l, hl, decide_eq_true hname⟩

/-- Unloading changes nothing, or takes one plugin out and its record back. -/
theorem unload_cases (m : PluginManager) (r : Registry) (name : String) :
    (name ∉ m.names ∧ (m.unload r name).manager = m ∧ (m.unload r name).registry = r) ∨
    ∃ before l after, m.loaded = before ++ l :: after ∧ l.plugin.name = name ∧
      (m.unload r name).manager.loaded = before ++ after ∧
      (m.unload r name).registry = (l.record.revert name r).1 := by
  rw [unload]
  split
  · next hfind =>
    refine Or.inl ⟨fun hmem => ?_, rfl, rfl⟩
    obtain ⟨l, hl, hname⟩ := List.mem_map.1 hmem
    exact List.find?_eq_none.1 hfind l hl (decide_eq_true hname)
  · next l hfind =>
    obtain ⟨hname, before, after, heq, hbefore⟩ := List.find?_eq_some_iff_append.1 hfind
    refine Or.inr ⟨before, l, after, heq, of_decide_eq_true hname, ?_, rfl⟩
    have hskip : ∀ a ∈ before, ¬ decide (a.plugin.name = name) = true := by
      intro a ha
      simpa using hbefore a ha
    dsimp only
    rw [heq, List.eraseP_append_right _ hskip]
    simp only [List.eraseP_cons, hname, cond_true]

end PluginManager

/-! ## What a registry consists of -/

/-- A registry is what the loaded plugins made of another one. -/
structure Consistent (r₀ : Registry) (layers : String → List NodeType) (s : PluginState) : Prop where
  nodup : s.manager.names.Nodup
  complete : ∀ l ∈ s.manager.loaded, l.record.Complete l.plugin
  setters : s.registry.setters.members =
    s.manager.loaded.reverse.flatMap (fun l => l.record.setters.reverse) ++ r₀.setters.members
  validators : s.registry.validators.members =
    s.manager.loaded.reverse.flatMap (fun l => l.record.validators.reverse) ++ r₀.validators.members
  converters : s.registry.conversion.converters.members =
    s.manager.loaded.reverse.flatMap (fun l => l.record.converters.reverse) ++
      r₀.conversion.converters.members
  layered : Layered r₀.types s.registry.types layers
  /-- The types of a loaded plugin are layers. -/
  owns : ∀ l ∈ s.manager.loaded, Owns layers l.record.types.reverse
  /-- They are newer than the types in the other registry. -/
  new : ∀ l ∈ s.manager.loaded, ∀ t ∈ l.record.types, r₀.types.next ≤ t.nodeType.serial
  /-- No type is registered by two plugins. -/
  disjoint : s.manager.loaded.Pairwise fun l l' =>
    (layersOf l.record.types).Disjoint (layersOf l'.record.types)

theorem mem_layersOf_reverse {ts : List TypeRegistration} {e : NodeType} :
    e ∈ layersOf ts.reverse ↔ e ∈ layersOf ts := by
  simp [layersOf]

namespace Consistent

variable {r₀ : Registry} {layers : String → List NodeType} {s : PluginState}

theorem start (h : r₀.types.WellFormed) (strict : Bool) :
    Consistent r₀ (fun k => (r₀.types.entries.lookup k).toList) (.start strict r₀) where
  nodup := List.nodup_nil
  complete _ hl := absurd hl List.not_mem_nil
  setters := rfl
  validators := rfl
  converters := rfl
  layered := .refl h
  owns _ hl := absurd hl List.not_mem_nil
  new _ hl := absurd hl List.not_mem_nil
  disjoint := List.Pairwise.nil

/-- A type of a loaded plugin is older than the next one. -/
theorem serial_lt (h : Consistent r₀ layers s) {l : LoadedPlugin} (hl : l ∈ s.manager.loaded)
    {e : NodeType} (he : e ∈ layersOf l.record.types) : e.serial < s.registry.types.next := by
  obtain ⟨t, ht, rfl⟩ := List.mem_map.1 he
  obtain ⟨above, below, heq, -⟩ := h.owns l hl (typeKey t.name)
  refine h.layered.fresh (typeKey t.name) _ ?_
  rw [heq]
  refine List.mem_append_right _ (List.mem_append_left _ (List.mem_map.2 ⟨t, ?_, rfl⟩))
  exact TypeRegistration.mem_under.2 ⟨List.mem_reverse.2 ht, rfl⟩

end Consistent

/-- Removing what one of several plugins registered leaves what the others registered. -/
theorem Chain.removeAll_flatMap {α : Type} [Keyed α] {c : Chain α} (f : LoadedPlugin → List α)
    {before after : List LoadedPlugin} {l : LoadedPlugin} {base : List α}
    (hc : c.members = (before ++ l :: after).reverse.flatMap (fun l => (f l).reverse) ++ base)
    (hdisj : ∀ l' ∈ after, ((f l').map Keyed.key).Disjoint ((f l).map Keyed.key)) :
    (c.removeAll (f l)).members =
      (before ++ after).reverse.flatMap (fun l => (f l).reverse) ++ base := by
  have hsplit : c.members = after.reverse.flatMap (fun l => (f l).reverse) ++ ((f l).reverse ++
      (before.reverse.flatMap (fun l => (f l).reverse) ++ base)) := by
    rw [hc]
    simp
  rw [removeAll_members hsplit ((List.reverse_perm (f l)).map _) ?_]
  · simp
  · intro k hk hkl
    obtain ⟨a, ha, rfl⟩ := List.mem_map.1 hk
    obtain ⟨l', hl', hal'⟩ := List.mem_flatMap.1 ha
    exact hdisj l' (List.mem_reverse.1 hl') (List.mem_map.2 ⟨a, List.mem_reverse.1 hal', rfl⟩) hkl

/-- Removing what was put in front leaves the rest. -/
theorem Chain.removeAll_reverse_append {α : Type} [Keyed α] {c : Chain α} {l base : List α}
    (hc : c.members = l.reverse ++ base) : (c.removeAll l).members = base := by
  have hsplit : c.members = [] ++ (l.reverse ++ base) := hc
  rw [removeAll_members hsplit ((List.reverse_perm l).map _) (by simp), List.nil_append]

/-- A type that a loaded plugin registered. -/
def PluginManager.Registers (m : PluginManager) (e : NodeType) : Prop :=
  ∃ l ∈ m.loaded, e ∈ layersOf l.record.types

namespace Consistent

variable {r₀ : Registry} {layers : String → List NodeType} {s : PluginState}

/-- A plugin that fails is taken back as a whole. -/
theorem revert (h : Consistent r₀ layers s) (p : Plugin) {s' : PluginState}
    (hm : s'.manager = s.manager)
    (hr : s'.registry =
      ((p.takeAll s.registry).record.revert p.name (p.takeAll s.registry).registry).1) :
    Consistent r₀ layers s' := by
  have hext := extends_takeAll h.layered p
  obtain ⟨htypes, hsetters, hvalidators, hconverters⟩ :=
    (p.takeAll s.registry).record.revert_eq p.name (p.takeAll s.registry).registry
  have hontop : ∀ k, layersOf (under k (p.takeAll s.registry).record.types.reverse) ++ layers k =
      (fun _ => []) k ++
        (layersOf (under k (p.takeAll s.registry).record.types.reverse) ++ layers k) :=
    fun _ => rfl
  have hlayered := hext.layered.revertTypes p.name [] hontop hext.linked fun t ht =>
    Nat.le_trans h.layered.next_le (hext.new t (List.mem_reverse.1 ht))
  rw [← htypes, ← hr] at hlayered
  refine ⟨hm ▸ h.nodup, hm ▸ h.complete, ?_, ?_, ?_, by simpa using hlayered, hm ▸ h.owns,
    hm ▸ h.new, hm ▸ h.disjoint⟩
  · rw [hm, ← h.setters, hr, hsetters]
    exact Chain.removeAll_reverse_append hext.setters
  · rw [hm, ← h.validators, hr, hvalidators]
    exact Chain.removeAll_reverse_append hext.validators
  · rw [hm, ← h.converters, hr, hconverters]
    exact Chain.removeAll_reverse_append hext.converters

/-- A plugin that is loaded puts its types on top. -/
theorem add (h : Consistent r₀ layers s) {p : Plugin} (hname : p.name ∉ s.manager.names)
    {s' : PluginState}
    (hm : s'.manager.loaded = s.manager.loaded ++ [⟨p, (p.takeAll s.registry).record⟩])
    (hr : s'.registry = (p.takeAll s.registry).registry) :
    Consistent r₀
      (fun k => layersOf (under k (p.takeAll s.registry).record.types.reverse) ++ layers k)
      s' := by
  have hext := extends_takeAll h.layered p
  have hmem : ∀ l ∈ s'.manager.loaded,
      l ∈ s.manager.loaded ∨ l = ⟨p, (p.takeAll s.registry).record⟩ := by
    intro l hl
    rw [hm, List.mem_append, List.mem_singleton] at hl
    exact hl
  refine ⟨?_, fun l hl => ?_, ?_, ?_, ?_, hr ▸ hext.layered, fun l hl => ?_, fun l hl t ht => ?_, ?_⟩
  · simp only [PluginManager.names, hm, List.map_append, List.map_singleton]
    rw [List.nodup_append']
    exact ⟨h.nodup, List.nodup_singleton _, List.disjoint_singleton.2 hname⟩
  · rcases hmem l hl with hl | rfl
    · exact h.complete l hl
    · exact complete_takeAll p s.registry
  · rw [hr, hm, hext.setters, h.setters]
    simp
  · rw [hr, hm, hext.validators, h.validators]
    simp
  · rw [hr, hm, hext.converters, h.converters]
    simp
  · rcases hmem l hl with hl | rfl
    · exact (h.owns l hl).of_append fun k => rfl
    · exact fun k => ⟨[], layers k, rfl, hext.linked k⟩
  · rcases hmem l hl with hl | rfl
    · exact h.new l hl t ht
    · exact Nat.le_trans h.layered.next_le (hext.new t ht)
  · rw [hm, List.pairwise_append]
    refine ⟨h.disjoint, List.pairwise_singleton _ _, fun l hl l' hl' e he he' => ?_⟩
    rw [List.mem_singleton.1 hl'] at he'
    obtain ⟨t, ht, rfl⟩ := List.mem_map.1 he'
    exact absurd (h.serial_lt hl he) (Nat.not_lt.2 (hext.new t ht))

/-- A call that loads a plugin. A name stands for what it stood for before, or for a type of a
loaded plugin. -/
theorem load (h : Consistent r₀ layers s) (p : Plugin) :
    ∃ layers', Consistent r₀ layers' (PluginCall.run s (.load p)) ∧
      (∀ e, s.manager.Registers e → (PluginCall.run s (.load p)).manager.Registers e) ∧
      ∀ k e, (layers' k).head? = some e →
        (layers k).head? = some e ∨ (PluginCall.run s (.load p)).manager.Registers e := by
  rw [PluginCall.run]
  rcases s.manager.load_cases s.registry p with ⟨hm, hr⟩ | ⟨hm, hr⟩ | ⟨hname, hm, hr⟩
  · rw [hm, hr]
    exact ⟨layers, h, fun _ he => he, fun _ _ he => Or.inl he⟩
  · exact ⟨layers, h.revert p hm hr, fun _ he => by simpa only [hm] using he, fun _ _ he => Or.inl he⟩
  · refine ⟨_, h.add hname hm hr, fun e ⟨l, hl, he⟩ => ⟨l, ?_, he⟩, fun k e he => ?_⟩
    · rw [hm]
      exact List.mem_append_left _ hl
    · rw [List.head?_append, Option.or_eq_some_iff] at he
      rcases he with he | ⟨-, he⟩
      · refine Or.inr ⟨⟨p, (p.takeAll s.registry).record⟩, by rw [hm]; simp, ?_⟩
        exact mem_layersOf_reverse.1 (mem_layersOf_under (List.mem_of_head? he))
      · exact Or.inl he

/-- Loaded plugins of different names register different things. -/
def Apart (s : PluginState) : Prop :=
  ∀ l ∈ s.manager.loaded, ∀ l' ∈ s.manager.loaded, l.plugin.name ≠ l'.plugin.name →
    l.plugin.Apart l'.plugin

section Remove

variable {before after : List LoadedPlugin} {l : LoadedPlugin}

/-- What is loaded after a plugin is of another name, hence apart from it. -/
theorem apart_of_mem_after (h : Consistent r₀ layers s) (hapart : Apart s)
    (hl : s.manager.loaded = before ++ l :: after) {l' : LoadedPlugin} (hl' : l' ∈ after) :
    l'.plugin.Apart l.plugin := by
  have hnodup := h.nodup
  rw [PluginManager.names, hl, List.map_append, List.map_cons, List.nodup_append',
    List.nodup_cons] at hnodup
  refine hapart l' (hl ▸ by simp [hl']) l (hl ▸ by simp) fun hname => ?_
  exact hnodup.2.1.1 (List.mem_map.2 ⟨l', hl', hname⟩)

/-- No type of a plugin is one of another plugin that is loaded. -/
theorem disjoint_layersOf (h : Consistent r₀ layers s)
    (hl : s.manager.loaded = before ++ l :: after) {l' : LoadedPlugin} (hl' : l' ∈ before ++ after) :
    (layersOf l'.record.types).Disjoint (layersOf l.record.types) := by
  have hpairwise := h.disjoint
  rw [hl, List.pairwise_append, List.pairwise_cons] at hpairwise
  obtain ⟨-, ⟨hafter, -⟩, hbefore⟩ := hpairwise
  rcases List.mem_append.1 hl' with hl' | hl'
  · exact hbefore l' hl' l List.mem_cons_self
  · exact fun e he he' => hafter l' hl' he' he

/-- A plugin that is unloaded is taken out of the chains and of the layers that it is on top of. -/
theorem remove (h : Consistent r₀ layers s) (hapart : Apart s)
    (hl : s.manager.loaded = before ++ l :: after) {s' : PluginState}
    (hm : s'.manager.loaded = before ++ after)
    (hr : s'.registry = (l.record.revert l.plugin.name s.registry).1)
    {above below : String → List NodeType}
    (hlayers : ∀ k, layers k = above k ++ (layersOf (under k l.record.types.reverse) ++ below k))
    (hlinked : ∀ k, Linked (below k) (under k l.record.types.reverse)) :
    Consistent r₀ (fun k => if above k = [] then below k else layers k) s' := by
  obtain ⟨htypes, hsetters, hvalidators, hconverters⟩ :=
    l.record.revert_eq l.plugin.name s.registry
  have hmem : ∀ l' ∈ before ++ after, l' ∈ s.manager.loaded := by
    intro l' hl'
    rw [hl]
    simp only [List.mem_append, List.mem_cons] at hl' ⊢
    tauto
  have hlmem : l ∈ s.manager.loaded := by rw [hl]; simp
  have hsub : (before ++ after).Sublist s.manager.loaded := by
    rw [hl]
    exact (List.Sublist.refl before).append (List.sublist_cons_self _ _)
  refine ⟨?_, fun l' hl' => h.complete l' (hmem l' (hm ▸ hl')), ?_, ?_, ?_, ?_, fun l' hl' => ?_,
    fun l' hl' => h.new l' (hmem l' (hm ▸ hl')), ?_⟩
  · rw [PluginManager.names, hm]
    exact h.nodup.sublist (hsub.map _)
  · rw [hr, hsetters, hm]
    refine Chain.removeAll_flatMap (fun l => l.record.setters) (hl ▸ h.setters) fun l' hl' => ?_
    rw [(h.complete l' (hmem l' (List.mem_append_right _ hl'))).setters, (h.complete l hlmem).setters]
    exact (h.apart_of_mem_after hapart hl hl').setters
  · rw [hr, hvalidators, hm]
    refine Chain.removeAll_flatMap (fun l => l.record.validators) (hl ▸ h.validators)
      fun l' hl' => ?_
    rw [(h.complete l' (hmem l' (List.mem_append_right _ hl'))).validators,
      (h.complete l hlmem).validators]
    exact (h.apart_of_mem_after hapart hl hl').validators
  · rw [hr, hconverters, hm]
    refine Chain.removeAll_flatMap (fun l => l.record.converters) (hl ▸ h.converters)
      fun l' hl' => ?_
    rw [(h.complete l' (hmem l' (List.mem_append_right _ hl'))).converters,
      (h.complete l hlmem).converters]
    exact (h.apart_of_mem_after hapart hl hl').converters
  · rw [hr, htypes]
    exact h.layered.revertTypes l.plugin.name [] hlayers hlinked fun t ht =>
      h.new l hlmem t (List.mem_reverse.1 ht)
  · have hl'' : l' ∈ before ++ after := hm ▸ hl'
    refine (h.owns l' (hmem l' hl'')).revertTypes hlayers fun e he he' => ?_
    exact h.disjoint_layersOf hl hl'' (mem_layersOf_reverse.1 he) (mem_layersOf_reverse.1 he')
  · rw [hm]
    exact h.disjoint.sublist hsub

end Remove

/-- A call that unloads a plugin. It changes nothing, or one plugin is not loaded any more; then a
name stands for none of its types. Where it stood for one of them, it stands for what a registration
of the plugin kept. -/
theorem unload (h : Consistent r₀ layers s) (hapart : Apart s) (name : String) :
    (name ∉ s.manager.names ∧ PluginCall.run s (.unload name) = s) ∨
    ∃ layers', Consistent r₀ layers' (PluginCall.run s (.unload name)) ∧
      ∃ l ∈ s.manager.loaded, l.plugin.name = name ∧
        (∀ e, s.manager.Registers e ↔ (PluginCall.run s (.unload name)).manager.Registers e ∨
          e ∈ layersOf l.record.types) ∧
        (∀ k e, (layers' k).head? = some e → e ∉ layersOf l.record.types ∧
          ((layers k).head? = some e ∨ ∃ t ∈ l.record.types, typeKey t.name = k ∧
            (∃ u ∈ l.record.types, (layers k).head? = some u.nodeType) ∧ t.previous = some e)) ∧
        ∀ t ∈ l.record.types, ∀ u ∈ l.record.types, ∀ e,
          (layers (typeKey t.name)).head? = some u.nodeType → t.previous = some e →
          e ∉ layersOf l.record.types → (layers' (typeKey t.name)).head? = some e := by
  rw [PluginCall.run]
  rcases s.manager.unload_cases s.registry name with
    ⟨hname, hm, hr⟩ | ⟨before, l, after, hl, rfl, hm, hr⟩
  · left
    rw [hm, hr]
    exact ⟨hname, rfl⟩
  · right
    have hlmem : l ∈ s.manager.loaded := by rw [hl]; simp
    choose above below hlayers hlinked using h.owns l hlmem
    refine ⟨_, h.remove hapart hl hm hr hlayers hlinked, l, hlmem, rfl, fun e => ?_,
      fun k e he => ?_, fun t ht u hu e htop hprev he => ?_⟩
    · simp only [PluginManager.Registers, hm, hl, List.mem_append, List.mem_cons]
      constructor
      · rintro ⟨l', hl' | rfl | hl', he⟩
        · exact Or.inl ⟨l', Or.inl hl', he⟩
        · exact Or.inr he
        · exact Or.inl ⟨l', Or.inr hl', he⟩
      · rintro (⟨l', hl' | hl', he⟩ | he)
        · exact ⟨l', Or.inl hl', he⟩
        · exact ⟨l', Or.inr (Or.inr hl'), he⟩
        · exact ⟨l, Or.inr (Or.inl rfl), he⟩
    · obtain ⟨hnot, hhead⟩ := h.layered.of_head?_revert hlayers hlinked he
      refine ⟨fun hmem => hnot (mem_layersOf_reverse.2 hmem), hhead.imp_right ?_⟩
      rintro ⟨t, ht, hkey, ⟨u, hu, htop⟩, hprev⟩
      exact ⟨t, List.mem_reverse.1 ht, hkey, ⟨u, List.mem_reverse.1 hu, htop⟩, hprev⟩
    · exact h.layered.head?_revert_of_previous hlayers hlinked (List.mem_reverse.2 ht)
        (List.mem_reverse.2 hu) htop hprev fun hmem => he (mem_layersOf_reverse.1 hmem)

end Consistent

/-! ## What is accounted for -/

/-- Each setter, validator and converter was there at the start or is registered by a loaded plugin,
and without loaded plugins they are those of the start. -/
structure ChainsAccounted (r₀ : Registry) (s : PluginState) : Prop where
  setters : ∀ x ∈ s.registry.setters.members,
    x ∈ r₀.setters.members ∨ ∃ l ∈ s.manager.loaded, x ∈ l.plugin.setters
  validators : ∀ x ∈ s.registry.validators.members,
    x ∈ r₀.validators.members ∨ ∃ l ∈ s.manager.loaded, x ∈ l.plugin.validators
  converters : ∀ x ∈ s.registry.conversion.converters.members,
    x ∈ r₀.conversion.converters.members ∨ ∃ l ∈ s.manager.loaded, x ∈ l.plugin.converters
  restored : s.manager.loaded = [] → s.registry.setters = r₀.setters ∧
    s.registry.validators = r₀.validators ∧
    s.registry.conversion.converters = r₀.conversion.converters

/-- Each type was there at the start or is registered by a loaded plugin, and without loaded plugins
the types are those of the start. -/
structure TypesAccounted (r₀ : Registry) (s : PluginState) : Prop where
  types : ∀ e ∈ s.registry.types.entries, e ∈ r₀.types.entries ∨ s.manager.Registers e.2
  restored : s.manager.loaded = [] → s.registry.types.entries = r₀.types.entries

/-- Unloading the plugin of a name brings back a type that was not there at the start and that no
loaded plugin registers: the plugin covers it with one of its types, which a name stands for. -/
def BringsBack (r₀ : Registry) (s : PluginState) (name : String) : Prop :=
  ∃ l ∈ s.manager.loaded, l.plugin.name = name ∧ ∃ t ∈ l.record.types, ∃ u ∈ l.record.types,
    s.registry.types.resolve t.name = some u.nodeType ∧ ∃ e, t.previous = some e ∧
      (typeKey t.name, e) ∉ r₀.types.entries ∧ ¬ s.manager.Registers e

namespace Consistent

variable {r₀ : Registry} {layers : String → List NodeType} {s : PluginState}

theorem mem_or_mem_of_flatMap {α : Type} {loaded : List LoadedPlugin} {f g : LoadedPlugin → List α}
    {base : List α} {x : α} (hfg : ∀ l ∈ loaded, f l = g l)
    (hx : x ∈ loaded.reverse.flatMap (fun l => (f l).reverse) ++ base) :
    x ∈ base ∨ ∃ l ∈ loaded, x ∈ g l := by
  rw [List.mem_append, List.mem_flatMap] at hx
  refine hx.symm.imp_right fun ⟨l, hl, hxl⟩ => ⟨l, List.mem_reverse.1 hl, ?_⟩
  rw [← hfg l (List.mem_reverse.1 hl)]
  exact List.mem_reverse.1 hxl

theorem chainsAccounted (h : Consistent r₀ layers s) : ChainsAccounted r₀ s where
  setters x hx :=
    mem_or_mem_of_flatMap (fun l hl => (h.complete l hl).setters) (h.setters ▸ hx)
  validators x hx :=
    mem_or_mem_of_flatMap (fun l hl => (h.complete l hl).validators) (h.validators ▸ hx)
  converters x hx :=
    mem_or_mem_of_flatMap (fun l hl => (h.complete l hl).converters) (h.converters ▸ hx)
  restored hnone := by
    have hs := h.setters
    have hv := h.validators
    have hc := h.converters
    rw [hnone] at hs hv hc
    exact ⟨congrArg Chain.mk hs, congrArg Chain.mk hv, congrArg Chain.mk hc⟩

/-- Without loaded plugins, types that are accounted for are those of the start. -/
theorem typesAccounted (h : Consistent r₀ layers s)
    (htypes : ∀ k e, (layers k).head? = some e →
      (k, e) ∈ r₀.types.entries ∨ s.manager.Registers e) : TypesAccounted r₀ s := by
  have hentries : ∀ e ∈ s.registry.types.entries,
      e ∈ r₀.types.entries ∨ s.manager.Registers e.2 := fun e he =>
    htypes e.1 e.2 (h.layered.mem_entries_iff.1 he)
  refine ⟨hentries, fun hnone => h.layered.entries_eq fun e he => ?_⟩
  rcases hentries e he with hin | ⟨l, hl, -⟩
  · exact hin
  · rw [hnone] at hl
    exact absurd hl List.not_mem_nil

theorem head?_accounted (h : Consistent r₀ layers s) (hs : TypesAccounted r₀ s) {k : String}
    {e : NodeType} (he : (layers k).head? = some e) :
    (k, e) ∈ r₀.types.entries ∨ s.manager.Registers e :=
  hs.types (k, e) (h.layered.mem_entries_iff.2 he)

end Consistent

/-! ## All calls -/

theorem PluginCall.mem_loaded_run {s : PluginState} {call : PluginCall} {l : LoadedPlugin}
    (hl : l ∈ (call.run s).manager.loaded) : l ∈ s.manager.loaded ∨ call = .load l.plugin := by
  cases call with
  | load p =>
    rw [run] at hl
    rcases s.manager.load_cases s.registry p with ⟨hm, -⟩ | ⟨hm, -⟩ | ⟨-, hm, -⟩
    · exact Or.inl (hm ▸ hl)
    · exact Or.inl (hm ▸ hl)
    · rw [hm, List.mem_append, List.mem_singleton] at hl
      exact hl.imp_right fun heq => by rw [heq]
  | unload name =>
    left
    rw [run] at hl
    rcases s.manager.unload_cases s.registry name with ⟨-, hm, -⟩ | ⟨before, u, after, h, -, hm, -⟩
    · exact hm ▸ hl
    · rw [hm] at hl
      rw [h]
      simp only [List.mem_append, List.mem_cons] at hl ⊢
      tauto

theorem PluginCall.runAll_append_singleton (s : PluginState) (calls : List PluginCall)
    (call : PluginCall) : runAll s (calls ++ [call]) = run (runAll s calls) call := by
  rw [runAll, List.foldl_append]
  rfl

section Run

variable {r₀ : Registry} (strict : Bool) {calls : List PluginCall}

theorem PluginCall.mem_of_mem_loaded {l : LoadedPlugin}
    (hl : l ∈ (runAll (.start strict r₀) calls).manager.loaded) : .load l.plugin ∈ calls := by
  induction calls using List.reverseRecOn with
  | nil => exact absurd hl List.not_mem_nil
  | append_singleton calls call ih =>
    rw [runAll_append_singleton] at hl
    rw [List.mem_append, List.mem_singleton]
    exact (mem_loaded_run hl).imp ih Eq.symm

theorem Consistent.apart_runAll (hd : PluginCall.Distinct calls) :
    Apart (PluginCall.runAll (.start strict r₀) calls) := fun l hl l' hl' =>
  hd l.plugin l'.plugin (PluginCall.mem_of_mem_loaded strict hl)
    (PluginCall.mem_of_mem_loaded strict hl')

theorem PluginCall.Distinct.of_append {rest : List PluginCall}
    (hd : PluginCall.Distinct (calls ++ rest)) : PluginCall.Distinct calls := fun p q hp hq =>
  hd p q (List.mem_append_left _ hp) (List.mem_append_left _ hq)

/-- After any calls, a registry is what the loaded plugins made of the one at the start. -/
theorem consistent_runAll (h : r₀.types.WellFormed) (hd : PluginCall.Distinct calls) :
    ∃ layers, Consistent r₀ layers (PluginCall.runAll (.start strict r₀) calls) := by
  induction calls using List.reverseRecOn with
  | nil => exact ⟨_, .start h strict⟩
  | append_singleton calls call ih =>
    obtain ⟨layers, hlayers⟩ := ih hd.of_append
    rw [PluginCall.runAll_append_singleton]
    cases call with
    | load p =>
      obtain ⟨layers', hlayers', -⟩ := hlayers.load p
      exact ⟨layers', hlayers'⟩
    | unload name =>
      rcases hlayers.unload (Consistent.apart_runAll strict hd.of_append) name with
        ⟨-, heq⟩ | ⟨layers', hlayers', -⟩
      · rw [heq]
        exact ⟨layers, hlayers⟩
      · exact ⟨layers', hlayers'⟩

end Run

/-- One more call leaves the types accounted for unless it brings one back. -/
theorem Consistent.typesAccounted_run {r₀ : Registry} {layers : String → List NodeType}
    {s : PluginState} (h : Consistent r₀ layers s) (hapart : Consistent.Apart s)
    (hs : TypesAccounted r₀ s) {call : PluginCall}
    (hcall : ∀ name, call = .unload name → ¬ BringsBack r₀ s name) :
    TypesAccounted r₀ (call.run s) := by
  cases call with
  | load p =>
    obtain ⟨layers', hlayers', hmono, hhead⟩ := h.load p
    refine hlayers'.typesAccounted fun k e he => ?_
    rcases hhead k e he with he | he
    · exact (h.head?_accounted hs he).imp_right (hmono e)
    · exact Or.inr he
  | unload name =>
    rcases h.unload hapart name with
      ⟨-, heq⟩ | ⟨layers', hlayers', l, hl, hname, hregisters, hhead, -⟩
    · rw [heq]
      exact hs
    · refine hlayers'.typesAccounted fun k e he => ?_
      obtain ⟨hnot, he | ⟨t, ht, rfl, ⟨u, hu, htop⟩, hprev⟩⟩ := hhead k e he
      · exact (h.head?_accounted hs he).imp_right fun hreg =>
          ((hregisters e).1 hreg).resolve_right hnot
      · by_contra hstale
        rw [not_or] at hstale
        refine hcall name rfl ⟨l, hl, hname, t, ht, u, hu, ?_, e, hprev, hstale.1, fun hreg => ?_⟩
        · rw [resolve, h.layered.lookup_eq, htop]
        · exact hstale.2 (((hregisters e).1 hreg).resolve_right hnot)

/-- A call that brings a type back leaves it unaccounted for. -/
theorem Consistent.not_typesAccounted_unload {r₀ : Registry} {layers : String → List NodeType}
    {s : PluginState} (h : Consistent r₀ layers s) (hapart : Consistent.Apart s) {name : String}
    (hback : BringsBack r₀ s name) : ¬ TypesAccounted r₀ (PluginCall.run s (.unload name)) := by
  intro hs
  obtain ⟨l, hl, hname, t, ht, u, hu, htop, e, hprev, hinitial, hreg⟩ := hback
  rcases h.unload hapart name with
    ⟨hnone, -⟩ | ⟨layers', hlayers', l', hl', hname', hregisters, -, hrestored⟩
  · exact hnone (List.mem_map.2 ⟨l, hl, hname⟩)
  · have hll' : l' = l := List.inj_on_of_nodup_map h.nodup hl' hl (hname'.trans hname.symm)
    subst hll'
    rw [resolve, h.layered.lookup_eq] at htop
    have he : e ∉ layersOf l'.record.types := fun hmem => hreg ⟨l', hl, hmem⟩
    rcases hlayers'.head?_accounted hs (hrestored t ht u hu e htop hprev he) with hin | hin
    · exact hinitial hin
    · exact hreg ((hregisters e).2 (Or.inl hin))

/-- **Types are accounted for as long as no call brings one back**, and setters, validators and
converters always are: in every state that calls lead to, each of them was there at the start or is
registered by a loaded plugin, and without loaded plugins they are those of the start. -/
theorem accounted_iff_not_bringsBack {r₀ : Registry} (h : r₀.types.WellFormed) (strict : Bool)
    {calls : List PluginCall} (hd : PluginCall.Distinct calls) :
    (∀ done, done <+: calls → ChainsAccounted r₀ (PluginCall.runAll (.start strict r₀) done)) ∧
    ((∀ done, done <+: calls → TypesAccounted r₀ (PluginCall.runAll (.start strict r₀) done)) ↔
      ∀ done name, done ++ [.unload name] <+: calls →
        ¬ BringsBack r₀ (PluginCall.runAll (.start strict r₀) done) name) := by
  have hconsistent : ∀ done, done <+: calls →
      ∃ layers, Consistent r₀ layers (PluginCall.runAll (.start strict r₀) done) := by
    rintro done ⟨rest, rfl⟩
    exact consistent_runAll strict h hd.of_append
  have hapart : ∀ done, done <+: calls →
      Consistent.Apart (PluginCall.runAll (.start strict r₀) done) := by
    rintro done ⟨rest, rfl⟩
    exact Consistent.apart_runAll strict hd.of_append
  refine ⟨fun done hdone => ?_, fun hall done name hdone hback => ?_, fun hnone done hdone => ?_⟩
  · obtain ⟨layers, hlayers⟩ := hconsistent done hdone
    exact hlayers.chainsAccounted
  · have hdone' : done <+: calls := (List.prefix_append done _).trans hdone
    obtain ⟨layers, hlayers⟩ := hconsistent done hdone'
    refine hlayers.not_typesAccounted_unload (hapart done hdone') hback ?_
    rw [← PluginCall.runAll_append_singleton]
    exact hall _ hdone
  · induction done using List.reverseRecOn with
    | nil => exact ⟨fun e he => Or.inl he, fun _ => rfl⟩
    | append_singleton done call ih =>
      have hdone' : done <+: calls := (List.prefix_append done _).trans hdone
      obtain ⟨layers, hlayers⟩ := hconsistent done hdone'
      rw [PluginCall.runAll_append_singleton]
      refine hlayers.typesAccounted_run (hapart done hdone') (ih hdone') fun name hname => ?_
      exact hnone done name (hname ▸ hdone)

/-! ## Two plugins with one name -/

/-- A plugin that registers one type. -/
def Plugin.ofType (name typeName : String) (cls : NodeClass) : Plugin where
  name := name
  version := "1.0"
  description := ""
  actions := [.type typeName cls]
  failure := none
  shutdown := ⟨"shutdown", none⟩

/-- Two plugins register a type of one name. The first is unloaded first. -/
def crossedCalls : List PluginCall := [
  .load (.ofType "first" "Badge" (.leaf "Badge" [])),
  .load (.ofType "second" "Badge" (.leaf "FancyButton" [])),
  .unload "first",
  .unload "second"]

theorem distinct_crossedCalls : PluginCall.Distinct crossedCalls := by
  have hnone : ∀ p, PluginCall.load p ∈ crossedCalls →
      p.setters = [] ∧ p.validators = [] ∧ p.converters = [] := by
    intro p hp
    simp only [crossedCalls, List.mem_cons, List.not_mem_nil, PluginCall.load.injEq, reduceCtorEq,
      or_false] at hp
    rcases hp with rfl | rfl <;> exact ⟨rfl, rfl, rfl⟩
  intro p q hp _ _
  obtain ⟨hs, hv, hc⟩ := hnone p hp
  exact ⟨by simp [hs], by simp [hv], by simp [hc]⟩

theorem accounted_iff_crossedCalls : Registry.standard.types.WellFormed ∧
    PluginCall.Distinct crossedCalls ∧
    (∀ done, done <+: crossedCalls →
      ChainsAccounted .standard (PluginCall.runAll (.start false .standard) done)) ∧
    ((∀ done, done <+: crossedCalls →
      TypesAccounted .standard (PluginCall.runAll (.start false .standard) done)) ↔
      ∀ done name, done ++ [.unload name] <+: crossedCalls →
        ¬ BringsBack .standard (PluginCall.runAll (.start false .standard) done) name) :=
  ⟨wellFormed_empty, distinct_crossedCalls,
    accounted_iff_not_bringsBack wellFormed_empty false distinct_crossedCalls⟩

/-- Without loaded plugins, the type of the first one is there. -/
theorem not_typesAccounted_crossedCalls :
    ¬ TypesAccounted .standard (PluginCall.runAll (.start false .standard) crossedCalls) := by
  intro h
  have hnone : (PluginCall.runAll (.start false .standard) crossedCalls).manager.loaded = [] := rfl
  have hone : (PluginCall.runAll (.start false .standard)
      crossedCalls).registry.types.entries.length = 1 := by decide
  rw [h.restored hnone] at hone
  exact absurd hone (by decide)

end LayoutTree
