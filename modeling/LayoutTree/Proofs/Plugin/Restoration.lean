import LayoutTree.Proofs.Plugin.Lifecycle

/-!
# Plugins leave nothing behind

A registry from which a plugin was taken back is as it was before the plugin was loaded: it has the
same types in the same order, and the same setters, validators and converters (`Registry.Agrees`).
What the plugin registered does not matter, and neither does what its callbacks come to. This holds
because the actions of the plugin lie on top of what was there before (`Consistent.revert`), so it
holds for a plugin that fails as well.

Plugins that are loaded one after the other lie on top of each other. Taking them back from the last
to the first leads to the registry at the start (`Stacked`); a load keeps this whether it adds a
plugin or not (`Stacked.load`), and unloading all plugins does just that (`unloadAll_spec`). The
main statement is `agrees_unload`.
-/

namespace LayoutTree

open TypeRegistry

/-! ## Registries that agree -/

/-- A registry has the types of another one in the same order, and its setters, validators and
converters. -/
structure Registry.Agrees (r r' : Registry) : Prop where
  types : r'.types.entries = r.types.entries
  setters : r'.setters = r.setters
  validators : r'.validators = r.validators
  converters : r'.conversion.converters = r.conversion.converters

namespace PluginRecord

theorem entries_revertType (plugin : String) {r r' : TypeRegistry} (h : r'.entries = r.entries)
    (log log' : Log) (t : TypeRegistration) :
    (revertType plugin (r', log') t).1.entries = (revertType plugin (r, log) t).1.entries := by
  have hresolve : r'.resolve t.name = r.resolve t.name := by rw [resolve, resolve, h]
  simp only [revertType, hresolve]
  split
  · exact h
  · split
    · simp only [restore, h]
    · simp only [unregister, h]

theorem entries_foldl_revertType (plugin : String) (ts : List TypeRegistration)
    {r r' : TypeRegistry} (h : r'.entries = r.entries) (log log' : Log) :
    (ts.foldl (revertType plugin) (r', log')).1.entries =
      (ts.foldl (revertType plugin) (r, log)).1.entries := by
  induction ts generalizing r r' log log' with
  | nil => exact h
  | cons t ts ih => exact ih (entries_revertType plugin h log log' t) _ _

end PluginRecord

namespace Registry.Agrees

variable {r r' r'' : Registry}

theorem refl (r : Registry) : r.Agrees r := ⟨rfl, rfl, rfl, rfl⟩

theorem trans (h : r.Agrees r') (h' : r'.Agrees r'') : r.Agrees r'' :=
  ⟨h'.types.trans h.types, h'.setters.trans h.setters, h'.validators.trans h.validators,
    h'.converters.trans h.converters⟩

/-- Taking a record back from registries that agree leads to registries that agree. -/
theorem revert (h : r.Agrees r') (record : PluginRecord) (plugin : String) :
    (record.revert plugin r).1.Agrees (record.revert plugin r').1 := by
  obtain ⟨htypes, hsetters, hvalidators, hconverters⟩ := record.revert_eq plugin r
  obtain ⟨htypes', hsetters', hvalidators', hconverters'⟩ := record.revert_eq plugin r'
  refine ⟨?_, ?_, ?_, ?_⟩
  · rw [htypes, htypes', PluginRecord.entries_foldl_revertType plugin _ h.types [] []]
  · rw [hsetters, hsetters', h.setters]
  · rw [hvalidators, hvalidators', h.validators]
  · rw [hconverters, hconverters', h.converters]

end Registry.Agrees

/-! ## One plugin -/

theorem TypeRegistry.WellFormed.register {r : TypeRegistry} (h : r.WellFormed) (name : String)
    (cls : NodeClass) : (r.register name cls).2.WellFormed :=
  ((Layered.refl h).registerWith name cls cls.create).wellFormed

section Plugin

variable {r : Registry} (h : r.types.WellFormed) (p : Plugin)
include h

theorem wellFormed_takeAll : (p.takeAll r).registry.types.WellFormed :=
  (extends_takeAll (Layered.refl h) p).layered.wellFormed

/-- The actions of a plugin taken back. -/
theorem agrees_revert_takeAll :
    ((p.takeAll r).record.revert p.name (p.takeAll r).registry).1.types.WellFormed ∧
      r.Agrees ((p.takeAll r).record.revert p.name (p.takeAll r).registry).1 := by
  have hstart := Consistent.start h false
  have hback := @Consistent.revert _ _ _ hstart p
    ⟨.empty false, ((p.takeAll r).record.revert p.name (p.takeAll r).registry).1⟩ rfl rfl
  obtain ⟨hsetters, hvalidators, hconverters⟩ := hback.chainsAccounted.restored rfl
  refine ⟨hback.layered.wellFormed, hback.layered.entries_eq fun e he => ?_, hsetters, hvalidators,
    hconverters⟩
  have htop := hback.layered.mem_entries_iff.1 he
  rw [← lookup_eq_some_iff_mem h.nodup]
  simpa using htop

/-- A plugin that is taken back may have used up numbers of types. -/
theorem next_le_revert_takeAll : r.types.next ≤
    ((p.takeAll r).record.revert p.name (p.takeAll r).registry).1.types.next :=
  (@Consistent.revert _ _ _ (Consistent.start h false) p
    ⟨.empty false, ((p.takeAll r).record.revert p.name (p.takeAll r).registry).1⟩
    rfl rfl).layered.next_le

end Plugin

namespace PluginManager

theorem find?_eq_none {m : PluginManager} {name : String} (h : name ∉ m.names) :
    m.find? name = none :=
  List.find?_eq_none.2 fun l hl hname => h (List.mem_map.2 ⟨l, hl, of_decide_eq_true hname⟩)

/-- A plugin whose name is not taken is loaded if it does not fail. -/
theorem load_of_succeeds {m : PluginManager} {p : Plugin} (hname : p.name ∉ m.names)
    (hp : p.failure = none) (r : Registry) :
    (m.load r p).result = .ok true ∧
      (m.load r p).manager.loaded = m.loaded ++ [⟨p, (p.takeAll r).record⟩] ∧
      (m.load r p).registry = (p.takeAll r).registry := by
  simp only [load, find?_eq_none hname, Option.isSome_none, Bool.false_eq_true, if_false, hp,
    and_self]

/-- A plugin whose name is not taken is taken back if it fails. -/
theorem load_of_fails {m : PluginManager} {p : Plugin} (hname : p.name ∉ m.names) {message : String}
    (hp : p.failure = some message) (r : Registry) :
    (m.load r p).result = .error (.initialization p.name message) ∧ (m.load r p).manager = m ∧
      (m.load r p).registry = ((p.takeAll r).record.revert p.name (p.takeAll r).registry).1 := by
  simp only [load, find?_eq_none hname, Option.isSome_none, Bool.false_eq_true, if_false, hp,
    and_self]

/-- The plugin that was loaded last is unloaded, whatever its callbacks come to. -/
theorem unload_last {m : PluginManager} {before : List LoadedPlugin} {l : LoadedPlugin}
    (hm : m.loaded = before ++ [l]) (hl : l.plugin.name ∉ before.map (·.plugin.name))
    (r : Registry) :
    (m.unload r l.plugin.name).manager.loaded = before ∧
      (m.unload r l.plugin.name).registry = (l.record.revert l.plugin.name r).1 := by
  have hskip : ∀ a ∈ before, ¬ decide (a.plugin.name = l.plugin.name) = true := fun a ha hname =>
    hl (List.mem_map.2 ⟨a, ha, of_decide_eq_true hname⟩)
  have hfind : m.find? l.plugin.name = some l := by
    rw [find?, hm, List.find?_append, List.find?_eq_none.2 hskip]
    simp
  rw [unload, hfind]
  refine ⟨?_, rfl⟩
  dsimp only
  rw [hm, List.eraseP_append_right _ hskip]
  simp

end PluginManager

/-! ## Plugins on top of each other -/

/-- The registry with the records of plugins taken back, from the last to the first. -/
def unwind (loaded : List LoadedPlugin) (r : Registry) : Registry :=
  loaded.reverse.foldl (fun r l => (l.record.revert l.plugin.name r).1) r

theorem unwind_append_singleton (before : List LoadedPlugin) (l : LoadedPlugin) (r : Registry) :
    unwind (before ++ [l]) r = unwind before (l.record.revert l.plugin.name r).1 := by
  rw [unwind, List.reverse_append, List.reverse_singleton, List.singleton_append, List.foldl_cons,
    unwind]

theorem Registry.Agrees.unwind {r r' : Registry} (h : r.Agrees r') (loaded : List LoadedPlugin) :
    (unwind loaded r).Agrees (LayoutTree.unwind loaded r') := by
  induction loaded using List.reverseRecOn generalizing r r' with
  | nil => exact h
  | append_singleton before l ih =>
    rw [unwind_append_singleton, unwind_append_singleton]
    exact ih (h.revert _ _)

/-- Unloading all plugins takes their records back from the last to the first. -/
theorem PluginManager.unloadAll_spec {m : PluginManager} (h : m.names.Nodup) (r : Registry) :
    (m.unloadAll r).manager.loaded = [] ∧ (m.unloadAll r).registry = unwind m.loaded r := by
  have heach : ∀ (loaded : List LoadedPlugin) (m : PluginManager) (r : Registry),
      m.loaded = loaded → (loaded.map (·.plugin.name)).Nodup →
      (m.unloadEach r (loaded.map (·.plugin.name)).reverse).manager.loaded = [] ∧
        (m.unloadEach r (loaded.map (·.plugin.name)).reverse).registry = unwind loaded r := by
    intro loaded
    induction loaded using List.reverseRecOn with
    | nil => exact fun m r hm _ => ⟨hm, rfl⟩
    | append_singleton before l ih =>
      intro m r hm hnodup
      rw [List.map_append, List.map_singleton, List.nodup_append',
        List.disjoint_singleton] at hnodup
      obtain ⟨hfirst, hregistry⟩ := unload_last hm hnodup.2.2 r
      rw [List.map_append, List.map_singleton, List.reverse_append, List.reverse_singleton,
        List.singleton_append, unloadEach, unwind_append_singleton, ← hregistry]
      exact ih _ _ hfirst hnodup.1
  exact heach m.loaded m r rfl h

/-- Plugins were loaded one after the other on top of a registry. -/
structure Stacked (r₀ : Registry) (s : PluginState) : Prop where
  nodup : s.manager.names.Nodup
  wellFormed : s.registry.types.WellFormed
  unwinds : r₀.Agrees (unwind s.manager.loaded s.registry)

namespace Stacked

variable {r₀ : Registry} {s : PluginState}

theorem start (h : r₀.types.WellFormed) (strict : Bool) : Stacked r₀ (.start strict r₀) :=
  ⟨List.nodup_nil, h, .refl r₀⟩

theorem load (h : Stacked r₀ s) (p : Plugin) : Stacked r₀ (PluginCall.run s (.load p)) := by
  obtain ⟨hwell, hagrees⟩ := agrees_revert_takeAll h.wellFormed p
  rw [PluginCall.run]
  rcases s.manager.load_cases s.registry p with ⟨hm, hr⟩ | ⟨hm, hr⟩ | ⟨hname, hm, hr⟩
  · rw [hm, hr]
    exact h
  · rw [hm, hr]
    exact ⟨h.nodup, hwell, h.unwinds.trans (hagrees.unwind _)⟩
  · refine ⟨?_, ?_, ?_⟩
    · rw [PluginManager.names, hm, List.map_append, List.map_singleton, List.nodup_append',
        List.disjoint_singleton]
      exact ⟨h.nodup, List.nodup_singleton _, hname⟩
    · rw [hr]
      exact wellFormed_takeAll h.wellFormed p
    · rw [hm, hr, unwind_append_singleton]
      exact h.unwinds.trans (hagrees.unwind _)

theorem loadAll (h : Stacked r₀ s) (plugins : List Plugin) :
    Stacked r₀ (PluginCall.runAll s (plugins.map .load)) := by
  induction plugins generalizing s with
  | nil => exact h
  | cons p plugins ih => exact ih (h.load p)

end Stacked

/-- **Plugins leave nothing behind.** A plugin that is loaded and unloaded, and one that fails while
it is loaded, leave the registry as it was. Whatever plugins are loaded one after the other, no
plugin is loaded after all are unloaded, and the registry is as it was at the start. -/
theorem agrees_unload {r : Registry} (h : r.types.WellFormed) :
    (∀ (m : PluginManager) (p : Plugin), p.name ∉ m.names → p.failure = none →
      (m.load r p).result = .ok true ∧
      ((m.load r p).manager.unload (m.load r p).registry p.name).manager.loaded = m.loaded ∧
      r.Agrees ((m.load r p).manager.unload (m.load r p).registry p.name).registry) ∧
    (∀ (m : PluginManager) (p : Plugin) (message : String), p.name ∉ m.names →
      p.failure = some message →
      (m.load r p).result = .error (.initialization p.name message) ∧
      (m.load r p).manager = m ∧ r.Agrees (m.load r p).registry) ∧
    ∀ (strict : Bool) (plugins : List Plugin),
      let s := PluginCall.runAll (.start strict r) (plugins.map .load)
      (s.manager.unloadAll s.registry).manager.loaded = [] ∧
        r.Agrees (s.manager.unloadAll s.registry).registry := by
  refine ⟨fun m p hname hp => ?_, fun m p message hname hp => ?_, fun strict plugins => ?_⟩
  · obtain ⟨hresult, hm, hr⟩ := PluginManager.load_of_succeeds hname hp r
    obtain ⟨hloaded, hregistry⟩ := PluginManager.unload_last hm hname (m.load r p).registry
    refine ⟨hresult, hloaded, ?_⟩
    rw [hregistry, hr]
    exact (agrees_revert_takeAll h p).2
  · obtain ⟨hresult, hm, hr⟩ := PluginManager.load_of_fails hname hp r
    refine ⟨hresult, hm, ?_⟩
    rw [hr]
    exact (agrees_revert_takeAll h p).2
  · have hstacked := (Stacked.start h strict).loadAll plugins
    obtain ⟨hloaded, hregistry⟩ := PluginManager.unloadAll_spec hstacked.nodup
      (PluginCall.runAll (.start strict r) (plugins.map .load)).registry
    refine ⟨hloaded, ?_⟩
    rw [hregistry]
    exact hstacked.unwinds

/-! ## A plugin that registers things again -/

/-- A plugin that registers a type twice and a setter that is there already, and fails to shut
down. -/
def repeatingPlugin : Plugin where
  name := "again"
  version := "1.0"
  description := ""
  actions := [.type "Badge" (.leaf "Badge" []), .type "BADGE" (.leaf "FancyBadge" []),
    .setter Setter.toolTip, .setter Setter.toolTip]
  failure := none
  shutdown := ⟨"shutdown", some "no display"⟩

/-- A registry in which the type has a meaning. -/
def badgeRegistry : Registry :=
  Registry.standard.withTypes (TypeRegistry.empty.register "badge" (.leaf "Label" [])).2

theorem agrees_unload_repeatingPlugin : badgeRegistry.types.WellFormed ∧
    repeatingPlugin.name ∉ (PluginManager.empty false).names ∧ repeatingPlugin.failure = none ∧
    ((PluginManager.empty false).load badgeRegistry repeatingPlugin).result = .ok true ∧
    (((PluginManager.empty false).load badgeRegistry repeatingPlugin).manager.unload
      ((PluginManager.empty false).load badgeRegistry repeatingPlugin).registry
      repeatingPlugin.name).manager.loaded = (PluginManager.empty false).loaded ∧
    badgeRegistry.Agrees (((PluginManager.empty false).load badgeRegistry
      repeatingPlugin).manager.unload
      ((PluginManager.empty false).load badgeRegistry repeatingPlugin).registry
      repeatingPlugin.name).registry := by
  have h : badgeRegistry.types.WellFormed := wellFormed_empty.register _ _
  have hname : repeatingPlugin.name ∉ (PluginManager.empty false).names := List.not_mem_nil
  exact ⟨h, hname, rfl, (agrees_unload h).1 _ _ hname rfl⟩

end LayoutTree
