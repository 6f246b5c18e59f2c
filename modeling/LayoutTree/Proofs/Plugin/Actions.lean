import LayoutTree.Proofs.Plugin.Registrations

/-!
# Taking and taking back actions

What a plugin adds to a registry lies on top of what was there before, each kind of it for itself:
its setters, validators and converters in front of the chains, its types on the layers of their
names (`Extends`). This holds after every action of a plugin (`Extends.take`), so it holds when the
plugin is initialized (`extends_takeAll`).

Taking the record back removes from the chains what the plugin added, wherever it lies, provided
that nothing in front of it has one of its keys (`Chain.removeAll_members`).
-/

namespace LayoutTree

open TypeRegistry TypeRegistration

/-! ## What a plugin registers -/

namespace PluginAction

/-- The setter that an action registers. -/
def setter? : PluginAction → Option Setter
  | .setter s => some s
  | _ => none

/-- The validator that an action registers. -/
def validator? : PluginAction → Option Validator
  | .validator v => some v
  | _ => none

/-- The converter that an action registers. -/
def converter? : PluginAction → Option Converter
  | .converter c => some c
  | _ => none

end PluginAction

namespace Plugin

/-- The setters that a plugin registers. -/
def setters (p : Plugin) : List Setter := p.actions.filterMap PluginAction.setter?

/-- The validators that a plugin registers. -/
def validators (p : Plugin) : List Validator := p.actions.filterMap PluginAction.validator?

/-- The converters that a plugin registers. -/
def converters (p : Plugin) : List Converter := p.actions.filterMap PluginAction.converter?

end Plugin

/-- The record of a plugin that took all its actions. -/
structure PluginRecord.Complete (p : Plugin) (record : PluginRecord) : Prop where
  setters : record.setters = p.setters
  validators : record.validators = p.validators
  converters : record.converters = p.converters

theorem complete_takeAll (p : Plugin) (r : Registry) : (p.takeAll r).record.Complete p := by
  have htake : ∀ (actions : List PluginAction) (i : Initialization),
      (actions.foldl (PluginAction.take p.name) i).record.setters =
        i.record.setters ++ actions.filterMap PluginAction.setter? ∧
      (actions.foldl (PluginAction.take p.name) i).record.validators =
        i.record.validators ++ actions.filterMap PluginAction.validator? ∧
      (actions.foldl (PluginAction.take p.name) i).record.converters =
        i.record.converters ++ actions.filterMap PluginAction.converter? := by
    intro actions
    induction actions with
    | nil => simp
    | cons a actions ih =>
      intro i
      obtain ⟨hs, hv, hc⟩ := ih (a.take p.name i)
      rw [List.foldl_cons, hs, hv, hc]
      cases a <;>
        simp [PluginAction.take, PluginAction.setter?, PluginAction.validator?,
          PluginAction.converter?, List.filterMap_cons]
  obtain ⟨hs, hv, hc⟩ := htake p.actions ⟨r, .empty, []⟩
  exact ⟨hs, hv, hc⟩

/-! ## Taking actions -/

/-- A type that is registered goes on record with what its name stood for before. -/
theorem PluginAction.take_type (plugin : String) (i : Initialization) (name : String)
    (cls : NodeClass) :
    PluginAction.take plugin i (.type name cls) =
      { i with
        registry := i.registry.withTypes (i.registry.types.registerWith name cls cls.create).2
        record := { i.record with
          types := i.record.types ++ [⟨name, ⟨i.registry.types.next, name, cls, cls.create⟩,
            i.registry.types.resolve name⟩] } } := by
  simp only [PluginAction.take, resolve_register]
  rfl

/-- What taking actions adds to a registry with layers under its type names lies on top. -/
structure Extends (r₀ : TypeRegistry) (layers : String → List NodeType) (r : Registry)
    (i : Initialization) : Prop where
  setters : i.registry.setters.members = i.record.setters.reverse ++ r.setters.members
  validators : i.registry.validators.members = i.record.validators.reverse ++ r.validators.members
  converters : i.registry.conversion.converters.members =
    i.record.converters.reverse ++ r.conversion.converters.members
  layered : Layered r₀ i.registry.types fun k =>
    layersOf (under k i.record.types.reverse) ++ layers k
  linked : ∀ k, Linked (layers k) (under k i.record.types.reverse)
  next_le : r.types.next ≤ i.registry.types.next
  new : ∀ t ∈ i.record.types, r.types.next ≤ t.nodeType.serial

namespace Extends

variable {r₀ : TypeRegistry} {layers : String → List NodeType} {r : Registry} {i : Initialization}

theorem refl (h : Layered r₀ r.types layers) : Extends r₀ layers r ⟨r, .empty, []⟩ where
  setters := rfl
  validators := rfl
  converters := rfl
  layered := h
  linked _ := trivial
  next_le := Nat.le_refl _
  new _ ht := absurd ht List.not_mem_nil

/-- A type that is registered after others lies on top of them. -/
theorem take_type (h : Extends r₀ layers r i) (plugin name : String) (cls : NodeClass) :
    Extends r₀ layers r (PluginAction.take plugin i (.type name cls)) := by
  rw [PluginAction.take_type]
  obtain ⟨t, ht⟩ : ∃ t : TypeRegistration, t = ⟨name, ⟨i.registry.types.next, name, cls,
    cls.create⟩, i.registry.types.resolve name⟩ := ⟨_, rfl⟩
  have hname : t.name = name := by rw [ht]
  have hprev : t.previous = i.registry.types.entries.lookup (typeKey t.name) := by rw [ht]; rfl
  have hserial : r.types.next ≤ t.nodeType.serial := by rw [ht]; exact h.next_le
  have hreg : Layered r₀ (i.registry.types.registerWith name cls cls.create).2
      fun k => layersOf (under k (t :: i.record.types.reverse)) ++ layers k := by
    rw [layersOf_under_cons, hname, ht]
    exact h.layered.registerWith name cls cls.create
  have hreverse : (i.record.types ++ [t]).reverse = t :: i.record.types.reverse := by
    rw [List.reverse_append, List.reverse_singleton, List.singleton_append]
  rw [← ht]
  refine ⟨h.setters, h.validators, h.converters, ?_, fun k => ?_,
    Nat.le_trans h.next_le (Nat.le_succ i.registry.types.next), fun u hu => ?_⟩
  · simp only [hreverse]
    exact hreg
  · simp only [hreverse]
    by_cases hk : typeKey t.name = k
    · subst hk
      rw [under_cons_self]
      exact ⟨hprev.trans (h.layered.lookup_eq _), h.linked _⟩
    · rw [under_cons_of_ne hk]
      exact h.linked k
  · rcases List.mem_append.1 hu with hu | hu
    · exact h.new u hu
    · rw [List.mem_singleton.1 hu]
      exact hserial

/-- What one action adds lies on top of what was there before. -/
theorem take (h : Extends r₀ layers r i) (plugin : String) (a : PluginAction) :
    Extends r₀ layers r (a.take plugin i) := by
  cases a with
  | type name cls => exact h.take_type plugin name cls
  | setter s =>
    refine ⟨?_, h.validators, h.converters, h.layered, h.linked, h.next_le, h.new⟩
    simp [PluginAction.take, Registry.addSetter, Chain.register, h.setters]
  | validator v =>
    refine ⟨h.setters, ?_, h.converters, h.layered, h.linked, h.next_le, h.new⟩
    simp [PluginAction.take, Registry.addValidator, Chain.register, h.validators]
  | converter c =>
    refine ⟨h.setters, h.validators, ?_, h.layered, h.linked, h.next_le, h.new⟩
    simp [PluginAction.take, Registry.addConverter, ConversionEngine.register,
      ConversionEngine.ofConverters, Chain.register, h.converters]
  | cleanup c => exact ⟨h.setters, h.validators, h.converters, h.layered, h.linked, h.next_le, h.new⟩
  | warn text => exact ⟨h.setters, h.validators, h.converters, h.layered, h.linked, h.next_le, h.new⟩

end Extends

/-- What a plugin adds to a registry lies on top of what was there before. -/
theorem extends_takeAll {r₀ : TypeRegistry} {layers : String → List NodeType} {r : Registry}
    (h : Layered r₀ r.types layers) (p : Plugin) : Extends r₀ layers r (p.takeAll r) := by
  have htake : ∀ (actions : List PluginAction) (i : Initialization), Extends r₀ layers r i →
      Extends r₀ layers r (actions.foldl (PluginAction.take p.name) i) := by
    intro actions
    induction actions with
    | nil => exact fun i hi => hi
    | cons a actions ih => exact fun i hi => ih _ (hi.take p.name a)
  exact htake p.actions _ (Extends.refl h)

/-! ## Taking them back -/

namespace Chain

variable {α : Type} [Keyed α]

/-- The chain without the first member of the key of each of a list of things. -/
def removeAll (c : Chain α) (l : List α) : Chain α :=
  l.foldl (fun c a => c.remove (Keyed.key a)) c

/-- Members are removed wherever they lie, as long as no member before them has one of their keys. -/
theorem removeAll_members {c : Chain α} {l above own below : List α}
    (hc : c.members = above ++ (own ++ below))
    (hperm : (own.map Keyed.key).Perm (l.map Keyed.key))
    (hdisj : (above.map Keyed.key).Disjoint (l.map Keyed.key)) :
    (c.removeAll l).members = above ++ below := by
  induction l generalizing c own with
  | nil =>
    have hown : own = [] := by simpa using hperm
    rw [removeAll, List.foldl_nil, hc, hown, List.nil_append]
  | cons b l ih =>
    have hmem : ∃ a ∈ own, decide (Keyed.key a = Keyed.key b) = true := by
      have hb : Keyed.key b ∈ own.map Keyed.key := hperm.mem_iff.2 List.mem_cons_self
      obtain ⟨a, ha, hab⟩ := List.mem_map.1 hb
      exact ⟨a, ha, decide_eq_true hab⟩
    have habove : ∀ a ∈ above, ¬ decide (Keyed.key a = Keyed.key b) = true := by
      intro a ha hab
      refine hdisj (List.mem_map.2 ⟨a, ha, rfl⟩) ?_
      rw [of_decide_eq_true hab]
      exact List.mem_cons_self
    refine @ih (c.remove (Keyed.key b)) (own.eraseP fun a => Keyed.key a = Keyed.key b) ?_ ?_ ?_
    · obtain ⟨a, ha, hab⟩ := hmem
      rw [remove, hc, List.eraseP_append_right _ habove,
        List.eraseP_append_left (p := fun a => decide (Keyed.key a = Keyed.key b)) hab _ ha]
    · have herase := hperm.erase (Keyed.key b)
      rw [List.map_cons, List.erase_cons_head, List.erase_eq_eraseP', List.eraseP_map] at herase
      exact herase
    · exact fun k hk hkl => hdisj hk (List.mem_cons_of_mem _ hkl)

end Chain

namespace Registry

theorem foldl_dropSetter (r : Registry) (l : List Setter) :
    l.foldl (fun r s => r.dropSetter s.key) r = { r with setters := r.setters.removeAll l } := by
  induction l generalizing r with
  | nil => rfl
  | cons s l ih => rw [List.foldl_cons, ih]; rfl

theorem foldl_dropValidator (r : Registry) (l : List Validator) :
    l.foldl (fun r v => r.dropValidator v.key) r =
      { r with validators := r.validators.removeAll l } := by
  induction l generalizing r with
  | nil => rfl
  | cons v l ih => rw [List.foldl_cons, ih]; rfl

theorem foldl_dropConverter (r : Registry) (l : List Converter) :
    ∃ e : ConversionEngine, e.converters = r.conversion.converters.removeAll l ∧
      l.foldl (fun r c => r.dropConverter c.key) r = { r with conversion := e } := by
  induction l generalizing r with
  | nil => exact ⟨r.conversion, rfl, rfl⟩
  | cons c l ih =>
    obtain ⟨e, he, hr⟩ := ih (r.dropConverter c.key)
    refine ⟨e, ?_, by rw [List.foldl_cons, hr]; rfl⟩
    rw [he, dropConverter, ConversionEngine.converters_remove]
    rfl

end Registry

namespace PluginRecord

/-- A record is taken back from each part of the registry for itself. -/
theorem revert_eq (record : PluginRecord) (plugin : String) (r : Registry) :
    (record.revert plugin r).1.types =
      (record.types.reverse.foldl (revertType plugin) (r.types, [])).1 ∧
    (record.revert plugin r).1.setters = r.setters.removeAll record.setters ∧
    (record.revert plugin r).1.validators = r.validators.removeAll record.validators ∧
    (record.revert plugin r).1.conversion.converters =
      r.conversion.converters.removeAll record.converters := by
  rw [revert]
  dsimp only
  rw [Registry.foldl_dropSetter, Registry.foldl_dropValidator]
  obtain ⟨e, he, hr⟩ := Registry.foldl_dropConverter _ record.converters
  rw [hr]
  exact ⟨rfl, rfl, rfl, he⟩

end PluginRecord

end LayoutTree
