import LayoutTree.Proofs.Plugin.Restoration
import Mathlib.Order.Monotone.Basic

/-!
# Registries that differ in the numbers of their types

Registered types are told apart by their numbers. Which number a type gets depends on how many were
registered before it, those that were taken back again included. So a plugin that fails to load
leaves the registry as it was but for the number that comes next.

A registry renumbers another one if it consists of the same, the numbers of the types changed in a
way that keeps their order (`Registry.Renumbers`). Plugins make no difference between the two
(`Registry.Renumbers.takeAll`), and numbers can be passed over (`Registry.Renumbers.skip`).
`PluginState.SameSince` says this of managers with their registries: they come of one state by
loading the same plugins.
-/

namespace LayoutTree

open TypeRegistry TypeRegistration

/-! ## Other numbers -/

/-- A type with another number. -/
def NodeType.renumbered (ρ : Nat → Nat) (t : NodeType) : NodeType := { t with serial := ρ t.serial }

/-- A registration with other numbers. -/
def TypeRegistration.renumbered (ρ : Nat → Nat) (t : TypeRegistration) : TypeRegistration :=
  ⟨t.name, t.nodeType.renumbered ρ, t.previous.map (NodeType.renumbered ρ)⟩

/-- A record with other numbers. -/
def PluginRecord.renumbered (ρ : Nat → Nat) (record : PluginRecord) : PluginRecord :=
  { record with types := record.types.map (TypeRegistration.renumbered ρ) }

/-- A loaded plugin with other numbers on record. -/
def LoadedPlugin.renumbered (ρ : Nat → Nat) (l : LoadedPlugin) : LoadedPlugin :=
  ⟨l.plugin, l.record.renumbered ρ⟩

/-- Other numbers, those from some number on moved up. -/
def movedUp (n k : Nat) (ρ : Nat → Nat) (i : Nat) : Nat := if i < n then ρ i else ρ i + k

theorem movedUp_of_lt {n i : Nat} (k : Nat) (ρ : Nat → Nat) (h : i < n) : movedUp n k ρ i = ρ i :=
  if_pos h

theorem strictMono_movedUp (n k : Nat) {ρ : Nat → Nat} (h : StrictMono ρ) :
    StrictMono (movedUp n k ρ) := by
  intro i j hij
  have hlt := h hij
  unfold movedUp
  split <;> split <;> omega

/-- The numbers on record are below a number. -/
def PluginRecord.Below (n : Nat) (record : PluginRecord) : Prop :=
  ∀ t ∈ record.types, t.nodeType.serial < n ∧ ∀ e, t.previous = some e → e.serial < n

theorem PluginRecord.Below.mono {n k : Nat} {record : PluginRecord} (h : record.Below n)
    (hle : n ≤ k) : record.Below k := fun t ht =>
  ⟨Nat.lt_of_lt_of_le (h t ht).1 hle, fun e he => Nat.lt_of_lt_of_le ((h t ht).2 e he) hle⟩

theorem NodeType.renumbered_congr {ρ ρ' : Nat → Nat} {t : NodeType} (h : ρ' t.serial = ρ t.serial) :
    t.renumbered ρ' = t.renumbered ρ := by
  rw [renumbered, renumbered, h]

theorem PluginRecord.renumbered_congr {ρ ρ' : Nat → Nat} {n : Nat} (h : ∀ k < n, ρ' k = ρ k)
    {record : PluginRecord} (hrecord : record.Below n) :
    record.renumbered ρ' = record.renumbered ρ := by
  have htypes : record.types.map (TypeRegistration.renumbered ρ') =
      record.types.map (TypeRegistration.renumbered ρ) := by
    refine List.map_congr_left fun t ht => ?_
    obtain ⟨hserial, hprevious⟩ := hrecord t ht
    rw [TypeRegistration.renumbered, TypeRegistration.renumbered,
      NodeType.renumbered_congr (h _ hserial),
      Option.map_congr fun e he => NodeType.renumbered_congr (h _ (hprevious e he))]
  rw [renumbered, renumbered, htypes]

/-- The numbers that a plugin has on record are below the one that comes next. -/
theorem below_takeAll {r : Registry} (h : r.types.WellFormed) (p : Plugin) :
    (p.takeAll r).record.Below (p.takeAll r).registry.types.next := by
  have hext := extends_takeAll (Layered.refl h) p
  intro t ht
  have hunder : t ∈ under (typeKey t.name) (p.takeAll r).record.types.reverse :=
    TypeRegistration.mem_under.2 ⟨List.mem_reverse.2 ht, rfl⟩
  refine ⟨hext.layered.fresh (typeKey t.name) _ (List.mem_append_left _ ?_), fun e he => ?_⟩
  · exact List.mem_map.2 ⟨t, hunder, rfl⟩
  · exact hext.layered.fresh (typeKey t.name) _ ((hext.linked _).mem_of_previous hunder he)

/-! ## Registries -/

theorem lookup_map_snd {α β : Type} (f : α → β) (k : String) (l : List (String × α)) :
    (l.map fun e => (e.1, f e.2)).lookup k = (l.lookup k).map f := by
  induction l with
  | nil => rfl
  | cons e l ih =>
    rw [List.map_cons, List.lookup_cons, List.lookup_cons, ih]
    cases k == e.1 <;> rfl

theorem putNamed_map_snd {α β : Type} (f : α → β) (k : String) (a : α) (l : List (String × α)) :
    putNamed k (f a) (l.map fun e => (e.1, f e.2)) =
      (putNamed k a l).map fun e => (e.1, f e.2) := by
  induction l with
  | nil => rfl
  | cons e l ih =>
    by_cases hk : e.1 = k
    · simp [putNamed, hk]
    · simp [putNamed, hk, ih]

/-- A registry is another one with other numbers, in the same order. What their conversion engines
remember of earlier look-ups may differ. -/
structure Registry.Renumbers (ρ : Nat → Nat) (r r' : Registry) : Prop where
  strictMono : StrictMono ρ
  types : r'.types.entries = r.types.entries.map fun e => (e.1, e.2.renumbered ρ)
  /-- The numbers to come are the same from the next one on. -/
  next : ∀ k, ρ (r.types.next + k) = r'.types.next + k
  setters : r'.setters = r.setters
  validators : r'.validators = r.validators
  converters : r'.conversion.converters = r.conversion.converters

namespace Registry.Renumbers

variable {ρ : Nat → Nat} {r r' : Registry}

theorem refl (r : Registry) : r.Renumbers id r :=
  ⟨strictMono_id, by simp [NodeType.renumbered], fun _ => rfl, rfl, rfl, rfl⟩

theorem resolve (h : r.Renumbers ρ r') (name : String) :
    r'.types.resolve name = (r.types.resolve name).map (NodeType.renumbered ρ) := by
  rw [TypeRegistry.resolve, h.types, lookup_map_snd, TypeRegistry.resolve]

theorem wellFormed (h : r.Renumbers ρ r') (hr : r.types.WellFormed) : r'.types.WellFormed where
  nodup := by
    rw [h.types, List.map_map]
    exact hr.nodup
  key_eq e he := by
    rw [h.types] at he
    obtain ⟨u, hu, rfl⟩ := List.mem_map.1 he
    exact hr.key_eq u hu
  serial_lt e he := by
    rw [h.types] at he
    obtain ⟨u, hu, rfl⟩ := List.mem_map.1 he
    calc ρ u.2.serial < ρ (r.types.next + 0) := h.strictMono (hr.serial_lt u hu)
      _ = r'.types.next := h.next 0

/-- A type that is registered in both gets the numbers that come next. -/
theorem registerWith (h : r.Renumbers ρ r') (name : String) (cls : NodeClass)
    (create : Nat → Except String Node) :
    (r.withTypes (r.types.registerWith name cls create).2).Renumbers ρ
      (r'.withTypes (r'.types.registerWith name cls create).2) := by
  refine ⟨h.strictMono, ?_, fun k => ?_, h.setters, h.validators, h.converters⟩
  · -- The next number of the one is renumbered to that of the other.
    have hnew : (⟨r'.types.next, name, cls, create⟩ : NodeType) =
        NodeType.renumbered ρ ⟨r.types.next, name, cls, create⟩ := by
      rw [NodeType.renumbered]
      exact congrArg (NodeType.mk · name cls create) (h.next 0).symm
    simp only [withTypes, TypeRegistry.registerWith, hnew, h.types]
    exact putNamed_map_snd _ _ _ _
  · have hnext := h.next (1 + k)
    rwa [← Nat.add_assoc, ← Nat.add_assoc] at hnext

/-- One action of a plugin makes no difference between the two. -/
theorem take {i i' : Initialization} (h : i.registry.Renumbers ρ i'.registry)
    (hrecord : i'.record = i.record.renumbered ρ) (plugin : String) (a : PluginAction) :
    (a.take plugin i).registry.Renumbers ρ (a.take plugin i').registry ∧
      (a.take plugin i').record = (a.take plugin i).record.renumbered ρ := by
  cases a with
  | type name cls =>
    rw [PluginAction.take_type, PluginAction.take_type]
    refine ⟨h.registerWith name cls cls.create, ?_⟩
    have hnext : ρ i.registry.types.next = i'.registry.types.next := h.next 0
    simp only [hrecord, PluginRecord.renumbered, List.map_append, List.map_cons, List.map_nil,
      TypeRegistration.renumbered, NodeType.renumbered, h.resolve, hnext]
  | setter s =>
    refine ⟨⟨h.strictMono, h.types, h.next, ?_, h.validators, h.converters⟩, ?_⟩
    · simp only [PluginAction.take, addSetter, h.setters]
    · simp only [PluginAction.take, hrecord, PluginRecord.renumbered]
  | validator v =>
    refine ⟨⟨h.strictMono, h.types, h.next, h.setters, ?_, h.converters⟩, ?_⟩
    · simp only [PluginAction.take, addValidator, h.validators]
    · simp only [PluginAction.take, hrecord, PluginRecord.renumbered]
  | converter c =>
    refine ⟨⟨h.strictMono, h.types, h.next, h.setters, h.validators, ?_⟩, ?_⟩
    · simp only [PluginAction.take, addConverter, ConversionEngine.register,
        ConversionEngine.ofConverters, h.converters]
    · simp only [PluginAction.take, hrecord, PluginRecord.renumbered]
  | cleanup c =>
    refine ⟨h, ?_⟩
    simp only [PluginAction.take, hrecord, PluginRecord.renumbered]
  | warn text => exact ⟨h, hrecord⟩

/-- A plugin makes no difference between the two. -/
theorem takeAll (h : r.Renumbers ρ r') (p : Plugin) :
    (p.takeAll r).registry.Renumbers ρ (p.takeAll r').registry ∧
      (p.takeAll r').record = (p.takeAll r).record.renumbered ρ := by
  have htake : ∀ (actions : List PluginAction) (i i' : Initialization),
      i.registry.Renumbers ρ i'.registry → i'.record = i.record.renumbered ρ →
      (actions.foldl (PluginAction.take p.name) i).registry.Renumbers ρ
          (actions.foldl (PluginAction.take p.name) i').registry ∧
        (actions.foldl (PluginAction.take p.name) i').record =
          (actions.foldl (PluginAction.take p.name) i).record.renumbered ρ := by
    intro actions
    induction actions with
    | nil => exact fun i i' h hrecord => ⟨h, hrecord⟩
    | cons a actions ih =>
      intro i i' h hrecord
      obtain ⟨h', hrecord'⟩ := h.take hrecord p.name a
      exact ih _ _ h' hrecord'
  exact htake p.actions ⟨r, .empty, []⟩ ⟨r', .empty, []⟩ h rfl

/-- Numbers that come next can be passed over. -/
theorem skip (h : r.Renumbers ρ r') (hr : r.types.WellFormed) {r'' : Registry}
    (hagrees : r'.Agrees r'') (hle : r'.types.next ≤ r''.types.next) :
    r.Renumbers (movedUp r.types.next (r''.types.next - r'.types.next) ρ) r'' := by
  refine ⟨strictMono_movedUp _ _ h.strictMono, ?_, fun k => ?_, hagrees.setters.trans h.setters,
    hagrees.validators.trans h.validators, hagrees.converters.trans h.converters⟩
  · rw [hagrees.types, h.types]
    refine List.map_congr_left fun e he => ?_
    rw [NodeType.renumbered_congr (movedUp_of_lt _ _ (hr.serial_lt e he))]
  · have hnext := h.next k
    rw [movedUp, if_neg (by omega)]
    omega

end Registry.Renumbers

/-! ## Managers with their registries -/

/-- Two states come of one by loading the same plugins. They are the same but for the numbers of the
types that were registered since. -/
structure PluginState.Renumbers (s₀ : PluginState) (ρ : Nat → Nat) (added : List LoadedPlugin)
    (s s' : PluginState) : Prop where
  strict : s'.manager.strict = s.manager.strict
  loaded : s.manager.loaded = s₀.manager.loaded ++ added
  renumbered : s'.manager.loaded = s₀.manager.loaded ++ added.map (LoadedPlugin.renumbered ρ)
  registry : s.registry.Renumbers ρ s'.registry
  /-- The numbers of the types that were there before stay. -/
  kept : ∀ n < s₀.registry.types.next, ρ n = n
  next_le : s₀.registry.types.next ≤ s.registry.types.next
  wellFormed : s.registry.types.WellFormed
  below : ∀ l ∈ added, l.record.Below s.registry.types.next

/-- Two states come of one by loading the same plugins and do not differ but in numbers. -/
def PluginState.SameSince (s₀ s s' : PluginState) : Prop :=
  ∃ ρ added, s₀.Renumbers ρ added s s'

theorem PluginManager.strict_load (m : PluginManager) (r : Registry) (p : Plugin) :
    (m.load r p).manager.strict = m.strict := by
  rw [load]
  split
  · rfl
  · dsimp only
    split <;> rfl

namespace PluginState.Renumbers

variable {s₀ s s' : PluginState} {ρ : Nat → Nat} {added : List LoadedPlugin}

theorem refl (h : s.registry.types.WellFormed) : s.Renumbers id [] s s where
  strict := rfl
  loaded := (List.append_nil _).symm
  renumbered := (List.append_nil _).symm
  registry := .refl _
  kept _ _ := rfl
  next_le := Nat.le_refl _
  wellFormed := h
  below _ hl := absurd hl List.not_mem_nil

theorem names_append (h : s₀.Renumbers ρ added s s') : s'.manager.names =
    s₀.manager.names ++ (added.map LoadedPlugin.plugin).map Plugin.name := by
  rw [PluginManager.names, h.renumbered, List.map_append, List.map_map, List.map_map]
  rfl

theorem names_eq (h : s₀.Renumbers ρ added s s') : s'.manager.names = s.manager.names := by
  rw [h.names_append, PluginManager.names, PluginManager.names, h.loaded, List.map_append,
    List.map_map]
  rfl

/-- A plugin is loaded in both. -/
theorem load (h : s₀.Renumbers ρ added s s') {p : Plugin} (hname : p.name ∉ s.manager.names)
    (hp : p.failure = none) :
    s₀.Renumbers ρ (added ++ [⟨p, (p.takeAll s.registry).record⟩]) (PluginCall.run s (.load p))
      (PluginCall.run s' (.load p)) := by
  obtain ⟨-, hloaded, hregistry⟩ := PluginManager.load_of_succeeds hname hp s.registry
  obtain ⟨-, hloaded', hregistry'⟩ :=
    PluginManager.load_of_succeeds (h.names_eq ▸ hname) hp s'.registry
  obtain ⟨hrenumbers, hrecord⟩ := h.registry.takeAll p
  have hle := (extends_takeAll (Layered.refl h.wellFormed) p).next_le
  simp only [PluginCall.run]
  refine ⟨?_, ?_, ?_, ?_, h.kept, ?_, ?_, ?_⟩
  · rw [PluginManager.strict_load, PluginManager.strict_load, h.strict]
  · rw [hloaded, h.loaded, List.append_assoc]
  · rw [hloaded', h.renumbered, hrecord, List.map_append, List.append_assoc]
    rfl
  · rw [hregistry, hregistry']
    exact hrenumbers
  · rw [hregistry]
    exact Nat.le_trans h.next_le hle
  · rw [hregistry]
    exact wellFormed_takeAll h.wellFormed p
  · rw [hregistry]
    intro l hl
    rcases List.mem_append.1 hl with hl | hl
    · exact (h.below l hl).mono hle
    · rw [List.mem_singleton.1 hl]
      exact below_takeAll h.wellFormed p

/-- Numbers are passed over in one of them. -/
theorem skip (h : s₀.Renumbers ρ added s s') {s'' : PluginState} (hm : s''.manager = s'.manager)
    (hagrees : s'.registry.Agrees s''.registry)
    (hle : s'.registry.types.next ≤ s''.registry.types.next) :
    ∃ ρ', s₀.Renumbers ρ' added s s'' := by
  -- Only numbers that are still to come are moved up, and none of them is on record.
  have hρ' := fun k (hk : k < s.registry.types.next) =>
    movedUp_of_lt (s''.registry.types.next - s'.registry.types.next) ρ hk
  refine ⟨_, hm ▸ h.strict, h.loaded, ?_, h.registry.skip h.wellFormed hagrees hle, fun n hn => ?_,
    h.next_le, h.wellFormed, h.below⟩
  · rw [hm, h.renumbered]
    refine congrArg (s₀.manager.loaded ++ ·) (List.map_congr_left fun l hl => ?_)
    rw [LoadedPlugin.renumbered, LoadedPlugin.renumbered,
      PluginRecord.renumbered_congr hρ' (h.below l hl)]
  · rw [hρ' n (Nat.lt_of_lt_of_le hn h.next_le), h.kept n hn]

end PluginState.Renumbers

end LayoutTree
