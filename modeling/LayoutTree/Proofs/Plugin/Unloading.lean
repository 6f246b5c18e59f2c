import LayoutTree.Proofs.Plugin.Restoration

/-!
# What unloading a plugin comes to

A plugin is taken out of the manager and what it registered is taken back, whatever its callbacks
come to. A name that it registered types under stands for what it stood for before the plugin was
loaded, unless another type has come to stand behind the name (`lookup_revertTypes`).

The callbacks are the cleanups, the latest first, and then the shutdown. They are run up to the
first that fails (`ranOf_run`), so a cleanup that fails cuts off the callbacks after it. The main
statement is `released_unload_iff`: a plugin is released exactly if none of its cleanups fails.
-/

namespace LayoutTree

open TypeRegistry TypeRegistration

/-! ## Types -/

namespace TypeRegistration

/-- What a name stands for once the registrations under it are taken back: what they cover, unless
another type stands behind the name. -/
def uncovered (own : List TypeRegistration) (covered current : Option NodeType) : Option NodeType :=
  match current with
  | some e => if own.any fun t => t.nodeType.serial = e.serial then covered else some e
  | none => if own.isEmpty then none else covered

theorem uncovered_nil (covered current : Option NodeType) :
    uncovered [] covered current = current := by
  cases current <;> rfl

theorem uncovered_reverse (own : List TypeRegistration) (covered current : Option NodeType) :
    uncovered own.reverse covered current = uncovered own covered current := by
  cases current <;> simp [uncovered]

/-- Registrations that keep what they cover are taken back one after the other. -/
theorem uncovered_cons {t : TypeRegistration} {own : List TypeRegistration} {below : List NodeType}
    (h : Linked below (t :: own)) (current : Option NodeType) :
    uncovered (t :: own) below.head? current =
      uncovered own below.head? (uncovered [t] t.previous current) := by
  have hprevious : uncovered own below.head? t.previous = below.head? := by
    rw [h.1]
    cases own with
    | nil => exact uncovered_nil _ _
    | cons u own => simp [uncovered, layersOf]
  cases current with
  | none => exact hprevious.symm
  | some e =>
    by_cases he : t.nodeType.serial = e.serial
    · simpa [uncovered, he] using hprevious.symm
    · simp [uncovered, he]

end TypeRegistration

/-- What a registration covers is put under its name again. -/
def TypeRegistry.putBack (r : TypeRegistry) (t : TypeRegistration) : TypeRegistry :=
  match t.previous with
  | some previous => r.restore previous
  | none => (r.unregister t.name).2

theorem TypeRegistry.lookup_putBack (r : TypeRegistry) {t : TypeRegistration}
    (hnamed : ∀ e, t.previous = some e → typeKey e.name = typeKey t.name) (k : String) :
    (r.putBack t).entries.lookup k =
      if typeKey t.name = k then t.previous else r.entries.lookup k := by
  unfold putBack
  cases hprevious : t.previous with
  | none => simp only [unregister, lookup_filter_ne, eq_comm]
  | some e =>
    simp only [restore, hnamed e hprevious]
    split
    · next hk => rw [← hk, lookup_putNamed_self]
    · next hk => rw [lookup_putNamed_ne _ _ (Ne.symm hk)]

namespace PluginRecord

theorem revertType_eq (plugin : String) (r : TypeRegistry) (log : Log) (t : TypeRegistration) :
    (revertType plugin (r, log) t).1 =
      if (r.resolve t.name).any fun current => current.serial ≠ t.nodeType.serial then r
      else r.putBack t := by
  simp only [revertType, putBack]
  split
  · rfl
  · cases t.previous <;> rfl

theorem lookup_revertType (plugin : String) (r : TypeRegistry) (log : Log) {t : TypeRegistration}
    (hnamed : ∀ e, t.previous = some e → typeKey e.name = typeKey t.name) (k : String) :
    (revertType plugin (r, log) t).1.entries.lookup k =
      if typeKey t.name = k then uncovered [t] t.previous (r.entries.lookup k)
      else r.entries.lookup k := by
  have hput := r.lookup_putBack hnamed k
  rw [revertType_eq]
  by_cases hk : typeKey t.name = k
  · subst hk
    rw [if_pos rfl] at hput ⊢
    cases hcurrent : r.entries.lookup (typeKey t.name) with
    | none => simpa [uncovered, resolve, hcurrent] using hput
    | some e =>
      by_cases he : e.serial = t.nodeType.serial
      · simpa [uncovered, resolve, hcurrent, he] using hput
      · simp [uncovered, resolve, hcurrent, he, Ne.symm he]
  · rw [if_neg hk] at hput ⊢
    split
    · rfl
    · exact hput

/-- **Registrations taken back, the latest first.** A name stands for what they cover, unless
another type stands behind it. -/
theorem lookup_revertTypes (plugin : String) (log : Log) {k : String} {below : List NodeType}
    {ts : List TypeRegistration} (r : TypeRegistry) (hlinked : Linked below (under k ts))
    (hnamed : ∀ t ∈ ts, ∀ e, t.previous = some e → typeKey e.name = typeKey t.name) :
    (ts.foldl (revertType plugin) (r, log)).1.entries.lookup k =
      uncovered (under k ts) below.head? (r.entries.lookup k) := by
  induction ts generalizing r log with
  | nil => exact (uncovered_nil _ _).symm
  | cons t ts ih =>
    obtain ⟨ht, hts⟩ := List.forall_mem_cons.1 hnamed
    have hstep := lookup_revertType plugin r log ht k
    rw [List.foldl_cons]
    by_cases hk : typeKey t.name = k
    · subst hk
      rw [under_cons_self] at hlinked ⊢
      rw [if_pos rfl] at hstep
      rw [uncovered_cons hlinked, ← hstep]
      exact ih _ _ hlinked.2 hts
    · rw [under_cons_of_ne hk] at hlinked ⊢
      rw [if_neg hk] at hstep
      rw [← hstep]
      exact ih _ _ hlinked hts

end PluginRecord

/-- What a plugin registered is taken out of a registry. Names stand again for what they stood for
in the registry that the plugin was loaded into. -/
structure LoadedPlugin.TakenBack (l : LoadedPlugin) (before r r' : Registry) : Prop where
  setters : r'.setters = r.setters.removeAll l.plugin.setters
  validators : r'.validators = r.validators.removeAll l.plugin.validators
  converters : r'.conversion.converters = r.conversion.converters.removeAll l.plugin.converters
  types : ∀ name, r'.types.resolve name = uncovered (under (typeKey name) l.record.types)
    (before.types.resolve name) (r.types.resolve name)

theorem LoadedPlugin.takenBack_revert {l : LoadedPlugin} {before : Registry}
    (h : before.types.WellFormed) (hl : l.record = (l.plugin.takeAll before).record)
    (r : Registry) : l.TakenBack before r (l.record.revert l.plugin.name r).1 := by
  obtain ⟨htypes, hsetters, hvalidators, hconverters⟩ := l.record.revert_eq l.plugin.name r
  obtain ⟨hs, hv, hc⟩ := complete_takeAll l.plugin before
  have hext := extends_takeAll (Layered.refl h) l.plugin
  have hlinked := hext.linked
  rw [← hl] at hs hv hc hlinked
  refine ⟨hs ▸ hsetters, hv ▸ hvalidators, hc ▸ hconverters, fun name => ?_⟩
  -- What a registration covers is kept under its name, as all layers are.
  have hnamed : ∀ t ∈ l.record.types.reverse, ∀ e, t.previous = some e →
      typeKey e.name = typeKey t.name := fun t ht e he => by
    have hmem := (hlinked _).mem_of_previous (TypeRegistration.mem_under.2 ⟨ht, rfl⟩) he
    rw [hl] at hmem
    exact hext.layered.named _ e hmem
  have hunder : under (typeKey name) l.record.types.reverse =
      (under (typeKey name) l.record.types).reverse := List.filter_reverse
  have hlookup := PluginRecord.lookup_revertTypes l.plugin.name [] r.types
    (hlinked (typeKey name)) hnamed
  rw [resolve, htypes, hlookup, hunder, uncovered_reverse, Option.head?_toList]
  rfl

/-! ## Callbacks -/

/-- The callback that an action asks for. -/
def PluginAction.cleanup? : PluginAction → Option Callback
  | .cleanup c => some c
  | _ => none

namespace Plugin

/-- The cleanups that a plugin asks for. -/
def cleanups (p : Plugin) : List Callback := p.actions.filterMap PluginAction.cleanup?

/-- What there is to run when a plugin is unloaded: the cleanups, the latest first, and then the
shutdown. -/
def callbacks (p : Plugin) : List Callback := p.cleanups.reverse ++ [p.shutdown]

theorem cleanups_takeAll (p : Plugin) (r : Registry) :
    (p.takeAll r).record.cleanups = p.cleanups := by
  have htake : ∀ (actions : List PluginAction) (i : Initialization),
      (actions.foldl (PluginAction.take p.name) i).record.cleanups =
        i.record.cleanups ++ actions.filterMap PluginAction.cleanup? := by
    intro actions
    induction actions with
    | nil => simp
    | cons a actions ih =>
      intro i
      rw [List.foldl_cons, ih]
      cases a <;> simp [PluginAction.take, PluginAction.cleanup?, List.filterMap_cons]
  exact htake p.actions ⟨r, .empty, []⟩

end Plugin

/-- Which of some callbacks are run: all of them if none fails, and those up to the first that fails
if one does. -/
inductive Callback.RanOf (all : List Callback) : List Callback → Prop
  | every (succeed : ∀ c ∈ all, c.failure = none) : RanOf all all
  | upTo {before rest : List Callback} {c : Callback} (eq : all = before ++ c :: rest)
      (succeed : ∀ b ∈ before, b.failure = none) (fails : c.failure ≠ none) :
      RanOf all (before ++ [c])

namespace PluginManager

theorem ranOf_run (all : List Callback) : Callback.RanOf all (run all).1 ∧
    ((run all).2 = true ↔ ∀ c ∈ all, c.failure = none) := by
  induction all with
  | nil => exact ⟨.every nofun, iff_of_true rfl nofun⟩
  | cons c all ih =>
    obtain ⟨hran, hclean⟩ := ih
    cases hc : c.failure with
    | some message =>
      have hfails : c.failure ≠ none := by simp [hc]
      have hrun : run (c :: all) = ([c], false) := by simp only [run, hc]
      rw [hrun]
      refine ⟨@Callback.RanOf.upTo _ [] all c rfl nofun hfails, iff_of_false nofun fun h => ?_⟩
      exact hfails (h c List.mem_cons_self)
    | none =>
      have hrun : run (c :: all) = (c :: (run all).1, (run all).2) := by simp only [run, hc]
      rw [hrun, List.forall_mem_cons]
      refine ⟨?_, hclean.trans (and_iff_right hc).symm⟩
      generalize (run all).1 = ran at hran
      cases hran with
      | every succeed => exact .every (List.forall_mem_cons.2 ⟨hc, succeed⟩)
      | @upTo before rest b eq succeed fails =>
        exact @Callback.RanOf.upTo _ (c :: before) rest b (by rw [eq, List.cons_append])
          (List.forall_mem_cons.2 ⟨hc, succeed⟩) fails

end PluginManager

/-- All callbacks are run exactly if none but the last fails. -/
theorem Callback.RanOf.eq_iff {cleanups ran : List Callback} {last : Callback}
    (h : RanOf (cleanups ++ [last]) ran) :
    ran = cleanups ++ [last] ↔ ∀ c ∈ cleanups, c.failure = none := by
  generalize hall : cleanups ++ [last] = all at h
  cases h with
  | every succeed =>
    refine iff_of_true rfl fun c hc => succeed c ?_
    rw [← hall]
    exact List.mem_append_left _ hc
  | @upTo before rest c eq succeed fails =>
    rw [eq] at hall
    rcases List.eq_nil_or_concat rest with rfl | ⟨rest, u, rfl⟩
    · have hcleanups : cleanups = before := (List.append_inj' hall rfl).1
      exact iff_of_true eq.symm fun b hb => succeed b (hcleanups ▸ hb)
    · have hcleanups : cleanups = before ++ c :: rest := by
        have hsplit : cleanups ++ [last] = (before ++ c :: rest) ++ [u] := by simpa using hall
        exact (List.append_inj' hsplit rfl).1
      refine iff_of_false (fun hran => ?_) fun hnone => fails (hnone c (by simp [hcleanups]))
      have hlength := congrArg List.length (hran.trans eq)
      simp at hlength

/-! ## Unloading a plugin -/

namespace PluginManager

variable {m : PluginManager} {l : LoadedPlugin}

theorem find?_eq_some (h : m.names.Nodup) (hl : l ∈ m.loaded) : m.find? l.plugin.name = some l := by
  cases hfind : m.find? l.plugin.name with
  | none => exact absurd (decide_eq_true rfl) (List.find?_eq_none.1 hfind l hl)
  | some l' =>
    have hname : l'.plugin.name = l.plugin.name := by simpa using List.find?_some hfind
    rw [List.inj_on_of_nodup_map h (List.mem_of_find?_eq_some hfind) hl hname]

theorem names_unload (h : m.names.Nodup) (hl : l ∈ m.loaded) (r : Registry) :
    (m.unload r l.plugin.name).manager.names = m.names.erase l.plugin.name := by
  rw [unload, find?_eq_some h hl, names, names, List.erase_eq_eraseP', List.eraseP_map]
  rfl

end PluginManager

/-- An outcome of unloading a plugin: it is clean exactly if no callback fails, and the plugin is
taken out in any case, with what it registered. -/
structure PluginOutcome.Unloads (o : PluginOutcome Bool) (m : PluginManager) (l : LoadedPlugin)
    (before r : Registry) : Prop where
  result : o.result = true ↔ ∀ c ∈ l.plugin.callbacks, c.failure = none
  names : o.manager.names = m.names.erase l.plugin.name
  unlisted : l.plugin.name ∉ o.manager.names
  takenBack : l.TakenBack before r o.registry

/-- **A plugin is released exactly if none of its cleanups fails.** Its callbacks are run in order
up to the first that fails, so all of them are run exactly if none fails but the shutdown. In any
case the plugin is unloaded. -/
theorem released_unload_iff {m : PluginManager} (h : m.names.Nodup) {l : LoadedPlugin}
    (hl : l ∈ m.loaded) {before : Registry} (hbefore : before.types.WellFormed)
    (hrecord : l.record = (l.plugin.takeAll before).record) (r : Registry) :
    (m.unload r l.plugin.name).Unloads m l before r ∧
    Callback.RanOf l.plugin.callbacks (m.unload r l.plugin.name).ran ∧
    ((m.unload r l.plugin.name).ran = l.plugin.callbacks ↔
      ∀ c ∈ l.plugin.cleanups, c.failure = none) := by
  have hcallbacks : l.record.cleanups.reverse ++ [l.plugin.shutdown] = l.plugin.callbacks := by
    rw [hrecord, Plugin.cleanups_takeAll, Plugin.callbacks]
  obtain ⟨hran, hclean⟩ := PluginManager.ranOf_run l.plugin.callbacks
  have hnames := PluginManager.names_unload h hl r
  have hfind := PluginManager.find?_eq_some h hl
  have hunload : (m.unload r l.plugin.name).ran = (PluginManager.run l.plugin.callbacks).1 ∧
      (m.unload r l.plugin.name).result = (PluginManager.run l.plugin.callbacks).2 ∧
      (m.unload r l.plugin.name).registry = (l.record.revert l.plugin.name r).1 := by
    rw [PluginManager.unload, hfind, ← hcallbacks]
    exact ⟨rfl, rfl, rfl⟩
  obtain ⟨hran', hresult, hregistry⟩ := hunload
  refine ⟨⟨hresult ▸ hclean, hnames, ?_, ?_⟩, hran' ▸ hran, ?_⟩
  · rw [hnames]
    exact h.not_mem_erase
  · rw [hregistry]
    exact LoadedPlugin.takenBack_revert hbefore hrecord r
  · rw [hran']
    exact hran.eq_iff.trans (by simp only [List.mem_reverse])

/-! ## A cleanup that fails -/

/-- A plugin whose second cleanup fails. -/
def clumsyPlugin : Plugin where
  name := "clumsy"
  version := "1.0"
  description := ""
  actions := [.type "Badge" (.leaf "Badge" []), .cleanup ⟨"first", none⟩,
    .cleanup ⟨"second", some "no display"⟩]
  failure := none
  shutdown := ⟨"shutdown", none⟩

/-- The plugin is loaded. -/
def clumsyState : PluginState := PluginCall.run (.start false badgeRegistry) (.load clumsyPlugin)

/-- The plugin with its record. -/
def loadedClumsy : LoadedPlugin := ⟨clumsyPlugin, (clumsyPlugin.takeAll badgeRegistry).record⟩

/-- The plugin is unloaded. -/
def clumsyUnloaded : PluginOutcome Bool := clumsyState.manager.unload clumsyState.registry "clumsy"

theorem released_unload_clumsy : clumsyState.manager.names.Nodup ∧
    loadedClumsy ∈ clumsyState.manager.loaded ∧ badgeRegistry.types.WellFormed ∧
    loadedClumsy.record = (loadedClumsy.plugin.takeAll badgeRegistry).record ∧
    clumsyUnloaded.Unloads clumsyState.manager loadedClumsy badgeRegistry clumsyState.registry ∧
    Callback.RanOf clumsyPlugin.callbacks clumsyUnloaded.ran ∧
    (clumsyUnloaded.ran = clumsyPlugin.callbacks ↔
      ∀ c ∈ clumsyPlugin.cleanups, c.failure = none) := by
  have hnames : clumsyState.manager.names.Nodup := List.nodup_singleton _
  have hloaded : loadedClumsy ∈ clumsyState.manager.loaded := List.mem_singleton_self _
  have hbefore : badgeRegistry.types.WellFormed := wellFormed_empty.register _ _
  exact ⟨hnames, hloaded, hbefore, rfl,
    released_unload_iff hnames hloaded hbefore rfl clumsyState.registry⟩

/-- The first cleanup and the shutdown are not run. -/
theorem not_released_unload_clumsy :
    clumsyPlugin.callbacks = [⟨"second", some "no display"⟩, ⟨"first", none⟩, ⟨"shutdown", none⟩] ∧
    clumsyUnloaded.ran = [⟨"second", some "no display"⟩] ∧
    clumsyUnloaded.ran ≠ clumsyPlugin.callbacks := by
  have hran : clumsyUnloaded.ran = [⟨"second", some "no display"⟩] := rfl
  refine ⟨rfl, hran, ?_⟩
  rw [hran]
  decide

end LayoutTree
