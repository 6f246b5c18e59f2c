import LayoutTree.Proofs.Build.Accounting
import LayoutTree.Proofs.Build.Reading

/-!
# The tree mirrors the layout

What is kept of a layout is told by the node results, which come in the order in which the layout is
walked: a node that was built is kept, and one that failed or was skipped is removed with all below
it (`Descriptor.keptAll`). What building descriptors adds to the tree is said by `Adds`: the nodes
that mirror what is kept of the descriptors come after those that were there.

The main statement is `mirrorsAll_build`: after a build that comes to its end, the tree below the
container mirrors what is kept of the layout, no node occurs in it twice, and it owns its nodes.
-/

namespace LayoutTree

namespace Descriptor

mutual

/-- What is kept of a descriptor by the states of the nodes in the order of `walk`. -/
def kept : Descriptor → List NodeState → List Descriptor
  | .mk typeName properties group children source, states =>
    match states with
    | .success :: below => [.mk typeName properties group (keptAll children below) source]
    | _ => []

/-- What is kept of descriptors by the states of the nodes in the order of `walkAll`. -/
def keptAll : List Descriptor → List NodeState → List Descriptor
  | [], _ => []
  | d :: ds, states => kept d (states.take d.count) ++ keptAll ds (states.drop d.count)

end

theorem walkAll_append (ds ds' : List Descriptor) :
    walkAll (ds ++ ds') = walkAll ds ++ walkAll ds' := by
  rw [walkAll_eq_flatMap, walkAll_eq_flatMap, walkAll_eq_flatMap, List.flatMap_append]

theorem walkAll_singleton (d : Descriptor) : walkAll [d] = d.walk := by
  rw [walkAll, walkAll, List.append_nil]

theorem kept_of_ne_success (d : Descriptor) {states : List NodeState}
    (h : ∀ state ∈ states, state ≠ .success) : d.kept states = [] := by
  cases d
  unfold kept
  split
  · exact absurd rfl (h _ List.mem_cons_self)
  · rfl

theorem keptAll_of_ne_success {ds : List Descriptor} {states : List NodeState}
    (h : ∀ state ∈ states, state ≠ .success) : keptAll ds states = [] := by
  induction ds generalizing states with
  | nil => rw [keptAll]
  | cons d ds ih =>
    rw [keptAll, kept_of_ne_success d fun state hs => h state (List.mem_of_mem_take hs),
      ih fun state hs => h state (List.mem_of_mem_drop hs), List.append_nil]

theorem keptAll_append {ds ds' : List Descriptor} {states states' : List NodeState}
    (h : states.length = (walkAll ds).length) :
    keptAll (ds ++ ds') (states ++ states') = keptAll ds states ++ keptAll ds' states' := by
  induction ds generalizing states with
  | nil =>
    rw [walkAll, List.length_nil, List.length_eq_zero_iff] at h
    rw [h, List.nil_append, List.nil_append, keptAll, List.nil_append]
  | cons d ds ih =>
    rw [walkAll, List.length_append, ← count] at h
    have hrest : (states.drop d.count).length = (walkAll ds).length := by
      rw [List.length_drop]
      omega
    rw [List.cons_append, keptAll, keptAll, List.take_append_of_le_length (by omega),
      List.drop_append_of_le_length (by omega), ih hrest, List.append_assoc]

/-- A node that was built is kept, with what is kept of those below it. -/
theorem keptAll_singleton_success {d : Descriptor} {states : List NodeState}
    (h : states.length = (walkAll d.children).length) :
    keptAll [d] (.success :: states) = [{ d with children := keptAll d.children states }] := by
  have hcount : d.count = states.length + 1 := by rw [count, walk_eq, List.length_cons, h]
  cases d
  rw [keptAll, keptAll, List.append_nil, hcount, List.take_succ_cons, List.take_length, kept]

end Descriptor

namespace Build

open Descriptor

variable {known : NodeType → Prop} {p q : Progress} {types : TypeRegistry}

/-- What building descriptors below a node adds to the tree. -/
structure Adds (f f' : Frame) (types : TypeRegistry) (ds : List Descriptor)
    (results : List NodeResult) (steps : List BuildStep) : Prop where
  fits : f'.Fits
  id_eq : f'.node.id = f.node.id
  cls_eq : f'.node.cls = f.node.cls
  /-- There is one result about each node of the layout. -/
  covers : (results.map fun r => (r.typeName, r.source)) =
    (walkAll ds).map fun d => (d.typeName, d.source)
  /-- Those that were built are kept. -/
  successes : (walkAll (keptAll ds (results.map (·.state)))).length =
    results.countP fun r => r.state = .success
  owns : f.node.Owns → f'.node.Owns
  reads : ∀ wrappers, f.Reads wrappers → (∀ w ∈ steps.filterMap BuildStep.wrapper?, w ∈ wrappers) →
    (∀ n ∈ steps.filterMap BuildStep.created?, n ∉ wrappers) → f'.Reads wrappers
  /-- The nodes that are added come after those that were there. -/
  mirrors : ∀ types' wrappers, types.Le types' → f.Reads wrappers →
    (∀ w ∈ steps.filterMap BuildStep.wrapper?, w ∈ wrappers) →
    (∀ n ∈ steps.filterMap BuildStep.created?, n ∉ wrappers) →
    ∀ before, MirrorsAll types' wrappers before (f.node.read wrappers) →
      MirrorsAll types' wrappers (before ++ keptAll ds (results.map (·.state)))
        (f'.node.read wrappers)

namespace Adds

variable {f f' f'' : Frame} {ds ds' : List Descriptor} {results results' : List NodeResult}
  {steps steps' : List BuildStep}

theorem length_results (h : Adds f f' types ds results steps) :
    results.length = (walkAll ds).length := by
  simpa using congrArg List.length h.covers

/-- Descriptors that are not built add nothing. -/
theorem nothing (hf : f.Fits)
    (hcovers : (results.map fun r => (r.typeName, r.source)) =
      (walkAll ds).map fun d => (d.typeName, d.source))
    (hstates : ∀ r ∈ results, r.state ≠ .success) : Adds f f types ds results steps := by
  have hkept : keptAll ds (results.map (·.state)) = [] := by
    refine keptAll_of_ne_success fun state hstate => ?_
    obtain ⟨r, hr, rfl⟩ := List.mem_map.1 hstate
    exact hstates r hr
  refine ⟨hf, rfl, rfl, hcovers, ?_, fun h => h, fun _ h _ _ => h, fun _ _ _ _ _ _ before h => ?_⟩
  · rw [hkept, walkAll, List.length_nil, eq_comm, List.countP_eq_zero]
    intro r hr
    simpa using hstates r hr
  · rwa [hkept, List.append_nil]

/-- Two parts one after the other. -/
theorem trans {types' : TypeRegistry} (h : Adds f f' types ds results steps)
    (hle : types.Le types') (h' : Adds f' f'' types' ds' results' steps') :
    Adds f f'' types' (ds ++ ds') (results ++ results') (steps ++ steps') := by
  have hkept : keptAll (ds ++ ds') ((results ++ results').map (·.state)) =
      keptAll ds (results.map (·.state)) ++ keptAll ds' (results'.map (·.state)) := by
    rw [List.map_append, keptAll_append (by rw [List.length_map, h.length_results])]
  refine ⟨h'.fits, h'.id_eq.trans h.id_eq, h'.cls_eq.trans h.cls_eq, ?_, ?_,
    fun hn => h'.owns (h.owns hn), ?_, ?_⟩
  · rw [List.map_append, h.covers, h'.covers, walkAll_append, List.map_append]
  · rw [hkept, walkAll_append, List.length_append, h.successes, h'.successes, List.countP_append]
  · intro wrappers hreads hwrap hmade
    rw [List.filterMap_append, List.forall_mem_append] at hwrap hmade
    exact h'.reads wrappers (h.reads wrappers hreads hwrap.1 hmade.1) hwrap.2 hmade.2
  · intro types'' wrappers hle' hreads hwrap hmade before hbefore
    rw [List.filterMap_append, List.forall_mem_append] at hwrap hmade
    rw [hkept, ← List.append_assoc]
    exact h'.mirrors types'' wrappers hle' (h.reads wrappers hreads hwrap.1 hmade.1) hwrap.2
      hmade.2 _ (h.mirrors types'' wrappers (hle.trans hle') hreads hwrap.1 hmade.1 before hbefore)

/-- A node that is put in its place with what is below it mirrors its descriptor. -/
theorem place (hown : ∀ t, known t → t.MakesOwn) {d : Descriptor} {r : NodeResult}
    (hr : r.IsOf d .success) {next next' : Nat} {n : Node}
    (new : NewNode known types d.typeName next n) (hf : f.Fits) {place : Place}
    (room : HasRoom f next' f' place steps) {below : Frame} {types' : TypeRegistry} (hle : types.Le types')
    (h : Adds ⟨n, false⟩ below types' d.children results steps') :
    Adds f (f'.place below.node place) types' [d] (r :: results)
      (.create next :: (steps ++ .attach f.node.id next :: steps')) := by
  obtain ⟨t, _, hresolve, hknown, hcreate, hcls⟩ := new.type
  have hbare : n.children = [] := new.bare
  have hreads : ∀ wrappers, Frame.Reads ⟨n, false⟩ wrappers := by
    intro wrappers _ c hc
    rw [show (Frame.mk n false).node.children = [] from hbare] at hc
    cases hc
  have hkept : keptAll [d] ((r :: results).map (·.state)) =
      [{ d with children := keptAll d.children (results.map (·.state)) }] := by
    rw [List.map_cons, hr.state, keptAll_singleton_success]
    rw [List.length_map, h.length_results]
  have hid : below.node.id = next := h.id_eq.trans new.id
  -- The steps of the whole are those of its parts.
  have hparts : ∀ wrappers : List Nat,
      (∀ w ∈ (BuildStep.create next :: (steps ++ .attach f.node.id next :: steps')).filterMap
        BuildStep.wrapper?, w ∈ wrappers) →
      (∀ i ∈ (BuildStep.create next :: (steps ++ .attach f.node.id next :: steps')).filterMap
        BuildStep.created?, i ∉ wrappers) →
      (∀ w ∈ steps.filterMap BuildStep.wrapper?, w ∈ wrappers) ∧ below.node.id ∉ wrappers ∧
        (∀ w ∈ steps'.filterMap BuildStep.wrapper?, w ∈ wrappers) ∧
        (∀ i ∈ steps'.filterMap BuildStep.created?, i ∉ wrappers) := by
    intro wrappers hwrap hmade
    simp only [List.filterMap_cons, List.filterMap_append, BuildStep.wrapper?, BuildStep.created?,
      List.forall_mem_append, List.forall_mem_cons] at hwrap hmade
    exact ⟨hwrap.1, hid ▸ hmade.1, hwrap.2, hmade.2.2⟩
  refine ⟨room.fits_place hf _, room.id_place _, cls_place hf room _, ?_, ?_, fun hn => ?_, ?_,
    ?_⟩
  · rw [List.map_cons, h.covers, walkAll_singleton, walk_eq, List.map_cons, hr.typeName, hr.source]
  · rw [hkept, walkAll_singleton, walk_eq, List.length_cons, h.successes, List.countP_cons,
      hr.state]
    rfl
  · exact room.owns_place hf hn (h.owns (Node.owns_of_bare hbare))
  · intro wrappers hf' hwrap hmade
    obtain ⟨hwrap₁, hnext, -⟩ := hparts wrappers hwrap hmade
    exact room.reads_place hf hf' hwrap₁ hnext
  · intro types'' wrappers hle' hf' hwrap hmade before hbefore
    obtain ⟨hwrap₁, hnext, hwrap₂, hmade₂⟩ := hparts wrappers hwrap hmade
    rw [hkept]
    refine room.mirrorsAll_place hf hf' hwrap₁ hnext hbefore ?_
    rw [Mirrors]
    refine ⟨⟨t, hle' _ _ (hle _ _ hresolve), ?_⟩, ?_⟩
    · rw [h.cls_eq, hcls]
      exact (hown t hknown).own _ _ hcreate
    · have hnone : MirrorsAll types'' wrappers [] (n.read wrappers) := by
        rw [Node.read_of_bare hbare]
        exact .nil
      exact h.mirrors types'' wrappers hle' (hreads wrappers) hwrap₂ hmade₂ [] hnone

end Adds

/-- The nodes below one that is not there add nothing. -/
theorem adds_skippedBelow {f : Frame} (hf : f.Fits) (d : Descriptor) :
    Adds f f types d.children (skippedBelow d) [] := by
  refine .nothing hf (by rw [skippedBelow, List.map_map]; rfl) fun r hr => ?_
  obtain ⟨b, -, rfl⟩ := List.mem_map.1 hr
  exact NodeState.noConfusion

/-- A descriptor that is not built adds nothing. -/
theorem adds_unbuilt {f : Frame} (hf : f.Fits) {d : Descriptor} {r : NodeResult} {state : NodeState}
    (hr : r.IsOf d state) (hstate : state ≠ .success) {steps : List BuildStep} :
    Adds f f types [d] (r :: skippedBelow d) steps := by
  refine .nothing hf ?_ fun b hb => ?_
  · rw [List.map_cons, walkAll_singleton, Descriptor.walk_eq, List.map_cons, skippedBelow,
      List.map_map, hr.typeName, hr.source]
    rfl
  · rcases List.mem_cons.1 hb with rfl | hb
    · rwa [hr.state]
    · obtain ⟨b, -, rfl⟩ := List.mem_map.1 hb
      exact NodeState.noConfusion

mutual

/-- The building of a descriptor that comes to its end adds what is kept of it. -/
theorem adds_buildNode {s : Setup} (hs : s.Behaves known) (hown : ∀ t, known t → t.MakesOwn) :
    ∀ (d : Descriptor) (f : Frame) (p : Progress), f.Fits → p.types.All known →
      (buildNode s d f p).halt = none →
      ∃ made results steps, Advances known p (buildNode s d f p).progress made results steps ∧
        Adds f (buildNode s d f p).value (buildNode s d f p).progress.types [d] results steps
  | .mk typeName properties group children source, f, p, hf, hp, hend => by
    have hstarted := started hs (fun t ht => (hown t ht).new)
      ⟨typeName, properties, group, children, source⟩ hf hp
    have hbelow := adds_buildAll hs hown children
    rw [buildNode] at hend ⊢
    generalize start s ⟨typeName, properties, group, children, source⟩ f p = st at hstarted hend ⊢
    cases hstarted with
    | ended | refused | abandoned | stuck => cases hend
    | failed adv result => exact ⟨_, _, _, adv, adds_unbuilt hf result nofun⟩
    | dropped adv result => exact ⟨_, _, _, adv, adds_unbuilt hf result nofun⟩
    | @placed q r n f' place steps goesOn room new adv result =>
      cases goesOn with
      | true =>
        obtain ⟨made, results, steps', adv', h⟩ := hbelow ⟨n, false⟩ q new.fits (adv.known hp) hend
        have hadv : Advances known p (buildAll s children ⟨n, false⟩ q).progress
            (1 + steps.length + made) (r :: results)
            (.create p.nextId :: (steps ++ .attach f.node.id p.nextId :: steps')) := by
          simpa using adv.trans adv'
        exact ⟨_, _, _, hadv, .place hown result new hf room adv'.types h⟩
      | false =>
        exact ⟨_, _, _, adv,
          .place hown result new hf room (.refl _) (adds_skippedBelow new.fits _)⟩

/-- The building of descriptors that comes to its end adds what is kept of them. -/
theorem adds_buildAll {s : Setup} (hs : s.Behaves known) (hown : ∀ t, known t → t.MakesOwn) :
    ∀ (ds : List Descriptor) (f : Frame) (p : Progress), f.Fits → p.types.All known →
      (buildAll s ds f p).halt = none →
      ∃ made results steps, Advances known p (buildAll s ds f p).progress made results steps ∧
        Adds f (buildAll s ds f p).value (buildAll s ds f p).progress.types ds results steps
  | [], f, p, hf, _, _ => by
    rw [buildAll]
    exact ⟨_, _, _, Still.refl p, .nothing hf rfl nofun⟩
  | d :: rest, f, p, hf, hp, hend => by
    rw [buildAll] at hend ⊢
    cases hhalt : (buildNode s d f p).halt with
    | some h =>
      rw [hhalt] at hend
      cases hend
    | none =>
      rw [hhalt] at hend
      obtain ⟨made, results, steps, adv, h⟩ := adds_buildNode hs hown d f p hf hp hhalt
      obtain ⟨made', results', steps', adv', h'⟩ := adds_buildAll hs hown rest _ _ h.fits
        (adv.known hp) hend
      exact ⟨_, _, _, adv.trans adv', h.trans adv'.types h'⟩

end

end Build

/-- **The tree mirrors the layout.** After a build that comes to its end, the results are about the
nodes of the layout in the order in which it is walked. The tree below the container mirrors what is
kept of the layout, which are the nodes that were built, one for each result that says so. No node
occurs twice in the tree, and it owns its nodes. -/
theorem mirrorsAll_build (b : Builder) (r : Registry) (plugins : PluginManager) (container : Node)
    (ds : List Descriptor) (source : Option String) (mode : Mode)
    (hsetters : r.setters = Setter.standard) (htypes : r.types.All NodeType.MakesOwn)
    (hmodules : ∀ m ∈ b.modules, ∀ c ∈ m.classes, c.KeepsChildren)
    (happlier : b.applier.KeepsObject) (hkeeps : container.cls.KeepsChildren)
    (hempty : container.children = [])
    (hend : (b.build r plugins container ds source mode).halt = none) :
    let o := b.build r plugins container ds source mode
    let kept := Descriptor.keptAll ds (o.report.nodes.map (·.state))
    (o.report.nodes.map fun r => (r.typeName, r.source)) =
        (Descriptor.walkAll ds).map (fun d => (d.typeName, d.source)) ∧
      (Descriptor.walkAll kept).length = o.report.stateCount .success ∧
      MirrorsAll o.registry.types o.wrappers kept (o.container.read o.wrappers) ∧
      o.container.ids.Nodup ∧ o.container.Owns := by
  intro o kept
  have hs : (b.setup r mode).Behaves NodeType.MakesOwn :=
    Builder.behaves_setup (fun m hm c hc _ => makesOwn_create (hmodules m hm c hc)) hsetters happlier
      mode
  have hfits : Build.Frame.Fits ⟨container, false⟩ :=
    ⟨hkeeps, fun _ => by rw [hempty]; exact Nat.zero_le 1, nofun⟩
  obtain ⟨made, results, steps, adv, h⟩ := Build.adds_buildAll hs (fun _ ht => ht) ds
    ⟨container, false⟩ (Builder.initial r container source mode) hfits htypes hend
  obtain ⟨made', results', steps', left, h'⟩ := exists_accounts b r container ds source mode hs
    (fun _ ht => ht.new) htypes hkeeps (fun _ => by rw [hempty]; exact Nat.zero_le 1)
  have hnodes : o.report.nodes = results := adv.nodes
  have hwrappers : ∀ w ∈ steps.filterMap BuildStep.wrapper?, w ∈ o.wrappers := fun w hw => by
    rwa [wrappers_build adv]
  have hapart : ∀ n ∈ steps.filterMap BuildStep.created?, n ∉ o.wrappers := by
    intro n hn
    rw [← created_build adv] at hn
    exact notMem_wrappers_of_created h' hn
  have hreads : Build.Frame.Reads ⟨container, false⟩ o.wrappers := by
    intro _ c hc
    rw [show (Build.Frame.mk container false).node.children = [] from hempty] at hc
    cases hc
  refine ⟨by rw [hnodes, h.covers], ?_, ?_, nodup_ids_build h' ?_,
    h.owns (Node.owns_of_bare hempty)⟩
  · show (Descriptor.walkAll (Descriptor.keptAll ds (o.report.nodes.map (·.state)))).length = _
    rw [Report.stateCount, hnodes]
    exact h.successes
  · show MirrorsAll _ _ (Descriptor.keptAll ds (o.report.nodes.map (·.state))) _
    rw [hnodes]
    refine h.mirrors o.registry.types o.wrappers (.refl _) hreads hwrappers hapart [] ?_
    rw [Node.read_of_bare hempty]
    exact .nil
  · rw [Node.ids_eq, hempty]
    exact List.nodup_singleton _

/-- A layout with text content that is replaced, a node that can take no children, and one of an
unknown type. -/
def mixedLayout : List Descriptor := [
  ⟨"Button", [⟨"Content", some "Save"⟩], none,
    [⟨"TextBlock", [], none, [⟨"Image", [], none, [], none⟩], none⟩], none⟩,
  ⟨"StackPanel", [], none, [
    ⟨"Unknown", [], none, [⟨"Button", [], none, [], none⟩], none⟩,
    ⟨"ListBox", [], none, [⟨"Button", [], none, [], none⟩], none⟩], none⟩]

/-- The build of the layout in a window, which holds one child and needs a wrapper. -/
def mixedBuild : BuildOutcome :=
  (Builder.standard .standard ⟨[], []⟩ .standard).build .standard (.empty false)
    (.ofClass 0 (.contentControl "Window" [])) mixedLayout none .direct

theorem mirrorsAll_mixedBuild :
    let kept := Descriptor.keptAll mixedLayout (mixedBuild.report.nodes.map (·.state))
    (mixedBuild.report.nodes.map fun r => (r.typeName, r.source)) =
        (Descriptor.walkAll mixedLayout).map (fun d => (d.typeName, d.source)) ∧
      (Descriptor.walkAll kept).length = mixedBuild.report.stateCount .success ∧
      MirrorsAll mixedBuild.registry.types mixedBuild.wrappers kept
        (mixedBuild.container.read mixedBuild.wrappers) ∧
      mixedBuild.container.ids.Nodup ∧ mixedBuild.container.Owns :=
  mirrorsAll_build _ _ _ _ _ _ _ rfl (fun e he => absurd he List.not_mem_nil)
    ModuleIndex.keepsChildren_standard keepsObject_storeBinding (by decide) rfl
    (Option.isNone_iff_eq_none.1 (by decide +kernel))

end LayoutTree
