import LayoutTree.Build.Builder
import LayoutTree.Proofs.Build.Tree
import Mathlib.Data.List.Nodup

/-!
# Accounting for nodes

Every node that a build makes is attached, given up, or left behind by the end of the build
(`Accounts`). A build leaves a node behind when it ends at one of its properties: then the node is
not in the tree, but its result says that it was built.

The main statement is `stateCount_success_eq`: the report of a build that ends in any way counts the
attached nodes and the one that was left behind as built. So the count of built nodes is that of the
nodes in the tree exactly if no node was left behind.
-/

namespace LayoutTree

/-- Whether a fault is that a module cannot be used. -/
def BuildFault.isOfModule : BuildFault → Bool
  | .noModule _ => true
  | _ => false

namespace Build

open Node

variable {known : NodeType → Prop} {p q : Progress}

/-- How many nodes an end of a build can leave behind. -/
def Leaves (halt : Option Halt) (k : Nat) : Prop :=
  match halt.map Halt.fault with
  | none | some (.unknownType _) | some (.notCreated _ _) => k = 0
  | some (.rejected _ _) | some (.notAssigned _ _) => k = 1
  | some .cancelled | some (.noModule _) => k ≤ 1

/-- Whether a build ends because of a module. -/
def EndsAtModule (halt : Option Halt) : Prop := ∃ h ∈ halt, h.fault.isOfModule = true

/-- What a part of a build does to the nodes below one node. -/
structure Accounts (known : NodeType → Prop) (f : Frame) (p : Progress) (built : Stage Frame)
    (made : Nat) (results : List NodeResult) (steps : List BuildStep) (left : List Nat) : Prop where
  adv : Advances known p built.progress made results steps
  fits : built.value.Fits
  id_eq : built.value.node.id = f.node.id
  cls_eq : built.value.node.cls = f.node.cls
  /-- The nodes that are attached and the wrappers are in the tree. -/
  ids : built.value.node.ids.Perm
    (f.node.ids ++ (steps.filterMap BuildStep.attached? ++ steps.filterMap BuildStep.wrapper?))
  /-- The nodes that are made are attached, given up or left behind. -/
  created : (steps.filterMap BuildStep.created?).Perm
    (steps.filterMap BuildStep.attached? ++ (steps.filterMap BuildStep.dropped? ++ left))
  /-- The nodes and the wrappers get the identities that are given out. -/
  given : (steps.filterMap BuildStep.created? ++ steps.filterMap BuildStep.wrapper?).Perm
    (List.range' p.nextId made)
  /-- The results count the attached nodes and those left behind. -/
  successes : ¬ EndsAtModule built.halt → results.countP (fun r => r.state = .success) =
    (steps.filterMap BuildStep.attached?).length + left.length
  leaves : Leaves built.halt left.length

theorem leaves_of_creation {h : Halt} (hfault : h.fault.isOfCreation = true) :
    Leaves (some h) 0 := by
  obtain ⟨fault, context⟩ := h
  cases fault <;> first | rfl | cases hfault

theorem leaves_of_property {h : Halt} (hfault : h.fault.isOfProperty = true) :
    Leaves (some h) 1 := by
  obtain ⟨fault, context⟩ := h
  cases fault <;> first | exact rfl | exact Nat.le_refl 1 | cases hfault

theorem leaves_of_module {h : Halt} (hfault : ∃ m, h.fault = .noModule m) {k : Nat} (hk : k ≤ 1) :
    Leaves (some h) k := by
  obtain ⟨m, hm⟩ := hfault
  rw [Leaves, Option.map_some, hm]
  exact hk

theorem countP_skippedBelow (d : Descriptor) :
    (skippedBelow d).countP (fun r => r.state = .success) = 0 := by
  rw [skippedBelow, List.countP_eq_zero]
  intro r hr
  obtain ⟨b, -, rfl⟩ := List.mem_map.1 hr
  simp [NodeResult.ofState]

namespace Accounts

variable {f : Frame}

/-- A part that makes no node. -/
theorem unchanged (hf : f.Fits) {halt : Option Halt} {results : List NodeResult}
    (adv : Advances known p q 0 results [])
    (hresults : ¬ EndsAtModule halt → results.countP (fun r => r.state = .success) = 0)
    (hleaves : Leaves halt 0) : Accounts known f p ⟨f, q, halt⟩ 0 results [] [] where
  adv := adv
  fits := hf
  id_eq := rfl
  cls_eq := rfl
  ids := by simp
  created := by simp
  given := by simp
  successes h := hresults h
  leaves := hleaves

/-- A node that is made and left behind. -/
theorem leftBehind (hf : f.Fits) {halt : Option Halt} {results : List NodeResult}
    (adv : Advances known p q 1 results [.create p.nextId])
    (hresults : ¬ EndsAtModule halt → results.countP (fun r => r.state = .success) = 1)
    (hleaves : Leaves halt 1) :
    Accounts known f p ⟨f, q, halt⟩ 1 results [.create p.nextId] [p.nextId] where
  adv := adv
  fits := hf
  id_eq := rfl
  cls_eq := rfl
  ids := by
    show f.node.ids.Perm (f.node.ids ++ [])
    rw [List.append_nil]
  created := .refl [p.nextId]
  given := .refl [p.nextId]
  successes h := hresults h
  leaves := hleaves

/-- A node that is made and given up. -/
theorem givenUp (hf : f.Fits) {results : List NodeResult}
    (adv : Advances known p q 1 results [.create p.nextId, .drop p.nextId])
    (hresults : results.countP (fun r => r.state = .success) = 0) :
    Accounts known f p ⟨f, q, none⟩ 1 results [.create p.nextId, .drop p.nextId] [] where
  adv := adv
  fits := hf
  id_eq := rfl
  cls_eq := rfl
  ids := by
    show f.node.ids.Perm (f.node.ids ++ [])
    rw [List.append_nil]
  created := .refl [p.nextId]
  given := .refl [p.nextId]
  successes _ := hresults
  leaves := rfl

/-- Two parts one after the other. -/
theorem trans {built built' : Stage Frame} {made made' : Nat} {results results' : List NodeResult}
    {steps steps' : List BuildStep} {left : List Nat}
    (h : Accounts known f p built made results steps []) (hhalt : built.halt = none)
    (h' : Accounts known built.value built.progress built' made' results' steps' left) :
    Accounts known f p built' (made + made') (results ++ results') (steps ++ steps') left where
  adv := h.adv.trans h'.adv
  fits := h'.fits
  id_eq := h'.id_eq.trans h.id_eq
  cls_eq := h'.cls_eq.trans h.cls_eq
  ids := by
    refine List.perm_iff_count.2 fun a => ?_
    have h1 := h.ids.count_eq a
    have h2 := h'.ids.count_eq a
    simp only [List.filterMap_append, List.count_append] at h1 h2 ⊢
    omega
  created := by
    refine List.perm_iff_count.2 fun a => ?_
    have h1 := h.created.count_eq a
    have h2 := h'.created.count_eq a
    simp only [List.filterMap_append, List.count_append, List.count_nil] at h1 h2 ⊢
    omega
  given := by
    refine List.perm_iff_count.2 fun a => ?_
    have h1 := h.given.count_eq a
    have h2 := h'.given.count_eq a
    rw [h.adv.nextId] at h2
    rw [← List.range'_append_1]
    simp only [List.filterMap_append, List.count_append] at h1 h2 ⊢
    omega
  successes hmodule := by
    have h1 := h.successes (by rintro ⟨_, hsome, -⟩; rw [hhalt] at hsome; cases hsome)
    have h2 := h'.successes hmodule
    rw [List.countP_append, h1, h2, List.filterMap_append, List.length_append, List.length_nil]
    omega
  leaves := h'.leaves

/-- A node that is put in its place, with the nodes that were built below it. -/
theorem place {r : NodeResult} (hr : r.state = .success) {rest : List NodeResult}
    (hrest : rest.countP (fun r => r.state = .success) = 0) {types : TypeRegistry} {name : String}
    {n : Node} (new : NewNode known types name p.nextId n) (hf : f.Fits) {f' : Frame}
    {place : Place} {steps : List BuildStep} (room : HasRoom f (p.nextId + 1) f' place steps)
    (adv : Advances known p q (1 + steps.length) (r :: rest)
      (.create p.nextId :: (steps ++ [.attach f.node.id p.nextId])))
    {built : Stage Frame} {made : Nat} {results : List NodeResult} {steps' : List BuildStep}
    {left : List Nat} (h : Accounts known ⟨n, false⟩ q built made results steps' left) :
    Accounts known f p ⟨f'.place built.value.node place, built.progress, built.halt⟩
      (1 + steps.length + made) (r :: (rest ++ results))
      (.create p.nextId :: (steps ++ .attach f.node.id p.nextId :: steps')) left := by
  obtain ⟨hcreated, hattached, hdropped, hwrappers⟩ := room.steps_eq
  refine ⟨by simpa using adv.trans h.adv, room.fits_place hf _, room.id_place _,
    cls_place hf room _, ?_, ?_, ?_, fun hmodule => ?_, h.leaves⟩
  · have hn : n.ids = [p.nextId] := by rw [ids_eq, new.id, new.bare]; rfl
    refine List.perm_iff_count.2 fun a => ?_
    have h1 := (room.perm_ids_place hf built.value.node).count_eq a
    have h2 := h.ids.count_eq a
    rw [hn] at h2
    simp only [List.filterMap_cons, List.filterMap_append, List.count_append, List.count_cons,
      List.count_nil, hattached, BuildStep.attached?, BuildStep.wrapper?] at h1 h2 ⊢
    omega
  · refine List.perm_iff_count.2 fun a => ?_
    have h1 := h.created.count_eq a
    simp only [List.filterMap_cons, List.filterMap_append, List.count_append, List.count_cons,
      List.count_nil, hcreated, hattached, hdropped, BuildStep.created?, BuildStep.attached?,
      BuildStep.dropped?] at h1 ⊢
    omega
  · refine List.perm_iff_count.2 fun a => ?_
    have h1 := h.given.count_eq a
    rw [adv.nextId] at h1
    rw [← List.range'_append_1, ← List.range'_append_1, List.range'_one]
    simp only [List.filterMap_cons, List.filterMap_append, List.count_append, List.count_cons,
      List.count_nil, hcreated, hwrappers, BuildStep.created?, BuildStep.wrapper?] at h1 ⊢
    omega
  · have h1 := h.successes hmodule
    rw [List.countP_cons, List.countP_append, hrest, h1, hr]
    simp only [List.filterMap_cons, List.filterMap_append, List.length_cons, hattached,
      BuildStep.attached?, List.nil_append, decide_true, if_true]
    omega

end Accounts

mutual

/-- The building of a descriptor accounts for its nodes. -/
theorem accounts_buildNode {s : Setup} (hs : s.Behaves known) (hnew : ∀ t, known t → t.MakesNew) :
    ∀ (d : Descriptor) (f : Frame) (p : Progress), f.Fits → p.types.All known →
      ∃ made results steps left, Accounts known f p (buildNode s d f p) made results steps left
  | .mk typeName properties group children source, f, p, hf, hp => by
    have hstarted := started hs hnew ⟨typeName, properties, group, children, source⟩ hf hp
    have hbelow := accounts_buildAll hs hnew children
    rw [buildNode]
    generalize start s ⟨typeName, properties, group, children, source⟩ f p = st at hstarted ⊢
    have hskipped : ∀ {r : NodeResult}, r.state ≠ .success →
        (r :: skippedBelow ⟨typeName, properties, group, children, source⟩).countP
          (fun r => r.state = .success) = 0 := by
      intro r hr
      rw [List.countP_cons, countP_skippedBelow]
      simp [hr]
    cases hstarted with
    | @ended q h still fault =>
      refine ⟨_, _, _, _, .unchanged hf still (fun _ => rfl) ?_⟩
      rcases fault with hfault | hfault
      · rw [Leaves, Option.map_some, hfault]
        exact Nat.zero_le 1
      · exact leaves_of_module hfault (Nat.zero_le 1)
    | @refused q h r adv result fault =>
      refine ⟨_, _, _, _, .unchanged hf adv (fun _ => ?_) (leaves_of_creation fault)⟩
      simp [result.state]
    | failed adv result =>
      exact ⟨_, _, _, _, .unchanged hf adv (fun _ => hskipped (by rw [result.state]; nofun)) rfl⟩
    | @abandoned q h r adv result fault =>
      refine ⟨_, _, _, _, .leftBehind hf adv (fun _ => ?_) (leaves_of_property fault)⟩
      simp [result.state]
    | @stuck q h adv fault =>
      have hmodule : EndsAtModule (some h) := by
        obtain ⟨m, hm⟩ := fault
        exact ⟨h, rfl, by rw [hm]; rfl⟩
      exact ⟨_, _, _, _, .leftBehind hf adv (fun hnot => absurd hmodule hnot)
        (leaves_of_module fault (Nat.le_refl 1))⟩
    | dropped adv result =>
      exact ⟨_, _, _, _, .givenUp hf adv (hskipped (by rw [result.state]; nofun))⟩
    | @placed q r n f' place steps goesOn room new adv result =>
      cases goesOn with
      | true =>
        obtain ⟨made, results, steps', left, h⟩ := hbelow ⟨n, false⟩ q new.fits (adv.known hp)
        exact ⟨_, _, _, _, .place result.state rfl new hf room adv h⟩
      | false =>
        have hnone : Accounts known ⟨n, false⟩ q ⟨⟨n, false⟩, q, none⟩ 0 [] [] [] :=
          .unchanged new.fits (Still.refl q) (fun _ => rfl) rfl
        exact ⟨_, _, _, _, .place result.state (countP_skippedBelow _) new hf room adv hnone⟩

/-- The building of descriptors accounts for their nodes. -/
theorem accounts_buildAll {s : Setup} (hs : s.Behaves known) (hnew : ∀ t, known t → t.MakesNew) :
    ∀ (ds : List Descriptor) (f : Frame) (p : Progress), f.Fits → p.types.All known →
      ∃ made results steps left, Accounts known f p (buildAll s ds f p) made results steps left
  | [], f, p, hf, _ => by
    rw [buildAll]
    exact ⟨_, _, _, _, .unchanged hf (Still.refl p) (fun _ => rfl) rfl⟩
  | d :: rest, f, p, hf, hp => by
    obtain ⟨made, results, steps, left, hfirst⟩ := accounts_buildNode hs hnew d f p hf hp
    rw [buildAll]
    split
    · next h hhalt =>
      rw [Stage.halted, ← hhalt]
      exact ⟨_, _, _, _, hfirst⟩
    · next hhalt =>
      have hleft : left = [] := by
        have hleaves := hfirst.leaves
        rw [hhalt] at hleaves
        exact List.length_eq_zero_iff.1 hleaves
      rw [hleft] at hfirst
      obtain ⟨made', results', steps', left', hrest⟩ := accounts_buildAll hs hnew rest _ _
        hfirst.fits (hfirst.adv.known hp)
      exact ⟨_, _, _, _, hfirst.trans hhalt hrest⟩

end

end Build

/-! ## Whole builds -/

namespace BuildOutcome

/-- The nodes that were made for descriptors. -/
def created (o : BuildOutcome) : List Nat := o.steps.filterMap BuildStep.created?

/-- Those of them that are in the tree of the container. -/
def inTree (o : BuildOutcome) : List Nat := o.container.ids.filter (· ∈ o.created)

/-- The wrappers that were put around content. -/
def wrappers (o : BuildOutcome) : List Nat := o.steps.filterMap BuildStep.wrapper?

/-- Those of the nodes that were neither attached nor given up. -/
def leftBehind (o : BuildOutcome) : List Nat :=
  o.created.filter fun n =>
    n ∉ o.steps.filterMap BuildStep.attached? ∧ n ∉ o.steps.filterMap BuildStep.dropped?

end BuildOutcome

namespace BuildStep

theorem created?_eq_none {step : BuildStep} (h : step.isStructural = false) :
    step.created? = none := by
  cases step <;> first | rfl | cases h

theorem attached?_eq_none {step : BuildStep} (h : step.isStructural = false) :
    step.attached? = none := by
  cases step <;> first | rfl | cases h

theorem dropped?_eq_none {step : BuildStep} (h : step.isStructural = false) :
    step.dropped? = none := by
  cases step <;> first | rfl | cases h

theorem wrapper?_eq_none {step : BuildStep} (h : step.isStructural = false) :
    step.wrapper? = none := by
  cases step <;> first | rfl | cases h

end BuildStep

theorem filterMap_filter_isStructural {f : BuildStep → Option Nat}
    (hf : ∀ step, step.isStructural = false → f step = none) (steps : List BuildStep) :
    (steps.filter BuildStep.isStructural).filterMap f = steps.filterMap f := by
  rw [List.filterMap_filter]
  refine List.filterMap_congr fun step _ => ?_
  split
  · rfl
  · next h => exact (hf step (by simpa using h)).symm

section Whole

variable {known : NodeType → Prop}

/-- A whole build accounts for its nodes. -/
theorem exists_accounts (b : Builder) (r : Registry) (container : Node) (ds : List Descriptor)
    (source : Option String) (mode : Mode) (hb : (b.setup r mode).Behaves known)
    (hnew : ∀ t, known t → t.MakesNew) (hr : r.types.All known)
    (hkeeps : container.cls.KeepsChildren)
    (hsingle : container.cls.capability = .content → container.children.length ≤ 1) :
    ∃ made results steps left, Build.Accounts known ⟨container, false⟩
      (Builder.initial r container source mode)
      (Build.buildAll (b.setup r mode) ds ⟨container, false⟩
        (Builder.initial r container source mode)) made results steps left :=
  Build.accounts_buildAll hb hnew ds ⟨container, false⟩ _ ⟨hkeeps, hsingle, nofun⟩ hr

variable {b : Builder} {r : Registry} {plugins : PluginManager} {container : Node}
  {ds : List Descriptor} {source : Option String} {mode : Mode} {made : Nat}
  {results : List NodeResult} {steps : List BuildStep} {left : List Nat}

/-! ### The steps of a build -/

section Steps

variable (adv : Advances known (Builder.initial r container source mode)
  (Build.buildAll (b.setup r mode) ds ⟨container, false⟩
    (Builder.initial r container source mode)).progress made results steps)
include adv

/-- The structural steps of a build are those that it takes on its way. -/
theorem filterMap_steps_build {f : BuildStep → Option Nat}
    (hf : ∀ step, step.isStructural = false → f step = none) :
    (b.build r plugins container ds source mode).steps.filterMap f = steps.filterMap f := by
  have hsteps : (b.build r plugins container ds source mode).steps.filter BuildStep.isStructural =
      steps := adv.steps
  rw [← filterMap_filter_isStructural hf, hsteps]

theorem created_build :
    (b.build r plugins container ds source mode).created = steps.filterMap BuildStep.created? :=
  filterMap_steps_build adv fun _ => BuildStep.created?_eq_none

theorem wrappers_build :
    (b.build r plugins container ds source mode).wrappers = steps.filterMap BuildStep.wrapper? :=
  filterMap_steps_build adv fun _ => BuildStep.wrapper?_eq_none

end Steps

/-! ### The nodes of a build -/

variable (h : Build.Accounts known ⟨container, false⟩ (Builder.initial r container source mode)
  (Build.buildAll (b.setup r mode) ds ⟨container, false⟩
    (Builder.initial r container source mode)) made results steps left)
include h

/-- The identities of the nodes and wrappers of a build are different. -/
theorem nodup_given :
    (steps.filterMap BuildStep.created? ++ steps.filterMap BuildStep.wrapper?).Nodup :=
  h.given.nodup_iff.2 List.nodup_range'

/-- Nodes of a build are not below the container at its start. -/
theorem notMem_of_given {i : Nat} (hi : i ∈ container.ids) :
    i ∉ steps.filterMap BuildStep.created? ++ steps.filterMap BuildStep.wrapper? := by
  intro hgiven
  have hrange := h.given.mem_iff.1 hgiven
  exact absurd (container.lt_freshId i hi) (Nat.not_lt.2 (List.mem_range'_1.1 hrange).1)

/-- The tree below the container is what was there, the attached nodes and the wrappers. -/
theorem perm_ids_build : (b.build r plugins container ds source mode).container.ids.Perm
    (container.ids ++
      (steps.filterMap BuildStep.attached? ++ steps.filterMap BuildStep.wrapper?)) :=
  h.ids

theorem mem_created_of_attached {i : Nat} (hi : i ∈ steps.filterMap BuildStep.attached?) :
    i ∈ steps.filterMap BuildStep.created? :=
  h.created.mem_iff.2 (List.mem_append_left _ hi)

theorem length_inTree : (b.build r plugins container ds source mode).inTree.length =
    (steps.filterMap BuildStep.attached?).length := by
  have hold : ∀ i ∈ container.ids, i ∉ steps.filterMap BuildStep.created? := fun i hi hin =>
    notMem_of_given h hi (List.mem_append_left _ hin)
  have hattached : ∀ i ∈ steps.filterMap BuildStep.attached?,
      i ∈ steps.filterMap BuildStep.created? := fun i hi => mem_created_of_attached h hi
  have hwrappers : ∀ i ∈ steps.filterMap BuildStep.wrapper?,
      i ∉ steps.filterMap BuildStep.created? := fun i hi hin =>
    (List.nodup_append'.1 (nodup_given h)).2.2 hin hi
  rw [BuildOutcome.inTree, created_build h.adv, ((perm_ids_build h).filter _).length_eq,
    List.filter_append, List.filter_append, List.filter_eq_nil_iff.2 (by simpa using hold),
    List.filter_eq_self.2 (by simpa using hattached),
    List.filter_eq_nil_iff.2 (by simpa using hwrappers), List.append_nil, List.nil_append]

theorem length_leftBehind :
    (b.build r plugins container ds source mode).leftBehind.length = left.length := by
  have hattached : (b.build r plugins container ds source mode).steps.filterMap
      BuildStep.attached? = steps.filterMap BuildStep.attached? :=
    filterMap_steps_build h.adv fun _ => BuildStep.attached?_eq_none
  have hdropped : (b.build r plugins container ds source mode).steps.filterMap BuildStep.dropped? =
      steps.filterMap BuildStep.dropped? :=
    filterMap_steps_build h.adv fun _ => BuildStep.dropped?_eq_none
  have hnodup : (steps.filterMap BuildStep.created?).Nodup :=
    (List.nodup_append'.1 (nodup_given h)).1
  rw [h.created.nodup_iff, List.nodup_append', List.nodup_append'] at hnodup
  obtain ⟨-, ⟨-, -, hleft⟩, hrest⟩ := hnodup
  rw [BuildOutcome.leftBehind, created_build h.adv, hattached, hdropped,
    (h.created.filter _).length_eq, List.filter_append, List.filter_append,
    List.filter_eq_nil_iff.2, List.filter_eq_nil_iff.2, List.filter_eq_self.2, List.nil_append, List.nil_append]
  · intro i hi
    exact decide_eq_true
      ⟨fun hin => hrest hin (List.mem_append_right _ hi), fun hin => hleft hin hi⟩
  · intro i hi hin
    exact (of_decide_eq_true hin).2 hi
  · intro i hi hin
    exact (of_decide_eq_true hin).1 hi

/-- A wrapper is not one of the nodes that are made for descriptors. -/
theorem notMem_wrappers_of_created {i : Nat}
    (hi : i ∈ (b.build r plugins container ds source mode).created) :
    i ∉ (b.build r plugins container ds source mode).wrappers := by
  rw [created_build h.adv] at hi
  rw [wrappers_build h.adv]
  exact (List.nodup_append'.1 (nodup_given h)).2.2 hi

/-- No node occurs twice in the tree below the container if none did before. -/
theorem nodup_ids_build (hnodup : container.ids.Nodup) :
    (b.build r plugins container ds source mode).container.ids.Nodup := by
  have hgiven : ((steps.filterMap BuildStep.attached? ++
      (steps.filterMap BuildStep.dropped? ++ left)) ++
        steps.filterMap BuildStep.wrapper?).Nodup :=
    (h.created.append_right _).nodup_iff.1 (nodup_given h)
  rw [(perm_ids_build h).nodup_iff, List.nodup_append']
  refine ⟨hnodup, hgiven.sublist ((List.sublist_append_left _ _).append_right _),
    fun i hi hin => ?_⟩
  refine notMem_of_given h hi ?_
  rcases List.mem_append.1 hin with hin | hin
  · exact List.mem_append_left _ (mem_created_of_attached h hin)
  · exact List.mem_append_right _ hin

end Whole

/-- **The report counts as built the nodes in the tree and the one that is left behind.** However a
build ends, other than by a module that cannot be used, the number of nodes that its report says
were built is that of the nodes in the tree and those left behind, and only an end at a property, or
by cancellation, leaves a node behind. So the report counts the nodes in the tree exactly if no node
is left behind. -/
theorem stateCount_success_eq (b : Builder) (r : Registry) (plugins : PluginManager)
    (container : Node) (ds : List Descriptor) (source : Option String) (mode : Mode)
    (hb : (b.setup r mode).Behaves NodeType.MakesNew) (hr : r.types.All NodeType.MakesNew)
    (hkeeps : container.cls.KeepsChildren)
    (hsingle : container.cls.capability = .content → container.children.length ≤ 1)
    (hend : ¬ Build.EndsAtModule (b.build r plugins container ds source mode).halt) :
    let o := b.build r plugins container ds source mode
    o.report.stateCount .success = o.inTree.length + o.leftBehind.length ∧
      Build.Leaves o.halt o.leftBehind.length ∧
      (o.report.stateCount .success = o.inTree.length ↔ o.leftBehind = []) := by
  intro o
  obtain ⟨made, results, steps, left, h⟩ :=
    exists_accounts b r container ds source mode hb (fun _ ht => ht) hr hkeeps hsingle
  have hcount : o.report.stateCount .success =
      (steps.filterMap BuildStep.attached?).length + left.length := by
    have hnodes : o.report.nodes = results := h.adv.nodes
    rw [Report.stateCount, hnodes]
    exact h.successes hend
  have htree : o.inTree.length = (steps.filterMap BuildStep.attached?).length := length_inTree h
  have hleft : o.leftBehind.length = left.length := length_leftBehind h
  refine ⟨by rw [hcount, htree, hleft], hleft ▸ h.leaves, ?_⟩
  rw [hcount, htree, ← List.length_eq_zero_iff, hleft]
  omega

/-- The build of a button that ends at its width, which is not a number. -/
def badWidthBuild : BuildOutcome :=
  (Builder.standard { Settings.standard with stopOnError := true } ⟨[], []⟩ .standard).build
    .standard (.empty false) (.ofClass 0 (.panel "StackPanel" []))
    [⟨"Button", [⟨"Width", some "abc"⟩], none, [], none⟩] none .direct

theorem stateCount_success_badWidth :
    badWidthBuild.report.stateCount .success =
        badWidthBuild.inTree.length + badWidthBuild.leftBehind.length ∧
      Build.Leaves badWidthBuild.halt badWidthBuild.leftBehind.length ∧
      (badWidthBuild.report.stateCount .success = badWidthBuild.inTree.length ↔
        badWidthBuild.leftBehind = []) :=
  stateCount_success_eq _ _ _ _ _ _ _
    (Builder.behaves_setup (fun m hm c hc _ =>
      makesNew_create (ModuleIndex.keepsChildren_standard m hm c hc)) rfl keepsObject_storeBinding _)
    (fun e he => absurd he List.not_mem_nil) (by decide) (by decide)
    (by unfold Build.EndsAtModule; decide +kernel)

/-- The button is counted as built, but nothing is in the tree. -/
theorem stateCount_success_ne_badWidth :
    badWidthBuild.report.stateCount .success ≠ badWidthBuild.inTree.length := by
  decide +kernel

end LayoutTree
