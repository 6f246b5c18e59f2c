import LayoutTree.Proofs.Build.Asides
import LayoutTree.Proofs.Build.Collaborators

/-!
# How a build advances

What a part of a build does to the progress is said by `Advances`: how many identities it gives out,
which node results it records, and which steps it takes that concern the tree of nodes. Types that
are known stay known, and names keep standing for them.

Most parts do none of this (`Still`): messages, look-ups of types (`findsType`) and the assignment
of properties (`assigns_applyProperties`).
-/

namespace LayoutTree

/-! ## Registries that grow -/

namespace TypeRegistry

/-- All types of a registry are of some kind. -/
def All (known : NodeType → Prop) (r : TypeRegistry) : Prop := ∀ e ∈ r.entries, known e.2

/-- Names stand for what they stand for in another registry. -/
def Le (r r' : TypeRegistry) : Prop := ∀ name t, r.resolve name = some t → r'.resolve name = some t

theorem Le.refl (r : TypeRegistry) : r.Le r := fun _ _ h => h

theorem Le.trans {r r' r'' : TypeRegistry} (h : r.Le r') (h' : r'.Le r'') : r.Le r'' :=
  fun name t ht => h' name t (h name t ht)

theorem All.of_resolve {known : NodeType → Prop} {r : TypeRegistry} (h : r.All known)
    {name : String} {t : NodeType} (ht : r.resolve name = some t) : known t :=
  h _ (FileStore.mem_of_lookup_eq_some ht)

theorem mem_putNamed {α : Type} {name : String} {a : α} {l : List (String × α)} {e : String × α}
    (h : e ∈ putNamed name a l) : e.2 = a ∨ e ∈ l := by
  induction l with
  | nil => exact Or.inl (by rw [List.mem_singleton.1 h])
  | cons b l ih =>
    rw [putNamed] at h
    split at h
    · rcases List.mem_cons.1 h with rfl | h
      · exact Or.inl rfl
      · exact Or.inr (List.mem_cons_of_mem _ h)
    · rcases List.mem_cons.1 h with rfl | h
      · exact Or.inr List.mem_cons_self
      · exact (ih h).imp_right (List.mem_cons_of_mem _)

theorem All.register {known : NodeType → Prop} {r : TypeRegistry} (h : r.All known) {name : String}
    {cls : NodeClass} (hnew : known ⟨r.next, name, cls, cls.create⟩) :
    (r.register name cls).2.All known := by
  intro e he
  rcases mem_putNamed he with heq | he
  · rw [heq]
    exact hnew
  · exact h e he

theorem resolve_congr {name other : String} (h : typeKey name = typeKey other) (r : TypeRegistry) :
    r.resolve name = r.resolve other := by
  rw [resolve, resolve, h]

/-- A name that stands for nothing can be given a type. -/
theorem le_register {r : TypeRegistry} {name : String} {cls : NodeClass}
    (h : r.resolve name = none) : r.Le (r.register name cls).2 := by
  intro other t ht
  by_cases hkey : typeKey other = typeKey name
  · rw [resolve_congr hkey, h] at ht
    cases ht
  · rw [resolve_register_of_ne r cls hkey]
    exact ht

theorem mem_of_descend {index : ModuleIndex} {names : List String} {whole : Option TypeModule}
    {m : TypeModule} (h : ModuleIndex.descend index whole names = .ok m) :
    m ∈ index ∨ whole = some m := by
  induction names generalizing whole with
  | nil =>
    unfold ModuleIndex.descend at h
    split at h
    · exact Or.inr (congrArg some (Except.ok.inj h))
    · cases h
  | cons name rest ih =>
    have hfound : ∀ w, index.lookup? name = some w → ModuleIndex.descend index (some w) rest = .ok m →
        m ∈ index := by
      intro w hw hm
      rcases ih hm with hm | hm
      · exact hm
      · rw [Option.some.injEq] at hm
        exact hm ▸ List.mem_of_find?_eq_some hw
    unfold ModuleIndex.descend at h
    split at h
    · cases h
    · next hw => exact Or.inl (hfound _ hw h)
    · split at h
      · split at h
        · next hw => exact Or.inl (hfound _ hw h)
        · cases h
      · cases h

theorem mem_of_find {index : ModuleIndex} {name : String} {m : TypeModule}
    (h : index.find name = .ok m) : m ∈ index := by
  rw [ModuleIndex.find] at h
  split at h
  · cases h
  · split at h
    · cases h
    · exact (mem_of_descend h).resolve_right nofun

theorem typeKey_of_classNamed? {m : TypeModule} {name : String} {c : NodeClass}
    (h : classNamed? m name = some c) : typeKey c.name = typeKey name := by
  simpa using List.find?_some h

/-- Looking for a type in modules leaves a registry as it is, or registers a class that the name
names in one of the modules. -/
theorem autoRegister_cases {index : ModuleIndex} {r : TypeRegistry} {name : String}
    {modules : List String} {log : Log} {found : Option NodeType} {r' : TypeRegistry}
    (h : autoRegister index r name modules = (log, .ok (found, r'))) :
    found = none ∧ r' = r ∨ ∃ m ∈ index, ∃ c, classNamed? m name = some c ∧
      r' = (r.register c.name c).2 ∧ found = r'.resolve name := by
  induction modules generalizing log with
  | nil =>
    cases h
    exact .inl ⟨rfl, rfl⟩
  | cons m rest ih =>
    rw [autoRegister] at h
    split at h
    · obtain ⟨-, hrest⟩ := Prod.mk.inj h
      exact ih (Prod.ext rfl hrest)
    · cases (Prod.mk.inj h).2
    · next m' hm =>
      split at h
      · next c hc =>
        obtain ⟨-, hok⟩ := Prod.mk.inj h
        obtain ⟨rfl, rfl⟩ := Prod.mk.inj (Except.ok.inj hok)
        exact .inr ⟨m', mem_of_find hm, c, hc, rfl, rfl⟩
      · exact ih h

/-- A type that is looked for in modules is registered under a name that stood for nothing. -/
theorem autoRegister_spec {known : NodeType → Prop} {index : ModuleIndex}
    (hindex : ∀ m ∈ index, ∀ c ∈ m.classes, ∀ serial, known ⟨serial, c.name, c, c.create⟩)
    {r : TypeRegistry} {name : String} (hnone : r.resolve name = none) {modules : List String}
    {log : Log} {found : Option NodeType} {r' : TypeRegistry}
    (h : autoRegister index r name modules = (log, .ok (found, r'))) :
    r.Le r' ∧ (r.All known → r'.All known) ∧ ∀ t, found = some t → r'.resolve name = some t := by
  rcases autoRegister_cases h with ⟨rfl, rfl⟩ | ⟨m, hm, c, hc, rfl, hfound⟩
  · exact ⟨.refl r', fun hr => hr, nofun⟩
  · have hmem : c ∈ m.classes := List.mem_of_find?_eq_some hc
    rw [← resolve_congr (typeKey_of_classNamed? hc)] at hnone
    exact ⟨le_register hnone, fun hr => hr.register (hindex m hm c hmem _),
      fun t ht => hfound.symm.trans ht⟩

end TypeRegistry

/-! ## Advancing -/

/-- Whether a step concerns the tree of nodes. -/
def BuildStep.isStructural : BuildStep → Bool
  | .create _ | .attach _ _ | .drop _ | .wrap _ _ => true
  | _ => false

/-- A build comes from one progress to another by giving out some identities, recording some node
results and taking some structural steps. -/
structure Advances (known : NodeType → Prop) (p q : Progress) (made : Nat)
    (results : List NodeResult) (steps : List BuildStep) : Prop where
  nodes : q.report.nodes = p.report.nodes ++ results
  nextId : q.nextId = p.nextId + made
  steps : q.steps.filter BuildStep.isStructural = p.steps.filter BuildStep.isStructural ++ steps
  types : p.types.Le q.types
  known : p.types.All known → q.types.All known

/-- A build comes from one progress to another without doing anything to the tree of nodes. -/
abbrev Still (known : NodeType → Prop) (p q : Progress) : Prop := Advances known p q 0 [] []

variable {known : NodeType → Prop} {p q p' : Progress}

namespace Advances

theorem trans {made made' : Nat} {results results' : List NodeResult}
    {steps steps' : List BuildStep} (h : Advances known p q made results steps)
    (h' : Advances known q p' made' results' steps') :
    Advances known p p' (made + made') (results ++ results') (steps ++ steps') where
  nodes := by rw [h'.nodes, h.nodes, List.append_assoc]
  nextId := by rw [h'.nextId, h.nextId, Nat.add_assoc]
  steps := by rw [h'.steps, h.steps, List.append_assoc]
  types := h.types.trans h'.types
  known hp := h'.known (h.known hp)

variable {made : Nat} {results : List NodeResult} {steps : List BuildStep}

theorem after (h : Still known p q) (h' : Advances known q p' made results steps) :
    Advances known p p' made results steps := by
  simpa using h.trans h'

theorem still (h : Advances known p q made results steps) (h' : Still known q p') :
    Advances known p p' made results steps := by
  simpa using h.trans h'

end Advances

namespace Still

theorem of_eq (hnodes : q.report.nodes = p.report.nodes) (hnext : q.nextId = p.nextId)
    (hsteps : q.steps.filter BuildStep.isStructural = p.steps.filter BuildStep.isStructural)
    (htypes : q.types = p.types) : Still known p q where
  nodes := by rw [hnodes, List.append_nil]
  nextId := hnext
  steps := by rw [hsteps, List.append_nil]
  types := htypes ▸ .refl _
  known hp := htypes ▸ hp

theorem refl (p : Progress) : Still known p p := of_eq rfl rfl rfl rfl

theorem trans (h : Still known p q) (h' : Still known q p') : Still known p p' := Advances.trans h h'

theorem emit (p : Progress) (d : Descriptor) (property : Option String) (severity : Severity)
    (text : String) : Still known p (p.emit d property severity text) := of_eq rfl rfl rfl rfl

theorem emitAll (p : Progress) (d : Descriptor) (property : Option String) (severity : Severity)
    (texts : List String) : Still known p (p.emitAll d property severity texts) :=
  Progress.rel_emitAll refl trans (fun p => emit p d property severity) p texts

theorem take (p : Progress) {step : BuildStep} (h : step.isStructural = false) :
    Still known p (p.take step) :=
  of_eq rfl rfl (by simp [Progress.take, List.filter_append, h]) rfl

theorem wait (p : Progress) (mode : Mode) : Still known p (p.wait mode) := by
  rw [Progress.wait]
  split <;> exact of_eq rfl rfl rfl rfl

theorem hear (p : Progress) (mode : Mode) (asks : Bool) : Still known p (p.hear mode asks) := by
  rw [Progress.hear]
  split
  · exact (take p rfl).trans (of_eq rfl rfl rfl rfl)
  · exact refl p

theorem allowsLookup : Progress.AllowsLookup (Still known) where
  refl := refl
  trans := trans
  warn p d := emit p d none .warning
  resolve p _ := take p rfl
  wait := wait

end Still

theorem Advances.addNode (p : Progress) (r : NodeResult) :
    Advances known p (p.addNode r) 0 [r] [] where
  nodes := rfl
  nextId := rfl
  steps := (List.append_nil _).symm
  types := .refl _
  known hp := hp

theorem Advances.next (p : Progress) :
    Advances known p { p with nextId := p.nextId + 1 } 1 [] [] where
  nodes := (List.append_nil _).symm
  nextId := rfl
  steps := (List.append_nil _).symm
  types := .refl _
  known hp := hp

theorem Advances.take (p : Progress) {step : BuildStep} (h : step.isStructural = true) :
    Advances known p (p.take step) 0 [] [step] where
  nodes := (List.append_nil _).symm
  nextId := rfl
  steps := by simp [Progress.take, List.filter_append, h]
  types := .refl _
  known hp := hp

/-- Whether a fault can come up at a property. -/
def BuildFault.isOfProperty : BuildFault → Bool
  | .rejected _ _ | .notAssigned _ _ | .cancelled => true
  | _ => false

namespace Build

/-! ## Looking up types -/

/-- A type that is found stands behind its name. A look-up can only end a build because of a module.
-/
structure FindsType (known : NodeType → Prop) (name : String) (p : Progress)
    (found : Stage (Option NodeType)) : Prop where
  still : Still known p found.progress
  resolve : ∀ t, found.value = some t → found.progress.types.resolve name = some t
  halt : ∀ h, found.halt = some h → ∃ fault, h.fault = .noModule fault

namespace FindsType

variable {name : String}

theorem unknown (h : Still known p q) : FindsType known name p (.done none q) :=
  ⟨h, nofun, fun _ hh => by cases hh⟩

theorem found (h : Still known p q) {t : NodeType} (ht : q.types.resolve name = some t) :
    FindsType known name p (.done (some t) q) :=
  ⟨h, fun _ heq => ht.trans heq, fun _ hh => by cases hh⟩

theorem noModule (h : Still known p q) (fault : ModuleFault) :
    FindsType known name p (.halted none q (.bare (.noModule fault))) :=
  ⟨h, nofun, fun _ heq => ⟨fault, by rw [← Option.some.inj heq]; rfl⟩⟩

end FindsType

theorem findsType {s : Setup}
    (hmodules : ∀ m ∈ s.modules, ∀ c ∈ m.classes, ∀ serial, known ⟨serial, c.name, c, c.create⟩)
    (d : Descriptor) (name : String) (p : Progress) :
    FindsType known name p (findType s d name p) := by
  rw [findType]
  split
  · next t ht => exact .found (.refl p) ht
  · next hnone =>
    split
    · exact .unknown (.refl p)
    · cases hauto : TypeRegistry.autoRegister s.modules p.types name s.settings.autoRegisterModules with
      | mk log result =>
        cases result with
        | error fault =>
          have hlog : Still known p { p with log := p.log ++ log } := .of_eq rfl rfl rfl rfl
          exact .noModule hlog fault
        | ok r =>
          obtain ⟨found, types⟩ := r
          obtain ⟨hle, hall, hfound⟩ :=
            TypeRegistry.autoRegister_spec hmodules hnone hauto
          have hgrow : Still known p { p with log := p.log ++ log, types } :=
            ⟨(List.append_nil _).symm, rfl, (List.append_nil _).symm, hle, hall⟩
          cases found with
          | none => exact .unknown hgrow
          | some t => exact .found (hgrow.trans (.emit _ _ _ _ _)) (hfound t rfl)

/-! ## Properties -/

/-- Work that goes on: its result is about the same descriptor, and the node is the same object if
setters and the applier keep to it. The build can only end at a property, and unless it is cancelled,
only because problems end it. -/
structure Assigns (known : NodeType → Prop) (s : Setup) (w : Work) (p : Progress) (st : Stage Work) :
    Prop where
  still : Still known p st.progress
  node : s.Behaves known → w.node.SameObject st.value.node
  typeName : st.value.result.typeName = w.result.typeName
  state : st.value.result.state = w.result.state
  source : st.value.result.source = w.result.source
  halt : ∀ h, st.halt = some h →
    h.fault.isOfProperty = true ∧ (h.fault = .cancelled ∨ s.settings.stopOnError = true)

theorem count_node (w : Work) (t : Tally) : (w.count t).node = w.node := by
  cases t <;> rfl

theorem count_typeName (w : Work) (t : Tally) : (w.count t).result.typeName = w.result.typeName := by
  cases t <;> rfl

theorem count_state (w : Work) (t : Tally) : (w.count t).result.state = w.result.state := by
  cases t <;> rfl

theorem count_source (w : Work) (t : Tally) : (w.count t).result.source = w.result.source := by
  cases t <;> rfl

namespace Assigns

variable {s : Setup} {w : Work}

/-- Counting a property, with or without the end of the build. -/
theorem count (hstill : Still known p q) {node : Node} {context : Option Value}
    (hnode : s.Behaves known → w.node.SameObject node) {t : Tally} {halt : Option Halt}
    (hhalt : ∀ h, halt = some h →
      h.fault.isOfProperty = true ∧ (h.fault = .cancelled ∨ s.settings.stopOnError = true)) :
    Assigns known s w p ⟨Work.count ⟨node, w.result, context⟩ t, q, halt⟩ where
  still := hstill
  node hs := by
    rw [count_node]
    exact hnode hs
  typeName := count_typeName _ t
  state := count_state _ t
  source := count_source _ t
  halt := hhalt

theorem done (hstill : Still known p q) {node : Node} {context : Option Value}
    (hnode : s.Behaves known → w.node.SameObject node) {t : Tally} :
    Assigns known s w p (.done (Work.count ⟨node, w.result, context⟩ t) q) :=
  count hstill hnode fun _ hh => by cases hh

theorem trans {st : Stage Work} {rest : Work → Progress → Stage Work} (h : Assigns known s w p st)
    (hrest : Assigns known s st.value st.progress (rest st.value st.progress)) :
    Assigns known s w p (st.andThen rest) := by
  rw [Stage.andThen]
  split
  · exact h
  · exact ⟨h.still.trans hrest.still, fun hs => (h.node hs).trans (hrest.node hs),
      hrest.typeName.trans h.typeName, hrest.state.trans h.state, hrest.source.trans h.source,
      hrest.halt⟩

end Assigns

theorem isOfProperty_of_stop {stop : Bool} {fault : BuildFault} {d : Descriptor}
    {property : Option String} (hfault : fault.isOfProperty = true) :
    ∀ h, (if stop then some (Halt.ofDescriptor fault d property) else none) = some h →
      h.fault.isOfProperty = true ∧ (h.fault = .cancelled ∨ stop = true) := by
  intro h hh
  split at hh
  · next hstop =>
    rw [← Option.some.inj hh]
    exact ⟨hfault, Or.inr hstop⟩
  · cases hh

theorem assigns_failAssignment (s : Setup) (d : Descriptor) (name value message : String) {w : Work}
    (hstill : Still known p q) {node : Node} {context : Option Value}
    (hnode : s.Behaves known → w.node.SameObject node) :
    Assigns known s w p (failAssignment s d name value message ⟨node, w.result, context⟩ q) :=
  .count (hstill.trans (.emit _ _ _ _ _)) hnode (isOfProperty_of_stop rfl)

theorem assigns_bind (s : Setup) (d : Descriptor) (name target path : String) (w : Work)
    (p : Progress) : Assigns known s w p (bind s d name target path w p) := by
  have htake : Still known p (p.take (.bind w.node.id w.node.cls.name target path)) := .take p rfl
  rw [bind]
  split
  · next node hnode =>
    have hsame : s.Behaves known → w.node.SameObject node := fun hs => hs.applier _ _ _ _ hnode
    exact .done htake hsame
  · exact assigns_failAssignment s d name path _ htake fun _ => .refl _

/-- Whichever way a setter assigns, it leaves the node the same object if it keeps to it. -/
theorem sameObject_assignment {s : Setup} (hs : s.Behaves known) {setter : Setter}
    (hsetter : setter ∈ s.setters.members) (name value : String) (n : Node) :
    n.SameObject (assignment s setter name value n).node := by
  rw [assignment]
  split
  · next later _ hlater => exact (hs.setters _ hsetter).applyLater later hlater _ _ _ _
  · exact (hs.setters _ hsetter).apply _ _ _ _

theorem assigns_assign {s : Setup} (d : Descriptor) {setter : Setter}
    (hsetter : setter ∈ s.setters.members) (name value : String) (w : Work) (p : Progress) :
    Assigns known s w p (assign s d setter name value w p) := by
  have hnode : s.Behaves known → w.node.SameObject (assignment s setter name value w.node).node :=
    fun hs => sameObject_assignment hs hsetter name value w.node
  rw [assign]
  generalize assignment s setter name value w.node = a at hnode ⊢
  have hheard : Still known p
      (((p.take (.assign w.node.id name)).wait s.mode).hear s.mode a.cancels) :=
    ((Still.take p rfl).trans (.wait _ _)).trans (.hear _ _ _)
  generalize ((p.take (.assign w.node.id name)).wait s.mode).hear s.mode a.cancels = q at hheard ⊢
  have hlogged : Still known p { q with log := q.log ++ a.log } :=
    hheard.trans (.of_eq rfl rfl rfl rfl)
  cases a.failure with
  | none => exact .done hlogged hnode
  | some failure => exact assigns_failAssignment s d name value _ hlogged hnode

theorem assigns_dispatch (s : Setup) (d : Descriptor) (name value : String) (w : Work)
    (p : Progress) : Assigns known s w p (dispatch s d name value w p) := by
  rw [dispatch]
  split
  · split
    · exact .done (.refl p) fun _ => .refl _
    · have hresolve : Still known p (resolveHandle s d value p).2 := rel_resolveHandle Still.allowsLookup s d value p
      exact .done hresolve fun _ => .refl w.node
  · split
    · next setter hfind =>
      exact assigns_assign d (List.mem_of_find?_eq_some hfind) name value w p
    · exact .done (.emit _ _ _ _ _) fun _ => .refl _

theorem assigns_validateAndDispatch (s : Setup) (d : Descriptor) (name value : String) (w : Work)
    (p : Progress) : Assigns known s w p (validateAndDispatch s d name value w p) := by
  rw [validateAndDispatch]
  have hwarned : Still known p
      (p.emitAll d (some name) .warning (check s d name value w.node).warnings) :=
    .emitAll _ _ _ _ _
  split
  · have hrest := @assigns_dispatch known s d name value w
      (p.emitAll d (some name) .warning (check s d name value w.node).warnings)
    exact ⟨hwarned.trans hrest.still, hrest.node, hrest.typeName, hrest.state, hrest.source,
      hrest.halt⟩
  · exact .count (hwarned.trans (.emitAll _ _ _ _ _)) (fun _ => .refl _)
      (isOfProperty_of_stop rfl)

/-- One property leaves the node the same object, if setters do. -/
theorem assigns_applyProperty (s : Setup) (d : Descriptor) (entry : Property) (w : Work)
    (p : Progress) : Assigns known s w p (applyProperty s d entry w p) := by
  rw [applyProperty]
  split
  · have hcancelled : ∀ h, some (Halt.bare .cancelled) = some h → h.fault.isOfProperty = true ∧
        (h.fault = .cancelled ∨ s.settings.stopOnError = true) := by
      rintro h ⟨⟩
      exact ⟨rfl, Or.inl rfl⟩
    exact ⟨.refl p, fun _ => .refl _, rfl, rfl, rfl, hcancelled⟩
  · split
    · exact .done (.refl p) fun _ => .refl _
    · split
      · exact .done (.emit _ _ _ _ _) fun _ => .refl _
      · split
        · exact assigns_bind s d entry.name _ _ w p
        · exact assigns_validateAndDispatch s d entry.name _ w p

/-- All properties leave the node the same object, if setters do. -/
theorem assigns_applyProperties (s : Setup) (d : Descriptor) (entries : List Property) (w : Work)
    (p : Progress) : Assigns known s w p (applyProperties s d entries w p) := by
  induction entries generalizing w p with
  | nil => exact ⟨.refl p, fun _ => .refl _, rfl, rfl, rfl, fun _ hh => by cases hh⟩
  | cons entry rest ih =>
    rw [applyProperties]
    exact (assigns_applyProperty s d entry w p).trans (ih _ _)

end Build

end LayoutTree
