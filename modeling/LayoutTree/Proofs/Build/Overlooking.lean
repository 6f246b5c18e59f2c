import LayoutTree.Proofs.Build.Balance
import LayoutTree.Proofs.Build.Discovery
import LayoutTree.Proofs.Build.Stopping

/-!
# Errors that do not end a build

A build that problems end reports an error and ends with it. There is one exception: a node is
dropped with an error if its parent has content already and no wrapper can be made for the two, and
the build goes on. The main statement is `errors_build_stopping`: a build that problems end and that
comes to its end reports as many errors as there are such nodes.

A wrapper can be made for all nodes if one of the types of wrappers is registered and nodes of it
are panels. Such a type stays registered (`wrappable_findType`), so it is there whenever a second
child is to be attached (`place_start`).
-/

namespace LayoutTree

namespace Build

variable {s : Setup} {d : Descriptor} {p : Progress} {v : Visit}

/-! ## Wrappers -/

/-- A type of wrappers is registered, and nodes of it are panels. -/
def Wrappable (s : Setup) (types : TypeRegistry) : Prop :=
  ∃ name ∈ wrapperTypes s, ∃ t, types.resolve name = some t ∧
    ∀ id, ∃ w, t.create id = .ok w ∧ w.cls.isContainer = true

theorem resolve_findType {name : String} {t : NodeType} (h : p.types.resolve name = some t)
    (d : Descriptor) (other : String) :
    (findType s d other p).progress.types.resolve name = some t := by
  obtain ⟨more, hmore⟩ := keeps_findType s d other p
  rw [TypeRegistry.resolve, ← hmore, List.lookup_append]
  exact Option.or_eq_some_iff.2 (.inl h)

theorem wrappable_findType (d : Descriptor) (name : String) (h : Wrappable s p.types) :
    Wrappable s (findType s d name p).progress.types := by
  obtain ⟨wrapper, hwrapper, t, ht, hcreate⟩ := h
  exact ⟨wrapper, hwrapper, t, resolve_findType ht d name, hcreate⟩

/-- A wrapper is made if one of the types to try is registered and nodes of it are panels. -/
theorem value_createWrapper {name : String} {t : NodeType} {names : List String}
    (hname : name ∈ names) (ht : p.types.resolve name = some t)
    (hcreate : ∀ id, ∃ w, t.create id = .ok w ∧ w.cls.isContainer = true)
    (hend : (createWrapper s d names p).halt = none) :
    (createWrapper s d names p).value ≠ none := by
  induction names generalizing p with
  | nil => cases hname
  | cons first rest ih =>
    rw [createWrapper] at hend ⊢
    rcases List.mem_cons.1 hname with rfl | hrest
    · obtain ⟨w, hw, hpanel⟩ := hcreate p.nextId
      simp only [findType_of_resolve ht, Stage.done, hw, hpanel, if_true]
      exact Option.some_ne_none w
    · have hlater := @ih (findType s d first p).progress hrest (resolve_findType ht d first)
      generalize findType s d first p = found at hend hlater ⊢
      obtain ⟨_ | u, q, _ | h⟩ := found
      · exact hlater hend
      · cases hend
      · dsimp only at hend hlater ⊢
        cases hu : u.create q.nextId with
        | error message =>
          rw [hu] at hend
          exact hlater hend
        | ok w =>
          rw [hu] at hend
          dsimp only at hend ⊢
          split at hend
          · next hpanel =>
            rw [if_pos hpanel]
            exact Option.some_ne_none w
          · next hpanel =>
            rw [if_neg hpanel]
            exact hlater hend
      · cases hend

/-! ## Second children -/

/-- Where a wrapper can be made, a child of a node that holds a single content finds a place. -/
theorem place_attach {f : Frame} (h : Wrappable s p.types)
    (hcontent : f.node.cls.capability = .content) (hend : (attach s d f p).halt = none) :
    (attach s d f p).value.2 ≠ none := by
  obtain ⟨name, hname, t, ht, hcreate⟩ := h
  have hmade := value_createWrapper (s := s) (d := d) hname ht hcreate
  simp only [attach, hcontent, attachContent] at hend ⊢
  split
  · exact Option.some_ne_none _
  · next content _ hchildren =>
    rw [hchildren] at hend
    dsimp only at hend
    split
    · exact Option.some_ne_none _
    · next hwrapped =>
      rw [if_neg hwrapped, wrapContent] at hend
      rw [wrapContent]
      generalize createWrapper s d (wrapperTypes s) p = made at hend hmade ⊢
      obtain ⟨_ | w, q, _ | stop⟩ := made
      · exact absurd rfl (hmade rfl)
      · cases hend
      · exact Option.some_ne_none _
      · cases hend

theorem place_finish {f : Frame} {group : Option Value} {w : Work} (h : Wrappable s p.types)
    (hcontent : f.node.cls.capability = .content) (hend : (finish s d f group w p).halt = none) :
    (finish s d f group w p).value.place ≠ none := by
  obtain ⟨-, -, hgiven⟩ := giveContext_kept (isKept_types (Wrappable s)) d ⟨rfl, h⟩
    (w.context.or group) w.node
  have hplace := @place_attach s d _ f hgiven hcontent
  rw [finish] at hend ⊢
  dsimp only at hend ⊢
  generalize attach s d f (giveContext d (w.context.or group) w.node p).2 = attached
    at hend hplace ⊢
  obtain ⟨⟨f', _ | place⟩, q, _ | stop⟩ := attached
  · exact absurd rfl (hplace rfl)
  · cases hend
  · dsimp only [Stage.done]
    split <;> exact Option.some_ne_none _
  · cases hend

theorem place_afterProperties {f : Frame} {group : Option Value} {filled : Stage Work}
    (h : Wrappable s filled.progress.types) (hcontent : f.node.cls.capability = .content)
    {x : Finished} (hx : (afterProperties s d f group filled).value = some x) :
    x.place ≠ none := by
  obtain ⟨w, q, _ | stop⟩ := filled
  · have hplace := @place_finish s d q f group w h hcontent
    dsimp only [afterProperties] at hx
    generalize finish s d f group w q = finished at hx hplace
    obtain ⟨y, q', _ | stop⟩ := finished
    · cases hx
      exact hplace rfl
    · cases hx
  · cases hx

theorem place_afterCreation {f : Frame} {made : Stage (Option Node)}
    (h : Wrappable s made.progress.types) (hcontent : f.node.cls.capability = .content)
    {x : Finished} (hx : (afterCreation s d f made).value = some x) : x.place ≠ none := by
  have hkept := isKept_types (Wrappable s)
  obtain ⟨_ | n, q, _ | stop⟩ := made
  · cases hx
  · cases hx
  · obtain ⟨-, -, -, hgroup⟩ := echoes_groupContext hkept d s q q ⟨rfl, h⟩
    obtain ⟨-, -, -, hfilled⟩ := echoes_applyProperties hkept d s d.properties (newWork d n) _ _
      ⟨rfl, hgroup⟩
    exact place_afterProperties hfilled hcontent hx
  · cases hx

/-- What look-ups of types keep is there when a node is attached. -/
theorem place_start (hv : Wrappable s v.progress.types)
    (hcontent : v.parent.node.cls.capability = .content) {x : Finished}
    (hx : (v.start s).value = some x) : x.place ≠ none := by
  have hfind : FindsAlike (fun p q => q = p ∧ Wrappable s p.types) s
      (s.registering s.settings.autoRegister) := by
    rintro d name p _ ⟨rfl, hp⟩
    exact ⟨rfl, rfl, rfl, wrappable_findType d name hp⟩
  obtain ⟨-, -, -, hmade⟩ := echoes_createNode (isKept_types (Wrappable s)) hfind v.descriptor
    v.progress v.progress ⟨rfl, hv⟩
  have hstart : v.start s = if v.progress.cancelled then .halted none v.progress (.bare .cancelled)
      else afterCreation s v.descriptor v.parent (createNode s v.descriptor v.progress) := rfl
  rw [hstart] at hx
  split at hx
  · cases hx
  · exact place_afterCreation hmade hcontent hx

/-- Where a wrapper can be made, no node is dropped for the lack of one. -/
theorem lacksWrapper_eq_false (hv : Wrappable s v.progress.types) : v.lacksWrapper s = false := by
  rw [Visit.lacksWrapper, Frame.refuses]
  cases hx : (v.start s).value with
  | none => rfl
  | some x =>
    by_cases hcontent : v.parent.node.cls.capability = .content
    · have hplace := place_start hv hcontent hx
      simp [hplace]
    · simp [hcontent]

/-- Results without problems stand for no errors, and neither do their entries. -/
theorem sums_of_clean {vs : List Visit} (h : ∀ v ∈ vs, ∃ own below, Balances s v own below)
    (hclean : ∀ n ∈ vs.flatMap (Visit.results s), n.problems = 0) :
    ((vs.flatMap (Visit.results s)).map NodeResult.faults).sum = 0 ∧
      objections s (vs.flatMap (Visit.turns s)) = 0 := by
  refine ⟨List.sum_eq_zero (List.forall_mem_map.2 fun n hn => ?_), ?_⟩
  · have hzero := hclean n hn
    rw [NodeResult.problems] at hzero
    rw [NodeResult.faults]
    omega
  · rw [objections_eq_zero_iff, ← sum_blocked h]
    refine List.sum_eq_zero (List.forall_mem_map.2 fun n hn => ?_)
    exact (NodeResult.problems_eq_zero_iff.1 (hclean n hn)).2.1

end Build

theorem Builder.stopping_eq_self {b : Builder} (h : b.settings.stopOnError = true) :
    b.stopping true = b := by
  obtain ⟨settings, formats, files, modules, resolver, applier⟩ := b
  obtain ⟨_, _, _, _, _, _, _⟩ := settings
  cases h
  rfl

/-- **A build that problems end reports errors only about wrappers.** If it comes to its end, it
reports as many errors as there are nodes that were dropped because no wrapper could be made for
their parent, which had content already. So it reports none if there is no such node, in particular
if a type of wrappers is registered whose nodes are panels. -/
theorem errors_build_stopping (b : Builder) (hstop : b.settings.stopOnError = true) (r : Registry)
    (plugins : PluginManager) (container : Node) (ds : List Descriptor) (source : Option String)
    (mode : Mode) (hend : (b.build r plugins container ds source mode).halt = none) :
    let s := b.setup r mode
    let report := (b.build r plugins container ds source mode).report
    let visits := b.visits r container ds source mode
    report.messageCount .error = visits.countP (Build.Visit.lacksWrapper s) ∧
      (∀ v ∈ visits, v.lacksWrapper s = true → v.parent.LacksWrapper s v.descriptor) ∧
      (report.hasErrors = false ↔ ∀ v ∈ visits, v.lacksWrapper s = false) ∧
      (Build.Wrappable s r.types → report.hasErrors = false) := by
  intro s report visits
  have hcourse : Build.Course s (Builder.initial r container source mode) visits _ _ :=
    Build.course_buildAll s none ds ⟨container, false⟩ _
  obtain ⟨hvisits, hreports⟩ := hcourse.balances hend
  have hnodes : report.nodes = visits.flatMap (Build.Visit.results s) := hreports.results
  -- A build that comes to its end meets no problem, or it would have ended there.
  have hclean : ∀ n ∈ report.nodes, n.problems = 0 := by
    have hstops := stops_build b r plugins container ds source mode
    rw [b.stopping_eq_self hstop] at hstops
    cases hstops with
    | never eq clean =>
      intro n hn
      have hn' : n ∈ ((b.stopping false).build r plugins container ds source mode).report.nodes :=
        eq ▸ hn
      exact clean n hn'
    | first halt => exact absurd (hend.symm.trans halt) nofun
  have herrors : report.messageCount .error = visits.countP (Build.Visit.lacksWrapper s) := by
    obtain ⟨hfaults, hobjections⟩ := Build.sums_of_clean hvisits (hnodes ▸ hclean)
    have hcount := hreports.errors
    rw [hfaults, hobjections] at hcount
    exact hcount.trans ((Nat.zero_add _).trans (Nat.zero_add _))
  have hnone : report.hasErrors = false ↔ ∀ v ∈ visits, v.lacksWrapper s = false := by
    simp [Report.hasErrors, herrors, List.countP_eq_zero]
  refine ⟨herrors, fun v hv => ?_, hnone, fun hwrappable => hnone.2 fun v hv => ?_⟩
  · obtain ⟨_, _, hv⟩ := hvisits v hv
    exact hv.wrapper
  · have htypes := hcourse.forall_types hwrappable
      (Build.types_start fun d name _ => Build.wrappable_findType d name)
    refine Build.lacksWrapper_eq_false (htypes _ (List.mem_append_left _ ?_))
    exact List.mem_map.2 ⟨v, hv, rfl⟩

/-! ## A second child without a wrapper -/

/-- Two labels. -/
def twoLabels : List Descriptor := [.ofType "Label", .ofType "Label"]

/-- The labels built in a window, which holds a single content. There is no type for wrappers, and
problems end the build. -/
def twoLabelsBuild : BuildOutcome :=
  (unwrappedBuilder.stopping true).build unwrappedRegistry (.empty false)
    (.ofClass 0 (.contentControl "Window" [])) twoLabels none .direct

theorem errors_build_stopping_twoLabels :
    let b := unwrappedBuilder.stopping true
    let window := Node.ofClass 0 (.contentControl "Window" [])
    let s := b.setup unwrappedRegistry .direct
    let visits := b.visits unwrappedRegistry window twoLabels none .direct
    b.settings.stopOnError = true ∧ twoLabelsBuild.halt = none ∧
      twoLabelsBuild.report.messageCount .error = visits.countP (Build.Visit.lacksWrapper s) ∧
      (∀ v ∈ visits, v.lacksWrapper s = true → v.parent.LacksWrapper s v.descriptor) ∧
      (twoLabelsBuild.report.hasErrors = false ↔ ∀ v ∈ visits, v.lacksWrapper s = false) ∧
      (Build.Wrappable s unwrappedRegistry.types → twoLabelsBuild.report.hasErrors = false) := by
  intro b window s visits
  have hend : twoLabelsBuild.halt = none := by decide
  exact ⟨rfl, hend, errors_build_stopping b rfl unwrappedRegistry (.empty false) window twoLabels
    none .direct hend⟩

/-- The second label is dropped with an error, and the build comes to its end. -/
theorem not_silent_twoLabelsBuild : twoLabelsBuild.halt = none ∧
    twoLabelsBuild.report.ofSeverity .error =
      ["Window already has content and no wrapper container is available"] ∧
    twoLabelsBuild.report.hasErrors = true := by
  decide

end LayoutTree
