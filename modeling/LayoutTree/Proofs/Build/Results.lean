import LayoutTree.Build.Builder
import LayoutTree.Proofs.Build.Accounting
import Mathlib.Algebra.GroupWithZero.Nat

/-!
# One result for each node

A build that comes to its end has recorded one result about each node of the layout, in the order in
which the layout is walked, whatever became of the nodes. Results come from three places: a node that
is not made, one that is dropped, and one that is finished; the first two, and a node that takes no
children, bring the results of all nodes below. What a part of a build records is said by `Records`,
together with the reasons for which it can end the build.

Nothing is assumed about types, setters and collaborators: none of them touches the report. The main
statement is `nodes_build`.
-/

namespace LayoutTree

/-- The type name and the file that a result is about. -/
def NodeResult.subject (r : NodeResult) : String × Option String := (r.typeName, r.source)

/-- The type name and the file of a descriptor. -/
def Descriptor.subject (d : Descriptor) : String × Option String := (d.typeName, d.source)

/-- What the results so far are about. -/
def Progress.subjects (p : Progress) : List (String × Option String) :=
  p.report.nodes.map NodeResult.subject

/-- Every result is of a node that was built, skipped or failed. -/
theorem Report.length_nodes (r : Report) : r.nodes.length =
    r.stateCount .success + r.stateCount .skipped + r.stateCount .failed := by
  simp only [stateCount]
  induction r.nodes with
  | nil => rfl
  | cons n ns ih =>
    simp only [List.length_cons, List.countP_cons, ih]
    cases n.state <;> simp <;> omega

theorem Descriptor.length_walkAll (ds : List Descriptor) :
    (walkAll ds).length = (ds.map count).sum := by
  rw [walkAll_eq_flatMap, List.length_flatMap]
  rfl

namespace Build

variable {α : Type} {known : NodeType → Prop} {s : Setup} {p q : Progress}

theorem Advances.subjects {made : Nat} {results : List NodeResult} {steps : List BuildStep}
    (h : Advances known p q made results steps) :
    q.subjects = p.subjects ++ results.map NodeResult.subject := by
  rw [Progress.subjects, h.nodes, List.map_append, Progress.subjects]

theorem Still.subjects (h : Still known p q) : q.subjects = p.subjects := by
  simpa using Advances.subjects h

theorem subjects_skippedBelow (d : Descriptor) :
    (skippedBelow d).map NodeResult.subject =
      (Descriptor.walkAll d.children).map Descriptor.subject := by
  rw [skippedBelow, List.map_map]
  rfl

/-- Why a build ends early: it is cancelled, a module cannot be used, or problems end it. -/
def EndsFor (s : Setup) (h : Halt) : Prop :=
  h.fault = .cancelled ∨ h.fault.isOfModule = true ∨ s.settings.stopOnError = true

/-- What a part of a build records if it comes to its end, by what it gives, and why it may not. -/
structure Records (s : Setup) (p : Progress) (st : Stage α)
    (subjects : α → List (String × Option String)) : Prop where
  nodes : st.halt = none → st.progress.subjects = p.subjects ++ subjects st.value
  ends : ∀ h, st.halt = some h → EndsFor s h

/-- A part of a build that records nothing. -/
abbrev Quiet (s : Setup) (p : Progress) (st : Stage α) : Prop := Records s p st fun _ => []

namespace Records

variable {st : Stage α} {subjects : α → List (String × Option String)} {a : α}

theorem done (h : q.subjects = p.subjects ++ subjects a) : Records s p (.done a q) subjects :=
  ⟨fun _ => h, fun _ hh => by cases hh⟩

theorem quiet (h : q.subjects = p.subjects) : Quiet s p (.done a q) :=
  done (by rw [h, List.append_nil])

theorem halted {h : Halt} (hend : EndsFor s h) : Records s p (.halted a q h) subjects where
  nodes hnone := by cases hnone
  ends h' hsome := Option.some.inj hsome ▸ hend

theorem after (hq : q.subjects = p.subjects) (h : Records s q st subjects) :
    Records s p st subjects :=
  ⟨fun hnone => by rw [h.nodes hnone, hq], h.ends⟩

end Records

/-- A look-up of a type records nothing. -/
theorem quiet_findType (s : Setup) (d : Descriptor) (name : String) (p : Progress) :
    (findType s d name p).progress.subjects = p.subjects ∧
      ∀ h, (findType s d name p).halt = some h → EndsFor s h := by
  have hfind := @findsType (fun _ => True) s (fun _ _ _ _ _ => trivial) d name p
  refine ⟨Still.subjects hfind.still, fun h hh => ?_⟩
  obtain ⟨m, hm⟩ := hfind.halt h hh
  exact Or.inr (Or.inl (by rw [hm]; rfl))

/-! ## Making a node -/

/-- What making a node has recorded: all of it if there is no node, and nothing yet if there is one.
-/
def unmade (d : Descriptor) : Option Node → List (String × Option String)
  | none => d.walk.map Descriptor.subject
  | some _ => []

/-- A node and the nodes below it that are not built are recorded together. -/
theorem subjects_skipBelow {d : Descriptor} {r : NodeResult} (hr : r.subject = d.subject)
    (reason : String) (h : q.subjects = p.subjects ++ [r.subject]) :
    (skipBelow d reason q).subjects = p.subjects ++ d.walk.map Descriptor.subject := by
  rw [Advances.subjects (@advances_skipBelow (fun _ => True) d reason q),
    subjects_skippedBelow, h, hr, List.append_assoc, Descriptor.walk_eq, List.map_cons,
    List.singleton_append]

theorem subjects_addNode (p : Progress) (r : NodeResult) :
    (p.addNode r).subjects = p.subjects ++ [r.subject] :=
  List.map_append

theorem records_failNode (s : Setup) (d : Descriptor) (fault : BuildFault) (reason : String)
    (p : Progress) : Records s p (failNode s d fault reason p) (unmade d) := by
  rw [failNode]
  split
  · next hstop => exact .halted (Or.inr (Or.inr hstop))
  · exact .done (subjects_skipBelow rfl reason (subjects_addNode p _))

theorem records_createNode (s : Setup) (d : Descriptor) (p : Progress) :
    Records s p (createNode s d p) (unmade d) := by
  obtain ⟨hquiet, hends⟩ := quiet_findType s d d.typeName p
  rw [createNode]
  cases hhalt : (findType s d d.typeName p).halt with
  | some h => exact .halted (hends h hhalt)
  | none =>
    cases (findType s d d.typeName p).value with
    | none => exact (records_failNode s d _ _ _).after hquiet
    | some t =>
      dsimp only
      split
      · exact .done (by rw [unmade, List.append_nil]; exact hquiet)
      · exact (records_failNode s d _ _ _).after hquiet

/-! ## Finding a place -/

theorem quiet_createWrapper (s : Setup) (d : Descriptor) (names : List String) (p : Progress) :
    Quiet s p (createWrapper s d names p) := by
  induction names generalizing p with
  | nil => exact .quiet rfl
  | cons name rest ih =>
    obtain ⟨hquiet, hends⟩ := quiet_findType s d name p
    rw [createWrapper]
    cases hhalt : (findType s d name p).halt with
    | some h => exact .halted (hends h hhalt)
    | none =>
      cases (findType s d name p).value with
      | none => exact (ih _).after hquiet
      | some t =>
        dsimp only
        split
        · split
          · exact .quiet hquiet
          · exact (ih _).after hquiet
        · exact (ih _).after hquiet

theorem quiet_wrapContent (s : Setup) (d : Descriptor) (f : Frame) (content : Node) (p : Progress) :
    Quiet s p (wrapContent s d f content p) := by
  have hmade := quiet_createWrapper s d (wrapperTypes s) p
  rw [wrapContent]
  cases hhalt : (createWrapper s d (wrapperTypes s) p).halt with
  | some h => exact .halted (hmade.ends h hhalt)
  | none =>
    have hquiet : (createWrapper s d (wrapperTypes s) p).progress.subjects = p.subjects := by
      simpa using hmade.nodes hhalt
    cases (createWrapper s d (wrapperTypes s) p).value with
    | none => exact .quiet hquiet
    | some w => exact .quiet hquiet

/-- Finding a place records nothing. -/
theorem quiet_attach (s : Setup) (d : Descriptor) (f : Frame) (p : Progress) :
    Quiet s p (attach s d f p) := by
  rw [attach]
  split
  · rw [attachContent]
    split
    · dsimp only
      split <;> exact .quiet rfl
    · split
      · exact .quiet rfl
      · exact quiet_wrapContent s d f _ p
  · exact .quiet rfl
  · exact .quiet rfl

/-! ## One node -/

/-- What the work on a node has recorded before the nodes below it are built: only the node if they
are to be built, and otherwise all of them. -/
def begun (d : Descriptor) : Option Finished → List (String × Option String)
  | some ⟨_, _, some _, true⟩ => [d.subject]
  | _ => d.walk.map Descriptor.subject

theorem subjects_giveContext (d : Descriptor) (context : Option Value) (n : Node) (p : Progress) :
    (giveContext d context n p).2.subjects = p.subjects :=
  Still.subjects (rel_giveContext (@Still.allowsLookup fun _ => True) d context n p)

theorem records_finish (s : Setup) (d : Descriptor) (f : Frame) (group : Option Value) {w : Work}
    (hw : w.result.subject = d.subject) (p : Progress) :
    Records s p (finish s d f group w p) fun x => begun d (some x) := by
  have hcontext := subjects_giveContext d (w.context.or group) w.node p
  rw [finish]
  generalize giveContext d (w.context.or group) w.node p = given at hcontext
  obtain ⟨n, q⟩ := given
  have hplace := quiet_attach s d f q
  dsimp only
  generalize attach s d f q = found at hplace
  obtain ⟨⟨f', place⟩, q', halt⟩ := found
  cases halt with
  | some h => exact .halted (hplace.ends h rfl)
  | none =>
    have hquiet : q'.subjects = p.subjects := by
      rw [← hcontext]
      simpa using hplace.nodes rfl
    have hadd : ∀ r, (q'.addNode r).subjects = p.subjects ++ [r.subject] := fun r => by
      rw [subjects_addNode, hquiet]
    cases place with
    | none => exact .done (subjects_skipBelow hw _ (hadd { w.result with state := .skipped }))
    | some place =>
      dsimp only
      split
      · exact .done (subjects_skipBelow hw _ (hadd w.result))
      · exact .done (by rw [begun, ← hw]; exact hadd w.result)

theorem records_start (s : Setup) (d : Descriptor) (f : Frame) (p : Progress) :
    Records s p (start s d f p) (begun d) := by
  rw [start]
  split
  · exact .halted (Or.inl rfl)
  · have hcreate := records_createNode s d p
    dsimp only
    generalize createNode s d p = made at hcreate ⊢
    obtain ⟨n?, q, halt⟩ := made
    cases halt with
    | some h => exact .halted (hcreate.ends h rfl)
    | none =>
      have hmade := hcreate.nodes rfl
      cases n? with
      | none => exact .done hmade
      | some n =>
        dsimp only [fill]
        have hgroup := Still.subjects (rel_groupContext (@Still.allowsLookup fun _ => True) s d q)
        have hassigns := @assigns_applyProperties (fun _ => True) s d d.properties
          ⟨n, .ofState d.typeName .success d.source, none⟩ (groupContext s d q).2
        generalize applyProperties s d d.properties _ _ = filled at hassigns ⊢
        obtain ⟨w, q', halt⟩ := filled
        cases halt with
        | some h =>
          refine .halted ((hassigns.halt h rfl).2.imp_right Or.inr)
        | none =>
          have hsubject : w.result.subject = d.subject :=
            Prod.ext hassigns.typeName hassigns.source
          have hfilled : q'.subjects = p.subjects := by
            rw [Still.subjects hassigns.still, hgroup]
            simpa [unmade] using hmade
          have hfinish := (records_finish s d f (groupContext s d q).1 hsubject q').after hfilled
          dsimp only
          generalize finish s d f (groupContext s d q).1 w q' = finished at hfinish ⊢
          obtain ⟨x, q'', halt⟩ := finished
          cases halt with
          | some h => exact .halted (hfinish.ends h rfl)
          | none =>
            refine .done ?_
            rw [Still.subjects (@Still.wait (fun _ => True) q'' s.mode)]
            exact hfinish.nodes rfl

/-! ## Forests -/

mutual

/-- The building of a descriptor records it and the nodes below it, in the order of a walk. -/
theorem records_buildNode (s : Setup) : ∀ (d : Descriptor) (f : Frame) (p : Progress),
    Records s p (buildNode s d f p) fun _ => d.walk.map Descriptor.subject
  | .mk typeName properties group children source, f, p => by
    have hstart := records_start s ⟨typeName, properties, group, children, source⟩ f p
    have hbelow := records_buildAll s children
    rw [buildNode]
    generalize start s ⟨typeName, properties, group, children, source⟩ f p = st at hstart ⊢
    obtain ⟨x?, q, halt⟩ := st
    cases halt with
    | some h => exact .halted (hstart.ends h rfl)
    | none =>
      have hbegun := hstart.nodes rfl
      rcases x? with _ | ⟨f', n, _ | place, goesOn⟩
      · exact .done hbegun
      · exact .done hbegun
      · cases goesOn with
        | false => exact .done hbegun
        | true =>
          have hchildren := hbelow ⟨n, false⟩ q
          refine ⟨fun hnone => ?_, hchildren.ends⟩
          rw [Descriptor.walk_eq, List.map_cons, ← List.singleton_append, ← List.append_assoc]
          exact (hchildren.nodes hnone).trans (congrArg (· ++ _) hbegun)

/-- The building of descriptors records them and the nodes below them, in the order of a walk. -/
theorem records_buildAll (s : Setup) : ∀ (ds : List Descriptor) (f : Frame) (p : Progress),
    Records s p (buildAll s ds f p) fun _ => (Descriptor.walkAll ds).map Descriptor.subject
  | [], f, p => by
    rw [buildAll]
    exact .quiet rfl
  | d :: rest, f, p => by
    have hfirst := records_buildNode s d f p
    rw [buildAll]
    generalize buildNode s d f p = first at hfirst ⊢
    obtain ⟨f', q, halt⟩ := first
    cases halt with
    | some h => exact .halted (hfirst.ends h rfl)
    | none =>
      have hrest := records_buildAll s rest f' q
      refine ⟨fun hnone => ?_, hrest.ends⟩
      rw [Descriptor.walkAll, List.map_append, ← List.append_assoc, ← hfirst.nodes rfl]
      exact hrest.nodes hnone

end

end Build

/-- **One result for each node.** A build that problems do not end can only end early because it is
cancelled or a module cannot be used. A build that comes to its end has recorded one result about each
node of the layout, in the order in which the layout is walked. So the results are as many as the
nodes of the layout, and each of them is of a node that was built, skipped or failed. -/
theorem nodes_build (b : Builder) (r : Registry) (plugins : PluginManager) (container : Node)
    (ds : List Descriptor) (source : Option String) (mode : Mode) :
    let o := b.build r plugins container ds source mode
    (b.settings.stopOnError = false →
      ∀ h ∈ o.halt, h.fault = .cancelled ∨ h.fault.isOfModule = true) ∧
    (o.halt = none →
      (o.report.nodes.map fun n => (n.typeName, n.source)) =
          (Descriptor.walkAll ds).map (fun d => (d.typeName, d.source)) ∧
        o.report.nodes.length = (ds.map Descriptor.count).sum ∧
        o.report.nodes.length = o.report.stateCount .success + o.report.stateCount .skipped +
          o.report.stateCount .failed) := by
  intro o
  have hbuild := Build.records_buildAll (b.setup r mode) ds ⟨container, false⟩
    (Builder.initial r container source mode)
  refine ⟨fun hstop h hh => ?_, fun hend => ?_⟩
  · rcases hbuild.ends h hh with hcancelled | hmodule | hstopped
    · exact Or.inl hcancelled
    · exact Or.inr hmodule
    · exact absurd (hstop.symm.trans hstopped) Bool.false_ne_true
  · have hnodes : o.report.nodes.map NodeResult.subject =
        (Descriptor.walkAll ds).map Descriptor.subject := hbuild.nodes hend
    have hlength : o.report.nodes.length = (Descriptor.walkAll ds).length := by
      simpa using congrArg List.length hnodes
    exact ⟨hnodes, hlength.trans (Descriptor.length_walkAll ds), o.report.length_nodes⟩

/-- A registry with a type of which no node can be made, and without wrappers. -/
def sparseRegistry : Registry :=
  Registry.standard.withTypes (TypeRegistry.empty.registerAll [
    .contentControl "Button" [], .control "Image" [],
    { NodeClass.control "Screen" [] with constructionFailure := some "no display" }])

/-- The build in a window of an image with a node below it, a second root that cannot be wrapped, a
node that cannot be made and one of an unknown type. Two nodes are built, two fail, and the others
are skipped. -/
def sparseBuild : BuildOutcome :=
  (Builder.standard { Settings.standard with autoRegister := false } ⟨[], []⟩ []).build
    sparseRegistry (.empty false) (.ofClass 0 (.contentControl "Window" []))
    [⟨"Button", [], none, [⟨"Image", [], none, [⟨"Button", [], none, [], none⟩], none⟩], none⟩,
      ⟨"Button", [], none, [⟨"Image", [], none, [], none⟩], none⟩,
      ⟨"Screen", [], none, [⟨"Image", [], none, [], none⟩], none⟩, ⟨"Page", [], none, [], none⟩]
    none .direct

theorem nodes_sparseBuild :
    sparseBuild.report.nodes.map (fun n => (n.typeName, n.source)) =
        [("Button", none), ("Image", none), ("Button", none), ("Button", none), ("Image", none),
          ("Screen", none), ("Image", none), ("Page", none)] ∧
      sparseBuild.report.nodes.length = 8 ∧
      sparseBuild.report.nodes.length = sparseBuild.report.stateCount .success +
        sparseBuild.report.stateCount .skipped + sparseBuild.report.stateCount .failed :=
  (nodes_build _ _ _ _ _ _ _).2 (Option.isNone_iff_eq_none.1 (by decide +kernel))

end LayoutTree
