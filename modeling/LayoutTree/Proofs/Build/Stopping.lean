import LayoutTree.Proofs.Build.Visits

/-!
# Builds that problems end

A build that problems end is compared with one of the same descriptors that goes on after them. At
each node that the latter comes to, either there is no problem and the former does the same, or the
former ends with the first problem of the node (`Starts`). So it does the same up to the first node
with a problem (`parts_buildAll`).

The main statement is `build_stopping`: a build that problems end comes to its end exactly if the
full build does and reports no problem, and then the two are equal; otherwise it ends with the first
problem of the full build, and its messages, results, steps and attachments are the first of those
of the full build.
-/

namespace LayoutTree

namespace Build

variable {p q : Progress}

/-! ## One node -/

theorem looksUpAlike_stopping (s : Setup) (stop : Bool) : LooksUpAlike s (s.stopping stop) :=
  ⟨rfl, rfl⟩

theorem afterProperties_stopping (s : Setup) (d : Descriptor) (f : Frame) (group : Option Value)
    (filled : Stage Work) (stop : Bool) :
    afterProperties (s.stopping stop) d f group filled = afterProperties s d f group filled := by
  have hfinish := finish_congr (looksUpAlike_stopping s stop) d f group filled.value
  rw [afterProperties, afterProperties, hfinish]
  rfl

/-- What a node comes to in a build that problems end and in one that goes on: the same if there is
no problem, and otherwise the former ends with the first problem of the node, whose result is the
last and tells of that problem. -/
inductive Starts (d : Descriptor) (p : Progress) (stopped full : Stage (Option Finished)) : Prop
  | alike {results : List NodeResult} (clean : ∀ r ∈ results, r.problems = 0)
      (adds : Grows p full.progress results (attachedBy full.value)) (eq : stopped = full)
  | parts {h : Halt} {r : NodeResult} (halt : stopped.halt = some h)
      (problem : h.fault.isProblem = true)
      (place : ∃ property, h.context = (Halt.ofDescriptor h.fault d property).context)
      (last : h.IsLast stopped.progress.report.messages)
      (adds : Grows p stopped.progress [r] []) (subject : r.subject = d.subject)
      (single : r.problems = 1)
      (messages : stopped.progress.report.messages <+: full.progress.report.messages)
      (steps : stopped.progress.steps <+: full.progress.steps)
      (own : ¬ EndsAtModule full.halt → ∃ r' rest,
        full.progress.report.nodes = p.report.nodes ++ r' :: rest ∧ r'.subject = d.subject ∧
          0 < r'.problems)

namespace Starts

variable {d : Descriptor} {stopped full : Stage (Option Finished)}

/-- Nothing is recorded. -/
theorem quiet (hp : Notes p q) (halt : Option Halt) : Starts d p ⟨none, q, halt⟩ ⟨none, q, halt⟩ :=
  .alike (fun r (hr : r ∈ []) => by cases hr) hp rfl

theorem after (hp : Notes p q) (h : Starts d q stopped full) : Starts d p stopped full := by
  cases h with
  | alike clean adds eq => exact .alike clean (hp.after adds) eq
  | parts halt problem place last adds subject single messages steps own =>
    refine .parts halt problem place last (hp.after adds) subject single messages steps
      fun hmodule => ?_
    obtain ⟨r', rest, hnodes, hown⟩ := own hmodule
    have hp : q.report.nodes = p.report.nodes := by simpa using hp.results
    exact ⟨r', rest, hp ▸ hnodes, hown⟩

end Starts

theorem texts_of_creation {fault : BuildFault} (h : fault.isOfCreation = true) :
    fault.isProblem = true ∧ fault.texts = [fault.message] := by
  cases fault <;> first | exact ⟨rfl, rfl⟩ | cases h

/-- A node that cannot be made. -/
theorem starts_failNode {d : Descriptor} {fault : BuildFault} (h : fault.isOfCreation = true)
    (reason : String) (p : Progress) :
    Starts d p (.halted none (noteFailed d fault p) (.ofDescriptor fault d none))
      (.done none (skipBelow d reason (noteFailed d fault p))) := by
  have hskip := grows_skipBelow d reason (noteFailed d fault p)
  have hfailed := grows_noteFailed d fault p
  obtain ⟨hproblem, htexts⟩ := texts_of_creation h
  have hlast : (Halt.ofDescriptor fault d none).IsLast (noteFailed d fault p).report.messages := by
    rw [Halt.IsLast, Halt.messages, show (Halt.ofDescriptor fault d none).fault = fault from rfl,
      htexts]
    exact ⟨List.cons_ne_nil _ _, List.suffix_append _ _⟩
  exact .parts rfl hproblem ⟨none, rfl⟩ hlast hfailed rfl rfl hskip.messages hskip.steps
    fun _ => ⟨failedResult d, skippedBelow d, (hfailed.trans hskip).results, rfl, Nat.one_pos⟩

/-- A node that is made. -/
theorem starts_afterCreation (s : Setup) (d : Descriptor) (f : Frame) (n : Node) (p : Progress) :
    Starts d p (afterCreation (s.stopping true) d f (.done (some n) p))
      (afterCreation (s.stopping false) d f (.done (some n) p)) := by
  let w : Work := ⟨n, .ofState d.typeName .success d.source, none⟩
  let q := (groupContext s d p).2
  have hgroup : Notes p q := rel_groupContext Notes.allowsLookup s d p
  have heq : ∀ stop, afterCreation (s.stopping stop) d f (.done (some n) p) =
      afterProperties s d f (groupContext s d p).1
        (applyProperties (s.stopping stop) d d.properties w q) := fun stop =>
    afterProperties_stopping s d f (groupContext s d p).1
      (applyProperties (s.stopping stop) d d.properties w q) stop
  have hnotes : ∀ stop, Notes p (applyProperties (s.stopping stop) d d.properties w q).progress :=
    fun stop => hgroup.trans (notes_applyProperties (s.stopping stop) d d.properties w q).1
  have hresult : ∀ stop,
      (applyProperties (s.stopping stop) d d.properties w q).value.result.subject = d.subject ∧
      (applyProperties (s.stopping stop) d d.properties w q).value.result.state = .success :=
    fun stop => result_fill (s.stopping stop) d n p
  obtain ⟨results, hsettles⟩ := settles_afterProperties s d f (groupContext s d p).1
    (hresult false).2
  have hfull := (hnotes false).after hsettles.adds
  rw [heq, heq]
  cases fills s d d.properties w q with
  | alike problems eq =>
    rw [eq]
    exact .alike (hsettles.problems problems) hfull rfl
  | @parts h halt problem last place first more notes =>
    obtain ⟨name, hplace⟩ := place
    have hstopped : afterProperties s d f (groupContext s d p).1
        (applyProperties (s.stopping true) d d.properties w q) =
          .halted none ((applyProperties (s.stopping true) d d.properties w q).progress.addNode
            (applyProperties (s.stopping true) d d.properties w q).value.result) h := by
      rw [afterProperties, halt]
    rw [hstopped]
    refine .parts rfl problem ⟨some name, hplace⟩ last
      ((hnotes true).after (.addNode _ _)) (hresult true).1 first
      (notes.messages.trans hsettles.adds.messages) (notes.steps.trans hsettles.adds.steps)
      fun hmodule => ?_
    obtain ⟨r', rest, hresults, hsubject, hproblems⟩ := hsettles.own hmodule
    have hpositive : 0 < r'.problems := by rw [hproblems]; omega
    exact ⟨r', rest, hresults ▸ hfull.results, hsubject.trans (hresult false).1, hpositive⟩

theorem starts (s : Setup) (v : Visit) :
    Starts v.descriptor v.progress (v.start (s.stopping true)) (v.start (s.stopping false)) := by
  have hstart : ∀ stop, v.start (s.stopping stop) =
      if v.progress.cancelled then .halted none v.progress (.bare .cancelled)
      else afterCreation (s.stopping stop) v.descriptor v.parent
        (createNode (s.stopping stop) v.descriptor v.progress) := fun _ => rfl
  rw [hstart, hstart]
  cases v.progress.cancelled with
  | true => exact .quiet (.refl _) _
  | false =>
    simp only [Bool.false_eq_true, if_false]
    cases createNode_cases s v.descriptor v.progress with
    | @alike made notes node eq =>
      rw [eq, eq]
      obtain ⟨_ | n, q, _ | h⟩ := made
      · exact .quiet notes _
      · exact .quiet notes _
      · exact (starts_afterCreation s v.descriptor v.parent n q).after notes
      · exact .quiet notes _
    | @fails q fault reason notes creation eq =>
      rw [eq, eq]
      exact (starts_failNode creation reason q).after notes

theorem endsWhereDiffers_stopping (s : Setup) (vs : List Visit) :
    EndsWhereDiffers (s.stopping false) (s.stopping true) id vs := by
  intro v _
  cases starts s v with
  | alike clean adds eq => exact .inl eq
  | parts halt => exact .inr ⟨_, halt⟩

/-- A full build is not ended by a problem. -/
theorem isProblem_of_full {s : Setup} {v : Visit} {h : Halt}
    (hh : (v.start (s.stopping false)).halt = some h) : h.fault.isProblem = false := by
  have hends := (records_start (s.stopping false) v.descriptor v.parent v.progress).ends h hh
  obtain ⟨fault, context⟩ := h
  rcases hends with hcancelled | hmodule | hstop
  · cases hcancelled
    rfl
  · cases fault <;> first | rfl | cases hmodule
  · cases hstop

/-- Where the two builds do the same, there is no problem. -/
theorem clean_of_agrees {s : Setup} {v : Visit}
    (h : v.Agrees (s.stopping false) (s.stopping true) id) :
    ∃ results, (∀ r ∈ results, r.problems = 0) ∧
      Grows v.progress (v.start (s.stopping false)).progress results
        (attachedBy (v.start (s.stopping false)).value) := by
  cases starts s v with
  | alike clean adds eq => exact ⟨_, clean, adds⟩
  | parts halt problem =>
    have hsame : v.start (s.stopping true) = v.start (s.stopping false) := h
    rw [hsame] at halt
    exact absurd problem (ne_true_of_eq_false (isProblem_of_full halt))

end Build

/-! ## Whole builds -/

/-- The same builder, whose builds problems end, or go on after them. -/
def Builder.stopping (b : Builder) (stop : Bool) : Builder :=
  { b with settings := { b.settings with stopOnError := stop } }

/-- The nodes that a build attaches, in order. -/
def Builder.attachments (b : Builder) (r : Registry) (container : Node) (ds : List Descriptor)
    (source : Option String) (mode : Mode) : List Build.Attachment :=
  Build.attachments (b.setup r mode) (Build.visitsAll (b.setup r mode) none ds ⟨container, false⟩
    (initial r container source mode))

/-- A report of a failed node, or of a property that is blocked or cannot be assigned. -/
def Report.HasProblem (r : Report) : Prop :=
  ∃ n ∈ r.nodes, n.state = .failed ∨ 0 < n.blocked ∨ 0 < n.failed

theorem Report.not_hasProblem_iff {r : Report} :
    ¬ r.HasProblem ↔ ∀ n ∈ r.nodes, n.problems = 0 := by
  simp only [HasProblem, NodeResult.problems_eq_zero_iff, not_exists, not_and, not_or, Nat.not_lt,
    Nat.le_zero]

/-- The attachments of a build are its steps in which nodes are attached. Each of them is to the
container, or to the node that was attached for the descriptor above. -/
structure BuildOutcome.Attaches (o : BuildOutcome) (container : Node)
    (attached : List Build.Attachment) : Prop where
  steps : attached.map (fun a => (a.parent, a.node)) = o.steps.filterMap BuildStep.attachment?
  parents : ∀ a ∈ attached, a.under = none ∧ a.parent = container.id ∨
    ∃ a' ∈ attached, a.under = some a'.descriptor ∧ a.parent = a'.node

theorem attaches_build (b : Builder) (r : Registry) (plugins : PluginManager) (container : Node)
    (ds : List Descriptor) (source : Option String) (mode : Mode) :
    (b.build r plugins container ds source mode).Attaches container
      (b.attachments r container ds source mode) where
  steps := by
    obtain ⟨results, hadds⟩ := (Build.course_buildAll (b.setup r mode) none ds ⟨container, false⟩
      (Builder.initial r container source mode)).exists_grows
    rw [Builder.attachments, Build.ids_attachments]
    exact hadds.attached.symm
  parents a ha := by
    obtain ⟨v, hv, hattached⟩ := List.mem_filterMap.1 ha
    obtain ⟨hunder, hparent⟩ := Build.Visit.parent_of_attachment? hattached
    rw [hunder, hparent]
    exact (Build.isBelow_visitsAll (b.setup r mode) none ds ⟨container, false⟩
      (Builder.initial r container source mode)).2 v hv

/-- A build ends with the first problem that a full build reports: it has come as far as the full
build had when it reported the problem, whose messages are the last ones. The last result is about
the node with the problem and tells of no other; those before it tell of none. -/
structure BuildOutcome.EndsAtFirstProblem (stopped full : BuildOutcome) (h : Halt) : Prop where
  problem : h.fault.isProblem = true
  last : h.IsLast stopped.report.messages
  results : ∃ before r, stopped.report.nodes = before ++ [r] ∧ (∀ n ∈ before, n.problems = 0) ∧
    r.problems = 1 ∧
    h.context.map (fun place => (place.typeName, place.fileName)) =
      some (some r.typeName, r.source) ∧
    (¬ Build.EndsAtModule full.halt → ∃ r' after, full.report.nodes = before ++ r' :: after ∧
      r'.subject = r.subject ∧ 0 < r'.problems)

/-- Two builds of the same descriptors, of which problems end one. -/
inductive Stops (stopped full : BuildOutcome) : Prop
  | never (eq : stopped = full) (clean : ∀ n ∈ full.report.nodes, n.problems = 0)
  | first {h : Halt} (halt : stopped.halt = some h) (ends : stopped.EndsAtFirstProblem full h)
      (messages : stopped.report.messages <+: full.report.messages)
      (steps : stopped.steps <+: full.steps)

/-- An outcome tells what a build has come to. -/
structure BuildOutcome.Tells (o : BuildOutcome) (p : Progress) : Prop where
  nodes : o.report.nodes = p.report.nodes
  messages : o.report.messages = p.report.messages
  steps : o.steps = p.steps

/-- Two builds that did the same until they came to a node, about which they differ. -/
theorem Stops.of_starts {d : Descriptor} {p q : Progress}
    {started ours : Stage (Option Build.Finished)} {h : Halt} {before rest : List NodeResult}
    {attached : List (Nat × Nat)} {stopped full : BuildOutcome}
    (hstarts : Build.Starts d p started ours) (hdiffers : started ≠ ours)
    (hhalt : started.halt = some h) (hbefore : p.report.nodes = before)
    (hclean : ∀ n ∈ before, n.problems = 0) (hrest : Grows ours.progress q rest attached)
    (hmodule : Build.EndsAtModule ours.halt → Build.EndsAtModule full.halt)
    (hend : stopped.halt = some h) (hstopped : stopped.Tells started.progress)
    (hfull : full.Tells q) : Stops stopped full := by
  cases hstarts with
  | alike clean adds eq => exact absurd eq hdiffers
  | @parts h' n halt problem place last own subject single messages steps more =>
    obtain rfl : h' = h := Option.some.inj (halt.symm.trans hhalt)
    obtain ⟨htype, hsource⟩ := Prod.mk.inj subject
    refine .first hend ⟨problem, ?_, before, n, ?_, hclean, single, ?_, fun hfinal => ?_⟩ ?_ ?_
    · rw [hstopped.messages]
      exact last
    · rw [hstopped.nodes, own.results, hbefore]
    · obtain ⟨property, hplace⟩ := place
      rw [hplace, htype, hsource]
      rfl
    · obtain ⟨n', others, hnodes, hsubject, hpositive⟩ := more fun hends => hfinal (hmodule hends)
      refine ⟨n', others ++ rest, ?_, hsubject.trans subject.symm, hpositive⟩
      rw [hfull.nodes, hrest.results, hnodes, hbefore, List.append_assoc, List.cons_append]
    · rw [hstopped.messages, hfull.messages]
      exact messages.trans hrest.messages
    · rw [hstopped.steps, hfull.steps]
      exact steps.trans hrest.steps

theorem stops_build (b : Builder) (r : Registry) (plugins : PluginManager) (container : Node)
    (ds : List Descriptor) (source : Option String) (mode : Mode) :
    Stops ((b.stopping true).build r plugins container ds source mode)
    ((b.stopping false).build r plugins container ds source mode) := by
  let s := b.setup r mode
  let p := Builder.initial r container source mode
  let full := Build.buildAll (s.stopping false) ds ⟨container, false⟩ p
  let stopped := Build.buildAll (s.stopping true) ds ⟨container, false⟩ p
  let visits := Build.visitsAll (s.stopping false) none ds ⟨container, false⟩ p
  let visits' := Build.visitsAll (s.stopping true) none ds ⟨container, false⟩ p
  have hcourse : Build.Course (s.stopping false) p visits full.progress full.halt :=
    Build.course_buildAll (s.stopping false) none ds ⟨container, false⟩ p
  have hparts : Build.Parts (s.stopping false) (s.stopping true) id visits full visits' stopped :=
    Build.parts_buildAll none ds ⟨container, false⟩ p (Build.endsWhereDiffers_stopping s visits)
  cases hparts with
  | never agree visits eq =>
    obtain ⟨results, hclean, hadds⟩ := hcourse.adds (fun r => r.problems = 0) fun v hv =>
      Build.clean_of_agrees (agree v hv)
    have hbuild : Build.buildAll ((b.stopping true).setup r mode) ds ⟨container, false⟩ p =
        Build.buildAll ((b.stopping false).setup r mode) ds ⟨container, false⟩ p := eq
    refine .never ?_ ?_
    · rw [Builder.build, Builder.build, hbuild]
    · have hnodes : full.progress.report.nodes = results := hadds.results
      exact hnodes ▸ hclean
  | @cut before after v h hours agree differs halt hvisits eq =>
    obtain ⟨hbefore, hafter⟩ := (hours ▸ hcourse).split
    obtain ⟨results, hclean, hadds⟩ := hbefore.adds (fun r => r.problems = 0) fun v hv =>
      Build.clean_of_agrees (agree v hv)
    obtain ⟨⟨rest, _, hrest⟩, -⟩ := hafter.first
    have hprogress : stopped.progress = (v.start (s.stopping true)).progress :=
      congrArg Stage.progress eq
    have hend : stopped.halt = some h := congrArg Stage.halt eq
    have htells : ((b.stopping true).build r plugins container ds source mode).Tells
        (v.start (s.stopping true)).progress := hprogress ▸ ⟨rfl, rfl, rfl⟩
    exact .of_starts (Build.starts s v) differs halt hadds.results hclean hrest
      hafter.endsAtModule_of_first hend htells ⟨rfl, rfl, rfl⟩

theorem attached_stopping (b : Builder) (r : Registry) (container : Node) (ds : List Descriptor)
    (source : Option String) (mode : Mode) :
    (b.stopping true).attachments r container ds source mode <+:
      (b.stopping false).attachments r container ds source mode :=
  (Build.parts_buildAll none ds ⟨container, false⟩ (Builder.initial r container source mode)
    (Build.endsWhereDiffers_stopping (b.setup r mode) _)).attachments_first

/-- **A build that problems end is the first part of the full build**, whatever the layout, the
container, the registry and the settings. It comes to its end exactly if the full build does and
reports no problem, and then the two come to the same. Its messages, its results by type and file,
its steps and its attachments are the first of those of the full build. If the two differ, it ends
with the first problem of the full build. -/
theorem build_stopping (b : Builder) (r : Registry) (plugins : PluginManager) (container : Node)
    (ds : List Descriptor) (source : Option String) (mode : Mode) :
    let stopped := (b.stopping true).build r plugins container ds source mode
    let full := (b.stopping false).build r plugins container ds source mode
    let attached := fun stop => (b.stopping stop).attachments r container ds source mode
    (stopped.halt = none ↔ full.halt = none ∧ ¬ full.report.HasProblem) ∧
      (stopped = full ∨ ∃ h, stopped.halt = some h ∧ stopped.EndsAtFirstProblem full h) ∧
      stopped.report.messages <+: full.report.messages ∧
      (¬ Build.EndsAtModule full.halt → stopped.report.nodes.map NodeResult.subject <+:
        full.report.nodes.map NodeResult.subject) ∧
      stopped.steps <+: full.steps ∧
      attached true <+: attached false ∧
      stopped.Attaches container (attached true) ∧ full.Attaches container (attached false) := by
  intro stopped full attached
  have hattached := attached_stopping b r container ds source mode
  have hattaches := fun stop => attaches_build (b.stopping stop) r plugins container ds source mode
  have hstops : Stops stopped full := stops_build b r plugins container ds source mode
  cases hstops with
  | never eq clean =>
    refine ⟨⟨fun hnone => ⟨eq ▸ hnone, Report.not_hasProblem_iff.2 clean⟩, fun h => eq ▸ h.1⟩,
      .inl eq, ?_, fun _ => ?_, ?_, hattached, hattaches true, hattaches false⟩
    · exact eq ▸ List.prefix_rfl
    · exact eq ▸ List.prefix_rfl
    · exact eq ▸ List.prefix_rfl
  | @first h halt ends messages steps =>
    obtain ⟨before, n, hnodes, hclean, -, -, hfull⟩ := ends.results
    refine ⟨⟨fun hnone => ?_, fun ⟨hnone, hproblem⟩ => ?_⟩, .inr ⟨h, halt, ends⟩, messages,
      fun hmodule => ?_, steps, hattached, hattaches true, hattaches false⟩
    · rw [halt] at hnone
      cases hnone
    · obtain ⟨n', after, hnodes', -, hpositive⟩ := hfull fun ⟨h, hh, _⟩ => by
        rw [hnone] at hh
        cases hh
      have hzero := Report.not_hasProblem_iff.1 hproblem n' (by
        rw [hnodes']
        exact List.mem_append_right _ List.mem_cons_self)
      exact absurd hzero (Nat.ne_of_gt hpositive)
    · obtain ⟨n', after, hnodes', hsubject, -⟩ := hfull hmodule
      rw [hnodes, hnodes', List.map_append, List.map_append, List.map_singleton, List.map_cons,
        hsubject]
      exact (List.prefix_append_right_inj _).2 (List.prefix_append [n.subject] _)

/-- A panel with a button, one whose width is not a number, and an unknown node. -/
def troubledLayout : List Descriptor := [
  ⟨"StackPanel", [], none, [⟨"Button", [], none, [], none⟩,
    ⟨"Button", [⟨"Width", some "abc"⟩], none, [], none⟩, ⟨"Unknown", [], none, [], none⟩], none⟩]

/-- The layout built in a window, with an end at the first problem or without. -/
def troubledBuild (stop : Bool) : BuildOutcome :=
  ((Builder.standard .standard ⟨[], []⟩ .standard).stopping stop).build .standard (.empty false)
    (.ofClass 0 (.contentControl "Window" [])) troubledLayout none .direct

theorem build_stopping_troubledLayout :
    ¬ Build.EndsAtModule (troubledBuild false).halt ∧
      (troubledBuild true).report.nodes.map NodeResult.subject <+:
        (troubledBuild false).report.nodes.map NodeResult.subject ∧
      (troubledBuild true).report.nodes.length = 3 ∧
      (troubledBuild false).report.nodes.length = 4 := by
  have hend : ¬ Build.EndsAtModule (troubledBuild false).halt := by
    unfold Build.EndsAtModule
    decide +kernel
  obtain ⟨-, -, -, hresults, -⟩ := build_stopping (Builder.standard .standard ⟨[], []⟩ .standard)
    .standard (.empty false) (.ofClass 0 (.contentControl "Window" [])) troubledLayout none .direct
  exact ⟨hend, hresults hend, by decide +kernel, by decide +kernel⟩

end LayoutTree
