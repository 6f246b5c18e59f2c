import LayoutTree.Proofs.Build.Results
import LayoutTree.Proofs.Build.Waiting

/-!
# Builds take nothing back

What a build has reported and the steps that it has taken stay as they are: a part of a build puts
messages, node results and steps after those that are there (`Grows`). Most parts record no result
and attach nothing (`Notes`); the start of a node attaches it at most (`grows_start`). Nothing is
assumed about types, setters and collaborators.

Whether problems end a build decides about little: the making of a node comes to the same in both
cases unless it fails (`createNode_cases`).
-/

namespace LayoutTree

/-- The same set-up for a build that problems end, or one that goes on after them. -/
def Setup.stopping (s : Setup) (stop : Bool) : Setup :=
  { s with settings := { s.settings with stopOnError := stop } }

/-- The parent and the node of a step that attaches one. -/
def BuildStep.attachment? : BuildStep → Option (Nat × Nat)
  | .attach parent n => some (parent, n)
  | _ => none

/-- A build comes from one progress to another by recording some node results and attaching some
nodes. Messages and steps come after those that were there. -/
structure Grows (p q : Progress) (results : List NodeResult) (attached : List (Nat × Nat)) :
    Prop where
  messages : p.report.messages <+: q.report.messages
  results : q.report.nodes = p.report.nodes ++ results
  steps : p.steps <+: q.steps
  attached : q.steps.filterMap BuildStep.attachment? =
    p.steps.filterMap BuildStep.attachment? ++ attached

/-- A build comes from one progress to another with messages and steps at most. -/
abbrev Notes (p q : Progress) : Prop := Grows p q [] []

/-! ## Problems -/

/-- Whether a fault is a problem with a node or with one of its properties. -/
def BuildFault.isProblem : BuildFault → Bool
  | .unknownType _ | .notCreated _ _ | .rejected _ _ | .notAssigned _ _ => true
  | .cancelled | .noModule _ => false

/-- What is reported about a problem: all errors if validation blocks a value. -/
def BuildFault.texts : BuildFault → List String
  | .rejected _ errors => errors
  | fault => [fault.message]

/-- The messages about the problem that ends a build. -/
def Halt.messages (h : Halt) : List BuildMessage :=
  let place := h.context.getD .empty
  h.fault.texts.map fun text => ⟨.error, text, place.typeName, place.property, place.fileName⟩

/-- A problem is what was reported last: its messages are the last ones, and it has some. -/
def Halt.IsLast (h : Halt) (messages : List BuildMessage) : Prop :=
  h.messages ≠ [] ∧ h.messages <:+ messages

/-- A node that cannot be made is a problem. -/
def NodeState.problems : NodeState → Nat
  | .failed => 1
  | .success | .skipped => 0

/-- How many problems a node result tells of: the node itself, and its properties that are blocked
or cannot be assigned. -/
def NodeResult.problems (r : NodeResult) : Nat := r.state.problems + r.blocked + r.failed

theorem NodeResult.problems_eq_zero_iff {r : NodeResult} :
    r.problems = 0 ↔ r.state ≠ .failed ∧ r.blocked = 0 ∧ r.failed = 0 := by
  rw [problems]
  cases r.state <;> simp [NodeState.problems]

/-- A node that is dropped tells of the same problems as one that is built. -/
theorem NodeResult.problems_skipped {r : NodeResult} (h : r.state = .success) :
    NodeResult.problems { r with state := .skipped } = r.problems := by
  rw [problems, problems, h]
  rfl

variable {α : Type} {p q p' : Progress}

theorem Progress.messages_emitAll (p : Progress) (d : Descriptor) (property : Option String)
    (severity : Severity) (texts : List String) :
    (p.emitAll d property severity texts).report.messages = p.report.messages ++
      texts.map fun text => ⟨severity, text, some d.typeName, property, d.source⟩ := by
  induction texts generalizing p with
  | nil => exact (List.append_nil _).symm
  | cons text texts ih =>
    rw [List.map_cons, List.append_cons]
    exact ih (p.emit d property severity text)

/-! ## Growing records -/

namespace Grows

variable {results results' : List NodeResult} {attached attached' : List (Nat × Nat)}

theorem trans (h : Grows p q results attached) (h' : Grows q p' results' attached') :
    Grows p p' (results ++ results') (attached ++ attached') where
  messages := h.messages.trans h'.messages
  results := by rw [h'.results, h.results, List.append_assoc]
  steps := h.steps.trans h'.steps
  attached := by rw [h'.attached, h.attached, List.append_assoc]

theorem after (h : Notes p q) (h' : Grows q p' results attached) :
    Grows p p' results attached :=
  h.trans h'

theorem notes (h : Grows p q results attached) (h' : Notes q p') :
    Grows p p' results attached := by
  simpa using h.trans h'

theorem addNode (p : Progress) (r : NodeResult) : Grows p (p.addNode r) [r] [] where
  messages := List.prefix_rfl
  results := rfl
  steps := List.prefix_rfl
  attached := (List.append_nil _).symm

theorem attach (p : Progress) (parent n : Nat) :
    Grows p (p.take (.attach parent n)) [] [(parent, n)] where
  messages := List.prefix_rfl
  results := (List.append_nil _).symm
  steps := List.prefix_append _ _
  attached := List.filterMap_append

theorem subjects (h : Grows p q results attached) :
    q.subjects = p.subjects ++ results.map NodeResult.subject := by
  rw [Progress.subjects, h.results, List.map_append]
  rfl

end Grows

namespace Notes

theorem of_eq (hmessages : q.report.messages = p.report.messages)
    (hnodes : q.report.nodes = p.report.nodes) (hsteps : q.steps = p.steps) : Notes p q where
  messages := hmessages ▸ List.prefix_rfl
  results := by rw [hnodes, List.append_nil]
  steps := hsteps ▸ List.prefix_rfl
  attached := by rw [hsteps, List.append_nil]

theorem refl (p : Progress) : Notes p p := of_eq rfl rfl rfl

theorem trans (h : Notes p q) (h' : Notes q p') : Notes p p' := Grows.trans h h'

theorem emit (p : Progress) (d : Descriptor) (property : Option String) (severity : Severity)
    (text : String) : Notes p (p.emit d property severity text) where
  messages := List.prefix_append _ _
  results := (List.append_nil _).symm
  steps := List.prefix_rfl
  attached := (List.append_nil _).symm

theorem emitAll (p : Progress) (d : Descriptor) (property : Option String) (severity : Severity)
    (texts : List String) : Notes p (p.emitAll d property severity texts) :=
  Progress.rel_emitAll refl trans (fun p => emit p d property severity) p texts

theorem take (p : Progress) {step : BuildStep} (h : step.attachment? = none) :
    Notes p (p.take step) where
  messages := List.prefix_rfl
  results := (List.append_nil _).symm
  steps := List.prefix_append _ _
  attached := by rw [Progress.take, List.filterMap_append, List.filterMap_cons, h]; rfl

theorem wait (p : Progress) (mode : Mode) : Notes p (p.wait mode) := by
  rw [Progress.wait]
  split <;> exact of_eq rfl rfl rfl

theorem hear (p : Progress) (mode : Mode) (asks : Bool) : Notes p (p.hear mode asks) := by
  rw [Progress.hear]
  split
  · exact (take p rfl).trans (of_eq rfl rfl rfl)
  · exact refl p

theorem allowsLookup : Progress.AllowsLookup Notes where
  refl := refl
  trans := trans
  warn p d := emit p d none .warning
  resolve p _ := take p rfl
  wait := wait

end Notes

namespace Build

/-! ## Making a node -/

/-- A part of a build that looks for something: it adds messages and steps at most, and only a
module can end the build in it. -/
structure Seeks (p : Progress) (st : Stage α) : Prop where
  notes : Notes p st.progress
  halt : ∀ h, st.halt = some h → h.fault.isOfModule = true

namespace Seeks

variable {a : α} {st : Stage α}

theorem done (h : Notes p q) : Seeks p (.done a q) := ⟨h, fun _ hh => by cases hh⟩

theorem halted (h : Notes p q) {halt : Halt} (hmodule : halt.fault.isOfModule = true) :
    Seeks p (.halted a q halt) :=
  ⟨h, fun _ hh => Option.some.inj hh ▸ hmodule⟩

theorem after (hp : Notes p q) (h : Seeks q st) : Seeks p st := ⟨hp.trans h.notes, h.halt⟩

end Seeks

theorem seeks_findType (s : Setup) (d : Descriptor) (name : String) (p : Progress) :
    Seeks p (findType s d name p) where
  notes := rel_findType Notes.refl (fun _ _ _ => .of_eq rfl rfl rfl)
    (fun _ _ h => h.trans (.emit _ _ _ _ _)) s d name p
  halt h hh := by
    obtain ⟨fault, hfault⟩ := (@findsType (fun _ => True) s (by simp) d name p).halt h hh
    rw [hfault]
    rfl

theorem grows_skipBelow (d : Descriptor) (reason : String) (p : Progress) :
    Grows p (skipBelow d reason p) (skippedBelow d) [] :=
  rel_skipBelow (R := fun p q results => Grows p q results []) Notes.refl
    (fun h => (Grows.addNode _ _).trans h) (fun _ _ h => h.notes (.emit _ _ _ _ _)) d reason p

/-- The result of a node that cannot be made. -/
def failedResult (d : Descriptor) : NodeResult := .ofState d.typeName .failed d.source

/-- The progress once a node is reported that cannot be made. -/
def noteFailed (d : Descriptor) (fault : BuildFault) (p : Progress) : Progress :=
  (p.addNode (failedResult d)).emit d none .error fault.message

theorem grows_noteFailed (d : Descriptor) (fault : BuildFault) (p : Progress) :
    Grows p (noteFailed d fault p) [failedResult d] [] :=
  (Grows.addNode p _).notes (.emit _ _ _ _ _)

theorem failNode_stopping (s : Setup) (d : Descriptor) (fault : BuildFault) (reason : String)
    (p : Progress) (stop : Bool) : failNode (s.stopping stop) d fault reason p =
      if stop then .halted none (noteFailed d fault p) (.ofDescriptor fault d none)
      else .done none (skipBelow d reason (noteFailed d fault p)) :=
  rfl

/-- The making of a node fails, whether or not that ends the build, or it comes to the same in both
cases: there is a node and no result yet, or a module cannot be used. -/
inductive Makes (s : Setup) (d : Descriptor) (p : Progress) : Prop
  | alike {made : Stage (Option Node)} (notes : Notes p made.progress)
      (node : made.value = none → EndsAtModule made.halt)
      (eq : ∀ stop, createNode (s.stopping stop) d p = made)
  | fails {q : Progress} {fault : BuildFault} {reason : String} (notes : Notes p q)
      (creation : fault.isOfCreation = true)
      (eq : ∀ stop, createNode (s.stopping stop) d p = failNode (s.stopping stop) d fault reason q)

/-- What follows the look-up of the type of a node. -/
def afterLookup (s : Setup) (d : Descriptor) (found : Stage (Option NodeType)) :
    Stage (Option Node) :=
  match found.halt, found.value with
  | some h, _ => .halted none found.progress h
  | none, none => failNode s d (.unknownType d.typeName) "parent type is unknown" found.progress
  | none, some t =>
    let p := found.progress
    match t.create p.nextId with
    | .ok n => .done (some n) ({ p with nextId := p.nextId + 1 }.take (.create n.id))
    | .error message =>
      failNode s d (.notCreated d.typeName message) "parent could not be created" p

theorem createNode_cases (s : Setup) (d : Descriptor) (p : Progress) : Makes s d p := by
  obtain ⟨hnotes, hhalt⟩ := seeks_findType s d d.typeName p
  have hlookup : ∀ stop, createNode (s.stopping stop) d p =
      afterLookup (s.stopping stop) d (findType s d d.typeName p) := fun _ => rfl
  generalize findType s d d.typeName p = found at hnotes hhalt hlookup
  have hmodule : ∀ h, found.halt = some h → EndsAtModule (some h) := fun h hh =>
    ⟨h, rfl, hhalt h hh⟩
  obtain ⟨_ | t, q, _ | h⟩ := found
  · exact .fails hnotes rfl hlookup
  · exact .alike hnotes (fun _ => hmodule h rfl) hlookup
  · cases hcreate : t.create q.nextId with
    | ok n =>
      have hmade : ∀ stop, afterLookup (s.stopping stop) d ⟨some t, q, none⟩ =
          .done (some n) ({ q with nextId := q.nextId + 1 }.take (.create n.id)) := by
        intro stop
        simp only [afterLookup, hcreate]
      have hcount : Notes q { q with nextId := q.nextId + 1 } := .of_eq rfl rfl rfl
      exact .alike (hnotes.trans (hcount.trans (.take _ rfl))) (fun hnone => by cases hnone)
        fun stop => (hlookup stop).trans (hmade stop)
    | error message =>
      have hfailed : ∀ stop, afterLookup (s.stopping stop) d ⟨some t, q, none⟩ =
          failNode (s.stopping stop) d (.notCreated d.typeName message)
            "parent could not be created" q := by
        intro stop
        simp only [afterLookup, hcreate]
      exact .fails hnotes rfl fun stop => (hlookup stop).trans (hfailed stop)
  · exact .alike hnotes (fun _ => hmodule h rfl) hlookup

/-! ## Properties -/

/-- The problems that are counted. -/
def Tally.problems : Tally → Nat
  | .blocked | .failed => 1
  | .applied | .skipped => 0

theorem problems_count (w : Work) (t : Tally) :
    (w.count t).result.problems = w.result.problems + t.problems := by
  cases t <;> simp only [Work.count, NodeResult.problems, Tally.problems] <;> omega

/-- What becomes of a property, whether or not problems end the build: it goes well, or there is a
problem with it, which is reported and ends the build if problems do. -/
inductive Tries (d : Descriptor) (name : String) (w : Work) (p : Progress)
    (part : Bool → Stage Work) : Prop
  | goes {w' : Work} {q : Progress} (notes : Notes p q)
      (problems : w'.result.problems = w.result.problems) (eq : ∀ stop, part stop = .done w' q)
  | fails {w' : Work} {q : Progress} {h : Halt} (notes : Notes p q)
      (problems : w'.result.problems = w.result.problems + 1) (problem : h.fault.isProblem = true)
      (last : h.IsLast q.report.messages)
      (place : h.context = (Halt.ofDescriptor h.fault d (some name)).context)
      (eq : ∀ stop, part stop = .haltedIf stop w' q h)

namespace Tries

variable {d : Descriptor} {name : String} {w : Work} {part : Bool → Stage Work}

theorem after (hp : Notes p q) (h : Tries d name w q part) : Tries d name w p part := by
  cases h with
  | goes notes problems eq => exact .goes (hp.trans notes) problems eq
  | fails notes problems problem last place eq =>
    exact .fails (hp.trans notes) problems problem last place eq

/-- A property that is counted and is no problem. -/
theorem count (hp : Notes p q) {node : Node} {context : Option Value} {t : Tally}
    (ht : t.problems = 0) :
    Tries d name w p fun _ => .done (Work.count ⟨node, w.result, context⟩ t) q :=
  .goes hp (by rw [problems_count, ht]; rfl) fun _ => rfl

end Tries

theorem tries_failAssignment (s : Setup) (d : Descriptor) (name value message : String) (w : Work)
    (node : Node) (hp : Notes p q) : Tries d name w p fun stop =>
      failAssignment (s.stopping stop) d name value message { w with node } q := by
  let h := Halt.ofDescriptor (.notAssigned value message) d (some name)
  have hlast : h.IsLast (q.emit d (some name) .error h.fault.message).report.messages :=
    ⟨List.cons_ne_nil _ _, List.suffix_append _ _⟩
  exact .fails (hp.trans (.emit _ _ _ _ _)) (problems_count { w with node } .failed) rfl hlast rfl
    fun _ => rfl

theorem tries_bind (s : Setup) (d : Descriptor) (name target path : String) (w : Work)
    (p : Progress) :
    Tries d name w p fun stop => bind (s.stopping stop) d name target path w p := by
  have htake : Notes p (p.take (.bind w.node.id w.node.cls.name target path)) := .take p rfl
  cases happly : s.applier w.node target path with
  | ok node =>
    have heq : ∀ stop, bind (s.stopping stop) d name target path w p =
        .done ({ w with node }.count .applied)
          (p.take (.bind w.node.id w.node.cls.name target path)) := fun stop => by
      simp only [bind, Setup.stopping, happly]
    exact funext heq ▸ .count htake rfl
  | error message =>
    have heq : ∀ stop, bind (s.stopping stop) d name target path w p =
        failAssignment (s.stopping stop) d name path message w
          (p.take (.bind w.node.id w.node.cls.name target path)) := fun stop => by
      simp only [bind, Setup.stopping, happly]
    exact funext heq ▸ tries_failAssignment s d name path message w w.node htake

theorem tries_assign (s : Setup) (d : Descriptor) (setter : Setter) (name value : String)
    (w : Work) (p : Progress) :
    Tries d name w p fun stop => assign (s.stopping stop) d setter name value w p := by
  let a := assignment s setter name value w.node
  let q := ((p.take (.assign w.node.id name)).wait s.mode).hear s.mode a.cancels
  have hheard : Notes p q := ((Notes.take p rfl).trans (.wait _ _)).trans (.hear _ _ _)
  have hlogged : Notes p { q with log := q.log ++ a.log } := hheard.trans (.of_eq rfl rfl rfl)
  have heq : ∀ stop, assign (s.stopping stop) d setter name value w p =
      assigned (s.stopping stop) d name value w a (.done () q) := fun _ => rfl
  rw [funext heq]
  unfold assigned
  cases a.failure with
  | none => exact .count hlogged rfl
  | some failure => exact tries_failAssignment s d name value _ w a.node hlogged

theorem tries_dispatch (s : Setup) (d : Descriptor) (name value : String) (w : Work)
    (p : Progress) :
    Tries d name w p fun stop => dispatch (s.stopping stop) d name value w p := by
  unfold dispatch
  split
  · split
    · exact .count (.refl p) rfl
    · have hresolve : Notes p (resolveHandle s d value p).2 := rel_resolveHandle Notes.allowsLookup s d value p
      exact .goes hresolve
        (problems_count { w with context := (resolveHandle s d value p).1 } .applied) fun _ => rfl
  · cases hfind : Setter.find? s.setters w.node name with
    | some setter =>
      have hfound : ∀ stop, Setter.find? (s.stopping stop).setters w.node name = some setter :=
        fun _ => hfind
      simp only [hfound]
      exact tries_assign s d setter name value w p
    | none =>
      have hfound : ∀ stop, Setter.find? (s.stopping stop).setters w.node name = none :=
        fun _ => hfind
      simp only [hfound]
      exact .count (.emit _ _ _ _ _) rfl

theorem tries_validateAndDispatch (s : Setup) (d : Descriptor) (name value : String) (w : Work)
    (p : Progress) :
    Tries d name w p fun stop => validateAndDispatch (s.stopping stop) d name value w p := by
  have hwarned : Notes p
      (p.emitAll d (some name) .warning (check s d name value w.node).warnings) :=
    .emitAll _ _ _ _ _
  cases hvalid : (check s d name value w.node).isValid with
  | true =>
    have heq : ∀ stop, validateAndDispatch (s.stopping stop) d name value w p =
        dispatch (s.stopping stop) d name value w
          (p.emitAll d (some name) .warning (check s d name value w.node).warnings) :=
      fun _ => if_pos hvalid
    exact funext heq ▸ (tries_dispatch s d name value w _).after hwarned
  | false =>
    have heq : ∀ stop, validateAndDispatch (s.stopping stop) d name value w p =
        .haltedIf stop (w.count .blocked)
          ((p.emitAll d (some name) .warning (check s d name value w.node).warnings).emitAll d
            (some name) .error (check s d name value w.node).errors)
          (.ofDescriptor (.rejected name (check s d name value w.node).errors) d (some name)) :=
      fun _ => if_neg (ne_true_of_eq_false hvalid)
    refine .fails (hwarned.trans (.emitAll _ _ _ _ _)) (problems_count w .blocked) rfl
      ⟨fun hnil => ?_, ?_⟩ rfl heq
    · have hnone : (check s d name value w.node).errors = [] := List.map_eq_nil_iff.1 hnil
      rw [Validation.isValid, hnone] at hvalid
      cases hvalid
    · rw [Progress.messages_emitAll]
      exact List.suffix_append _ _

/-- What becomes of an entry, unless the build has been asked to stop. -/
theorem tries_applyProperty (s : Setup) (d : Descriptor) (entry : Property) (w : Work)
    (hp : p.cancelled = false) :
    Tries d entry.name w p fun stop => applyProperty (s.stopping stop) d entry w p := by
  simp only [applyProperty, if_neg (ne_true_of_eq_false hp)]
  split
  · exact .count (.refl p) rfl
  · split
    · exact .count (.emit _ _ _ _ _) rfl
    · split
      · exact tries_bind s d entry.name _ _ w p
      · exact tries_validateAndDispatch s d entry.name _ w p

/-- An entry adds messages and steps at most, and no problem is taken back. -/
theorem notes_applyProperty (s : Setup) (d : Descriptor) (entry : Property) (w : Work)
    (p : Progress) : Notes p (applyProperty s d entry w p).progress ∧
      w.result.problems ≤ (applyProperty s d entry w p).value.result.problems := by
  cases hasked : p.cancelled with
  | true =>
    rw [applyProperty, if_pos hasked]
    exact ⟨.refl p, Nat.le_refl _⟩
  | false =>
    have htries := tries_applyProperty s d entry w hasked
    change Notes p (applyProperty (s.stopping s.settings.stopOnError) d entry w p).progress ∧
      w.result.problems ≤
        (applyProperty (s.stopping s.settings.stopOnError) d entry w p).value.result.problems
    cases htries with
    | goes notes problems eq =>
      rw [eq]
      exact ⟨notes, Nat.le_of_eq problems.symm⟩
    | fails notes problems problem last place eq =>
      rw [eq]
      exact ⟨notes, problems ▸ Nat.le_succ _⟩

theorem notes_applyProperties (s : Setup) (d : Descriptor) (entries : List Property) (w : Work)
    (p : Progress) : Notes p (applyProperties s d entries w p).progress ∧
      w.result.problems ≤ (applyProperties s d entries w p).value.result.problems := by
  induction entries generalizing w p with
  | nil => exact ⟨.refl p, Nat.le_refl _⟩
  | cons entry rest ih =>
    obtain ⟨hnotes, hle⟩ := notes_applyProperty s d entry w p
    rw [applyProperties, Stage.andThen]
    split
    · exact ⟨hnotes, hle⟩
    · obtain ⟨hnotes', hle'⟩ := ih (applyProperty s d entry w p).value
        (applyProperty s d entry w p).progress
      exact ⟨hnotes.trans hnotes', Nat.le_trans hle hle'⟩

/-- How the properties of a node come out in a build that problems end and in one that goes on:
alike if there is no problem, and otherwise the former ends with the first problem. -/
inductive Fills (d : Descriptor) (w : Work) (stopped full : Stage Work) : Prop
  | alike (problems : full.value.result.problems = w.result.problems) (eq : stopped = full)
  | parts {h : Halt} (halt : stopped.halt = some h) (problem : h.fault.isProblem = true)
      (last : h.IsLast stopped.progress.report.messages)
      (place : ∃ name, h.context = (Halt.ofDescriptor h.fault d (some name)).context)
      (first : stopped.value.result.problems = w.result.problems + 1)
      (more : stopped.value.result.problems ≤ full.value.result.problems)
      (notes : Notes stopped.progress full.progress)

theorem fills (s : Setup) (d : Descriptor) (entries : List Property) (w : Work) (p : Progress) :
    Fills d w (applyProperties (s.stopping true) d entries w p)
      (applyProperties (s.stopping false) d entries w p) := by
  induction entries generalizing w p with
  | nil => exact .alike rfl rfl
  | cons entry rest ih =>
    rw [applyProperties, applyProperties]
    cases hasked : p.cancelled with
    | true =>
      have heq : ∀ stop, applyProperty (s.stopping stop) d entry w p =
          .halted w p (.bare .cancelled) := fun _ => if_pos hasked
      rw [heq, heq]
      exact .alike rfl rfl
    | false =>
      cases tries_applyProperty s d entry w hasked with
      | @goes w' q notes problems eq =>
        rw [eq, eq]
        cases ih w' q with
        | alike problems' eq' => exact .alike (problems'.trans problems) eq'
        | parts halt problem last place first more notes' =>
          exact .parts halt problem last place (by rw [← problems]; exact first) more notes'
      | @fails w' q h notes problems problem last place eq =>
        rw [eq, eq]
        obtain ⟨hnotes, hle⟩ := notes_applyProperties (s.stopping false) d rest w' q
        exact .parts rfl problem last ⟨entry.name, place⟩ problems hle hnotes

/-! ## Finding a place -/

theorem seeks_createWrapper (s : Setup) (d : Descriptor) (names : List String) (p : Progress) :
    Seeks p (createWrapper s d names p) := by
  induction names generalizing p with
  | nil => exact .done (.refl p)
  | cons name rest ih =>
    obtain ⟨hnotes, hhalt⟩ := seeks_findType s d name p
    rw [createWrapper]
    split
    · next hh => exact .halted hnotes (hhalt _ hh)
    · exact (ih _).after hnotes
    · dsimp only
      split
      · split
        · exact .done (hnotes.trans (.of_eq rfl rfl rfl))
        · exact (ih _).after hnotes
      · exact (ih _).after hnotes

theorem seeks_wrapContent (s : Setup) (d : Descriptor) (f : Frame) (content : Node)
    (p : Progress) : Seeks p (wrapContent s d f content p) ∧
      (wrapContent s d f content p).value.1.node.id = f.node.id := by
  obtain ⟨hnotes, hhalt⟩ := seeks_createWrapper s d (wrapperTypes s) p
  rw [wrapContent]
  split
  · next hh => exact ⟨.halted hnotes (hhalt _ hh), rfl⟩
  · exact ⟨.done (hnotes.trans (.emit _ _ _ _ _)), rfl⟩
  · exact ⟨.done ((hnotes.trans (.take _ rfl)).trans (.emit _ _ _ _ _)), rfl⟩

/-- A place is found below the same parent. -/
theorem seeks_attach (s : Setup) (d : Descriptor) (f : Frame) (p : Progress) :
    Seeks p (attach s d f p) ∧ (attach s d f p).value.1.node.id = f.node.id := by
  rw [attach]
  split
  · rw [attachContent]
    split
    · dsimp only
      split
      · exact ⟨.done (.emit _ _ _ _ _), rfl⟩
      · exact ⟨.done (.refl p), rfl⟩
    · split
      · exact ⟨.done (.refl p), rfl⟩
      · exact seeks_wrapContent s d f _ p
  · exact ⟨.done (.emit _ _ _ _ _), rfl⟩
  · exact ⟨.done (.refl p), rfl⟩

/-! ## Finishing a node -/

/-- The parent and the node, if a node that is finished is attached. -/
def Finished.attachment? (x : Finished) : Option (Nat × Nat) :=
  x.place.map fun _ => (x.frame.node.id, x.node.id)

/-- The node that is attached by the start of a node, if any is. -/
def attachedBy (x? : Option Finished) : List (Nat × Nat) := (x?.bind Finished.attachment?).toList

theorem problems_skippedBelow {d : Descriptor} {r : NodeResult} (h : r ∈ skippedBelow d) :
    r.problems = 0 := by
  obtain ⟨b, -, rfl⟩ := List.mem_map.1 h
  rfl

/-- What is recorded about a node whose properties have been gone through: first its own result,
with the problems that it tells of. Only the end by a module leaves it out. -/
structure Settles (f : Frame) (r : NodeResult) (p : Progress) (st : Stage (Option Finished))
    (results : List NodeResult) : Prop where
  adds : Grows p st.progress results (attachedBy st.value)
  parent : ∀ x, st.value = some x → x.frame.node.id = f.node.id
  own : ¬ EndsAtModule st.halt → ∃ r' rest, results = r' :: rest ∧ r'.subject = r.subject ∧
    r'.problems = r.problems
  problems : r.problems = 0 → ∀ r' ∈ results, r'.problems = 0

namespace Settles

variable {f : Frame} {r r' : NodeResult} {results : List NodeResult}

theorem cons {x : Finished} (h : Grows p q (r' :: results) x.attachment?.toList)
    (hparent : x.frame.node.id = f.node.id) (hsubject : r'.subject = r.subject)
    (hproblems : r'.problems = r.problems) (hclean : ∀ r'' ∈ results, r''.problems = 0) :
    Settles f r p (.done (some x) q) (r' :: results) where
  adds := h
  parent _ hx := Option.some.inj hx ▸ hparent
  own _ := ⟨r', results, rfl, hsubject, hproblems⟩
  problems hr := List.forall_mem_cons.2 ⟨hproblems.trans hr, hclean⟩

theorem after {st : Stage (Option Finished)} (hp : Notes p q) (h : Settles f r q st results) :
    Settles f r p st results :=
  ⟨hp.after h.adds, h.parent, h.own, h.problems⟩

end Settles

theorem settles_afterProperties (s : Setup) (d : Descriptor) (f : Frame) (group : Option Value)
    {filled : Stage Work} (hstate : filled.value.result.state = .success) :
    ∃ results, Settles f filled.value.result filled.progress
      (afterProperties s d f group filled) results := by
  obtain ⟨w, p, halt⟩ := filled
  cases halt with
  | some h =>
    exact ⟨_, .addNode p w.result, nofun, fun _ => ⟨_, _, rfl, rfl, rfl⟩,
      fun hclean r hr => by rwa [List.mem_singleton.1 hr]⟩
  | none =>
    have hcontext := rel_giveContext Notes.allowsLookup d (w.context.or group) w.node p
    dsimp only [afterProperties, finish]
    generalize giveContext d (w.context.or group) w.node p = given at hcontext ⊢
    obtain ⟨n, q⟩ := given
    obtain ⟨hattach, hparent⟩ := seeks_attach s d f q
    dsimp only
    generalize attach s d f q = attached at hattach hparent ⊢
    obtain ⟨⟨f', place⟩, q', halt⟩ := attached
    have hplace : Notes p q' := hcontext.trans hattach.notes
    have hadd : ∀ r, Grows p (q'.addNode r) [r] [] := fun r => .after hplace (.addNode q' r)
    cases halt with
    | some h =>
      have hmodule : EndsAtModule (some h) := ⟨h, rfl, hattach.halt h rfl⟩
      exact ⟨_, hplace, nofun, fun hnot => absurd hmodule hnot, nofun⟩
    | none =>
      cases place with
      | none =>
        have htake : ∀ q : Progress, Notes q (q.take (.drop n.id)) := fun q => .take q rfl
        have hdrop := ((hadd { w.result with state := .skipped }).notes (htake _)).trans
          (grows_skipBelow d "parent node was dropped" _)
        exact ⟨_, .cons (hdrop.notes (.wait _ s.mode)) hparent rfl
          (NodeResult.problems_skipped hstate) fun _ => problems_skippedBelow⟩
      | some place =>
        have hattached := (hadd w.result).trans (.attach _ f'.node.id n.id)
        dsimp only
        cases !d.children.isEmpty && !n.cls.holdsChildren with
        | true =>
          have hclosed := hattached.trans
            (grows_skipBelow d (n.cls.name ++ " cannot hold children") _)
          exact ⟨_, .cons (hclosed.notes (.wait _ s.mode)) hparent rfl rfl
            fun _ => problems_skippedBelow⟩
        | false =>
          exact ⟨_, .cons (hattached.notes (.wait _ s.mode)) hparent rfl rfl nofun⟩

/-! ## The start of a node -/

/-- The work on a new node is about its descriptor. -/
theorem result_fill (s : Setup) (d : Descriptor) (n : Node) (p : Progress) :
    (fill s d n p).2.value.result.subject = d.subject ∧
      (fill s d n p).2.value.result.state = .success := by
  have hassigns := @assigns_applyProperties (fun _ => True) s d d.properties
    ⟨n, .ofState d.typeName .success d.source, none⟩ (groupContext s d p).2
  exact ⟨Prod.ext hassigns.typeName hassigns.source, hassigns.state⟩

theorem settles_fill (s : Setup) (d : Descriptor) (f : Frame) (n : Node) (p : Progress) :
    ∃ results, Settles f (fill s d n p).2.value.result p
      (afterProperties s d f (fill s d n p).1 (fill s d n p).2) results := by
  obtain ⟨results, h⟩ := settles_afterProperties s d f (fill s d n p).1 (result_fill s d n p).2
  have hfill := (notes_applyProperties s d d.properties
    ⟨n, .ofState d.typeName .success d.source, none⟩ (groupContext s d p).2).1
  exact ⟨results, h.after ((rel_groupContext Notes.allowsLookup s d p).trans hfill)⟩

/-- **The start of a node** adds to what has been recorded, and attaches the node at most. -/
theorem grows_start (s : Setup) (d : Descriptor) (f : Frame) (p : Progress) :
    (∃ results, Grows p (start s d f p).progress results (attachedBy (start s d f p).value)) ∧
      ∀ x, (start s d f p).value = some x → x.frame.node.id = f.node.id := by
  have hstart : start s d f p = if p.cancelled then .halted none p (.bare .cancelled)
      else afterCreation s d f (createNode (s.stopping s.settings.stopOnError) d p) := rfl
  rw [hstart]
  split
  · exact ⟨⟨[], Notes.refl p⟩, nofun⟩
  · cases createNode_cases s d p with
    | @alike made notes node eq =>
      rw [eq]
      obtain ⟨_ | n, q, _ | h⟩ := made
      · exact ⟨⟨[], notes⟩, nofun⟩
      · exact ⟨⟨[], notes⟩, nofun⟩
      · obtain ⟨results, hfill⟩ := settles_fill s d f n q
        exact ⟨⟨results, notes.after hfill.adds⟩, hfill.parent⟩
      · exact ⟨⟨[], notes⟩, nofun⟩
    | @fails q fault reason notes creation eq =>
      have hfailed := notes.after (grows_noteFailed d fault q)
      rw [eq, failNode_stopping]
      split
      · exact ⟨⟨_, hfailed⟩, nofun⟩
      · exact ⟨⟨_, hfailed.trans (grows_skipBelow d reason _)⟩, nofun⟩

/-- A node at which the build ends is not finished. -/
theorem value_start_of_halt {s : Setup} {d : Descriptor} {f : Frame} {h : Halt}
    (hh : (start s d f p).halt = some h) : (start s d f p).value = none := by
  have hfilled : ∀ group filled, (afterProperties s d f group filled).halt = some h →
      (afterProperties s d f group filled).value = none := by
    intro group filled
    rw [afterProperties]
    split
    · exact fun _ => rfl
    · dsimp only
      split
      · exact fun _ => rfl
      · exact fun hnone => by cases hnone
  have hmade : ∀ made, (afterCreation s d f made).halt = some h →
      (afterCreation s d f made).value = none := by
    intro made
    rw [afterCreation]
    split
    · exact fun _ => rfl
    · exact fun _ => rfl
    · exact hfilled _ _
  have hstart : start s d f p = if p.cancelled then .halted none p (.bare .cancelled)
      else afterCreation s d f (createNode s d p) := rfl
  rw [hstart] at hh ⊢
  cases hasked : p.cancelled with
  | true => rfl
  | false =>
    rw [hasked] at hh
    exact hmade _ hh

end Build

end LayoutTree
