import LayoutTree.Proofs.Build.Cancelling

/-!
# The entries that a build comes to

A build goes through the entries of each node that it makes, one after the other. A `Turn` is what
there is when an entry comes up: the node as it is by then, and the progress. `Turn.outcome` is what
becomes of the entry, and `Builder.turns` lists the turns of a whole build. No turn is taken in a
build that has been asked to stop.

What validation finds about an entry (`Turn.findings`) decides where it goes. A turn counts its entry
once, and reports an error if the entry fails, or the errors of validation if it is blocked
(`exists_counts`); no part of a turn reports errors for another reason (`Reports`). From there on the
build takes nothing back (`grows_turn`, `turn_build`).
-/

namespace LayoutTree

/-- A build comes from one progress to another with some node results and a number of errors. -/
structure Reports (p q : Progress) (results : List NodeResult) (errors : Nat) : Prop where
  results : q.report.nodes = p.report.nodes ++ results
  errors : q.report.messageCount .error = p.report.messageCount .error + errors

/-- A build comes from one progress to another without results and errors. -/
abbrev Unharmed (p q : Progress) : Prop := Reports p q [] 0

section Reports

variable {p q p' : Progress}

theorem Reports.trans {results results' : List NodeResult} {errors errors' : Nat}
    (h : Reports p q results errors) (h' : Reports q p' results' errors') :
    Reports p p' (results ++ results') (errors + errors') where
  results := by rw [h'.results, h.results, List.append_assoc]
  errors := by rw [h'.errors, h.errors, Nat.add_assoc]

theorem Reports.after {results : List NodeResult} {errors : Nat} (h : Unharmed p q)
    (h' : Reports q p' results errors) : Reports p p' results errors := by
  simpa using h.trans h'

theorem Reports.unharmed {results : List NodeResult} {errors : Nat}
    (h : Reports p q results errors) (h' : Unharmed q p') : Reports p p' results errors := by
  simpa using h.trans h'

theorem Reports.addNode (p : Progress) (r : NodeResult) : Reports p (p.addNode r) [r] 0 :=
  ⟨rfl, rfl⟩

theorem Reports.emitAll (p : Progress) (d : Descriptor) (property : Option String)
    (severity : Severity) (texts : List String) :
    Reports p (p.emitAll d property severity texts) []
      (if severity = .error then texts.length else 0) where
  results := (Notes.emitAll p d property severity texts).results
  errors := by
    rw [Report.messageCount, Progress.messages_emitAll, List.countP_append, List.countP_map]
    cases severity <;> simp [Report.messageCount, Function.comp_def]

theorem Reports.emitError (p : Progress) (d : Descriptor) (property : Option String)
    (text : String) : Reports p (p.emit d property .error text) [] 1 :=
  .emitAll p d property .error [text]

namespace Unharmed

theorem of_eq (hnodes : q.report.nodes = p.report.nodes)
    (hmessages : q.report.messages = p.report.messages) : Unharmed p q :=
  ⟨by rw [hnodes, List.append_nil], by rw [Report.messageCount, hmessages]; rfl⟩

theorem refl (p : Progress) : Unharmed p p := of_eq rfl rfl

theorem trans (h : Unharmed p q) (h' : Unharmed q p') : Unharmed p p' := Reports.trans h h'

theorem warnAll (p : Progress) (d : Descriptor) (property : Option String) (texts : List String) :
    Unharmed p (p.emitAll d property .warning texts) :=
  .emitAll p d property .warning texts

theorem warn (p : Progress) (d : Descriptor) (property : Option String) (text : String) :
    Unharmed p (p.emit d property .warning text) :=
  .emitAll p d property .warning [text]

theorem inform (p : Progress) (d : Descriptor) (property : Option String) (text : String) :
    Unharmed p (p.emit d property .info text) :=
  .emitAll p d property .info [text]

theorem take (p : Progress) (step : BuildStep) : Unharmed p (p.take step) := of_eq rfl rfl

theorem wait (p : Progress) (mode : Mode) : Unharmed p (p.wait mode) := by
  rw [Progress.wait]
  split <;> exact of_eq rfl rfl

theorem hear (p : Progress) (mode : Mode) (asks : Bool) : Unharmed p (p.hear mode asks) := by
  rw [Progress.hear]
  split <;> exact of_eq rfl rfl

theorem allowsLookup : Progress.AllowsLookup Unharmed where
  refl := refl
  trans := trans
  warn p d := warn p d none
  resolve p _ := take p _
  wait := wait

end Unharmed

end Reports

namespace Build

/-- What there is when a build comes to an entry of a node. -/
structure Turn where
  descriptor : Descriptor
  entry : Property
  /-- The node at work, with what has become of the entries before. -/
  work : Work
  progress : Progress

namespace Turn

/-- What becomes of the entry. -/
def outcome (s : Setup) (t : Turn) : Stage Work :=
  applyProperty s t.descriptor t.entry t.work t.progress

/-- The raw value that goes to validation: a name alone and a binding have none. -/
def rawValue? (t : Turn) : Option String :=
  if t.entry.name.isEmpty ∨ (bindingTarget? t.entry.name).isSome then none else t.entry.value

/-- What validation finds about the entry. -/
def findings (s : Setup) (t : Turn) : Validation :=
  match t.rawValue? with
  | some value => check s t.descriptor t.entry.name value t.work.node
  | none => .clean

/-- The progress once the warnings of validation are reported. -/
def warned (s : Setup) (t : Turn) : Progress :=
  t.progress.emitAll t.descriptor (some t.entry.name) .warning (t.findings s).warnings

end Turn

/-- The turns of some entries of a node, until the build is asked to stop or ends. -/
def turns (s : Setup) (d : Descriptor) : List Property → Work → Progress → List Turn
  | [], _, _ => []
  | entry :: rest, w, p =>
    if p.cancelled then []
    else
      let entered := applyProperty s d entry w p
      let others := match entered.halt with
        | some _ => []
        | none => turns s d rest entered.value entered.progress
      ⟨d, entry, w, p⟩ :: others

/-- The turns after the making of the node of a descriptor, if it is made. -/
def turnsAfter (s : Setup) (d : Descriptor) (made : Stage (Option Node)) : List Turn :=
  match made.halt, made.value with
  | none, some n => turns s d d.properties (newWork d n) (groupContext s d made.progress).2
  | _, _ => []

/-- The turns of the entries at a visit. -/
def Visit.turns (s : Setup) (v : Visit) : List Turn :=
  if v.progress.cancelled then []
  else turnsAfter s v.descriptor (createNode s v.descriptor v.progress)

end Build

/-- The nodes that a build comes to. -/
def Builder.visits (b : Builder) (r : Registry) (container : Node) (ds : List Descriptor)
    (source : Option String) (mode : Mode) : List Build.Visit :=
  Build.visitsAll (b.setup r mode) none ds ⟨container, false⟩ (initial r container source mode)

/-- The entries that a build comes to. -/
def Builder.turns (b : Builder) (r : Registry) (container : Node) (ds : List Descriptor)
    (source : Option String) (mode : Mode) : List Build.Turn :=
  (b.visits r container ds source mode).flatMap fun v => v.turns (b.setup r mode)

namespace Build

variable {s : Setup} {d : Descriptor} {p : Progress}

/-! ## The outcome of a turn -/

theorem Turn.outcome_of_name_empty {t : Turn} (hp : t.progress.cancelled = false)
    (hname : t.entry.name.isEmpty = true) :
    t.outcome s = .done (t.work.count .skipped) t.progress := by
  rw [outcome, applyProperty, hp, hname]
  rfl

theorem Turn.outcome_of_value_none {t : Turn} (hp : t.progress.cancelled = false)
    (hname : t.entry.name.isEmpty = false) (hvalue : t.entry.value = none) :
    t.outcome s = .done (t.work.count .skipped)
      (t.progress.emit t.descriptor (some t.entry.name) .warning "Property has no value") := by
  rw [outcome, applyProperty, hp, hname, hvalue]
  rfl

theorem Turn.outcome_of_binding {t : Turn} (hp : t.progress.cancelled = false)
    (hname : t.entry.name.isEmpty = false) {value target : String} (hvalue : t.entry.value = some value)
    (htarget : bindingTarget? t.entry.name = some target) :
    t.outcome s = bind s t.descriptor t.entry.name target value t.work t.progress := by
  rw [outcome, applyProperty, hp, hname, hvalue]
  simp only [htarget]
  rfl

theorem Turn.findings_of_rawValue_none {t : Turn} (h : t.rawValue? = none) :
    t.findings s = .clean := by
  rw [findings, h]

theorem Turn.rawValue?_eq_some {t : Turn} {value : String} : t.rawValue? = some value ↔
    t.entry.name.isEmpty = false ∧ bindingTarget? t.entry.name = none ∧
      t.entry.value = some value := by
  rw [rawValue?]
  split
  · next h =>
    refine iff_of_false nofun fun ⟨hname, htarget, _⟩ => ?_
    simp [hname, htarget] at h
  · next h =>
    simp only [not_or, Bool.not_eq_true, Option.isSome_eq_false_iff, Option.isNone_iff_eq_none] at h
    simp [h]

theorem Turn.findings_of_rawValue {t : Turn} {value : String} (h : t.rawValue? = some value) :
    t.findings s = check s t.descriptor t.entry.name value t.work.node := by
  rw [findings, h]

theorem Turn.outcome_of_rawValue {t : Turn} (hp : t.progress.cancelled = false) {value : String}
    (h : t.rawValue? = some value) : t.outcome s =
      if (t.findings s).isValid then
        dispatch s t.descriptor t.entry.name value t.work (t.warned s)
      else
        .haltedIf s.settings.stopOnError (t.work.count .blocked)
          ((t.warned s).emitAll t.descriptor (some t.entry.name) .error (t.findings s).errors)
          (.ofDescriptor (.rejected t.entry.name (t.findings s).errors) t.descriptor
            (some t.entry.name)) := by
  obtain ⟨hname, htarget, hvalue⟩ := rawValue?_eq_some.1 h
  rw [warned, findings_of_rawValue h, outcome, applyProperty, hp, hname, hvalue]
  simp only [htarget]
  rfl

/-! ## What a turn counts -/

/-- How many errors go with an entry besides those of validation. -/
def Tally.failures : Tally → Nat
  | .failed => 1
  | .applied | .skipped | .blocked => 0

theorem blocked_count (w : Work) (tally : Tally) : (w.count tally).result.blocked =
    w.result.blocked + if tally = .blocked then 1 else 0 := by
  cases tally <;> rfl

/-- An entry is counted, and its failure is reported as an error. -/
structure Counts (w : Work) (p : Progress) (st : Stage Work) (tally : Tally) : Prop where
  result : st.value.result = (w.count tally).result
  reports : Reports p st.progress [] tally.failures

theorem Counts.after {w : Work} {q : Progress} {st : Stage Work} {tally : Tally}
    (hp : Unharmed p q) (h : Counts w q st tally) : Counts w p st tally :=
  ⟨h.result, hp.after h.reports⟩

theorem Counts.done {w : Work} {q : Progress} (hp : Unharmed p q) {node : Node}
    {context : Option Value} {tally : Tally} (h : tally.failures = 0) :
    Counts w p (.done (Work.count ⟨node, w.result, context⟩ tally) q) tally where
  result := by cases tally <;> rfl
  reports := h ▸ hp

theorem counts_failAssignment (s : Setup) (d : Descriptor) (name value message : String) (w : Work)
    (p : Progress) : Counts w p (failAssignment s d name value message w p) .failed :=
  ⟨rfl, .emitError p d (some name) _⟩

theorem exists_counts_bind (s : Setup) (d : Descriptor) (name target path : String) (w : Work)
    (p : Progress) : ∃ tally ≠ .blocked, Counts w p (bind s d name target path w p) tally := by
  have htake := Unharmed.take p (.bind w.node.id w.node.cls.name target path)
  rw [bind]
  split
  · exact ⟨.applied, by decide, .done htake rfl⟩
  · exact ⟨.failed, by decide, (counts_failAssignment s d name path _ w _).after htake⟩

theorem exists_counts_assign (s : Setup) (d : Descriptor) (setter : Setter) (name value : String)
    (w : Work) (p : Progress) :
    ∃ tally ≠ .blocked, Counts w p (assign s d setter name value w p) tally := by
  let a := assignment s setter name value w.node
  let q := ((p.take (.assign w.node.id name)).wait s.mode).hear s.mode a.cancels
  have hheard : Unharmed p q := ((Unharmed.take p _).trans (.wait _ _)).trans (.hear _ _ _)
  have hlogged : Unharmed p { q with log := q.log ++ a.log } := hheard.trans (.of_eq rfl rfl)
  rw [assign]
  split
  · exact ⟨.applied, by decide, .done hlogged rfl⟩
  · next failure _ =>
    exact ⟨.failed, by decide, rfl, hlogged.after
      (counts_failAssignment s d name value failure.message { w with node := a.node } _).reports⟩

/-- An entry that is not blocked is counted as something else. -/
theorem exists_counts_dispatch (s : Setup) (d : Descriptor) (name value : String) (w : Work)
    (p : Progress) : ∃ tally ≠ .blocked, Counts w p (dispatch s d name value w p) tally := by
  rw [dispatch]
  split
  · split
    · exact ⟨.skipped, by decide, .done (.refl p) rfl⟩
    · exact ⟨.applied, by decide, .done (rel_resolveHandle Unharmed.allowsLookup s d value p) rfl⟩
  · split
    · exact exists_counts_assign s d _ name value w p
    · exact ⟨.skipped, by decide, .done (.warn p d (some name) _) rfl⟩

/-- An entry is counted once. It is blocked if validation found errors, which are reported then. -/
structure Turn.Counts (s : Setup) (t : Turn) (tally : Tally) : Prop where
  result : (t.outcome s).value.result = (t.work.count tally).result
  blocked : tally = .blocked ↔ (t.findings s).isValid = false
  reports : Reports t.progress (t.outcome s).progress []
    (tally.failures + (t.findings s).errors.length)

/-- A turn in which validation found no errors. -/
theorem Turn.Counts.of_clean {t : Turn} {tally : Tally} (hne : tally ≠ .blocked)
    (hclean : (t.findings s).errors = [])
    (h : Build.Counts t.work t.progress (t.outcome s) tally) : t.Counts s tally where
  result := h.result
  blocked := iff_of_false hne (by rw [Validation.isValid, hclean]; decide)
  reports := by rw [hclean]; exact h.reports

/-- **What a turn counts.** -/
theorem exists_counts {t : Turn} (hp : t.progress.cancelled = false) : ∃ tally, t.Counts s tally := by
  cases hraw : t.rawValue? with
  | some value =>
    have houtcome := t.outcome_of_rawValue (s := s) hp hraw
    have hwarned : Unharmed t.progress (t.warned s) := .warnAll _ _ _ _
    cases hvalid : (t.findings s).isValid with
    | true =>
      obtain ⟨tally, hne, hcounts⟩ := exists_counts_dispatch s t.descriptor t.entry.name value
        t.work (t.warned s)
      rw [if_pos hvalid] at houtcome
      exact ⟨tally, .of_clean hne (List.isEmpty_iff.1 hvalid) (houtcome ▸ hcounts.after hwarned)⟩
    | false =>
      rw [if_neg (ne_true_of_eq_false hvalid)] at houtcome
      refine ⟨.blocked, congrArg (·.value.result) houtcome, iff_of_true rfl hvalid, ?_⟩
      rw [houtcome]
      exact hwarned.after (Nat.zero_add _ ▸ .emitAll _ _ _ .error _)
  | none =>
    have hclean : (t.findings s).errors = [] := by rw [t.findings_of_rawValue_none hraw]; rfl
    cases hname : t.entry.name.isEmpty with
    | true =>
      exact ⟨.skipped, .of_clean (by decide) hclean
        (t.outcome_of_name_empty hp hname ▸ .done (.refl _) rfl)⟩
    | false =>
      cases hvalue : t.entry.value with
      | none =>
        exact ⟨.skipped, .of_clean (by decide) hclean
          (t.outcome_of_value_none hp hname hvalue ▸ .done (.warn _ _ _ _) rfl)⟩
      | some value =>
        cases htarget : bindingTarget? t.entry.name with
        | none => cases hraw.symm.trans (Turn.rawValue?_eq_some.2 ⟨hname, htarget, hvalue⟩)
        | some target =>
          obtain ⟨tally, hne, hcounts⟩ := exists_counts_bind s t.descriptor t.entry.name target
            value t.work t.progress
          exact ⟨tally, .of_clean hne hclean
            (t.outcome_of_binding hp hname hvalue htarget ▸ hcounts)⟩

/-! ## Turns in a build -/

/-- A turn of one of some entries of a node. -/
structure IsTurn (s : Setup) (d : Descriptor) (filled : Stage Work) (t : Turn) : Prop where
  descriptor : t.descriptor = d
  running : t.progress.cancelled = false
  /-- What is noted after the turn comes after what is noted in it. -/
  after : Notes (t.outcome s).progress filled.progress

theorem isTurn (s : Setup) (d : Descriptor) (entries : List Property) (w : Work) (p : Progress) :
    ∀ t ∈ turns s d entries w p, IsTurn s d (applyProperties s d entries w p) t := by
  induction entries generalizing w p with
  | nil => exact List.forall_mem_nil _
  | cons entry rest ih =>
    rw [turns]
    cases hp : p.cancelled with
    | true => exact List.forall_mem_nil _
    | false =>
      let t : Turn := ⟨d, entry, w, p⟩
      have hfirst : t.outcome s = applyProperty s d entry w p := rfl
      rw [applyProperties, ← hfirst, if_neg Bool.false_ne_true]
      dsimp only
      rcases hentered : t.outcome s with ⟨w', q, _ | h⟩
      · refine List.forall_mem_cons.2 ⟨⟨rfl, hp, ?_⟩, ih w' q⟩
        change Notes (t.outcome s).progress _
        rw [hentered]
        exact (notes_applyProperties s d rest w' q).1
      · refine List.forall_mem_singleton.2 ⟨rfl, hp, ?_⟩
        change Notes (t.outcome s).progress q
        rw [hentered]
        exact .refl q

/-- From a turn on to the end of the visit, nothing is taken back. -/
theorem grows_turn (s : Setup) (v : Visit) : ∀ t ∈ v.turns s,
    t.descriptor = v.descriptor ∧ t.progress.cancelled = false ∧
      ∃ results attached, Grows (t.outcome s).progress (v.start s).progress results attached := by
  intro t ht
  rw [Visit.turns] at ht
  split at ht
  · exact absurd ht List.not_mem_nil
  · next hp =>
    have hstart : v.start s = afterCreation s v.descriptor v.parent
        (createNode s v.descriptor v.progress) := if_neg hp
    rw [hstart]
    generalize createNode s v.descriptor v.progress = made at ht ⊢
    obtain ⟨_ | n, q, _ | h⟩ := made
    · exact absurd ht List.not_mem_nil
    · exact absurd ht List.not_mem_nil
    · obtain ⟨hd, hrunning, hafter⟩ := isTurn s _ _ _ _ t ht
      obtain ⟨results, hsettles⟩ := settles_afterProperties s v.descriptor v.parent
        (groupContext s v.descriptor q).1 (result_fill s v.descriptor n q).2
      exact ⟨hd, hrunning, results, _, hafter.after hsettles.adds⟩
    · exact absurd ht List.not_mem_nil

end Build

/-- **A turn of a build**: the build is not asked to stop by then, and what has been reported and
done when the turn is over stays so to the end. -/
theorem turn_build (b : Builder) (r : Registry) (plugins : PluginManager) (container : Node)
    (ds : List Descriptor) (source : Option String) (mode : Mode) {t : Build.Turn}
    (ht : t ∈ b.turns r container ds source mode) :
    t.progress.cancelled = false ∧
      (t.outcome (b.setup r mode)).progress.report.messages <+:
        (b.build r plugins container ds source mode).report.messages ∧
      (t.outcome (b.setup r mode)).progress.steps <+:
        (b.build r plugins container ds source mode).steps := by
  let s := b.setup r mode
  obtain ⟨v, hv, ht⟩ := List.mem_flatMap.1 ht
  obtain ⟨-, hrunning, results, attached, hgrows⟩ := Build.grows_turn s v t ht
  obtain ⟨before, after, hvs⟩ := List.append_of_mem hv
  have hcourse := Build.course_buildAll s none ds ⟨container, false⟩
    (Builder.initial r container source mode)
  change Build.Course s _ (b.visits r container ds source mode) _ _ at hcourse
  rw [hvs] at hcourse
  obtain ⟨⟨rest, attached', hrest⟩, -⟩ := hcourse.split.2.first
  have hend := hgrows.trans hrest
  exact ⟨hrunning, hend.messages, hend.steps⟩

end LayoutTree
