import LayoutTree.Proofs.Build.Turns
import LayoutTree.Proofs.Property.Verdict

/-!
# Validation guards assignments

An entry with a raw value goes to a setter, or to the data context, exactly if no validator objects
to it. What the chain of validators decides about the entry (`Turn.isBlocked_iff`) is followed
through its turn: `Turn.isAssigned_iff` for the setters and `Turn.isResolved_iff` for data contexts.
Both are read off what the turn does, and hold of every chain, every node and every progress.

The main statement is `turn_guarded`, about every turn of every build that validates.
-/

namespace LayoutTree

namespace Build

variable {s : Setup} {t : Turn} {value : String}

namespace Turn

/-- The entry is given to a setter: that is the first step of its turn. -/
def IsAssigned (s : Setup) (t : Turn) : Prop :=
  ∃ later, (t.outcome s).progress.steps =
    t.progress.steps ++ .assign t.work.node.id t.entry.name :: later

/-- A raw value of the entry is resolved, for the data context of its node. -/
def IsResolved (s : Setup) (t : Turn) (value : String) : Prop :=
  let resolved := resolveHandle s t.descriptor value (t.warned s)
  t.outcome s = .done ({ t.work with context := resolved.1 }.count .applied) resolved.2

/-- The entry is counted as blocked. -/
def IsBlocked (s : Setup) (t : Turn) : Prop :=
  (t.outcome s).value.result.blocked = t.work.result.blocked + 1

/-- What validators look at besides the node and the value. -/
def scope (s : Setup) (t : Turn) : ValidationScope := .ofSource s.files t.descriptor.source

/-- No validator objects to a raw value of the entry. -/
def IsAccepted (s : Setup) (t : Turn) (value : String) : Prop :=
  ∀ v ∈ s.validators.members, ¬ v.Objects (t.scope s) t.work.node t.entry.name value

/-- A message about the entry. -/
def message (t : Turn) (severity : Severity) (text : String) : BuildMessage :=
  ⟨severity, text, some t.descriptor.typeName, some t.entry.name, t.descriptor.source⟩

end Turn

/-! ## After validation -/

/-- A raw value that is not blocked adds messages and steps at most. -/
theorem notes_dispatch (s : Setup) (d : Descriptor) (name value : String) (w : Work)
    (p : Progress) : Notes p (dispatch s d name value w p).progress := by
  have htries := tries_dispatch s d name value w p
  change Notes p (dispatch (s.stopping s.settings.stopOnError) d name value w p).progress
  cases htries with
  | goes notes _ eq => rw [eq]; exact notes
  | fails notes _ _ _ _ eq => rw [eq]; exact notes

/-- A setter that is given a value has been given it by the first step. -/
theorem isPrefix_steps_assign (s : Setup) (d : Descriptor) (setter : Setter) (name value : String)
    (w : Work) (p : Progress) : p.steps ++ [.assign w.node.id name] <+:
      (assign s d setter name value w p).progress.steps := by
  let a := assignment s setter name value w.node
  let q := p.take (.assign w.node.id name)
  have hsteps : q.steps <+: ((q.wait s.mode).hear s.mode a.cancels).steps :=
    ((Notes.wait q s.mode).trans (.hear _ s.mode a.cancels)).steps
  rw [assign]
  split <;> exact hsteps

/-! ## Turns in a build that validates -/

namespace Turn

theorem findings_eq (hs : s.settings.validateProperties = true) (h : t.rawValue? = some value) :
    t.findings s =
      ⟨s.validators.members.flatMap fun v =>
          v.errorsOn (t.scope s) t.work.node t.entry.name value,
        s.validators.members.flatMap fun v =>
          v.warningsOn (t.scope s) t.work.node t.entry.name value⟩ := by
  rw [findings_of_rawValue h, check, if_pos hs]
  exact Validator.validate_eq _ _ _ _ _

theorem isValid_findings_iff (hs : s.settings.validateProperties = true)
    (h : t.rawValue? = some value) : (t.findings s).isValid = true ↔ t.IsAccepted s value := by
  rw [findings_of_rawValue h, check, if_pos hs]
  exact Validator.isValid_validate_iff _ _ _ _ _

theorem steps_warned (s : Setup) (t : Turn) : (t.warned s).steps = t.progress.steps :=
  steps_emitAll _ _ _ _ _

theorem messages_warned (s : Setup) (t : Turn) : (t.warned s).report.messages =
    t.progress.report.messages ++ (t.findings s).warnings.map (t.message .warning) :=
  Progress.messages_emitAll _ _ _ _ _

variable (hs : s.settings.validateProperties = true) (hp : t.progress.cancelled = false)
  (h : t.rawValue? = some value)

include hs hp h

/-- What becomes of an entry that no validator objects to. -/
theorem outcome_of_isAccepted (haccepted : t.IsAccepted s value) : t.outcome s =
    dispatch s t.descriptor t.entry.name value t.work (t.warned s) := by
  rw [outcome_of_rawValue hp h, if_pos ((isValid_findings_iff hs h).2 haccepted)]

/-- What becomes of an entry that some validator objects to. -/
theorem outcome_of_not_isAccepted (hobjected : ¬ t.IsAccepted s value) : t.outcome s =
    .haltedIf s.settings.stopOnError (t.work.count .blocked)
      ((t.warned s).emitAll t.descriptor (some t.entry.name) .error (t.findings s).errors)
      (.ofDescriptor (.rejected t.entry.name (t.findings s).errors) t.descriptor
        (some t.entry.name)) := by
  rw [outcome_of_rawValue hp h, if_neg fun hvalid => hobjected ((isValid_findings_iff hs h).1 hvalid)]

/-- **An entry is blocked** exactly if some validator objects to it. -/
theorem isBlocked_iff : t.IsBlocked s ↔ ¬ t.IsAccepted s value := by
  rw [IsBlocked]
  by_cases haccepted : t.IsAccepted s value
  · obtain ⟨tally, hne, hcounts⟩ := exists_counts_dispatch s t.descriptor t.entry.name value
      t.work (t.warned s)
    rw [outcome_of_isAccepted hs hp h haccepted, hcounts.result, blocked_count, if_neg hne]
    exact iff_of_false (Nat.ne_of_lt (Nat.lt_succ_self _)) (not_not_intro haccepted)
  · rw [outcome_of_not_isAccepted hs hp h haccepted]
    exact iff_of_true rfl haccepted

/-- **An entry goes to a setter** exactly if no validator objects to it and some setter claims it.
-/
theorem isAssigned_iff (hkey : propertyKey t.entry.name ≠ Validator.dataContextKey) :
    t.IsAssigned s ↔ t.IsAccepted s value ∧
      ∃ m ∈ s.setters.members, m.claims t.work.node t.entry.name = true := by
  have hsteps := steps_warned s t
  have hquiet : ∀ {q : Progress}, (t.outcome s).progress = q → q.steps = t.progress.steps →
      ¬ t.IsAssigned s := by
    rintro q hq hsame ⟨later, hlater⟩
    rw [hq, hsame] at hlater
    exact List.cons_ne_nil _ _ (List.append_right_eq_self.1 hlater.symm)
  by_cases haccepted : t.IsAccepted s value
  · have houtcome := outcome_of_isAccepted hs hp h haccepted
    rw [dispatch, if_neg hkey] at houtcome
    cases hfind : Setter.find? s.setters t.work.node t.entry.name with
    | some setter =>
      rw [hfind] at houtcome
      have hassign : t.outcome s =
          assign s t.descriptor setter t.entry.name value t.work (t.warned s) := houtcome
      obtain ⟨later, hlater⟩ := isPrefix_steps_assign s t.descriptor setter t.entry.name value
        t.work (t.warned s)
      rw [← hassign, hsteps, List.append_assoc] at hlater
      have hclaims := List.find?_some
        (p := fun m : Setter => m.claims t.work.node t.entry.name) hfind
      exact iff_of_true ⟨later, hlater.symm⟩
        ⟨haccepted, setter, List.mem_of_find?_eq_some hfind, hclaims⟩
    | none =>
      rw [hfind] at houtcome
      refine iff_of_false (hquiet (congrArg Stage.progress houtcome) hsteps) ?_
      rintro ⟨-, m, hm, hclaims⟩
      exact List.find?_eq_none.1 hfind m hm hclaims
  · have houtcome := outcome_of_not_isAccepted hs hp h haccepted
    refine iff_of_false (hquiet (congrArg Stage.progress houtcome) ?_) fun hand => haccepted hand.1
    exact (steps_emitAll _ _ _ _ _).trans hsteps

/-- **A data context is resolved** exactly if no validator objects to it and it is not blank. -/
theorem isResolved_iff (hkey : propertyKey t.entry.name = Validator.dataContextKey) :
    t.IsResolved s value ↔ t.IsAccepted s value ∧ (Text.trim value.toList).isEmpty = false := by
  -- The three ways differ in what is counted.
  have hcounted : ∀ {w : Work}, (t.outcome s).value = w →
      w.result.applied = t.work.result.applied → ¬ t.IsResolved s value := by
    intro w hw hsame hresolved
    rw [hresolved] at hw
    have happlied : w.result.applied = t.work.result.applied + 1 := hw ▸ rfl
    omega
  by_cases haccepted : t.IsAccepted s value
  · have houtcome := outcome_of_isAccepted hs hp h haccepted
    rw [dispatch, if_pos hkey] at houtcome
    cases hblank : (Text.trim value.toList).isEmpty with
    | true =>
      rw [hblank] at houtcome
      exact iff_of_false (hcounted (congrArg Stage.value houtcome) rfl) fun hand => by
        cases hand.2
    | false =>
      rw [hblank] at houtcome
      exact iff_of_true houtcome ⟨haccepted, rfl⟩
  · have houtcome := outcome_of_not_isAccepted hs hp h haccepted
    exact iff_of_false (hcounted (congrArg Stage.value houtcome) rfl) fun hand => haccepted hand.1

/-- The messages of all validators come first in a turn, warnings before errors. -/
theorem isPrefix_messages_outcome : t.progress.report.messages ++
      (t.findings s).warnings.map (t.message .warning) ++
      (t.findings s).errors.map (t.message .error) <+:
    (t.outcome s).progress.report.messages := by
  rw [← messages_warned]
  by_cases haccepted : t.IsAccepted s value
  · have hnone : (t.findings s).errors = [] :=
      List.isEmpty_iff.1 ((isValid_findings_iff hs h).2 haccepted)
    rw [outcome_of_isAccepted hs hp h haccepted, hnone, List.map_nil, List.append_nil]
    exact (notes_dispatch _ _ _ _ _ _).messages
  · rw [outcome_of_not_isAccepted hs hp h haccepted]
    exact (Progress.messages_emitAll _ _ _ _ _) ▸ List.prefix_rfl

end Turn

end Build

/-- **Validation guards assignments**, whatever the validators, the setters, the layout and the
collaborators, in direct builds and in builds that wait. An entry whose turn comes in a build that
validates, with a name, a raw value and no binding, goes to a setter exactly if no validator objects
to it and some setter claims it; for a data context, it is resolved exactly if no validator objects
to it and it is not blank. It is blocked exactly if some validator objects, in whatever order they
stand. The report holds what all of them say, in their order: a single error for one that fails
itself, and otherwise its own warnings and errors. -/
theorem turn_guarded (b : Builder) (r : Registry) (plugins : PluginManager) (container : Node)
    (ds : List Descriptor) (source : Option String) (mode : Mode)
    (hvalidates : b.settings.validateProperties = true) :
    let s := b.setup r mode
    let o := b.build r plugins container ds source mode
    ∀ t ∈ b.turns r container ds source mode, ∀ value, t.entry.name ≠ "" →
      t.entry.value = some value → bindingTarget? t.entry.name = none →
      let accepted := ∀ v ∈ r.validators.members,
        ¬ v.Objects (t.scope s) t.work.node t.entry.name value
      let claimed := ∃ m ∈ r.setters.members, m.claims t.work.node t.entry.name = true
      (propertyKey t.entry.name ≠ Validator.dataContextKey →
        (t.IsAssigned s ↔ accepted ∧ claimed)) ∧
      (propertyKey t.entry.name = Validator.dataContextKey →
        (t.IsResolved s value ↔ accepted ∧ (Text.trim value.toList).isEmpty = false)) ∧
      (t.IsBlocked s ↔ ¬ accepted) ∧
      (∀ validators : Chain Validator, validators.members.Perm r.validators.members →
        (t.IsBlocked { s with validators } ↔ t.IsBlocked s)) ∧
      (t.progress.report.messages ++
          (r.validators.members.flatMap fun v => (v.warningsOn (t.scope s) t.work.node t.entry.name
            value).map (t.message .warning)) ++
          (r.validators.members.flatMap fun v => (v.errorsOn (t.scope s) t.work.node t.entry.name
            value).map (t.message .error)) <+: o.report.messages) ∧
      (t.outcome s).progress.steps <+: o.steps := by
  intro s o t ht value hname hvalue htarget accepted claimed
  obtain ⟨hp, hmessages, hsteps⟩ := turn_build b r plugins container ds source mode ht
  have hraw : t.rawValue? = some value :=
    Build.Turn.rawValue?_eq_some.2 ⟨by simpa using hname, htarget, hvalue⟩
  have hs : s.settings.validateProperties = true := hvalidates
  have hblocked := Build.Turn.isBlocked_iff hs hp hraw
  refine ⟨Build.Turn.isAssigned_iff hs hp hraw, Build.Turn.isResolved_iff hs hp hraw, hblocked,
    fun validators hperm => ?_, ?_, hsteps⟩
  · have hother := @Build.Turn.isBlocked_iff { s with validators } t value hs hp hraw
    have hsame : t.IsAccepted { s with validators } value ↔ t.IsAccepted s value :=
      forall_congr' fun v => imp_congr_left hperm.mem_iff
    rw [hother, hsame, hblocked]
  · have hturn := Build.Turn.isPrefix_messages_outcome hs hp hraw
    rw [Build.Turn.findings_eq hs hraw, List.map_flatMap, List.map_flatMap] at hturn
    exact hturn.trans hmessages

/-- A validator that fails on widths, and has a warning about anything else. -/
def brittleValidator : Validator where
  key := "BrittleValidator"
  name := "BrittleValidator"
  applies _ name := if propertyKey name = "width" then .error "no answer" else .ok true
  check _ _ _ _ := .ok ⟨[], ["noted"]⟩

/-- The registry of the library with the validator in front. -/
def brittleRegistry : Registry := Registry.standard.addValidator brittleValidator

/-- A button whose width would be fine. -/
def brittleLayout : List Descriptor := [
  ⟨"Button", [⟨"Content", some "A"⟩, ⟨"Width", some "10"⟩], none, [], none⟩]

/-- The width is blocked, the content is assigned, and the report has one error. -/
theorem turn_guarded_brittleLayout :
    let b := Builder.standard .standard ⟨[], []⟩ .standard
    let window := Node.ofClass 0 (.contentControl "Window" [])
    let s := b.setup brittleRegistry .direct
    let o := b.build brittleRegistry (.empty false) window brittleLayout none .direct
    (∃ t ∈ b.turns brittleRegistry window brittleLayout none .direct,
      t.entry = ⟨"Width", some "10"⟩ ∧ t.IsBlocked s ∧ ¬ t.IsAssigned s) ∧
      o.report.ofSeverity .error = ["Error in validator BrittleValidator: no answer"] ∧
      o.report.ofSeverity .warning = ["noted"] ∧
      o.steps = [.create 1, .assign 1 "Content", .attach 0 1] := by
  intro b window s o
  have hsome : ((b.turns brittleRegistry window brittleLayout none .direct).find?
      fun t => t.entry = ⟨"Width", some "10"⟩).isSome = true := by decide +kernel
  obtain ⟨t, ht⟩ := Option.isSome_iff_exists.1 hsome
  have hentry : t.entry = ⟨"Width", some "10"⟩ := by simpa using List.find?_some ht
  have hmem := List.mem_of_find?_eq_some ht
  obtain ⟨hassigned, -, hblocked, -⟩ := turn_guarded b brittleRegistry (.empty false) window
    brittleLayout none .direct rfl t hmem "10" (by simp [hentry]) (by rw [hentry])
    (by rw [hentry]; decide +kernel)
  have hobjects : brittleValidator.Objects (t.scope s) t.work.node t.entry.name "10" :=
    .failsToApply (by rw [hentry]; rfl)
  have hrejected : ¬ ∀ v ∈ brittleRegistry.validators.members,
      ¬ v.Objects (t.scope s) t.work.node t.entry.name "10" := fun hall =>
    hall brittleValidator List.mem_cons_self hobjects
  have hkey : propertyKey t.entry.name ≠ Validator.dataContextKey := by
    rw [hentry]
    decide +kernel
  refine ⟨⟨t, hmem, hentry, hblocked.2 hrejected, fun h => hrejected ((hassigned hkey).1 h).1⟩,
    ?_, ?_, ?_⟩
  all_goals decide +kernel

end LayoutTree
