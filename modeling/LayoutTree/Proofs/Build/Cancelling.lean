import LayoutTree.Proofs.Build.Hearing
import LayoutTree.Proofs.Build.Stopping

/-!
# Cancelled builds

A build looks whether it is asked to stop before each node and before each property (`Check`). A
build that can be cancelled is compared with one that cannot. It does the same as long as it has not
been asked at any check, and ends at the first check at which it has. This is so for the properties
of a node (`heeds_applyProperties`), hence for a node (`heedsAt_start`), hence for a forest
(`heedsAll_buildAll`).

The main statement is `build_cancelled`: the build is cancelled exactly if there is a check when it
has been asked to stop. It has come as far then as the build that cannot be cancelled has at the
first such check, and its tree is the one of that time.
-/

namespace LayoutTree

namespace Build

variable {p q : Progress}

/-! ## Checks -/

/-- The work and the progress at the checks before the properties of a node. -/
def propertyChecks (s : Setup) (d : Descriptor) :
    List Property → Work → Progress → List (Work × Progress)
  | [], _, _ => []
  | entry :: rest, w, p =>
    let entered := applyProperty s d entry w p
    let others := match entered.halt with
      | some _ => []
      | none => propertyChecks s d rest entered.value entered.progress
    (w, p) :: others

/-- A time at which a build looks whether it is asked to stop. -/
structure Check where
  /-- The node that it has come to. -/
  visit : Visit
  /-- The work on the node, if it is before one of its properties. -/
  work : Option Work
  progress : Progress

/-- What there is to report at a check: a node whose properties are gone through is reported as far
as this has come. -/
def Check.closing (ch : Check) : Progress :=
  match ch.work with
  | none => ch.progress
  | some w => ch.progress.addNode w.result

/-- A node whose properties are gone through at a check was made last: nothing has been attached
since. -/
def Check.Unattached (ch : Check) : Prop :=
  ∀ w, ch.work = some w → ∃ n later,
    ch.progress.steps = ch.visit.progress.steps ++ .create n :: later ∧
      ∀ step ∈ later, step.isStructural = false

/-- The work on a node that has just been made. -/
def newWork (d : Descriptor) (n : Node) : Work := ⟨n, .ofState d.typeName .success d.source, none⟩

namespace Visit

/-- The check before a property of the node. -/
def checkAt (v : Visit) (x : Work × Progress) : Check := ⟨v, some x.1, x.2⟩

/-- The checks before the properties of a node that is made, once its group is resolved. -/
def checksAfterGroup (s : Setup) (v : Visit) (n : Node) (p : Progress) : List Check :=
  (propertyChecks s v.descriptor v.descriptor.properties (newWork v.descriptor n) p).map v.checkAt

/-- The checks before the properties of a node, if it could be made. -/
def checksAfterCreation (s : Setup) (v : Visit) (made : Stage (Option Node)) : List Check :=
  match made.halt, made.value with
  | none, some n => v.checksAfterGroup s n (groupContext s v.descriptor made.progress).2
  | _, _ => []

/-- The checks at a node. -/
def checks (s : Setup) (v : Visit) : List Check :=
  ⟨v, none, v.progress⟩ :: v.checksAfterCreation s (createNode s v.descriptor v.progress)

end Visit

/-! ## Builds that cannot be cancelled -/

/-- A part of a build that is not asked to stop, and so does not end because of that. -/
structure Unasked {α : Type} (st : Stage α) : Prop where
  cancelled : st.progress.cancelled = false
  halt : ∀ h, st.halt = some h → h.fault ≠ .cancelled

theorem Unasked.done {α : Type} {value : α} (hp : p.cancelled = false) :
    Unasked (.done value p) :=
  ⟨hp, fun h (hh : none = some h) => by cases hh⟩

theorem Unasked.halted {α : Type} {value : α} {h : Halt} (hp : p.cancelled = false)
    (hfault : h.fault ≠ .cancelled) : Unasked (.halted value p h) :=
  ⟨hp, fun _ hh => Option.some.inj hh ▸ hfault⟩

theorem ne_cancelled_of_isProblem {fault : BuildFault} (h : fault.isProblem = true) :
    fault ≠ .cancelled := by
  rintro rfl
  cases h

theorem ne_cancelled_of_isOfModule {fault : BuildFault} (h : fault.isOfModule = true) :
    fault ≠ .cancelled := by
  rintro rfl
  cases h

theorem ne_cancelled_createNode (s : Setup) (d : Descriptor) (p : Progress) {h : Halt}
    (hh : (createNode s d p).halt = some h) : h.fault ≠ .cancelled := by
  have hfail : ∀ {fault reason q}, (failNode s d fault reason q).halt = some h →
      h.fault = fault := by
    intro fault reason q hhalt
    rw [failNode] at hhalt
    split at hhalt
    · exact Option.some.inj hhalt ▸ rfl
    · cases hhalt
  have hfind := (seeks_findType s d d.typeName p).halt
  rw [createNode] at hh
  split at hh
  · next hhalt => exact ne_cancelled_of_isOfModule (hfind _ (hhalt.trans hh))
  · rw [hfail hh]
    exact BuildFault.noConfusion
  · dsimp only at hh
    split at hh
    · cases hh
    · rw [hfail hh]
      exact BuildFault.noConfusion

/-- Only a module can end a build while a node is finished. -/
theorem isOfModule_finish (s : Setup) (d : Descriptor) (f : Frame) (group : Option Value) (w : Work)
    (p : Progress) {h : Halt} (hh : (finish s d f group w p).halt = some h) :
    h.fault.isOfModule = true := by
  simp only [finish] at hh
  generalize giveContext d (w.context.or group) w.node p = given at hh
  obtain ⟨n, q⟩ := given
  have hattach := (seeks_attach s d f q).1.halt
  dsimp only at hh
  generalize attach s d f q = attached at hattach hh
  obtain ⟨⟨f', _ | place⟩, q', _ | h'⟩ := attached
  · cases hh
  · exact hattach h hh
  · dsimp only at hh
    split at hh <;> cases hh
  · exact hattach h hh

section Unasked

variable (s : Setup) (d : Descriptor)

theorem unasked_applyProperty (entry : Property) (w : Work) (hp : p.cancelled = false) :
    Unasked (applyProperty s.ignoring d entry w p) where
  cancelled := by
    rw [applyProperty_eq, if_neg (ne_true_of_eq_false hp)]
    exact (hears_afterCheck .never s d entry w p).unasked.trans hp
  halt h hh := by
    -- Whether problems end the build does not matter: a problem is not a cancellation.
    have htries := tries_applyProperty s.ignoring d entry w hp
    change (applyProperty (s.ignoring.stopping s.settings.stopOnError) d entry w p).halt =
      some h at hh
    cases htries with
    | goes notes problems eq =>
      rw [eq] at hh
      cases hh
    | @fails w' q h' notes problems problem last place eq =>
      rw [eq] at hh
      cases hstop : s.settings.stopOnError with
      | true =>
        rw [hstop] at hh
        exact Option.some.inj hh ▸ ne_cancelled_of_isProblem problem
      | false =>
        rw [hstop] at hh
        cases hh

theorem unasked_applyProperties (entries : List Property) (w : Work) (hp : p.cancelled = false) :
    Unasked (applyProperties s.ignoring d entries w p) := by
  induction entries generalizing w p with
  | nil => exact .done hp
  | cons entry rest ih =>
    have hentry := unasked_applyProperty s d entry w hp
    rw [applyProperties, Stage.andThen]
    split
    · exact hentry
    · exact ih _ hentry.cancelled

theorem unasked_afterProperties (f : Frame) (group : Option Value) {filled : Stage Work}
    (hfilled : Unasked filled) : Unasked (afterProperties s.ignoring d f group filled) where
  cancelled := (hears_afterProperties .never s d f group filled.value filled.halt
    filled.progress).unasked.trans hfilled.cancelled
  halt h hh := by
    obtain ⟨w, q, _ | h'⟩ := filled
    · refine ne_cancelled_of_isOfModule (isOfModule_finish s.ignoring d f group w q ?_)
      change (afterFinish (.waiting none) (finish s.ignoring d f group w q)).halt = some h at hh
      rw [afterFinish] at hh
      split at hh
      · next hfinish => exact hfinish.trans hh
      · cases hh
    · exact hfilled.halt h hh

theorem unasked_afterCreation (f : Frame) (n : Node) (hp : p.cancelled = false) :
    Unasked (afterCreation s.ignoring d f (.done (some n) p)) := by
  have hgroup : (groupContext s.ignoring d p).2.cancelled = false :=
    (hears_groupContext .never s d p).unasked.trans hp
  exact unasked_afterProperties s d f _
    (unasked_applyProperties s d d.properties (newWork d n) hgroup)

/-- **A build that cannot be cancelled** is not asked to stop at a node. -/
theorem unasked_start (f : Frame) (hp : p.cancelled = false) :
    Unasked (start s.ignoring d f p) := by
  have hstart : start s.ignoring d f p = afterCreation s.ignoring d f (createNode s.ignoring d p) :=
    if_neg (ne_true_of_eq_false hp)
  have hmade : (createNode s.ignoring d p).progress.cancelled = false :=
    ((calm_createNode s.ignoring d).hears .never p).unasked.trans hp
  have hfault := @ne_cancelled_createNode s.ignoring d p
  rw [hstart]
  generalize createNode s.ignoring d p = made at hmade hfault ⊢
  obtain ⟨_ | n, q, _ | h⟩ := made
  · exact .done hmade
  · exact .halted hmade (hfault rfl)
  · exact unasked_afterCreation s d f n hmade
  · exact .halted hmade (hfault rfl)

end Unasked

/-! ## Properties -/

/-- A check before a property of a node: what has been noted before is there, and what is noted
afterwards comes after it. -/
structure IsPropertyCheck (w : Work) (p : Progress) (filled : Stage Work) (x : Work × Progress) :
    Prop where
  before : Notes p x.2
  after : Notes x.2 filled.progress
  still : Still (fun _ => True) p x.2
  subject : x.1.result.subject = w.result.subject

theorem isPropertyCheck (s : Setup) (d : Descriptor) (entries : List Property) (w : Work)
    (p : Progress) : ∀ x ∈ propertyChecks s d entries w p,
      IsPropertyCheck w p (applyProperties s d entries w p) x := by
  induction entries generalizing w p with
  | nil => exact List.forall_mem_nil _
  | cons entry rest ih =>
    have hfirst : IsPropertyCheck w p (applyProperties s d (entry :: rest) w p) (w, p) :=
      ⟨.refl p, (notes_applyProperties s d (entry :: rest) w p).1, .refl p, rfl⟩
    have hentry := (notes_applyProperty s d entry w p).1
    have hassigns := @assigns_applyProperty (fun _ => True) s d entry w p
    rw [propertyChecks]
    rw [applyProperties] at hfirst ⊢
    generalize applyProperty s d entry w p = entered at hfirst hentry hassigns ⊢
    obtain ⟨w', q, _ | h⟩ := entered
    · refine List.forall_mem_cons.2 ⟨hfirst, fun x hx => ?_⟩
      obtain ⟨hbefore, hafter, hstill, hsubject⟩ := ih w' q x hx
      exact ⟨hentry.trans hbefore, hafter, hassigns.still.trans hstill,
        hsubject.trans (Prod.ext hassigns.typeName hassigns.source)⟩
    · exact List.forall_mem_singleton.2 hfirst

section Heeds

variable (c : Cancellation) (s : Setup) (d : Descriptor)

theorem hears_applyProperty (entry : Property) (w : Work) (hp : p.cancelled = false)
    (hasked : c.hasAsked p = false) : Hears c p (applyProperty s.ignoring d entry w p)
      (applyProperty (s.hearing c) d entry w (p.hearing c)) := by
  have hhearing : (p.hearing c).cancelled = false := hasked
  rw [applyProperty_eq, applyProperty_eq, hp, hhearing]
  exact hears_afterCheck c s d entry w p

/-- How the properties of a node come out in a build that can be cancelled: as in one that cannot
if the build has not been asked to stop at any check, and otherwise it ends at the first at which it
has. -/
inductive Heeds (checks : List (Work × Progress)) (ignoring hearing : Stage Work) : Prop
  | never (unasked : ∀ x ∈ checks, c.hasAsked x.2 = false)
      (eq : hearing = ignoring.on (.hearing c))
  | ends {x : Work × Progress} (first : checks.find? (fun x => c.hasAsked x.2) = some x)
      (eq : hearing = .halted x.1 (x.2.hearing c) (.bare .cancelled))

/-- **The properties of a node** come out alike up to the first check at which the build has been
asked to stop. -/
theorem heeds_applyProperties (entries : List Property) (w : Work) (hp : p.cancelled = false) :
    Heeds c (propertyChecks s.ignoring d entries w p) (applyProperties s.ignoring d entries w p)
      (applyProperties (s.hearing c) d entries w (p.hearing c)) := by
  induction entries generalizing w p with
  | nil => exact .never (List.forall_mem_nil _) rfl
  | cons entry rest ih =>
    rw [propertyChecks, applyProperties, applyProperties]
    cases hasked : c.hasAsked p with
    | true =>
      -- The build ends before this property, whatever the other one does with it.
      have hends : applyProperty (s.hearing c) d entry w (p.hearing c) =
          .halted w (p.hearing c) (.bare .cancelled) := if_pos hasked
      rw [hends]
      exact .ends (List.find?_cons_of_pos hasked) rfl
    | false =>
      obtain ⟨heq, hunasked⟩ := hears_applyProperty c s d entry w hp hasked
      rw [heq]
      generalize applyProperty s.ignoring d entry w p = entered at hunasked ⊢
      obtain ⟨w', q, _ | h⟩ := entered
      · cases ih w' (hunasked.trans hp) with
        | never unasked eq => exact .never (List.forall_mem_cons.2 ⟨hasked, unasked⟩) eq
        | ends first eq =>
          refine .ends ?_ eq
          simp only [List.find?_cons, hasked]
          exact first
      · exact .never (List.forall_mem_singleton.2 hasked) rfl

/-! ## Nodes -/

/-- How a node comes out in a build that can be cancelled: as in one that cannot if the build has
not been asked to stop at any check of the node, and otherwise it ends at the first at which it has.
-/
inductive HeedsAt (checks : List Check) (ignoring hearing : Stage (Option Finished)) : Prop
  | never (unasked : ∀ ch ∈ checks, c.hasAsked ch.progress = false)
      (eq : hearing = ignoring.on (.hearing c))
  | ends {ch : Check} (first : checks.find? (fun ch => c.hasAsked ch.progress) = some ch)
      (eq : hearing = .halted none (ch.closing.hearing c) (.bare .cancelled))

/-- What follows the group of a node that is made. -/
def Visit.afterGroup (s : Setup) (v : Visit) (n : Node) (group : Stage (Option Value)) :
    Stage (Option Finished) :=
  afterProperties s v.descriptor v.parent group.value
    (applyProperties s v.descriptor v.descriptor.properties (newWork v.descriptor n) group.progress)

theorem heedsAt_afterGroup (v : Visit) (n : Node) (group : Option Value)
    (hp : p.cancelled = false) :
    HeedsAt c (v.checksAfterGroup s.ignoring n p) (v.afterGroup s.ignoring n (.done group p))
      (v.afterGroup (s.hearing c) n (.done group (p.hearing c))) := by
  have hfilled := heeds_applyProperties c s v.descriptor v.descriptor.properties
    (newWork v.descriptor n) hp
  have hsettled := hears_afterProperties c s v.descriptor v.parent group
  simp only [Visit.afterGroup, Visit.checksAfterGroup, Stage.done]
  generalize applyProperties s.ignoring v.descriptor v.descriptor.properties
    (newWork v.descriptor n) p = filled at hfilled ⊢
  generalize propertyChecks s.ignoring v.descriptor v.descriptor.properties
    (newWork v.descriptor n) p = checks at hfilled ⊢
  cases hfilled with
  | never unasked eq =>
    refine .never (List.forall_mem_map.2 unasked) ?_
    rw [eq]
    exact (hsettled filled.value filled.halt filled.progress).eq
  | @ends x first eq =>
    refine @HeedsAt.ends c _ _ _ (v.checkAt x) ?_ (by rw [eq]; rfl)
    rw [List.find?_map]
    exact congrArg (Option.map v.checkAt) first

theorem heedsAt_afterCreation (v : Visit) {made : Stage (Option Node)}
    (hmade : made.progress.cancelled = false) : HeedsAt c (v.checksAfterCreation s.ignoring made)
      (afterCreation s.ignoring v.descriptor v.parent made)
      (afterCreation (s.hearing c) v.descriptor v.parent (made.on (.hearing c))) := by
  obtain ⟨_ | n, q, _ | h⟩ := made
  · exact .never (List.forall_mem_nil _) rfl
  · exact .never (List.forall_mem_nil _) rfl
  · obtain ⟨hgroup, hunasked⟩ := hears_groupContext c s v.descriptor q
    have hother : afterCreation (s.hearing c) v.descriptor v.parent
        (.done (some n) (q.hearing c)) = v.afterGroup (s.hearing c) n
          (goesOnWith (groupContext (s.hearing c) v.descriptor (q.hearing c))) := rfl
    have hafter := heedsAt_afterGroup c s v n (groupContext s.ignoring v.descriptor q).1
      (hunasked.trans hmade)
    rw [hgroup] at hother
    exact hother ▸ hafter
  · exact .never (List.forall_mem_nil _) rfl

/-- **A node** comes out alike up to the first check at which the build has been asked to stop. -/
theorem heedsAt_start (v : Visit) (hv : v.progress.cancelled = false) :
    HeedsAt c (v.checks s.ignoring) (v.start s.ignoring)
      ((v.on (.hearing c)).start (s.hearing c)) := by
  cases hasked : c.hasAsked v.progress with
  | true =>
    have hends : (v.on (.hearing c)).start (s.hearing c) =
        .halted none (v.progress.hearing c) (.bare .cancelled) := if_pos hasked
    exact @HeedsAt.ends c _ _ _ ⟨v, none, v.progress⟩ (List.find?_cons_of_pos hasked) hends
  | false =>
    obtain ⟨hmade, hunasked⟩ := (calm_createNode s.ignoring v.descriptor).hears c v.progress
    have hours : v.start s.ignoring = afterCreation s.ignoring v.descriptor v.parent
        (createNode s.ignoring v.descriptor v.progress) := if_neg (ne_true_of_eq_false hv)
    have hother : (v.on (.hearing c)).start (s.hearing c) =
        afterCreation (s.hearing c) v.descriptor v.parent
          (createNode s.ignoring v.descriptor (v.progress.hearing c)) :=
      if_neg (ne_true_of_eq_false hasked)
    rw [hours, hother, hmade]
    have hcreated := heedsAt_afterCreation c s v (hunasked.trans hv)
    have hchecks : v.checks s.ignoring = ⟨v, none, v.progress⟩ ::
        v.checksAfterCreation s.ignoring (createNode s.ignoring v.descriptor v.progress) := rfl
    rw [hchecks]
    cases hcreated with
    | never unasked eq => exact .never (List.forall_mem_cons.2 ⟨hasked, unasked⟩) eq
    | ends first eq =>
      refine .ends ?_ eq
      simp only [List.find?_cons, hasked]
      exact first

end Heeds

/-! ## What there is at a check -/

/-- A node that is made is the last step. -/
theorem steps_createNode (s : Setup) (d : Descriptor) (p : Progress) {n : Node}
    (hn : (createNode s d p).value = some n) :
    (createNode s d p).progress.steps = p.steps ++ [.create n.id] := by
  have hfail : ∀ fault reason q, (failNode s d fault reason q).value = none := by
    intro fault reason q
    rw [failNode]
    split <;> rfl
  have hfind := steps_findType s d d.typeName p
  rw [createNode] at hn ⊢
  split at hn
  · cases hn
  · rw [hfail] at hn
    cases hn
  · dsimp only at hn ⊢
    split at hn
    · cases hn
      exact congrArg (· ++ [_]) hfind
    · rw [hfail] at hn
      cases hn

/-- What a build has done at a check, and what it does from there on to the end of the node. -/
structure Check.IsAt (s : Setup) (v : Visit) (ch : Check) : Prop where
  visit : ch.visit = v
  grows : ∃ results attached, Grows ch.progress (v.start s).progress results attached
  subjects : ¬ EndsAtModule (v.start s).halt →
    ch.closing.subjects <+: (v.start s).progress.subjects
  unattached : ch.Unattached

/-- Steps after which the tree is what it was. -/
theorem exists_later {known : NodeType → Prop} (hstill : Still known p q)
    (hsteps : p.steps <+: q.steps) :
    ∃ later, q.steps = p.steps ++ later ∧ ∀ step ∈ later, step.isStructural = false := by
  obtain ⟨later, hlater⟩ := hsteps
  refine ⟨later, hlater.symm, fun step hstep => ?_⟩
  have hnone : later.filter BuildStep.isStructural = [] := by
    have hfilter := hstill.steps
    rwa [← hlater, List.filter_append, List.append_right_inj] at hfilter
  exact Bool.eq_false_iff.2 (List.filter_eq_nil_iff.1 hnone step hstep)

theorem isAt_afterGroup (s : Setup) (v : Visit) (n : Node) (group : Option Value)
    (hstart : v.start s = v.afterGroup s n (.done group q))
    (hmade : p.steps = v.progress.steps ++ [.create n.id]) (hnotes : Notes p q)
    (hstill : Still (fun _ => True) p q) : ∀ ch ∈ v.checksAfterGroup s n q, ch.IsAt s v := by
  refine List.forall_mem_map.2 fun x hx => ?_
  have hcheck := isPropertyCheck s v.descriptor v.descriptor.properties
    (newWork v.descriptor n) q x hx
  have hassigns := @assigns_applyProperties (fun _ => True) s v.descriptor
    v.descriptor.properties (newWork v.descriptor n) q
  obtain ⟨results, hsettles⟩ := settles_afterProperties s v.descriptor v.parent group hassigns.state
  change Settles _ _ _ (v.afterGroup s n (.done group q)) results at hsettles
  rw [← hstart] at hsettles
  have hgrows := hcheck.after.after hsettles.adds
  refine ⟨rfl, ⟨results, _, hgrows⟩, fun hmodule => ?_, ?_⟩
  · obtain ⟨r, rest, rfl, hsubject, -⟩ := hsettles.own hmodule
    have hown : r.subject = (newWork v.descriptor n).result.subject :=
      hsubject.trans (Prod.ext hassigns.typeName hassigns.source)
    have hsame : x.1.result.subject = r.subject := hcheck.subject.trans hown.symm
    have hclosing : (v.checkAt x).closing.subjects = x.2.subjects ++ [r.subject] := by
      rw [← hsame]
      exact subjects_addNode x.2 x.1.result
    refine ⟨rest.map NodeResult.subject, ?_⟩
    rw [hclosing, List.append_assoc]
    exact (hgrows.subjects).symm
  · rintro w -
    obtain ⟨later, hlater, hquiet⟩ := exists_later (hstill.trans hcheck.still)
      (hnotes.trans hcheck.before).steps
    refine ⟨n.id, later, ?_, hquiet⟩
    rw [hmade, List.append_assoc] at hlater
    exact hlater

/-- **The checks at a node** are times between the visit of the node and its end. -/
theorem isAt_checks (s : Setup) (v : Visit) (hv : v.progress.cancelled = false) :
    ∀ ch ∈ v.checks s, ch.IsAt s v := by
  have hstart : v.start s = afterCreation s v.descriptor v.parent
      (createNode s v.descriptor v.progress) := if_neg (ne_true_of_eq_false hv)
  have hsteps := @steps_createNode s v.descriptor v.progress
  obtain ⟨⟨results, hgrows⟩, -⟩ := grows_start s v.descriptor v.parent v.progress
  have hnode : Check.IsAt s v ⟨v, none, v.progress⟩ :=
    ⟨rfl, ⟨results, _, hgrows⟩, fun _ => ⟨_, hgrows.subjects.symm⟩, fun _ hw => by cases hw⟩
  refine List.forall_mem_cons.2 ⟨hnode, ?_⟩
  generalize createNode s v.descriptor v.progress = made at hstart hsteps ⊢
  obtain ⟨_ | n, p, _ | h⟩ := made
  · exact List.forall_mem_nil _
  · exact List.forall_mem_nil _
  · exact isAt_afterGroup s v n (groupContext s v.descriptor p).1 hstart (hsteps rfl)
      (rel_groupContext Notes.allowsLookup s v.descriptor p)
      (rel_groupContext Still.allowsLookup s v.descriptor p)
  · exact List.forall_mem_nil _

/-! ## Forests -/

section Forests

variable (c : Cancellation) (s : Setup)

/-- A node that comes out as in a build that cannot be cancelled: the build has not been asked to
stop at any check of it. -/
theorem unasked_of_agrees {v : Visit} (hv : v.progress.cancelled = false)
    (h : v.Agrees s.ignoring (s.hearing c) (.hearing c)) :
    ∀ ch ∈ v.checks s.ignoring, c.hasAsked ch.progress = false := by
  cases heedsAt_start c s v hv with
  | never unasked _ => exact unasked
  | ends _ eq =>
    have hhalt : (v.start s.ignoring).halt = some (.bare .cancelled) :=
      congrArg Stage.halt (h.symm.trans eq)
    exact absurd rfl ((unasked_start s v.descriptor v.parent hv).halt _ hhalt)

theorem endsWhereDiffers_hearing {vs : List Visit}
    (hvs : ∀ v ∈ vs, v.progress.cancelled = false) :
    EndsWhereDiffers s.ignoring (s.hearing c) (.hearing c) vs := by
  intro v hv
  cases heedsAt_start c s v (hvs v hv) with
  | never _ eq => exact .inl eq
  | ends _ eq => exact .inr ⟨_, congrArg Stage.halt eq⟩

/-- A build that cannot be cancelled is asked to stop at none of the nodes that it comes to. -/
theorem unasked_visitsAll (under : Option Descriptor) (ds : List Descriptor) (f : Frame)
    (hp : p.cancelled = false) :
    ∀ v ∈ visitsAll s.ignoring under ds f p, v.progress.cancelled = false :=
  ((course_buildAll s.ignoring under ds f p).forall_progress (P := fun p => p.cancelled = false) hp
    fun v hv => (unasked_start s v.descriptor v.parent hv).cancelled).1

/-- **A forest** comes out alike up to the node at which the build is cancelled. -/
theorem parts_hearing (under : Option Descriptor) (ds : List Descriptor) (f : Frame)
    (hp : p.cancelled = false) : Parts s.ignoring (s.hearing c) (.hearing c)
      (visitsAll s.ignoring under ds f p) (buildAll s.ignoring ds f p)
      (visitsAll (s.hearing c) under ds f (p.hearing c))
      (buildAll (s.hearing c) ds f (p.hearing c)) :=
  parts_buildAll under ds f p
    (endsWhereDiffers_hearing c s (unasked_visitsAll s under ds f hp))

/-- How a forest comes out in a build that can be cancelled: as in one that cannot if the build has
not been asked to stop at any check, and otherwise it ends at the first at which it has, with the
tree as it then stands. What there is to report by then the other build reports as well. -/
inductive HeedsAll (checks : List Check) (ignoring hearing : Stage Frame) : Prop
  | never (unasked : ∀ ch ∈ checks, c.hasAsked ch.progress = false)
      (halt : ∀ h, ignoring.halt = some h → h.fault ≠ .cancelled)
      (eq : hearing = ignoring.on (.hearing c))
  | ends {ch : Check} (first : checks.find? (fun ch => c.hasAsked ch.progress) = some ch)
      (unattached : ch.Unattached)
      (eq : hearing = .halted ch.visit.top (ch.closing.hearing c) (.bare .cancelled))
      (grows : ∃ results attached, Grows ch.progress ignoring.progress results attached)
      (subjects : ¬ EndsAtModule ignoring.halt →
        ch.closing.subjects <+: ignoring.progress.subjects)

/-- **A forest** comes out alike up to the first check at which the build has been asked to stop. -/
theorem heedsAll_buildAll (under : Option Descriptor) (ds : List Descriptor) (f : Frame)
    (hp : p.cancelled = false) :
    HeedsAll c ((visitsAll s.ignoring under ds f p).flatMap fun v => v.checks s.ignoring)
      (buildAll s.ignoring ds f p) (buildAll (s.hearing c) ds f (p.hearing c)) := by
  have hvisits := unasked_visitsAll s under ds f hp
  have hparts := parts_hearing c s under ds f hp
  have hcourse := course_buildAll s.ignoring under ds f p
  generalize visitsAll s.ignoring under ds f p = visits at hvisits hparts hcourse ⊢
  cases hparts with
  | never agree _ eq =>
    refine .never (fun ch hch => ?_) (fun h hhalt => ?_) eq
    · obtain ⟨v, hv, hch⟩ := List.mem_flatMap.1 hch
      exact unasked_of_agrees c s (hvisits v hv) (agree v hv) ch hch
    · obtain ⟨v, hv, hend⟩ := hcourse.exists_halt hhalt
      exact (unasked_start s v.descriptor v.parent (hvisits v hv)).halt h hend
  | @cut before after v h hours agree differs halt _ eq =>
    have hv : v ∈ visits := hours ▸ List.mem_append_right _ List.mem_cons_self
    cases heedsAt_start c s v (hvisits v hv) with
    | never _ eq => exact absurd eq differs
    | @ends ch first hends =>
      obtain ⟨rfl, ⟨results, attached, hgrows⟩, hsubjects, hunattached⟩ :=
        isAt_checks s.ignoring v (hvisits v hv) ch (List.mem_of_find?_eq_some first)
      obtain rfl : h = .bare .cancelled :=
        Option.some.inj (halt.symm.trans (congrArg Stage.halt hends))
      rw [hends] at eq
      obtain ⟨-, hafter⟩ := (hours ▸ hcourse).split
      obtain ⟨⟨rest, attached', hrest⟩, -⟩ := hafter.first
      -- At the nodes before, the two do the same, so the first check is one of this node.
      have hbefore : (before.flatMap fun v => v.checks s.ignoring).find?
          (fun ch => c.hasAsked ch.progress) = none := by
        refine List.find?_eq_none.2 fun ch' hch' => ?_
        obtain ⟨u, hu, hch'⟩ := List.mem_flatMap.1 hch'
        have hu' : u ∈ visits := hours ▸ List.mem_append_left _ hu
        exact ne_true_of_eq_false (unasked_of_agrees c s (hvisits u hu') (agree u hu) ch' hch')
      refine .ends ?_ hunattached eq ⟨_, _, hgrows.trans hrest⟩ fun hmodule => ?_
      · rw [hours, List.flatMap_append, List.flatMap_cons, List.find?_append, List.find?_append,
          hbefore, first]
        rfl
      · have hnode := hsubjects fun h => hmodule (hafter.endsAtModule_of_first h)
        exact hnode.trans ⟨_, hrest.subjects.symm⟩

end Forests

end Build

/-! ## Whole builds -/

/-- The checks of a build that waits and cannot be cancelled, in order. -/
def Builder.checks (b : Builder) (r : Registry) (container : Node) (ds : List Descriptor)
    (source : Option String) : List Build.Check :=
  let s := b.setup r (.waiting none)
  let visits := Build.visitsAll s none ds ⟨container, false⟩
    (initial r container source (.waiting none))
  visits.flatMap fun v => v.checks s

/-- A build is cancelled at a check: its tree is the one of that time, and no step is taken after
it. A node whose properties are gone through at that time is reported as far as this has come, and
it is not attached. -/
structure BuildOutcome.IsCancelledAt (o : BuildOutcome) (ch : Build.Check) : Prop where
  halt : o.halt = some (.bare .cancelled)
  container : o.container = ch.visit.top.node
  steps : o.steps = ch.progress.steps
  messages : o.report.messages = ch.progress.report.messages
  nodes : o.report.nodes = ch.progress.report.nodes ++ (ch.work.map Build.Work.result).toList
  unattached : ch.Unattached

theorem Builder.initial_hearing (r : Registry) (container : Node) (source : Option String)
    (c : Cancellation) : initial r container source (.waiting (some c)) =
      (initial r container source (.waiting none)).hearing c := by
  have hasked : c.hasAsked (initial r container source (.waiting none)) = c.atStart := by
    simp [Cancellation.hasAsked, Progress.isAskedBySetter, initial]
  rw [Progress.hearing_eq c _ hasked]
  rfl

/-- What a build leads to whose forest comes out in some way. -/
def BuildOutcome.ofForest (r : Registry) (plugins : PluginManager) (built : Stage Build.Frame) :
    BuildOutcome :=
  let p := built.progress
  let r := r.withTypes p.types
  ⟨built.value.node, r, p.report.close r plugins, built.halt, p.log, p.steps⟩

/-- A forest whose building is cancelled at a check. -/
theorem isCancelledAt_ofForest (r : Registry) (plugins : PluginManager) (c : Cancellation)
    {ch : Build.Check} (h : ch.Unattached) : (BuildOutcome.ofForest r plugins
      (.halted ch.visit.top (ch.closing.hearing c) (.bare .cancelled))).IsCancelledAt ch := by
  obtain ⟨v, work, p⟩ := ch
  cases work with
  | none => exact ⟨rfl, rfl, rfl, rfl, (List.append_nil _).symm, h⟩
  | some w => exact ⟨rfl, rfl, rfl, rfl, rfl, h⟩

theorem attached_hearing (b : Builder) (r : Registry) (container : Node) (ds : List Descriptor)
    (source : Option String) (c : Cancellation) :
    b.attachments r container ds source (.waiting (some c)) <+:
      b.attachments r container ds source (.waiting none) := by
  rw [Builder.attachments, Builder.initial_hearing]
  exact (Build.parts_hearing c (b.setup r .direct) none ds ⟨container, false⟩ rfl).attachments_first

/-- **A build that can be cancelled is the first part of the one that cannot**, whatever the layout,
the container, the registry and the settings, and whenever it is asked to stop: before it starts, at
any moment at which it waits, or by any setter. It is cancelled exactly if there is a check when it
has been asked, and then at the first such check; otherwise the two come to the same. Its messages,
its steps and its attachments are the first of those of the build that cannot be cancelled, and so
are its results by type and file, unless the latter ends at a module, and so without a report. -/
theorem build_cancelled (b : Builder) (r : Registry) (plugins : PluginManager) (container : Node)
    (ds : List Descriptor) (source : Option String) (c : Cancellation) :
    let cancelled := b.build r plugins container ds source (.waiting (some c))
    let ignoring := b.build r plugins container ds source (.waiting none)
    let checks := b.checks r container ds source
    let attached := fun mode => b.attachments r container ds source mode
    (cancelled.halt = some (.bare .cancelled) ↔ ∃ ch ∈ checks, c.hasAsked ch.progress = true) ∧
      (∀ ch, checks.find? (fun ch => c.hasAsked ch.progress) = some ch →
        cancelled.IsCancelledAt ch) ∧
      ((∀ ch ∈ checks, c.hasAsked ch.progress = false) → cancelled = ignoring) ∧
      cancelled.report.messages <+: ignoring.report.messages ∧
      (¬ Build.EndsAtModule ignoring.halt → cancelled.report.nodes.map NodeResult.subject <+:
        ignoring.report.nodes.map NodeResult.subject) ∧
      cancelled.steps <+: ignoring.steps ∧
      attached (.waiting (some c)) <+: attached (.waiting none) ∧
      ∀ mode, (b.build r plugins container ds source mode).Attaches container (attached mode) := by
  intro cancelled ignoring checks attached
  let s := b.setup r .direct
  let p := Builder.initial r container source (.waiting none)
  let forest := Build.buildAll s.ignoring ds ⟨container, false⟩ p
  let forest' := Build.buildAll (s.hearing c) ds ⟨container, false⟩ (p.hearing c)
  have hattached := attached_hearing b r container ds source c
  have hattaches := attaches_build b r plugins container ds source
  have hignoring : ignoring = .ofForest r plugins forest := rfl
  have hcancelled : cancelled = .ofForest r plugins forest' := by
    simp only [cancelled, Builder.build, Builder.initial_hearing]
    rfl
  have hheeds : Build.HeedsAll c checks forest forest' :=
    Build.heedsAll_buildAll c s none ds ⟨container, false⟩ rfl
  cases hheeds with
  | never unasked halt eq =>
    have hsame : cancelled = ignoring := by
      rw [hcancelled, eq, hignoring]
      rfl
    have hnone : ¬ ∃ ch ∈ checks, c.hasAsked ch.progress = true := by
      rintro ⟨ch, hch, hasked⟩
      exact absurd hasked (ne_true_of_eq_false (unasked ch hch))
    refine ⟨iff_of_false (fun h => halt _ (hsame ▸ h) rfl) hnone, fun ch hfind => ?_,
      fun _ => hsame, ?_, fun _ => ?_, ?_, hattached, hattaches⟩
    · have hasked := List.find?_some (p := fun ch : Build.Check => c.hasAsked ch.progress) hfind
      exact absurd ⟨ch, List.mem_of_find?_eq_some hfind, hasked⟩ hnone
    · exact hsame ▸ List.prefix_rfl
    · exact hsame ▸ List.prefix_rfl
    · exact hsame ▸ List.prefix_rfl
  | @ends ch first unattached eq grows subjects =>
    obtain ⟨results, _, hgrows⟩ := grows
    have hends : cancelled.IsCancelledAt ch := by
      rw [hcancelled, eq]
      exact isCancelledAt_ofForest r plugins c unattached
    have hasked := List.find?_some (p := fun ch : Build.Check => c.hasAsked ch.progress) first
    have hch : ch ∈ checks := List.mem_of_find?_eq_some first
    refine ⟨iff_of_true hends.halt ⟨ch, hch, hasked⟩, fun ch' hfind => ?_, fun hall => ?_,
      hends.messages ▸ hgrows.messages, fun hmodule => ?_, hends.steps ▸ hgrows.steps,
      hattached, hattaches⟩
    · exact Option.some.inj (first.symm.trans hfind) ▸ hends
    · exact absurd hasked (ne_true_of_eq_false (hall ch hch))
    · have hnodes : cancelled.report.nodes.map NodeResult.subject = ch.closing.subjects := by
        rw [hcancelled, eq]
        rfl
      exact hnodes ▸ subjects hmodule

/-- A panel with a button that has two properties, and another button. -/
def interruptedLayout : List Descriptor := [
  ⟨"StackPanel", [], none, [
    ⟨"Button", [⟨"Content", some "A"⟩, ⟨"Width", some "10"⟩], none, [], none⟩,
    ⟨"Button", [], none, [], none⟩], none⟩]

/-- The layout built in a window, by a build that can be cancelled or not. -/
def interruptedBuild (c : Option Cancellation) : BuildOutcome :=
  (Builder.standard .standard ⟨[], []⟩ .standard).build .standard (.empty false)
    (.ofClass 0 (.contentControl "Window" [])) interruptedLayout none (.waiting c)

/-- The build is asked to stop when the first property of the button is assigned: after the panel,
this is the second moment. The button is left without its second property. -/
theorem build_cancelled_interruptedLayout :
    let c : Cancellation := ⟨false, fun n => n == 1⟩
    ¬ Build.EndsAtModule (interruptedBuild none).halt ∧
      (interruptedBuild (some c)).report.nodes.map NodeResult.subject <+:
        (interruptedBuild none).report.nodes.map NodeResult.subject ∧
      (∃ ch w, ch.work = some w ∧ (interruptedBuild (some c)).IsCancelledAt ch) ∧
      (interruptedBuild (some c)).steps =
        [.create 1, .attach 0 1, .create 2, .assign 2 "Content"] := by
  intro c
  have hend : ¬ Build.EndsAtModule (interruptedBuild none).halt := by
    unfold Build.EndsAtModule
    decide +kernel
  obtain ⟨-, hfirst, -, -, hresults, -⟩ := build_cancelled
    (Builder.standard .standard ⟨[], []⟩ .standard) .standard (.empty false)
    (.ofClass 0 (.contentControl "Window" [])) interruptedLayout none c
  have hwork : ((((Builder.standard .standard ⟨[], []⟩ .standard).checks .standard
      (.ofClass 0 (.contentControl "Window" [])) interruptedLayout none).find?
        fun ch => c.hasAsked ch.progress).bind Build.Check.work).isSome = true := by
    decide +kernel
  obtain ⟨w, hw⟩ := Option.isSome_iff_exists.1 hwork
  obtain ⟨ch, hch, hw⟩ := Option.bind_eq_some_iff.1 hw
  exact ⟨hend, hresults hend, ⟨ch, w, hw, hfirst ch hch⟩, by decide +kernel⟩

end LayoutTree
