import LayoutTree.Proofs.Build.Visits

/-!
# Builds that can be cancelled and builds that cannot

A build that can be cancelled is compared with one of the same descriptors that waits as well but
cannot be cancelled. Whether the former has been asked to stop can be told by how far the latter has
come (`Cancellation.hasAsked`): by the moments that have gone by, and by the setters that have
asked. As long as no check ends the former, the two come equally far, but that the former hears when
it is asked (`Progress.hearing`). This is so for each part of a build (`Hears`), and for parts in a
row (`Hears.seq`).

Most parts neither wait nor give a value to a setter, so that they take no notice (`Calm`).
-/

namespace LayoutTree

variable {α β : Type}

/-- A build is not asked to stop but by its setters. -/
def Cancellation.never : Cancellation := ⟨false, fun _ => false⟩

/-- Whether a setter has asked for the build to stop. -/
def Progress.isAskedBySetter (p : Progress) : Bool := p.steps.contains .ask

/-- Whether a build has been asked to stop when it has come so far: before it starts, at a moment
that has gone by, or by a setter. -/
def Cancellation.hasAsked (c : Cancellation) (p : Progress) : Bool :=
  c.atStart || (List.range p.waits).any c.atWait || p.isAskedBySetter

/-- The progress of a build that hears when it is asked to stop. -/
def Progress.hearing (c : Cancellation) (p : Progress) : Progress :=
  { p with cancelled := c.hasAsked p }

/-- The same set-up for a build that waits and cannot be cancelled. -/
def Setup.ignoring (s : Setup) : Setup := s.inMode (.waiting none)

/-- The same set-up for a build that waits and can be cancelled. -/
def Setup.hearing (s : Setup) (c : Cancellation) : Setup := s.inMode (.waiting (some c))

theorem Cancellation.hasAsked_congr (c : Cancellation) {p q : Progress} (hwaits : q.waits = p.waits)
    (hasked : q.isAskedBySetter = p.isAskedBySetter) : c.hasAsked q = c.hasAsked p := by
  rw [hasAsked, hasAsked, hwaits, hasked]

/-! ## Moments -/

namespace Progress

variable (c : Cancellation) (p : Progress)

theorem hearing_eq {asked : Bool} (h : c.hasAsked p = asked) :
    p.hearing c = p.withWaiting asked p.waits := h ▸ rfl

theorem isAskedBySetter_congr {p q : Progress} (h : q.steps = p.steps) :
    q.isAskedBySetter = p.isAskedBySetter := congrArg (·.contains .ask) h

theorem isAskedBySetter_take {step : BuildStep} (h : step ≠ .ask) :
    (p.take step).isAskedBySetter = p.isAskedBySetter := by
  simp [isAskedBySetter, take, h.symm]

/-- A moment goes by: the build is asked to stop if it was before, or if it is at this moment. -/
theorem wait_hearing :
    (p.hearing c).wait (.waiting (some c)) = (p.wait (.waiting none)).hearing c := by
  have hasked : c.hasAsked (p.wait (.waiting none)) = (c.hasAsked p || c.atWait p.waits) := by
    change (c.atStart || (List.range (p.waits + 1)).any c.atWait || p.isAskedBySetter) = _
    rw [List.range_succ, List.any_append, List.any_cons, List.any_nil, Bool.or_false,
      Cancellation.hasAsked]
    ac_rfl
  rw [hearing_eq c (p.wait (.waiting none)) hasked]
  rfl

/-- A setter is heard: the build is asked to stop if it was before, or if the setter asks. -/
theorem hear_hearing (asks : Bool) :
    (p.hearing c).hear (.waiting (some c)) asks = (p.hear (.waiting none) asks).hearing c := by
  cases asks with
  | false => rfl
  | true =>
    have hasked : c.hasAsked (p.hear (.waiting none) true) = true := by
      have hsetter : (p.hear (.waiting none) true).isAskedBySetter = true := by
        simp [isAskedBySetter, hear, take, cancelIf]
      rw [Cancellation.hasAsked, hsetter, Bool.or_true]
    rw [hearing_eq c (p.hear (.waiting none) true) hasked]
    exact congrArg (fun asked => (p.take .ask).withWaiting asked p.waits)
      (Bool.or_true (c.hasAsked p))

theorem cancelled_wait : (p.wait (.waiting none)).cancelled = p.cancelled := Bool.or_false _

theorem cancelled_hear (asks : Bool) : (p.hear (.waiting none) asks).cancelled = p.cancelled := by
  cases asks with
  | false => rfl
  | true => exact Bool.or_false _

end Progress

namespace Build

/-! ## Comparing parts -/

/-- The same part of two builds, of which one can be cancelled. They come equally far, and the other
is asked to stop no more than it was. -/
structure Hears (c : Cancellation) (p : Progress) (ignoring hearing : Stage α) : Prop where
  eq : hearing = ignoring.on (.hearing c)
  unasked : ignoring.progress.cancelled = p.cancelled

/-- A part in which the build is not asked to stop: it does not wait, and no setter is at work. -/
structure Calm (part : Progress → Stage α) : Prop where
  blind : Blind part
  asked : ∀ p, (part p).progress.isAskedBySetter = p.isAskedBySetter

theorem Calm.hears {part : Progress → Stage α} (h : Calm part) (c : Cancellation) (p : Progress) :
    Hears c p (part p) (part (p.hearing c)) := by
  have hsame : part p = (part p).withWaiting p.cancelled p.waits := h.blind p p.cancelled p.waits
  have hwaits : (part p).progress.waits = p.waits := congrArg (·.progress.waits) hsame
  refine ⟨?_, congrArg (·.progress.cancelled) hsame⟩
  have hhears : part (p.hearing c) = (part p).withWaiting (c.hasAsked p) p.waits :=
    h.blind p (c.hasAsked p) p.waits
  rw [hhears, Stage.on, Progress.hearing, c.hasAsked_congr hwaits (h.asked p), ← hwaits]
  rfl

namespace Hears

variable {c : Cancellation} {p : Progress}

theorem on {value : α} {q : Progress} {halt : Option Halt} (h : q.cancelled = p.cancelled) :
    Hears c p ⟨value, q, halt⟩ ⟨value, q.hearing c, halt⟩ := ⟨rfl, h⟩

/-- What comes after a part is compared however the part ends. -/
theorem seq {K L : Stage α → Stage β} {ignoring hearing : Stage α} (h : Hears c p ignoring hearing)
    (hK : ∀ value q halt, Hears c q (K ⟨value, q, halt⟩) (L ⟨value, q.hearing c, halt⟩)) :
    Hears c p (K ignoring) (L hearing) := by
  obtain ⟨value, q, halt⟩ := ignoring
  obtain ⟨rfl, hunasked⟩ := h
  exact ⟨(hK value q halt).eq, (hK value q halt).unasked.trans hunasked⟩

theorem wait (value : α) : Hears c p (.done value (p.wait (.waiting none)))
    (.done value ((p.hearing c).wait (.waiting (some c)))) :=
  ⟨congrArg (Stage.done value) (p.wait_hearing c), p.cancelled_wait⟩

theorem hear (asks : Bool) (value : α) : Hears c p (.done value (p.hear (.waiting none) asks))
    (.done value ((p.hearing c).hear (.waiting (some c)) asks)) :=
  ⟨congrArg (Stage.done value) (p.hear_hearing c asks), p.cancelled_hear asks⟩

end Hears

/-! ## Parts in which no setter asks -/

section Calm

variable (s : Setup) (d : Descriptor)

theorem calm_take {step : BuildStep} (h : step ≠ .ask) (value : α) :
    Calm fun p => .done value (p.take step) :=
  ⟨fun _ _ _ => rfl, fun p => p.isAskedBySetter_take h⟩

theorem steps_emitAll (p : Progress) (property : Option String) (severity : Severity)
    (texts : List String) : (p.emitAll d property severity texts).steps = p.steps :=
  Progress.rel_emitAll (R := fun p q => q.steps = p.steps) (fun _ => rfl) (fun h h' => h'.trans h)
    (fun _ _ => rfl) p texts

theorem calm_emitAll (property : Option String) (severity : Severity) (texts : List String)
    (value : α) : Calm fun p => .done value (p.emitAll d property severity texts) where
  blind p c n := congrArg (Stage.done value) (emitAll_withWaiting d property severity texts p c n)
  asked p := Progress.isAskedBySetter_congr (steps_emitAll d p property severity texts)

theorem steps_skipBelow (reason : String) (p : Progress) :
    (skipBelow d reason p).steps = p.steps :=
  rel_skipBelow (R := fun p q _ => q.steps = p.steps) (fun _ => rfl) (fun h => h) (fun _ _ h => h)
    d reason p

theorem steps_findType (name : String) (p : Progress) :
    (findType s d name p).progress.steps = p.steps :=
  rel_findType (R := fun p q => q.steps = p.steps) (fun _ => rfl) (fun _ _ _ => rfl)
    (fun _ _ h => h) s d name p

theorem steps_failNode (fault : BuildFault) (reason : String) (p : Progress) :
    (failNode s d fault reason p).progress.steps = p.steps := by
  rw [failNode]
  split
  · rfl
  · exact steps_skipBelow d reason _

theorem calm_createNode : Calm (createNode s d) where
  blind := blind_createNode s d
  asked p := by
    have hfind := Progress.isAskedBySetter_congr (steps_findType s d d.typeName p)
    have hfail : ∀ fault reason (q : Progress),
        (failNode s d fault reason q).progress.isAskedBySetter = q.isAskedBySetter :=
      fun fault reason q => Progress.isAskedBySetter_congr (steps_failNode s d fault reason q)
    rw [createNode]
    split
    · exact hfind
    · exact (hfail _ _ _).trans hfind
    · dsimp only
      split
      · exact (Progress.isAskedBySetter_take _ (by simp)).trans hfind
      · exact (hfail _ _ _).trans hfind

theorem steps_createWrapper (names : List String) (p : Progress) :
    (createWrapper s d names p).progress.steps = p.steps := by
  induction names generalizing p with
  | nil => rfl
  | cons name rest ih =>
    have hfind := steps_findType s d name p
    rw [createWrapper]
    split
    · exact hfind
    · exact (ih _).trans hfind
    · dsimp only
      split
      · split
        · exact hfind
        · exact (ih _).trans hfind
      · exact (ih _).trans hfind

theorem asked_attach (f : Frame) (p : Progress) :
    (attach s d f p).progress.isAskedBySetter = p.isAskedBySetter := by
  have hwrap : ∀ content, (wrapContent s d f content p).progress.isAskedBySetter =
      p.isAskedBySetter := by
    intro content
    have hmade := Progress.isAskedBySetter_congr (steps_createWrapper s d (wrapperTypes s) p)
    rw [wrapContent]
    split
    · exact hmade
    · exact hmade
    · exact (Progress.isAskedBySetter_take _ (by simp)).trans hmade
  rw [attach]
  split
  · rw [attachContent]
    split
    · dsimp only
      split <;> rfl
    · split
      · rfl
      · exact hwrap _
  · rfl
  · rfl

theorem calm_finish (f : Frame) (group : Option Value) (w : Work) :
    Calm (finish s d f group w) where
  blind := blind_finish s d f group w
  asked p := by
    have hcontext : (giveContext d (w.context.or group) w.node p).2.steps = p.steps := by
      unfold giveContext
      split <;> rfl
    have hskip : ∀ reason q, (skipBelow d reason q).isAskedBySetter = q.isAskedBySetter :=
      fun reason q => Progress.isAskedBySetter_congr (steps_skipBelow d reason q)
    simp only [finish]
    generalize giveContext d (w.context.or group) w.node p = given at hcontext ⊢
    obtain ⟨n, q⟩ := given
    have hplace := (asked_attach s d f q).trans (Progress.isAskedBySetter_congr hcontext)
    dsimp only at hplace ⊢
    generalize attach s d f q = attached at hplace ⊢
    obtain ⟨⟨f', _ | place⟩, q', _ | h⟩ := attached
    · exact (hskip _ _).trans ((Progress.isAskedBySetter_take _ (by simp)).trans hplace)
    · exact hplace
    · have htake : ((q'.addNode w.result).take (.attach f'.node.id n.id)).isAskedBySetter =
          p.isAskedBySetter := (Progress.isAskedBySetter_take _ (by simp)).trans hplace
      dsimp only
      split
      · exact (hskip _ _).trans htake
      · exact htake
    · exact hplace

theorem calm_bind (name target path : String) (w : Work) :
    Calm (bind s d name target path w) where
  blind := blind_bind s d name target path w
  asked p := by
    have hbind : BuildStep.bind w.node.id w.node.cls.name target path ≠ .ask := by simp
    have htake := p.isAskedBySetter_take hbind
    rw [bind]
    split
    · exact htake
    · exact htake

theorem calm_assigned (name value : String) (w : Work) (a : Assignment) (halt : Option Halt) :
    Calm fun p => assigned s d name value w a ⟨(), p, halt⟩ where
  blind := blind_assigned d name value w a halt
  asked p := by
    unfold assigned
    cases a.failure <;> rfl

end Calm

/-! ## Parts in which the build may be asked to stop -/

/-- A value and a progress as a part that goes on. -/
def goesOnWith (x : α × Progress) : Stage α := .done x.1 x.2

/-- What follows the finishing of a node. -/
def afterFinish (mode : Mode) (finished : Stage Finished) : Stage (Option Finished) :=
  match finished.halt with
  | some h => .halted none finished.progress h
  | none => .done (some finished.value) (finished.progress.wait mode)

section Hears

variable (c : Cancellation) (s : Setup) (d : Descriptor)

theorem hears_resolveHandle (handle : String) (p : Progress) :
    Hears c p (goesOnWith (resolveHandle s.ignoring d handle p))
      (goesOnWith (resolveHandle (s.hearing c) d handle (p.hearing c))) := by
  have hresolve : BuildStep.resolve handle ≠ .ask := by simp
  have hmode : (s.hearing c).mode = .waiting (some c) ∧ s.ignoring.mode = .waiting none :=
    ⟨rfl, rfl⟩
  have hresolver : (s.hearing c).resolver = s.resolver ∧ s.ignoring.resolver = s.resolver :=
    ⟨rfl, rfl⟩
  have hwarned : ∀ text, Calm fun p => goesOnWith ((none : Option Value),
      (p.take (.resolve handle)).emit d none .warning text) := fun _ =>
    ⟨fun _ _ _ => rfl, fun p => p.isAskedBySetter_take hresolve⟩
  simp only [resolveHandle, hmode, hresolver]
  cases s.resolver with
  | none => exact .on rfl
  | some resolver =>
    dsimp only
    cases resolver handle with
    | value v => exact (calm_take hresolve (someValue v)).hears c p
    | failed message => exact (hwarned _).hears c p
    | later result =>
      have hwaited : Hears c p (.done () (p.wait (.waiting none)))
          (.done () ((p.hearing c).wait (.waiting (some c)))) := .wait ()
      cases result with
      | ok v =>
        let resolved := fun st : Stage Unit =>
          goesOnWith (someValue v, st.progress.take (.resolve handle))
        exact hwaited.seq (K := resolved) (L := resolved) fun _ q _ =>
          (calm_take hresolve (someValue v)).hears c q
      | error message =>
        let warn := fun st : Stage Unit => goesOnWith ((none : Option Value),
          (st.progress.take (.resolve handle)).emit d none .warning
            ("Data context could not be resolved: " ++ message))
        exact hwaited.seq (K := warn) (L := warn) fun _ q _ => (hwarned _).hears c q

theorem hears_groupContext (p : Progress) :
    Hears c p (goesOnWith (groupContext s.ignoring d p))
      (goesOnWith (groupContext (s.hearing c) d (p.hearing c))) := by
  have hnone : Hears c p (goesOnWith ((none : Option Value), p)) (goesOnWith (none, p.hearing c)) :=
    .on rfl
  simp only [groupContext]
  cases d.group with
  | none => exact hnone
  | some group =>
    dsimp only
    cases group.isEmpty with
    | true => exact hnone
    | false => exact hears_resolveHandle c s d group p

theorem hears_assign (setter : Setter) (name value : String) (w : Work) (p : Progress) :
    Hears c p (assign s.ignoring d setter name value w p)
      (assign (s.hearing c) d setter name value w (p.hearing c)) := by
  let a := assignment s.ignoring setter name value w.node
  have hsame : assignment (s.hearing c) setter name value w.node = a := by
    cases hlater : setter.applyLater <;>
      simp only [a, assignment, Setup.hearing, Setup.ignoring, Setup.inMode, hlater]
  have hassign : BuildStep.assign w.node.id name ≠ .ask := by simp
  have htaken := (calm_take hassign ()).hears c p
  have hwaited := htaken.seq (K := fun st => .done () (st.progress.wait (.waiting none)))
    (L := fun st => .done () (st.progress.wait (.waiting (some c)))) fun _ _ _ => .wait ()
  have hheard := hwaited.seq
    (K := fun st => .done () (st.progress.hear (.waiting none) a.cancels))
    (L := fun st => .done () (st.progress.hear (.waiting (some c)) a.cancels))
    fun _ _ _ => .hear a.cancels ()
  have hassigned := hheard.seq (K := assigned s d name value w a) (L := assigned s d name value w a)
    fun _ q halt => (calm_assigned s d name value w a halt).hears c q
  have hother : assign (s.hearing c) d setter name value w (p.hearing c) =
      assigned s d name value w (assignment (s.hearing c) setter name value w.node) (.done ()
        ((((p.hearing c).take (.assign w.node.id name)).wait (.waiting (some c))).hear
          (.waiting (some c)) (assignment (s.hearing c) setter name value w.node).cancels)) := rfl
  rw [hother, hsame]
  exact hassigned

theorem hears_dispatch (name value : String) (w : Work) (p : Progress) :
    Hears c p (dispatch s.ignoring d name value w p)
      (dispatch (s.hearing c) d name value w (p.hearing c)) := by
  unfold dispatch
  by_cases hcontext : propertyKey name = Validator.dataContextKey
  · simp only [hcontext, if_true]
    cases (Text.trim value.toList).isEmpty with
    | true => exact .on rfl
    | false =>
      exact (hears_resolveHandle c s d value p).seq
        (K := fun st => .done ({ w with context := st.value }.count .applied) st.progress)
        (L := fun st => .done ({ w with context := st.value }.count .applied) st.progress)
        fun _ q _ => .on rfl
  · simp only [hcontext, if_false]
    have hsetters : (s.hearing c).setters = s.setters ∧ s.ignoring.setters = s.setters :=
      ⟨rfl, rfl⟩
    rw [hsetters.1, hsetters.2]
    cases Setter.find? s.setters w.node name with
    | none => exact .on rfl
    | some setter => exact hears_assign c s d setter name value w p

theorem hears_validateAndDispatch (name value : String) (w : Work) (p : Progress) :
    Hears c p (validateAndDispatch s.ignoring d name value w p)
      (validateAndDispatch (s.hearing c) d name value w (p.hearing c)) := by
  let found := check s d name value w.node
  have hwarned := (calm_emitAll d (some name) .warning found.warnings ()).hears c p
  refine hwarned.seq (K := checked s.ignoring d name value w found)
    (L := checked (s.hearing c) d name value w found) fun _ q _ => ?_
  simp only [checked]
  cases found.isValid with
  | true => exact hears_dispatch c s d name value w q
  | false =>
    have hblocked := (calm_emitAll d (some name) .error found.errors ()).hears c q
    let block := fun st : Stage Unit => Stage.haltedIf s.settings.stopOnError (w.count .blocked)
      st.progress (.ofDescriptor (.rejected name found.errors) d (some name))
    exact hblocked.seq (K := block) (L := block) fun _ q _ =>
      .on rfl

/-- What becomes of a property, once the build has looked whether it is asked to stop. -/
def afterCheck (s : Setup) (d : Descriptor) (entry : Property) (w : Work) (p : Progress) :
    Stage Work :=
  if entry.name.isEmpty then .done (w.count .skipped) p
  else
    match entry.value with
    | none => .done (w.count .skipped) (p.emit d (some entry.name) .warning "Property has no value")
    | some value =>
      match bindingTarget? entry.name with
      | some target => bind s d entry.name target value w p
      | none => validateAndDispatch s d entry.name value w p

theorem applyProperty_eq (entry : Property) (w : Work) (p : Progress) :
    applyProperty s d entry w p = if p.cancelled then .halted w p (.bare .cancelled)
      else afterCheck s d entry w p :=
  rfl

theorem hears_afterCheck (entry : Property) (w : Work) (p : Progress) :
    Hears c p (afterCheck s.ignoring d entry w p)
      (afterCheck (s.hearing c) d entry w (p.hearing c)) := by
  unfold afterCheck
  by_cases hempty : entry.name.isEmpty = true
  · simp only [hempty, if_true]
    exact .on rfl
  · simp only [hempty]
    cases entry.value with
    | none => exact .on rfl
    | some value =>
      cases bindingTarget? entry.name with
      | none => exact hears_validateAndDispatch c s d entry.name value w p
      | some target => exact (calm_bind s d entry.name target value w).hears c p

theorem hears_afterProperties (f : Frame) (group : Option Value) (w : Work) (halt : Option Halt)
    (p : Progress) : Hears c p (afterProperties s.ignoring d f group ⟨w, p, halt⟩)
      (afterProperties (s.hearing c) d f group ⟨w, p.hearing c, halt⟩) := by
  cases halt with
  | some h => exact .on rfl
  | none =>
    have hfinish : ∀ m, finish (s.inMode m) d f group w = finish s d f group w := fun m =>
      finish_congr (looksUpAlike_inMode s m) d f group w
    have hfinished : Hears c p (finish s.ignoring d f group w p)
        (finish (s.hearing c) d f group w (p.hearing c)) := by
      rw [Setup.ignoring, Setup.hearing, hfinish, hfinish]
      exact (calm_finish s d f group w).hears c p
    exact hfinished.seq (K := afterFinish (.waiting none)) (L := afterFinish (.waiting (some c)))
      fun finished q halt => by
        cases halt with
        | some h => exact .on rfl
        | none => exact .wait (some finished)

end Hears

end Build

end LayoutTree
