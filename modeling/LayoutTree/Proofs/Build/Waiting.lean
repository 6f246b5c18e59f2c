import LayoutTree.Build.Builder

/-!
# Builds that wait

A direct build and one that waits take the same course. The latter keeps an account of its own: how
often it has waited, and whether it was asked to stop (`Progress.withWaiting`). Most parts of a
build take no notice of the account (`Blind`). Setters may ask for the build to stop, and so may
anyone while it waits; a build that is asked stops at the next node or property, and until then it
is as far as the direct build (`Follows`).

This holds for a single property (`follows_applyProperty`), hence for a node and for a forest, by
induction on the descriptors (`follows_buildNode`, `follows_buildAll`). The main statement is
`Builder.build_waiting`.
-/

namespace LayoutTree

variable {α β : Type}

/-- The progress with another account of waiting: whether the build is asked to stop, and how often
it has waited. -/
def Progress.withWaiting (p : Progress) (cancelled : Bool) (waits : Nat) : Progress :=
  { p with cancelled, waits }

namespace Progress

variable (p : Progress) (c : Bool) (n : Nat)

theorem emit_withWaiting (d : Descriptor) (property : Option String) (severity : Severity)
    (text : String) : (p.withWaiting c n).emit d property severity text =
      (p.emit d property severity text).withWaiting c n := rfl

theorem addNode_withWaiting (r : NodeResult) :
    (p.withWaiting c n).addNode r = (p.addNode r).withWaiting c n := rfl

theorem take_withWaiting (step : BuildStep) :
    (p.withWaiting c n).take step = (p.take step).withWaiting c n := rfl

end Progress

/-- The part of a build with another account of waiting. -/
def Stage.withWaiting (st : Stage α) (cancelled : Bool) (waits : Nat) : Stage α :=
  { st with progress := st.progress.withWaiting cancelled waits }

/-- The same set-up for a build that goes on in another way. -/
def Setup.inMode (s : Setup) (mode : Mode) : Setup := { s with mode }

/-- The collaborators of a build answer at once: none of its setters and no answer of its resolver
has to be waited for. -/
structure Setup.AnswersAtOnce (s : Setup) : Prop where
  setters : ∀ x ∈ s.setters.members, x.applyLater = none
  resolver : ∀ resolver, s.resolver = some resolver →
    ∀ handle result, resolver handle ≠ .later result

theorem Setup.AnswersAtOnce.inMode {s : Setup} (h : s.AnswersAtOnce) (mode : Mode) :
    (s.inMode mode).AnswersAtOnce :=
  ⟨h.setters, h.resolver⟩

namespace Build

/-! ## Parts that take no notice of waiting -/

/-- A part of a build takes no notice of the account of waiting. -/
def Blind (part : Progress → Stage α) : Prop :=
  ∀ p c n, part (p.withWaiting c n) = (part p).withWaiting c n

section Blind

variable (s : Setup) (d : Descriptor)

theorem emitAll_withWaiting (property : Option String) (severity : Severity) (texts : List String)
    (p : Progress) (c : Bool) (n : Nat) :
    (p.withWaiting c n).emitAll d property severity texts =
      (p.emitAll d property severity texts).withWaiting c n := by
  induction texts generalizing p with
  | nil => rfl
  | cons text texts ih => exact ih (p.emit d property severity text)

theorem skipBelow_withWaiting (reason : String) (p : Progress) (c : Bool) (n : Nat) :
    skipBelow d reason (p.withWaiting c n) = (skipBelow d reason p).withWaiting c n := by
  have hfold : ∀ (ds : List Descriptor) (p : Progress),
      ds.foldl (fun p b => p.addNode (.ofState b.typeName .skipped b.source)) (p.withWaiting c n) =
        (ds.foldl (fun p b => p.addNode (.ofState b.typeName .skipped b.source)) p).withWaiting
          c n := by
    intro ds
    induction ds with
    | nil => exact fun _ => rfl
    | cons b ds ih => exact fun p => ih (p.addNode _)
  rw [skipBelow, skipBelow, hfold]
  cases (d.children.flatMap Descriptor.walk).isEmpty <;> rfl

theorem blind_done_skipBelow (value : α) (reason : String) :
    Blind fun p => .done value (skipBelow d reason p) := by
  intro p c n
  dsimp only
  rw [skipBelow_withWaiting]
  rfl

theorem blind_findType (name : String) : Blind (findType s d name) := by
  intro p c n
  simp only [findType, Progress.withWaiting]
  cases p.types.resolve name with
  | some t => rfl
  | none =>
    cases s.settings.autoRegister with
    | false => rfl
    | true =>
      obtain ⟨log, result⟩ := p.types.autoRegister s.modules name s.settings.autoRegisterModules
      rcases result with fault | ⟨_ | t, types⟩ <;> rfl

theorem blind_failNode (fault : BuildFault) (reason : String) :
    Blind (failNode s d fault reason) := by
  intro p c n
  simp only [failNode, Progress.addNode_withWaiting, Progress.emit_withWaiting]
  cases s.settings.stopOnError with
  | true => rfl
  | false => exact blind_done_skipBelow d none reason _ c n

theorem blind_createNode : Blind (createNode s d) := by
  intro p c n
  rw [createNode, createNode, blind_findType s d d.typeName p c n]
  generalize findType s d d.typeName p = found
  obtain ⟨_ | t, q, _ | h⟩ := found
  · exact blind_failNode s d _ _ q c n
  · rfl
  · simp only [Stage.withWaiting, Progress.withWaiting]
    cases t.create q.nextId with
    | ok node => rfl
    | error message => exact blind_failNode s d _ _ q c n
  · rfl

theorem blind_createWrapper (names : List String) : Blind (createWrapper s d names) := by
  intro p c n
  induction names generalizing p with
  | nil => rfl
  | cons name rest ih =>
    rw [createWrapper, createWrapper, blind_findType s d name p c n]
    generalize findType s d name p = found
    obtain ⟨_ | t, q, _ | h⟩ := found
    · exact ih q
    · rfl
    · simp only [Stage.withWaiting, Progress.withWaiting]
      cases t.create q.nextId with
      | ok w =>
        dsimp only
        cases w.cls.isContainer with
        | true => rfl
        | false => exact ih q
      | error message => exact ih q
    · rfl

theorem blind_wrapContent (f : Frame) (content : Node) : Blind (wrapContent s d f content) := by
  intro p c n
  rw [wrapContent, wrapContent, blind_createWrapper s d _ p c n]
  generalize createWrapper s d (wrapperTypes s) p = made
  obtain ⟨_ | w, q, _ | h⟩ := made <;> rfl

theorem blind_attach (f : Frame) : Blind (attach s d f) := by
  intro p c n
  rw [attach, attach]
  cases f.node.cls.capability with
  | content =>
    dsimp only
    rw [attachContent, attachContent]
    cases f.node.children with
    | nil => cases (!(f.node.contentText?.getD "").isEmpty) <;> rfl
    | cons content rest =>
      cases f.wrapped with
      | true => rfl
      | false => exact blind_wrapContent s d f content p c n
  | _ => rfl

theorem giveContext_withWaiting (context : Option Value) (node : Node) (p : Progress) (c : Bool)
    (n : Nat) : giveContext d context node (p.withWaiting c n) =
      ((giveContext d context node p).1, (giveContext d context node p).2.withWaiting c n) := by
  unfold giveContext
  cases context with
  | none => rfl
  | some v => cases node.cls.contextRefusal <;> rfl

theorem blind_finish (f : Frame) (group : Option Value) (w : Work) :
    Blind (finish s d f group w) := by
  intro p c n
  simp only [finish]
  rw [giveContext_withWaiting d (w.context.or group) w.node p c n]
  dsimp only
  generalize giveContext d (w.context.or group) w.node p = given
  obtain ⟨node, q⟩ := given
  dsimp only
  rw [blind_attach s d f q c n]
  generalize attach s d f q = attached
  obtain ⟨⟨f', _ | place⟩, q', _ | h⟩ := attached
  · simp only [Stage.withWaiting, Progress.addNode_withWaiting, Progress.take_withWaiting]
    exact blind_done_skipBelow d _ _ _ c n
  · rfl
  · simp only [Stage.withWaiting, Progress.addNode_withWaiting, Progress.take_withWaiting]
    cases (!d.children.isEmpty && !node.cls.holdsChildren) with
    | true => exact blind_done_skipBelow d _ _ _ c n
    | false => rfl
  · rfl

theorem blind_bind (name target path : String) (w : Work) :
    Blind (bind s d name target path w) := by
  intro p c n
  simp only [bind]
  cases s.applier w.node target path <;> rfl

end Blind

/-! ## Parts that depend on little -/

/-- Two set-ups look up types alike, and have the same types of wrappers. -/
structure LooksUpAlike (s s' : Setup) : Prop where
  types : findType s' = findType s
  wrappers : wrapperTypes s' = wrapperTypes s

theorem looksUpAlike_inMode (s : Setup) (mode : Mode) : LooksUpAlike s (s.inMode mode) :=
  ⟨rfl, rfl⟩

section LooksUpAlike

variable {s s' : Setup} (h : LooksUpAlike s s') (d : Descriptor)
include h

theorem createWrapper_congr (names : List String) :
    createWrapper s' d names = createWrapper s d names := by
  induction names with
  | nil => rfl
  | cons name rest ih =>
    funext p
    rw [createWrapper, createWrapper, ih, h.types]

theorem attach_congr (f : Frame) : attach s' d f = attach s d f := by
  have hwrap : ∀ content, wrapContent s' d f content = wrapContent s d f content := by
    intro content
    funext p
    rw [wrapContent, wrapContent, h.wrappers, createWrapper_congr h]
  have hcontent : attachContent s' d f = attachContent s d f := by
    funext p
    simp only [attachContent, hwrap]
  funext p
  rw [attach, attach, hcontent]

/-- A node is finished alike. -/
theorem finish_congr (f : Frame) (group : Option Value) (w : Work) :
    finish s' d f group w = finish s d f group w := by
  funext p
  rw [finish, finish, attach_congr h]

end LooksUpAlike

/-! ## Parts that wait -/

/-- A part of a waiting build follows the same part of a direct one. -/
structure Follows (cancellation : Option Cancellation) (direct waiting : Progress → Stage α) :
    Prop where
  /-- A build that is asked to stop stays asked. -/
  asked : ∀ q, q.cancelled = true → (waiting q).progress.cancelled = true
  /-- A direct build is not asked to stop. -/
  unasked : ∀ p, p.cancelled = false → (direct p).progress.cancelled = false
  /-- Unless the waiting build is asked to stop in this part, the two do the same. -/
  apace : ∀ p n, p.cancelled = false →
    cancellation.isSome = true ∧ (waiting (p.withWaiting false n)).progress.cancelled = true ∨
      ∃ n', waiting (p.withWaiting false n) = (direct p).withWaiting false n'

namespace Follows

variable {cancellation : Option Cancellation}

theorem of_blind {part : Progress → Stage α} (h : Blind part) : Follows cancellation part part := by
  have hsame : ∀ p, (part p).progress.cancelled = p.cancelled := fun p =>
    congrArg (fun st : Stage α => st.progress.cancelled) (h p p.cancelled p.waits)
  exact ⟨fun q hq => (hsame q).trans hq, fun p hp => (hsame p).trans hp,
    fun p n _ => Or.inr ⟨n, h p false n⟩⟩

/-- What comes after a part follows if it does so however the part ends. -/
theorem seq {F F' : Progress → Stage α} {K L : Stage α → Stage β} (hF : Follows cancellation F F')
    (hK : ∀ value halt, Follows cancellation (fun p => K ⟨value, p, halt⟩)
      fun p => L ⟨value, p, halt⟩) :
    Follows cancellation (fun p => K (F p)) fun p => L (F' p) where
  asked q hq := (hK (F' q).value (F' q).halt).asked _ (hF.asked q hq)
  unasked p hp := (hK (F p).value (F p).halt).unasked _ (hF.unasked p hp)
  apace p n hp := by
    rcases hF.apace p n hp with ⟨hsome, hasked⟩ | ⟨n', heq⟩
    · exact Or.inl ⟨hsome, (hK _ _).asked _ hasked⟩
    · rw [heq]
      exact (hK (F p).value (F p).halt).apace _ n' (hF.unasked p hp)

/-- A build that is asked to stop does so before a part. -/
theorem guarded {F F' : Progress → Stage α} (h : Follows cancellation F F') (value : α)
    (halt : Halt) : Follows cancellation
      (fun p => if p.cancelled then .halted value p halt else F p)
      fun p => if p.cancelled then .halted value p halt else F' p where
  asked q hq := by
    rw [if_pos hq]
    exact hq
  unasked p hp := by
    rw [if_neg (by simp [hp])]
    exact h.unasked p hp
  apace p n hp := by
    have hp' : ¬ (p.withWaiting false n).cancelled = true := Bool.false_ne_true
    rw [if_neg hp', if_neg (by simp [hp])]
    exact h.apace p n hp

theorem andThen {F F' : Progress → Stage α} {G G' : α → Progress → Stage α}
    (hF : Follows cancellation F F') (hG : ∀ value, Follows cancellation (G value) (G' value)) :
    Follows cancellation (fun p => (F p).andThen G) fun p => (F' p).andThen G' := by
  refine seq (K := fun st => st.andThen G) (L := fun st => st.andThen G') hF fun value halt => ?_
  cases halt with
  | some h => exact of_blind fun _ _ _ => rfl
  | none => exact hG value

end Follows

section Follows

variable {s : Setup} (d : Descriptor) (cancellation : Option Cancellation)

theorem follows_wait (value : α) : Follows cancellation (fun p => .done value (p.wait .direct))
    fun p => .done value (p.wait (.waiting cancellation)) where
  asked q hq := by
    simp [Progress.wait, Mode.waits, Progress.cancelIf, Stage.done, hq]
  unasked p hp := hp
  apace p n hp := by
    cases hasked : (Mode.waiting cancellation).isCancelledAt n with
    | true =>
      refine Or.inl ⟨?_, ?_⟩
      · cases cancellation with
        | none => cases hasked
        | some _ => rfl
      · exact hasked
    | false =>
      refine Or.inr ⟨n + 1, ?_⟩
      change Stage.done value { (p.withWaiting false n) with
        cancelled := false || (Mode.waiting cancellation).isCancelledAt n, waits := n + 1 } = _
      rw [hasked]
      rfl

/-- A setter may ask for the build to stop. A direct build cannot be asked. -/
theorem follows_hear (asks : Bool) (value : α) : Follows cancellation
    (fun p => .done value (p.hear .direct asks))
    fun p => .done value (p.hear (.waiting cancellation) asks) := by
  cases asks with
  | false => exact .of_blind fun _ _ _ => rfl
  | true =>
    refine ⟨fun q hq => ?_, fun p hp => ?_, fun p n hp => ?_⟩
    · exact Bool.or_eq_true_iff.2 (Or.inl hq)
    · exact (Bool.or_false _).trans hp
    · cases cancellation with
      | none => exact Or.inr ⟨n, rfl⟩
      | some c => exact Or.inl ⟨rfl, rfl⟩

/-! ## Properties -/

theorem resolveHandle_inMode (hs : s.AnswersAtOnce) (m m' : Mode) (handle : String) :
    resolveHandle (s.inMode m') d handle = resolveHandle (s.inMode m) d handle := by
  funext p
  simp only [resolveHandle, Setup.inMode]
  cases hresolver : s.resolver with
  | none => rfl
  | some resolver =>
    dsimp only
    cases hanswer : resolver handle with
    | value v => rfl
    | failed message => rfl
    | later result => exact absurd hanswer (hs.resolver resolver hresolver handle result)

theorem blind_resolveHandle (hs : s.AnswersAtOnce) (handle : String) : Blind fun p =>
    .done (resolveHandle s d handle p).1 (resolveHandle s d handle p).2 := by
  intro p c n
  simp only [resolveHandle]
  cases hresolver : s.resolver with
  | none => rfl
  | some resolver =>
    dsimp only
    cases hanswer : resolver handle with
    | value v => rfl
    | failed message => rfl
    | later result => exact absurd hanswer (hs.resolver resolver hresolver handle result)

/-- What an assignment comes to once the setter has been heard. -/
def assigned (s : Setup) (d : Descriptor) (name value : String) (w : Work) (a : Assignment)
    (heard : Stage Unit) : Stage Work :=
  let w := { w with node := a.node }
  let p := { heard.progress with log := heard.progress.log ++ a.log }
  match a.failure with
  | none => .done (w.count .applied) p
  | some failure => failAssignment s d name value failure.message w p

theorem blind_assigned (name value : String) (w : Work) (a : Assignment) (halt : Option Halt) :
    Blind fun p => assigned s d name value w a ⟨(), p, halt⟩ := by
  intro p c n
  dsimp only [assigned]
  cases a.failure <;> rfl

theorem assign_eq {setter : Setter} (hsetter : setter.applyLater = none) (m : Mode)
    (name value : String) (w : Work) :
    assign (s.inMode m) d setter name value w = fun p =>
      let a := setter.apply s.converters w.node name value
      assigned s d name value w a
        (.done () (((p.take (.assign w.node.id name)).wait m).hear m a.cancels)) := by
  funext p
  cases m <;> simp only [assign, assignment, Setup.inMode, hsetter] <;> rfl

theorem follows_assign {setter : Setter} (hsetter : setter.applyLater = none) (name value : String)
    (w : Work) : Follows cancellation (assign (s.inMode .direct) d setter name value w)
      (assign (s.inMode (.waiting cancellation)) d setter name value w) := by
  rw [assign_eq d hsetter, assign_eq d hsetter]
  let a := setter.apply s.converters w.node name value
  have htake : Blind fun p => .done () (p.take (.assign w.node.id name)) := fun _ _ _ => rfl
  have hwaited := (Follows.of_blind htake).seq
    (K := fun st => .done () (st.progress.wait .direct))
    (L := fun st => .done () (st.progress.wait (.waiting cancellation)))
    fun _ _ => follows_wait cancellation ()
  have hheard := hwaited.seq
    (K := fun st => .done () (st.progress.hear .direct a.cancels))
    (L := fun st => .done () (st.progress.hear (.waiting cancellation) a.cancels))
    fun _ _ => follows_hear cancellation a.cancels ()
  exact hheard.seq (K := assigned s d name value w a) (L := assigned s d name value w a)
    fun _ halt => .of_blind (blind_assigned d name value w a halt)

theorem follows_dispatch (hs : s.AnswersAtOnce) (name value : String) (w : Work) :
    Follows cancellation (dispatch (s.inMode .direct) d name value w)
      (dispatch (s.inMode (.waiting cancellation)) d name value w) := by
  unfold dispatch
  by_cases hcontext : propertyKey name = Validator.dataContextKey
  · simp only [hcontext, if_true, resolveHandle_inMode d hs .direct (.waiting cancellation)]
    cases hblank : (Text.trim value.toList).isEmpty with
    | true =>
      simp only [if_true]
      exact .of_blind fun _ _ _ => rfl
    | false =>
      simp only [Bool.false_eq_true, if_false]
      exact (Follows.of_blind (blind_resolveHandle d (hs.inMode .direct) value)).seq
        (K := fun st => .done ({ w with context := st.value }.count .applied) st.progress)
        (L := fun st => .done ({ w with context := st.value }.count .applied) st.progress)
        fun _ _ => .of_blind fun _ _ _ => rfl
  · simp only [hcontext, if_false]
    cases hfind : Setter.find? s.setters w.node name with
    | none =>
      have hnone : ∀ m, Setter.find? (s.inMode m).setters w.node name = none := fun _ => hfind
      simp only [hnone]
      exact .of_blind fun _ _ _ => rfl
    | some setter =>
      have hsome : ∀ m, Setter.find? (s.inMode m).setters w.node name = some setter :=
        fun _ => hfind
      simp only [hsome]
      exact follows_assign d cancellation (hs.setters _ (List.mem_of_find?_eq_some hfind)) name
        value w

/-- What becomes of a value that has been checked. -/
def checked (s : Setup) (d : Descriptor) (name value : String) (w : Work) (found : Validation)
    (warned : Stage Unit) : Stage Work :=
  if found.isValid then dispatch s d name value w warned.progress
  else
    .haltedIf s.settings.stopOnError (w.count .blocked)
      (warned.progress.emitAll d (some name) .error found.errors)
      (.ofDescriptor (.rejected name found.errors) d (some name))

theorem follows_validateAndDispatch (hs : s.AnswersAtOnce) (name value : String) (w : Work) :
    Follows cancellation (validateAndDispatch (s.inMode .direct) d name value w)
      (validateAndDispatch (s.inMode (.waiting cancellation)) d name value w) := by
  let found := check s d name value w.node
  have hwarned : Blind fun p => .done () (p.emitAll d (some name) .warning found.warnings) :=
    fun p c n => congrArg (Stage.done ()) (emitAll_withWaiting d (some name) .warning _ p c n)
  refine (Follows.of_blind hwarned).seq (K := checked (s.inMode .direct) d name value w found)
    (L := checked (s.inMode (.waiting cancellation)) d name value w found) fun _ _ => ?_
  simp only [checked]
  cases found.isValid with
  | true => exact follows_dispatch d cancellation hs name value w
  | false =>
    refine .of_blind fun p c n => ?_
    simp only [emitAll_withWaiting, Bool.false_eq_true, if_false]
    rfl

theorem follows_applyProperty (hs : s.AnswersAtOnce) (entry : Property) (w : Work) :
    Follows cancellation (applyProperty (s.inMode .direct) d entry w)
      (applyProperty (s.inMode (.waiting cancellation)) d entry w) := by
  refine Follows.guarded ?_ w (.bare .cancelled)
  by_cases hempty : entry.name.isEmpty = true
  · simp only [hempty, if_true]
    exact .of_blind fun _ _ _ => rfl
  · simp only [hempty]
    cases entry.value with
    | none => exact .of_blind fun _ _ _ => rfl
    | some value =>
      cases bindingTarget? entry.name with
      | none => exact follows_validateAndDispatch d cancellation hs entry.name value w
      | some target => exact .of_blind (blind_bind s d entry.name target value w)

/-- **Properties in order** are assigned alike until the build is asked to stop. -/
theorem follows_applyProperties (hs : s.AnswersAtOnce) (entries : List Property) (w : Work) :
    Follows cancellation (applyProperties (s.inMode .direct) d entries w)
      (applyProperties (s.inMode (.waiting cancellation)) d entries w) := by
  induction entries generalizing w with
  | nil => exact .of_blind fun _ _ _ => rfl
  | cons entry rest ih => exact (follows_applyProperty d cancellation hs entry w).andThen ih

/-! ## Nodes -/

theorem blind_groupContext (hs : s.AnswersAtOnce) : Blind fun p =>
    .done (groupContext s d p).1 (groupContext s d p).2 := by
  intro p c n
  simp only [groupContext]
  cases d.group with
  | none => rfl
  | some group =>
    dsimp only
    cases group.isEmpty with
    | true => rfl
    | false => exact blind_resolveHandle d hs group p c n

theorem groupContext_inMode (hs : s.AnswersAtOnce) (m m' : Mode) :
    groupContext (s.inMode m') d = groupContext (s.inMode m) d := by
  funext p
  simp only [groupContext, resolveHandle_inMode d hs m m']

/-- What follows the properties of a node. -/
def afterProperties (s : Setup) (d : Descriptor) (f : Frame) (group : Option Value)
    (filled : Stage Work) : Stage (Option Finished) :=
  match filled.halt with
  | some h => .halted none (filled.progress.addNode filled.value.result) h
  | none =>
    let finished := finish s d f group filled.value filled.progress
    match finished.halt with
    | some h => .halted none finished.progress h
    | none => .done (some finished.value) (finished.progress.wait s.mode)

/-- What follows the making of a node. -/
def afterCreation (s : Setup) (d : Descriptor) (f : Frame) (made : Stage (Option Node)) :
    Stage (Option Finished) :=
  match made.halt, made.value with
  | some h, _ => .halted none made.progress h
  | none, none => .done none made.progress
  | none, some n =>
    let filled := fill s d n made.progress
    afterProperties s d f filled.1 filled.2

theorem follows_afterProperties (f : Frame) (group : Option Value) (w : Work)
    (halt : Option Halt) : Follows cancellation
      (fun p => afterProperties (s.inMode .direct) d f group ⟨w, p, halt⟩)
      fun p => afterProperties (s.inMode (.waiting cancellation)) d f group ⟨w, p, halt⟩ := by
  cases halt with
  | some h => exact .of_blind fun _ _ _ => rfl
  | none =>
    have hfinish : ∀ m, finish (s.inMode m) d f group w = finish s d f group w := fun m =>
      finish_congr (looksUpAlike_inMode s m) d f group w
    simp only [afterProperties, hfinish]
    refine (Follows.of_blind (blind_finish s d f group w)).seq
      (K := fun finished => match finished.halt with
        | some h => .halted none finished.progress h
        | none => .done (some finished.value) (finished.progress.wait .direct))
      (L := fun finished => match finished.halt with
        | some h => .halted none finished.progress h
        | none => .done (some finished.value) (finished.progress.wait (.waiting cancellation)))
      fun finished halt => ?_
    cases halt with
    | some h => exact .of_blind fun _ _ _ => rfl
    | none => exact follows_wait cancellation (some finished)

theorem follows_afterCreation (hs : s.AnswersAtOnce) (f : Frame) (made : Option Node)
    (halt : Option Halt) : Follows cancellation
      (fun p => afterCreation (s.inMode .direct) d f ⟨made, p, halt⟩)
      fun p => afterCreation (s.inMode (.waiting cancellation)) d f ⟨made, p, halt⟩ := by
  rcases halt with _ | h
  · cases made with
    | none => exact .of_blind fun _ _ _ => rfl
    | some node =>
      simp only [afterCreation, fill, groupContext_inMode d hs .direct (.waiting cancellation)]
      let w : Work := ⟨node, .ofState d.typeName .success d.source, none⟩
      refine (Follows.of_blind (blind_groupContext d (hs.inMode .direct))).seq
        (K := fun st => afterProperties (s.inMode .direct) d f st.value
          (applyProperties (s.inMode .direct) d d.properties w st.progress))
        (L := fun st => afterProperties (s.inMode (.waiting cancellation)) d f st.value
          (applyProperties (s.inMode (.waiting cancellation)) d d.properties w st.progress))
        fun group _ => ?_
      exact (follows_applyProperties d cancellation hs d.properties w).seq
        fun w halt => follows_afterProperties d cancellation f group w halt
  · exact .of_blind fun _ _ _ => rfl

theorem follows_start (hs : s.AnswersAtOnce) (f : Frame) :
    Follows cancellation (start (s.inMode .direct) d f)
      (start (s.inMode (.waiting cancellation)) d f) := by
  refine Follows.guarded ?_ none (.bare .cancelled)
  exact (Follows.of_blind (blind_createNode s d)).seq
    (K := afterCreation (s.inMode .direct) d f)
    (L := afterCreation (s.inMode (.waiting cancellation)) d f)
    fun made halt => follows_afterCreation d cancellation hs f made halt

end Follows

/-! ## Forests -/

/-- What follows the start of a node. `below` builds the nodes below it. -/
def afterStart (below : Frame → Progress → Stage Frame) (f : Frame)
    (started : Stage (Option Finished)) : Stage Frame :=
  match started.halt, started.value with
  | some h, _ => .halted f started.progress h
  | none, none => .done f started.progress
  | none, some n =>
    match n.place with
    | none => .done n.frame started.progress
    | some place =>
      if n.goesOn then
        let below := below ⟨n.node, false⟩ started.progress
        ⟨n.frame.place below.value.node place, below.progress, below.halt⟩
      else .done (n.frame.place n.node place) started.progress

/-- What follows the first of some nodes. `rest` builds the others. -/
def afterFirst (rest : Frame → Progress → Stage Frame) (first : Stage Frame) : Stage Frame :=
  match first.halt with
  | some h => .halted first.value first.progress h
  | none => rest first.value first.progress

theorem buildNode_eq (s : Setup) (typeName : String) (properties : List Property)
    (group : Option String) (children : List Descriptor) (source : Option String) (f : Frame) :
    buildNode s (.mk typeName properties group children source) f = fun p =>
      afterStart (buildAll s children) f
        (start s ⟨typeName, properties, group, children, source⟩ f p) := by
  funext p
  rw [buildNode]
  rfl

theorem buildAll_cons (s : Setup) (d : Descriptor) (rest : List Descriptor) (f : Frame) :
    buildAll s (d :: rest) f = fun p => afterFirst (buildAll s rest) (buildNode s d f p) := by
  funext p
  rw [buildAll]
  rfl

section Forests

variable {s : Setup} (cancellation : Option Cancellation)

theorem follows_afterStart {below below' : Frame → Progress → Stage Frame} (f : Frame)
    (hbelow : ∀ f, Follows cancellation (below f) (below' f)) (started : Option Finished)
    (halt : Option Halt) : Follows cancellation (fun p => afterStart below f ⟨started, p, halt⟩)
      fun p => afterStart below' f ⟨started, p, halt⟩ := by
  rcases halt with _ | h
  · rcases started with _ | ⟨frame, node, _ | place, _ | _⟩
    · exact .of_blind fun _ _ _ => rfl
    · exact .of_blind fun _ _ _ => rfl
    · exact .of_blind fun _ _ _ => rfl
    · exact .of_blind fun _ _ _ => rfl
    · exact (hbelow ⟨node, false⟩).seq
        (K := fun below => ⟨frame.place below.value.node place, below.progress, below.halt⟩)
        (L := fun below => ⟨frame.place below.value.node place, below.progress, below.halt⟩)
        fun _ _ => .of_blind fun _ _ _ => rfl
  · exact .of_blind fun _ _ _ => rfl

theorem follows_afterFirst {rest rest' : Frame → Progress → Stage Frame}
    (hrest : ∀ f, Follows cancellation (rest f) (rest' f)) (first : Frame) (halt : Option Halt) :
    Follows cancellation (fun p => afterFirst rest ⟨first, p, halt⟩)
      fun p => afterFirst rest' ⟨first, p, halt⟩ := by
  cases halt with
  | none => exact hrest first
  | some h => exact .of_blind fun _ _ _ => rfl

mutual

/-- **A node** is built alike until the build is asked to stop. -/
theorem follows_buildNode (hs : s.AnswersAtOnce) : ∀ (d : Descriptor) (f : Frame),
    Follows cancellation (buildNode (s.inMode .direct) d f)
      (buildNode (s.inMode (.waiting cancellation)) d f)
  | .mk typeName properties group children source, f => by
    rw [buildNode_eq, buildNode_eq]
    have hbelow := follows_buildAll hs children
    exact (follows_start _ cancellation hs f).seq
      fun started halt => follows_afterStart cancellation f hbelow started halt

/-- **A forest** is built alike until the build is asked to stop. -/
theorem follows_buildAll (hs : s.AnswersAtOnce) : ∀ (ds : List Descriptor) (f : Frame),
    Follows cancellation (buildAll (s.inMode .direct) ds f)
      (buildAll (s.inMode (.waiting cancellation)) ds f)
  | [], f => .of_blind fun p _ _ => by rw [buildAll, buildAll]; rfl
  | d :: rest, f => by
    rw [buildAll_cons, buildAll_cons]
    have hrest := follows_buildAll hs rest
    exact (follows_buildNode hs d f).seq
      fun first halt => follows_afterFirst cancellation hrest first halt

end

end Forests

end Build

/-! ## Builds -/

namespace Builder

/-- Whether a build has been asked to stop when it ends. -/
def isAsked (b : Builder) (r : Registry) (container : Node) (ds : List Descriptor)
    (source : Option String) (mode : Mode) : Bool :=
  (Build.buildAll (b.setup r mode) ds ⟨container, false⟩
    (initial r container source mode)).progress.cancelled

/-- **A build that waits does what a direct build does**, whatever the forest, the container, the
registry and the settings: it gives the same tree and registry, the same report, and the same early
end if there is one. No collaborator has to be waited for, and the build is not asked to stop. -/
theorem build_waiting (b : Builder) (r : Registry) (plugins : PluginManager) (container : Node)
    (ds : List Descriptor) (source : Option String) (cancellation : Option Cancellation)
    (hs : (b.setup r .direct).AnswersAtOnce)
    (hasked : ∀ c, cancellation = some c →
      b.isAsked r container ds source (.waiting (some c)) = false) :
    b.build r plugins container ds source (.waiting cancellation) =
      b.build r plugins container ds source .direct := by
  have hfollows := Build.follows_buildAll cancellation hs ds ⟨container, false⟩
  -- A build that was asked at its start or in its course is excluded.
  have hend : ∀ (p : Progress), p = initial r container source (.waiting cancellation) →
      cancellation.isSome = true →
      (Build.buildAll (b.setup r (.waiting cancellation)) ds
        ⟨container, false⟩ p).progress.cancelled ≠ true := by
    rintro p rfl hsome
    obtain ⟨c, rfl⟩ := Option.isSome_iff_exists.1 hsome
    exact ne_true_of_eq_false (hasked c rfl)
  have hstart : initial r container source (.waiting cancellation) =
      (initial r container source .direct).withWaiting false 0 := by
    cases cancellation with
    | none => rfl
    | some c =>
      cases hc : c.atStart with
      | true => exact absurd (hfollows.asked _ hc) (hend _ rfl rfl)
      | false => simp only [initial, Progress.withWaiting, Mode.isCancelledAtStart, hc]
  rcases hfollows.apace (initial r container source .direct) 0 rfl with
    ⟨hsome, hcancelled⟩ | ⟨n, heq⟩
  · exact absurd hcancelled (hend _ hstart.symm hsome)
  · rw [← hstart] at heq
    change Build.buildAll (b.setup r (.waiting cancellation)) ds _ _ =
      (Build.buildAll (b.setup r .direct) ds _ _).withWaiting false n at heq
    rw [build, build, heq]
    rfl

/-- A layout with a group, a second child that needs a wrapper, and a value that is rejected. -/
def promptLayout : List Descriptor := [
  ⟨"Button", [⟨"Width", some "wide"⟩], some "person", [⟨"TextBlock", [], none, [], none⟩], none⟩,
  ⟨"StackPanel", [], none, [⟨"Unknown", [], none, [], none⟩], none⟩]

/-- The layout built in a window. It could be asked to stop at a moment that it does not reach. -/
def promptBuild (mode : Mode) : BuildOutcome :=
  (standard .standard ⟨[], []⟩ .standard).build .standard (.empty false)
    (.ofClass 0 (.contentControl "Window" [])) promptLayout none mode

theorem build_waiting_promptLayout :
    promptBuild (.waiting (some ⟨false, fun n => n == 10⟩)) = promptBuild .direct :=
  build_waiting _ _ _ _ _ _ _ ⟨by decide, nofun⟩ fun c hc => by
    cases hc
    decide +kernel

end Builder

end LayoutTree
