import LayoutTree.Proofs.Build.Growth

/-!
# Builds side by side

Two builds of the same descriptors go side by side as long as their look-ups of types come to types
of which the same nodes are made (`FindsAlike`). How the two builds stand to each other is a
relation between their progress, which all that a build does besides looking up types has to keep
(`IsKept`). Then each part of one build comes to the same as that part of the other, and leaves the
two as they stand to each other (`Echoes`).

This holds for parts in a row (`Echoes.seq`), hence for the properties of a node, for attaching it,
for a node and for a forest (`echoes_start`, `echoes_buildAll`).
-/

namespace LayoutTree

variable {α β : Type} {R : Progress → Progress → Prop}

/-- The set-up of a build that looks for unknown types in modules, or one that does not. -/
def Setup.registering (s : Setup) (on : Bool) : Setup :=
  { s with settings := { s.settings with autoRegister := on } }

namespace Build

/-- A relation between the progress of two builds is kept by all that builds do to their progress
besides looking up types. Only look-ups inform. -/
structure IsKept (R : Progress → Progress → Prop) : Prop where
  cancelled : ∀ {p q}, R p q → q.cancelled = p.cancelled
  nextId : ∀ {p q}, R p q → q.nextId = p.nextId
  emit : ∀ {p q}, R p q → ∀ (d : Descriptor) (property : Option String) {severity : Severity}
    (text : String), severity ≠ .info →
      R (p.emit d property severity text) (q.emit d property severity text)
  addNode : ∀ {p q}, R p q → ∀ r, R (p.addNode r) (q.addNode r)
  take : ∀ {p q}, R p q → ∀ step, R (p.take step) (q.take step)
  wait : ∀ {p q}, R p q → ∀ mode, R (p.wait mode) (q.wait mode)
  hear : ∀ {p q}, R p q → ∀ mode asks, R (p.hear mode asks) (q.hear mode asks)
  log : ∀ {p q}, R p q → ∀ more, R { p with log := p.log ++ more } { q with log := q.log ++ more }
  next : ∀ {p q}, R p q → R { p with nextId := p.nextId + 1 } { q with nextId := q.nextId + 1 }

/-- Two parts of builds come to the same from related progress, and relate again. -/
def Echoes (R : Progress → Progress → Prop) (part part' : Progress → Stage α) : Prop :=
  ∀ p q, R p q → (part' q).value = (part p).value ∧ (part' q).halt = (part p).halt ∧
    R (part p).progress (part' q).progress

namespace Echoes

theorem exists_eq {part part' : Progress → Stage α} (h : Echoes R part part') {p q : Progress}
    (hpq : R p q) : ∃ value halt p' q', part p = ⟨value, p', halt⟩ ∧ part' q = ⟨value, q', halt⟩ ∧
      R p' q' := by
  obtain ⟨hvalue, hhalt, hprogress⟩ := h p q hpq
  exact ⟨_, _, _, _, rfl, by rw [← hvalue, ← hhalt], hprogress⟩

theorem done (value : α) {φ : Progress → Progress} (h : ∀ p q, R p q → R (φ p) (φ q)) :
    Echoes R (fun p => .done value (φ p)) fun q => .done value (φ q) :=
  fun p q hpq => ⟨rfl, rfl, h p q hpq⟩

theorem halted (value : α) (halt : Halt) {φ : Progress → Progress}
    (h : ∀ p q, R p q → R (φ p) (φ q)) :
    Echoes R (fun p => .halted value (φ p) halt) fun q => .halted value (φ q) halt :=
  fun p q hpq => ⟨rfl, rfl, h p q hpq⟩

/-- What comes after a part echoes if it does so however the part ends. -/
theorem seq {F F' : Progress → Stage α} {K L : Stage α → Stage β} (hF : Echoes R F F')
    (hK : ∀ value halt, Echoes R (fun p => K ⟨value, p, halt⟩) fun p => L ⟨value, p, halt⟩) :
    Echoes R (fun p => K (F p)) fun p => L (F' p) := by
  intro p q hpq
  obtain ⟨value, halt, p', q', hp, hq, hprogress⟩ := hF.exists_eq hpq
  dsimp only
  rw [hp, hq]
  exact hK value halt p' q' hprogress

theorem andThen {F F' : Progress → Stage α} {G G' : α → Progress → Stage α} (hF : Echoes R F F')
    (hG : ∀ value, Echoes R (G value) (G' value)) :
    Echoes R (fun p => (F p).andThen G) fun p => (F' p).andThen G' := by
  refine seq (K := fun st => st.andThen G) (L := fun st => st.andThen G') hF fun value halt => ?_
  cases halt with
  | some h => exact halted value h fun _ _ hpq => hpq
  | none => exact hG value

/-- A build that is asked to stop does so before a part. -/
theorem guarded (hR : IsKept R) {F F' : Progress → Stage α} (h : Echoes R F F') (value : α)
    (halt : Halt) : Echoes R (fun p => if p.cancelled then .halted value p halt else F p)
      fun q => if q.cancelled then .halted value q halt else F' q := by
  intro p q hpq
  dsimp only
  rw [hR.cancelled hpq]
  split
  · exact ⟨rfl, rfl, hpq⟩
  · exact h p q hpq

end Echoes

/-! ## Messages and results -/

section Parts

variable (hR : IsKept R) (d : Descriptor)
include hR

theorem emitAll_kept {p q : Progress} (h : R p q) (property : Option String) {severity : Severity}
    (hseverity : severity ≠ .info) (texts : List String) :
    R (p.emitAll d property severity texts) (q.emitAll d property severity texts) := by
  induction texts generalizing p q with
  | nil => exact h
  | cons text texts ih => exact ih (hR.emit h d property text hseverity)

theorem skipBelow_kept {p q : Progress} (h : R p q) (reason : String) :
    R (skipBelow d reason p) (skipBelow d reason q) := by
  have hfold : ∀ (ds : List Descriptor) {p q : Progress}, R p q →
      R (ds.foldl (fun p b => p.addNode (.ofState b.typeName .skipped b.source)) p)
        (ds.foldl (fun p b => p.addNode (.ofState b.typeName .skipped b.source)) q) := by
    intro ds
    induction ds with
    | nil => exact fun h => h
    | cons b ds ih => exact fun h => ih (hR.addNode h _)
  rw [skipBelow, skipBelow]
  split
  · exact hfold _ h
  · exact hR.emit (hfold _ h) d none _ (by decide)

theorem giveContext_kept {p q : Progress} (h : R p q) (context : Option Value) (n : Node) :
    (giveContext d context n q).1 = (giveContext d context n p).1 ∧
      R (giveContext d context n p).2 (giveContext d context n q).2 := by
  unfold giveContext
  split
  · exact ⟨rfl, h⟩
  · exact ⟨rfl, h⟩
  · exact ⟨rfl, hR.emit h d none _ (by decide)⟩

/-! ## Properties -/

variable (s : Setup)

theorem echoes_resolveHandle (handle : String) : Echoes R
    (fun p => .done (resolveHandle s d handle p).1 (resolveHandle s d handle p).2)
    fun q => .done (resolveHandle s d handle q).1 (resolveHandle s d handle q).2 := by
  have hwarn : ∀ {p q}, R p q → ∀ text,
      R (p.emit d none .warning text) (q.emit d none .warning text) := fun h text => hR.emit h d none text (by decide)
  intro p q h
  simp only [resolveHandle]
  cases s.resolver with
  | none => exact ⟨rfl, rfl, h⟩
  | some resolver =>
    dsimp only
    cases resolver handle with
    | value v => exact ⟨rfl, rfl, hR.take h _⟩
    | failed message => exact ⟨rfl, rfl, hwarn (hR.take h _) _⟩
    | later result =>
      dsimp only
      cases s.mode.waits with
      | false => exact ⟨rfl, rfl, hwarn h _⟩
      | true =>
        have hwaited := hR.take (hR.wait h s.mode) (.resolve handle)
        cases result with
        | ok v => exact ⟨rfl, rfl, hwaited⟩
        | error message => exact ⟨rfl, rfl, hwarn hwaited _⟩

theorem echoes_failAssignment (name value message : String) (w : Work) :
    Echoes R (failAssignment s d name value message w) (failAssignment s d name value message w) :=
  fun _ _ h => ⟨rfl, rfl, hR.emit h d (some name) _ (by decide)⟩

theorem echoes_bind (name target path : String) (w : Work) :
    Echoes R (bind s d name target path w) (bind s d name target path w) := by
  intro p q h
  have htaken := hR.take h (.bind w.node.id w.node.cls.name target path)
  simp only [bind]
  cases s.applier w.node target path with
  | ok node => exact ⟨rfl, rfl, htaken⟩
  | error message => exact echoes_failAssignment hR d s name path message w _ _ htaken

theorem echoes_assign (setter : Setter) (name value : String) (w : Work) :
    Echoes R (assign s d setter name value w) (assign s d setter name value w) := by
  intro p q h
  rw [assign, assign]
  generalize assignment s setter name value w.node = a
  have hheard := hR.log (hR.hear (hR.wait (hR.take h (.assign w.node.id name)) s.mode) s.mode
    a.cancels) a.log
  cases a.failure with
  | none => exact ⟨rfl, rfl, hheard⟩
  | some failure => exact echoes_failAssignment hR d s name value failure.message _ _ _ hheard

theorem echoes_dispatch (name value : String) (w : Work) :
    Echoes R (dispatch s d name value w) (dispatch s d name value w) := by
  intro p q h
  rw [dispatch, dispatch]
  split
  · split
    · exact ⟨rfl, rfl, h⟩
    · obtain ⟨hvalue, -, hprogress⟩ := echoes_resolveHandle hR d s value p q h
      refine ⟨?_, rfl, hprogress⟩
      exact congrArg (fun context => ({ w with context } : Work).count .applied) hvalue
  · split
    · exact echoes_assign hR d s _ name value w p q h
    · exact ⟨rfl, rfl, hR.emit h d (some name) _ (by decide)⟩

theorem echoes_validateAndDispatch (name value : String) (w : Work) :
    Echoes R (validateAndDispatch s d name value w) (validateAndDispatch s d name value w) := by
  intro p q h
  let found := check s d name value w.node
  have hwarned : R (p.emitAll d (some name) .warning found.warnings)
      (q.emitAll d (some name) .warning found.warnings) :=
    emitAll_kept hR d h (some name) (by decide) _
  rw [validateAndDispatch, validateAndDispatch]
  split
  · exact echoes_dispatch hR d s name value w _ _ hwarned
  · exact ⟨rfl, rfl, emitAll_kept hR d hwarned (some name) (by decide) _⟩

theorem echoes_applyProperty (entry : Property) (w : Work) :
    Echoes R (applyProperty s d entry w) (applyProperty s d entry w) := by
  refine Echoes.guarded hR ?_ w (.bare .cancelled)
  intro p q h
  split
  · exact ⟨rfl, rfl, h⟩
  · split
    · exact ⟨rfl, rfl, hR.emit h d _ _ (by decide)⟩
    · split
      · exact echoes_bind hR d s entry.name _ _ w p q h
      · exact echoes_validateAndDispatch hR d s entry.name _ w p q h

theorem echoes_applyProperties (entries : List Property) (w : Work) :
    Echoes R (applyProperties s d entries w) (applyProperties s d entries w) := by
  induction entries generalizing w with
  | nil => exact .done w fun _ _ h => h
  | cons entry rest ih => exact (echoes_applyProperty hR d s entry w).andThen ih

theorem echoes_groupContext : Echoes R
    (fun p => .done (groupContext s d p).1 (groupContext s d p).2)
    fun q => .done (groupContext s d q).1 (groupContext s d q).2 := by
  intro p q h
  simp only [groupContext]
  cases d.group with
  | none => exact ⟨rfl, rfl, h⟩
  | some group =>
    dsimp only
    split
    · exact ⟨rfl, rfl, h⟩
    · exact echoes_resolveHandle hR d s group p q h

end Parts

/-! ## Looking up types -/

/-- The look-ups of types by two builds come to types of which the same nodes are made. -/
def FindsAlike (R : Progress → Progress → Prop) (s s' : Setup) : Prop :=
  ∀ (d : Descriptor) (name : String) (p q : Progress), R p q →
    (findType s' d name q).value.map NodeType.create =
        (findType s d name p).value.map NodeType.create ∧
      (findType s' d name q).halt = (findType s d name p).halt ∧
      R (findType s d name p).progress (findType s' d name q).progress

/-- What follows a look-up echoes if it does so for types of which the same nodes are made. -/
theorem Echoes.ofLookup {s s' : Setup} (hfind : FindsAlike R s s') (d : Descriptor) (name : String)
    {K L : Stage (Option NodeType) → Stage (Option β)}
    (hK : ∀ found h, found.halt = some h → K found = .halted none found.progress h)
    (hL : ∀ found h, found.halt = some h → L found = .halted none found.progress h)
    (hunknown : Echoes R (fun p => K (.done none p)) fun q => L (.done none q))
    (hfound : ∀ t t' : NodeType, t'.create = t.create →
      Echoes R (fun p => K (.done (some t) p)) fun q => L (.done (some t') q)) :
    Echoes R (fun p => K (findType s d name p)) fun q => L (findType s' d name q) := by
  intro p q hpq
  obtain ⟨hvalue, hhalt, hprogress⟩ := hfind d name p q hpq
  dsimp only
  generalize findType s d name p = found at hvalue hhalt hprogress
  generalize findType s' d name q = found' at hvalue hhalt hprogress
  obtain ⟨value, p', halt⟩ := found
  obtain ⟨value', q', halt'⟩ := found'
  obtain rfl : halt' = halt := hhalt
  cases halt' with
  | some h =>
    rw [hK _ h rfl, hL _ h rfl]
    exact ⟨rfl, rfl, hprogress⟩
  | none =>
    cases value with
    | none =>
      obtain rfl : value' = none := Option.map_eq_none_iff.1 hvalue
      exact hunknown p' q' hprogress
    | some t =>
      obtain ⟨t', rfl, hcreate⟩ := Option.map_eq_some_iff.1 hvalue
      exact hfound t t' hcreate p' q' hprogress

/-- Properties are assigned without looking up types. -/
theorem applyProperties_registering (s : Setup) (on : Bool) (d : Descriptor)
    (entries : List Property) : applyProperties (s.registering on) d entries = applyProperties s d entries := by
  induction entries with
  | nil => rfl
  | cons entry rest ih =>
    funext w p
    have hone : applyProperty (s.registering on) d entry w p = applyProperty s d entry w p := rfl
    rw [applyProperties, applyProperties, hone, ih]

section Lookups

variable (hR : IsKept R) {s : Setup} {on : Bool} (hfind : FindsAlike R s (s.registering on))
include hR

theorem echoes_failNode (d : Descriptor) (fault : BuildFault) (reason : String) :
    Echoes R (failNode s d fault reason) (failNode (s.registering on) d fault reason) := by
  intro p q h
  have hnoted : R (noteFailed d fault p) (noteFailed d fault q) :=
    hR.emit (hR.addNode h _) d none _ (by decide)
  have hstop : (s.registering on).settings.stopOnError = s.settings.stopOnError := rfl
  rw [failNode, failNode, hstop]
  split
  · exact ⟨rfl, rfl, hnoted⟩
  · exact ⟨rfl, rfl, skipBelow_kept hR d hnoted reason⟩

include hfind

theorem echoes_createNode (d : Descriptor) :
    Echoes R (createNode s d) (createNode (s.registering on) d) := by
  have hafter : ∀ (s : Setup) (found : Stage (Option NodeType)) (h : Halt), found.halt = some h →
      afterLookup s d found = .halted none found.progress h := by
    intro s found h hh
    rw [afterLookup, hh]
  refine Echoes.ofLookup hfind d d.typeName (K := afterLookup s d)
    (L := afterLookup (s.registering on) d) (hafter s) (hafter _) ?_ fun t t' hcreate => ?_
  · exact echoes_failNode hR d _ _
  · intro p q h
    simp only [afterLookup, Stage.done, hcreate, hR.nextId h]
    cases t.create p.nextId with
    | ok n => exact ⟨rfl, rfl, hR.nextId h ▸ hR.take (hR.next h) _⟩
    | error message => exact echoes_failNode hR d _ _ p q h

/-- What follows the look-up of the type of a wrapper. `others` tries the other types. -/
def afterWrapperLookup (others : Progress → Stage (Option Node)) (found : Stage (Option NodeType)) :
    Stage (Option Node) :=
  match found.halt, found.value with
  | some h, _ => .halted none found.progress h
  | none, none => others found.progress
  | none, some t =>
    let p := found.progress
    match t.create p.nextId with
    | .ok w =>
      if w.cls.isContainer then .done (some w) { p with nextId := p.nextId + 1 } else others p
    | .error _ => others p

theorem echoes_createWrapper (d : Descriptor) (names : List String) :
    Echoes R (createWrapper s d names) (createWrapper (s.registering on) d names) := by
  have hafter : ∀ (others : Progress → Stage (Option Node)) (found : Stage (Option NodeType))
      (h : Halt), found.halt = some h →
        afterWrapperLookup others found = .halted none found.progress h := by
    intro others found h hh
    rw [afterWrapperLookup, hh]
  induction names with
  | nil => exact .done none fun _ _ h => h
  | cons name rest ih =>
    refine Echoes.ofLookup hfind d name (K := afterWrapperLookup (createWrapper s d rest))
      (L := afterWrapperLookup (createWrapper (s.registering on) d rest)) (hafter _) (hafter _) ih
      fun t t' hcreate p q h => ?_
    simp only [afterWrapperLookup, Stage.done, hcreate, hR.nextId h]
    cases t.create p.nextId with
    | ok w =>
      dsimp only
      split
      · exact ⟨rfl, rfl, hR.nextId h ▸ hR.next h⟩
      · exact ih p q h
    | error message => exact ih p q h

/-! ## Attaching nodes -/

theorem echoes_wrapContent (d : Descriptor) (f : Frame) (content : Node) :
    Echoes R (wrapContent s d f content) (wrapContent (s.registering on) d f content) := by
  have hwrappers : wrapperTypes (s.registering on) = wrapperTypes s := rfl
  intro p q h
  obtain ⟨made, halt, p', q', hp, hq, h⟩ :=
    (echoes_createWrapper hR hfind d (wrapperTypes s)).exists_eq h
  rw [wrapContent, wrapContent, hwrappers, hp, hq]
  rcases halt with _ | stop
  · rcases made with _ | w
    · exact ⟨rfl, rfl, hR.emit h d none _ (by decide)⟩
    · exact ⟨rfl, rfl, hR.emit (hR.take h _) d none _ (by decide)⟩
  · exact ⟨rfl, rfl, h⟩

theorem echoes_attach (d : Descriptor) (f : Frame) :
    Echoes R (attach s d f) (attach (s.registering on) d f) := by
  intro p q h
  rw [attach, attach]
  cases f.node.cls.capability with
  | content =>
    dsimp only
    rw [attachContent, attachContent]
    cases f.node.children with
    | nil =>
      dsimp only
      split
      · exact ⟨rfl, rfl, hR.emit h d none _ (by decide)⟩
      · exact ⟨rfl, rfl, h⟩
    | cons content rest =>
      cases f.wrapped with
      | true => exact ⟨rfl, rfl, h⟩
      | false => exact echoes_wrapContent hR hfind d f content p q h
  | leaf => exact ⟨rfl, rfl, hR.emit h d none _ (by decide)⟩
  | _ => exact ⟨rfl, rfl, h⟩

theorem echoes_finish (d : Descriptor) (f : Frame) (group : Option Value) (w : Work) :
    Echoes R (finish s d f group w) (finish (s.registering on) d f group w) := by
  intro p q h
  obtain ⟨hnode, h⟩ := giveContext_kept hR d h (w.context.or group) w.node
  simp only [finish, hnode]
  generalize (giveContext d (w.context.or group) w.node p).1 = n
  obtain ⟨⟨f', place⟩, halt, p', q', hp, hq, h⟩ := (echoes_attach hR hfind d f).exists_eq h
  rw [hp, hq]
  rcases halt with _ | stop
  · rcases place with _ | place
    · exact ⟨rfl, rfl, skipBelow_kept hR d (hR.take (hR.addNode h _) _) _⟩
    · have hattached := hR.take (hR.addNode h w.result) (.attach f'.node.id n.id)
      dsimp only
      split
      · exact ⟨rfl, rfl, skipBelow_kept hR d hattached _⟩
      · exact ⟨rfl, rfl, hattached⟩
  · exact ⟨rfl, rfl, h⟩

/-! ## Nodes -/

theorem echoes_afterProperties (d : Descriptor) (f : Frame) (group : Option Value) (w : Work)
    (halt : Option Halt) : Echoes R (fun p => afterProperties s d f group ⟨w, p, halt⟩)
      fun q => afterProperties (s.registering on) d f group ⟨w, q, halt⟩ := by
  intro p q h
  cases halt with
  | some stop => exact ⟨rfl, rfl, hR.addNode h _⟩
  | none =>
    obtain ⟨finished, halt, p', q', hp, hq, h⟩ := (echoes_finish hR hfind d f group w).exists_eq h
    simp only [afterProperties, hp, hq]
    cases halt with
    | some stop => exact ⟨rfl, rfl, h⟩
    | none => exact ⟨rfl, rfl, hR.wait h s.mode⟩

theorem echoes_afterCreation (d : Descriptor) (f : Frame) (made : Option Node)
    (halt : Option Halt) : Echoes R (fun p => afterCreation s d f ⟨made, p, halt⟩)
      fun q => afterCreation (s.registering on) d f ⟨made, q, halt⟩ := by
  have hgroup : groupContext (s.registering on) d = groupContext s d := rfl
  rcases halt with _ | h
  · cases made with
    | none => exact .done none fun _ _ h => h
    | some n =>
      simp only [afterCreation, fill, hgroup, applyProperties_registering]
      let w : Work := ⟨n, .ofState d.typeName .success d.source, none⟩
      refine (echoes_groupContext hR d s).seq
        (K := fun st => afterProperties s d f st.value
          (applyProperties s d d.properties w st.progress))
        (L := fun st => afterProperties (s.registering on) d f st.value
          (applyProperties s d d.properties w st.progress)) fun group _ => ?_
      exact (echoes_applyProperties hR d s d.properties w).seq
        fun w halt => echoes_afterProperties hR hfind d f group w halt
  · exact .halted none h fun _ _ h => h

theorem echoes_start (d : Descriptor) (f : Frame) :
    Echoes R (start s d f) (start (s.registering on) d f) := by
  refine Echoes.guarded hR ?_ none (.bare .cancelled)
  exact (echoes_createNode hR hfind d).seq (K := afterCreation s d f)
    (L := afterCreation (s.registering on) d f)
    fun made halt => echoes_afterCreation hR hfind d f made halt

end Lookups

/-! ## Forests -/

theorem echoes_afterStart {below below' : Frame → Progress → Stage Frame} (f : Frame)
    (hbelow : ∀ f, Echoes R (below f) (below' f)) (started : Option Finished) (halt : Option Halt) :
    Echoes R (fun p => afterStart below f ⟨started, p, halt⟩)
      fun q => afterStart below' f ⟨started, q, halt⟩ := by
  rcases halt with _ | h
  · rcases started with _ | ⟨frame, node, _ | place, _ | _⟩
    · exact .done f fun _ _ h => h
    · exact .done frame fun _ _ h => h
    · exact .done frame fun _ _ h => h
    · exact .done (frame.place node place) fun _ _ h => h
    · exact (hbelow ⟨node, false⟩).seq
        (K := fun below => ⟨frame.place below.value.node place, below.progress, below.halt⟩)
        (L := fun below => ⟨frame.place below.value.node place, below.progress, below.halt⟩)
        fun _ _ _ _ h => ⟨rfl, rfl, h⟩
  · exact .halted f h fun _ _ h => h

theorem echoes_afterFirst {rest rest' : Frame → Progress → Stage Frame}
    (hrest : ∀ f, Echoes R (rest f) (rest' f)) (first : Frame) (halt : Option Halt) :
    Echoes R (fun p => afterFirst rest ⟨first, p, halt⟩)
      fun q => afterFirst rest' ⟨first, q, halt⟩ := by
  cases halt with
  | none => exact hrest first
  | some h => exact .halted first h fun _ _ h => h

mutual

/-- **A node** is built alike by builds that find types alike. -/
theorem echoes_buildNode {s : Setup} {on : Bool} (hR : IsKept R)
    (hfind : FindsAlike R s (s.registering on)) : ∀ (d : Descriptor) (f : Frame),
    Echoes R (buildNode s d f) (buildNode (s.registering on) d f)
  | .mk typeName properties group children source, f => by
    rw [buildNode_eq, buildNode_eq]
    have hbelow := echoes_buildAll hR hfind children
    exact (echoes_start hR hfind _ f).seq
      fun started halt => echoes_afterStart f hbelow started halt

/-- **A forest** is built alike by builds that find types alike. -/
theorem echoes_buildAll {s : Setup} {on : Bool} (hR : IsKept R)
    (hfind : FindsAlike R s (s.registering on)) : ∀ (ds : List Descriptor) (f : Frame),
    Echoes R (buildAll s ds f) (buildAll (s.registering on) ds f)
  | [], f => fun p q h => by
    rw [buildAll, buildAll]
    exact ⟨rfl, rfl, h⟩
  | d :: rest, f => by
    rw [buildAll_cons, buildAll_cons]
    have hrest := echoes_buildAll hR hfind rest
    exact (echoes_buildNode hR hfind d f).seq fun first halt => echoes_afterFirst hrest first halt

end

end Build

end LayoutTree
