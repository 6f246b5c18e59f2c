import LayoutTree.Build.Forest
import LayoutTree.Proofs.Build.Advance

/-!
# All of a node but the nodes below it

What the building of one node can come to before the nodes below it are built: `Started` has one
case for each way, with the node results, the steps and the identities that go with it. The main
statement is `started`: there are no other ways.

Finding a place for a node is the part that changes the parent. The parent takes the node directly
or in a wrapper, which may have to be put around its content first (`HasRoom`).
-/

namespace LayoutTree

/-- A node result about a descriptor. -/
structure NodeResult.IsOf (r : NodeResult) (d : Descriptor) (state : NodeState) : Prop where
  typeName : r.typeName = d.typeName
  source : r.source = d.source
  state : r.state = state

/-- Whether a fault is that a node cannot be made. -/
def BuildFault.isOfCreation : BuildFault → Bool
  | .unknownType _ | .notCreated _ _ => true
  | _ => false

namespace Build

variable {known : NodeType → Prop} {p q : Progress}

/-! ## Nodes that are not built -/

/-- The results of the nodes below one that is not there. -/
def skippedBelow (d : Descriptor) : List NodeResult :=
  (Descriptor.walkAll d.children).map fun b => .ofState b.typeName .skipped b.source

/-- What is recorded one by one for the nodes below is recorded for all of them. -/
theorem rel_skipBelow {R : Progress → Progress → List NodeResult → Prop} (hrefl : ∀ p, R p p [])
    (haddNode : ∀ {p q r results}, R (p.addNode r) q results → R p q (r :: results))
    (hwarn : ∀ {p q results} d text, R p q results → R p (q.emit d none .warning text) results)
    (d : Descriptor) (reason : String) (p : Progress) :
    R p (skipBelow d reason p) (skippedBelow d) := by
  have hfold : ∀ (below : List Descriptor) (p : Progress), R p
      (below.foldl (fun p b => p.addNode (.ofState b.typeName .skipped b.source)) p)
      (below.map fun b => .ofState b.typeName .skipped b.source) := by
    intro below
    induction below with
    | nil => exact hrefl
    | cons b below ih => exact fun p => haddNode (ih _)
  rw [skippedBelow, Descriptor.walkAll_eq_flatMap, skipBelow]
  split
  · exact hfold _ p
  · exact hwarn d _ (hfold _ p)

theorem advances_skipBelow (d : Descriptor) (reason : String) (p : Progress) :
    Advances known p (skipBelow d reason p) 0 (skippedBelow d) [] :=
  rel_skipBelow (R := fun p q results => Advances known p q 0 results []) Still.refl
    (fun h => (Advances.addNode _ _).trans h) (fun _ _ h => h.still (.emit _ _ _ _ _)) d reason p

/-! ## Making a node -/

/-- A new node of the type that a name stands for. -/
structure NewNode (known : NodeType → Prop) (types : TypeRegistry) (name : String) (next : Nat)
    (n : Node) : Prop where
  id : n.id = next
  bare : n.children = []
  keeps : n.cls.KeepsChildren
  type : ∃ t n', types.resolve name = some t ∧ known t ∧ t.create next = .ok n' ∧ n.cls = n'.cls

theorem NewNode.of_sameObject {types types' : TypeRegistry} {name : String} {next : Nat}
    {n n' : Node} (h : NewNode known types name next n) (hle : types.Le types')
    (hn : n.SameObject n') : NewNode known types' name next n' := by
  obtain ⟨t, m, ht, hknown, hm, hcls⟩ := h.type
  exact ⟨hn.id.trans h.id, hn.children h.bare, hn.cls ▸ h.keeps,
    t, m, hle name t ht, hknown, hm, hn.cls.trans hcls⟩

/-- What making the node of a descriptor comes to. -/
inductive Created (known : NodeType → Prop) (d : Descriptor) (p : Progress) :
    Stage (Option Node) → Prop
  /-- A module cannot be used. -/
  | ended {q : Progress} {h : Halt} (still : Still known p q)
      (fault : ∃ m, h.fault = .noModule m) : Created known d p (.halted none q h)
  /-- There is no node, and the build ends. -/
  | refused {q : Progress} {h : Halt} {r : NodeResult} (adv : Advances known p q 0 [r] [])
      (result : r.IsOf d .failed) (fault : h.fault.isOfCreation = true) :
      Created known d p (.halted none q h)
  /-- There is no node, and the build goes on. -/
  | failed {q : Progress} {r : NodeResult} (adv : Advances known p q 0 (r :: skippedBelow d) [])
      (result : r.IsOf d .failed) : Created known d p (.done none q)
  | made {q : Progress} {n : Node} (adv : Advances known p q 1 [] [.create p.nextId])
      (new : NewNode known q.types d.typeName p.nextId n) : Created known d p (.done (some n) q)

theorem created_failNode (s : Setup) (d : Descriptor) {fault : BuildFault}
    (hfault : fault.isOfCreation = true) (reason : String) (h : Still known p q) :
    Created known d p (failNode s d fault reason q) := by
  have hadd : Advances known p ((q.addNode (.ofState d.typeName .failed d.source)).emit d none .error
      fault.message) 0 [.ofState d.typeName .failed d.source] [] :=
    (Advances.after h (.addNode _ _)).still (.emit _ _ _ _ _)
  rw [failNode]
  split
  · exact .refused hadd ⟨rfl, rfl, rfl⟩ hfault
  · exact .failed (hadd.trans (advances_skipBelow d reason _)) ⟨rfl, rfl, rfl⟩

theorem created {s : Setup} (hs : s.Behaves known) (hnew : ∀ t, known t → t.MakesNew)
    (d : Descriptor) (hp : p.types.All known) : Created known d p (createNode s d p) := by
  have hfind := findsType hs.modules d d.typeName p
  rw [createNode]
  cases hhalt : (findType s d d.typeName p).halt with
  | some h => exact .ended hfind.still (hfind.halt h hhalt)
  | none =>
    cases hvalue : (findType s d d.typeName p).value with
    | none => exact created_failNode s d rfl _ hfind.still
    | some t =>
      have ht := hfind.resolve t hvalue
      have hknown : known t := (hfind.still.known hp).of_resolve ht
      have hid : (findType s d d.typeName p).progress.nextId = p.nextId := hfind.still.nextId
      dsimp only
      split
      · next n hn =>
        rw [hid] at hn
        obtain ⟨hn1, hn2, hn3⟩ := hnew t hknown _ _ hn
        have hmade := (Advances.after hfind.still (.next _)).trans
          (.take _ (rfl : (BuildStep.create n.id).isStructural = true))
        rw [hn1] at hmade
        exact .made (hn1 ▸ hmade) ⟨hn1, hn2, hn3, t, n, ht, hknown, hn, rfl⟩
      · exact created_failNode s d rfl _ hfind.still

/-! ## Finding a place -/

/-- A node with children in progress: it keeps its children, and holds at most one if that is its
content. A wrapper is the content of such a node, and a panel. -/
structure Frame.Fits (f : Frame) : Prop where
  keeps : f.node.cls.KeepsChildren
  single : f.node.cls.capability = .content → f.node.children.length ≤ 1
  wrapper : f.wrapped = true → f.node.cls.capability = .content ∧
    ∃ w, f.node.children = [w] ∧ w.cls.capability = .panel

/-- Room for a child, with the steps that make it. -/
inductive HasRoom (f : Frame) (next : Nat) : Frame → Place → List BuildStep → Prop
  | direct (takes : f.node.cls.capability ≠ .leaf)
      (empty : f.node.cls.capability = .content → f.node.children = []) :
      HasRoom f next f .direct []
  | inside (wrapped : f.wrapped = true) : HasRoom f next f .inWrapper []
  | wrapped {content w : Node} (single : f.node.cls.capability = .content)
      (children : f.node.children = [content]) (unwrapped : f.wrapped = false) (id : w.id = next)
      (bare : w.children = []) (panel : w.cls.capability = .panel) :
      HasRoom f next (f.wrap content w) .inWrapper [.wrap f.node.id next]

/-- What making a wrapper comes to. -/
inductive Wraps (known : NodeType → Prop) (p : Progress) : Stage (Option Node) → Prop
  | ended {q : Progress} {h : Halt} (still : Still known p q)
      (fault : ∃ m, h.fault = .noModule m) : Wraps known p (.halted none q h)
  | none {q : Progress} (still : Still known p q) : Wraps known p (.done none q)
  | made {q : Progress} {w : Node} (adv : Advances known p q 1 [] []) (id : w.id = p.nextId)
      (bare : w.children = []) (panel : w.cls.capability = .panel) :
      Wraps known p (.done (some w) q)

theorem Wraps.after {st : Stage (Option Node)} (hp : Still known p q) (h : Wraps known q st) :
    Wraps known p st := by
  cases h with
  | ended still fault => exact .ended (hp.trans still) fault
  | none still => exact .none (hp.trans still)
  | made adv id bare panel => exact .made (Advances.after hp adv) (id.trans hp.nextId) bare panel

theorem wraps {s : Setup} (hs : s.Behaves known) (hnew : ∀ t, known t → t.MakesNew) (d : Descriptor)
    (names : List String) (hp : p.types.All known) :
    Wraps known p (createWrapper s d names p) := by
  induction names generalizing p with
  | nil => exact .none (.refl p)
  | cons name rest ih =>
    have hfind := findsType hs.modules d name p
    rw [createWrapper]
    cases hhalt : (findType s d name p).halt with
    | some h => exact .ended hfind.still (hfind.halt h hhalt)
    | none =>
      cases hvalue : (findType s d name p).value with
      | none => exact (ih (hfind.still.known hp)).after hfind.still
      | some t =>
        have hknown := (hfind.still.known hp).of_resolve (hfind.resolve t hvalue)
        dsimp only
        split
        · next w hw =>
          obtain ⟨hid, hbare, hkeeps⟩ := hnew t hknown _ _ hw
          split
          · next hcontainer =>
            have hpanel : w.cls.capability = .panel := by
              rw [NodeClass.isContainer] at hcontainer
              split at hcontainer
              · next h => exact h
              · next h => exact absurd h (hkeeps _)
              · cases hcontainer
            exact .made (Advances.after hfind.still (.next _)) (hid.trans hfind.still.nextId) hbare
              hpanel
          · exact (ih (hfind.still.known hp)).after hfind.still
        · exact (ih (hfind.still.known hp)).after hfind.still

/-- What finding a place for a child comes to. -/
inductive Attached (known : NodeType → Prop) (f : Frame) (p : Progress) :
    Stage (Frame × Option Place) → Prop
  | ended {q : Progress} {h : Halt} (still : Still known p q)
      (fault : ∃ m, h.fault = .noModule m) : Attached known f p (.halted (f, none) q h)
  | refused {q : Progress} (still : Still known p q) : Attached known f p (.done (f, none) q)
  | placed {q : Progress} {f' : Frame} {place : Place} {steps : List BuildStep}
      (room : HasRoom f p.nextId f' place steps) (adv : Advances known p q steps.length [] steps) :
      Attached known f p (.done (f', some place) q)

theorem attached {s : Setup} (hs : s.Behaves known) (hnew : ∀ t, known t → t.MakesNew)
    (d : Descriptor) {f : Frame} (hf : f.Fits) (hp : p.types.All known) :
    Attached known f p (attach s d f p) := by
  rw [attach]
  split
  · next hcap =>
    rw [attachContent]
    split
    · next hnone =>
      have hroom : HasRoom f p.nextId f .direct [] := .direct (by rw [hcap]; nofun) fun _ => hnone
      dsimp only
      split
      · exact .placed hroom (Still.emit _ _ _ _ _)
      · exact .placed hroom (Still.refl p)
    · next content rest hchildren =>
      split
      · next hwrapped => exact .placed (.inside hwrapped) (Still.refl p)
      · next hunwrapped =>
        have hrest : rest = [] := by
          have hlen := hf.single hcap
          rw [hchildren, List.length_cons] at hlen
          exact List.length_eq_zero_iff.1 (by omega)
        have hwraps := wraps hs hnew d (wrapperTypes s) hp
        rw [wrapContent]
        generalize createWrapper s d (wrapperTypes s) p = made at hwraps
        cases hwraps with
        | ended still fault => exact .ended still fault
        | none still => exact .refused (still.trans (.emit _ _ _ _ _))
        | @made q w adv id bare panel =>
          have hroom : HasRoom f p.nextId (f.wrap content w) .inWrapper
              [.wrap f.node.id p.nextId] :=
            .wrapped hcap (hrest ▸ hchildren) (by simpa using hunwrapped) id bare panel
          have hstep : Advances known p (q.take (.wrap f.node.id w.id)) 1 []
              [.wrap f.node.id p.nextId] := by
            rw [← id]
            exact adv.trans (.take q rfl)
          exact .placed hroom (hstep.still (.emit _ _ _ _ _))
  · exact .refused (.emit _ _ _ _ _)
  · next hcontent hleaf => exact .placed (.direct hleaf fun h => absurd h hcontent) (Still.refl p)

/-! ## Finishing a node -/

theorem sameObject_giveContext (d : Descriptor) (context : Option Value) (n : Node) (p : Progress) :
    n.SameObject (giveContext d context n p).1 := by
  unfold giveContext
  split
  · exact .refl n
  · exact ⟨rfl, rfl, fun h => h⟩
  · exact .refl n

/-- What finishing a node comes to. -/
inductive Finishes (known : NodeType → Prop) (d : Descriptor) (f : Frame) (n : Node)
    (r : NodeResult) (p : Progress) : Stage Finished → Prop
  | ended {q : Progress} {h : Halt} {x : Finished} (still : Still known p q)
      (fault : ∃ m, h.fault = .noModule m) : Finishes known d f n r p (.halted x q h)
  | dropped {q : Progress} {n' : Node} (same : n.SameObject n')
      (adv : Advances known p q 0 ({ r with state := .skipped } :: skippedBelow d) [.drop n.id]) :
      Finishes known d f n r p (.done ⟨f, n', none, false⟩ q)
  | placed {q : Progress} {n' : Node} {f' : Frame} {place : Place} {steps : List BuildStep}
      {goesOn : Bool} (same : n.SameObject n') (room : HasRoom f p.nextId f' place steps)
      (adv : Advances known p q steps.length (r :: if goesOn then [] else skippedBelow d)
        (steps ++ [.attach f.node.id n.id])) :
      Finishes known d f n r p (.done ⟨f', n', some place, goesOn⟩ q)

theorem HasRoom.id_eq {f f' : Frame} {next : Nat} {place : Place} {steps : List BuildStep}
    (h : HasRoom f next f' place steps) : f'.node.id = f.node.id := by
  cases h <;> rfl

theorem finishes {s : Setup} (hs : s.Behaves known) (hnew : ∀ t, known t → t.MakesNew)
    (d : Descriptor) {f : Frame} (hf : f.Fits) (group : Option Value) (w : Work)
    (hp : p.types.All known) :
    Finishes known d f w.node w.result p (finish s d f group w p) := by
  have hsame := sameObject_giveContext d (w.context.or group) w.node p
  have hcontext : Still known p (giveContext d (w.context.or group) w.node p).2 :=
    rel_giveContext Still.allowsLookup d (w.context.or group) w.node p
  rw [finish]
  dsimp only
  generalize giveContext d (w.context.or group) w.node p = given at hsame hcontext ⊢
  obtain ⟨n, q⟩ := given
  have hattached := attached hs hnew d hf (hcontext.known hp)
  generalize attach s d f q = found at hattached ⊢
  cases hattached with
  | ended still fault => exact .ended (hcontext.trans still) fault
  | @refused q' still =>
    have hdrop : Advances known p ((q'.addNode { w.result with state := .skipped }).take (.drop n.id))
        0 [{ w.result with state := .skipped }] [.drop w.node.id] := by
      rw [← hsame.id]
      exact Advances.after (hcontext.trans still) ((Advances.addNode _ _).trans (.take _ rfl))
    exact .dropped hsame (hdrop.trans (advances_skipBelow d _ _))
  | @placed q' f' place steps room adv =>
    have hnext : q.nextId = p.nextId := hcontext.nextId
    rw [hnext] at room
    have hplaced : Advances known p ((q'.addNode w.result).take (.attach f'.node.id n.id))
        steps.length [w.result] (steps ++ [.attach f.node.id w.node.id]) := by
      rw [← hsame.id, room.id_eq]
      simpa using
        (Advances.after hcontext adv).trans ((Advances.addNode q' w.result).trans (.take _ rfl))
    have hclosed : ∀ reason, Finishes known d f w.node w.result p (.done ⟨f', n, some place, false⟩
        (skipBelow d reason ((q'.addNode w.result).take (.attach f'.node.id n.id)))) := fun reason =>
      .placed hsame room (by simpa using hplaced.trans (advances_skipBelow d reason _))
    have hopen : Finishes known d f w.node w.result p (.done ⟨f', n, some place, true⟩
        ((q'.addNode w.result).take (.attach f'.node.id n.id))) :=
      .placed hsame room (by simpa using hplaced)
    change Finishes known d f w.node w.result p
      (if !d.children.isEmpty && !n.cls.holdsChildren then _ else _)
    split
    · exact hclosed _
    · exact hopen

/-! ## The start of a node -/

/-- What all of a node but the nodes below it comes to. -/
inductive Started (known : NodeType → Prop) (d : Descriptor) (f : Frame) (p : Progress) :
    Stage (Option Finished) → Prop
  /-- The build ends before the node is made. -/
  | ended {q : Progress} {h : Halt} (still : Still known p q)
      (fault : h.fault = .cancelled ∨ ∃ m, h.fault = .noModule m) :
      Started known d f p (.halted none q h)
  /-- The node cannot be made, and the build ends. -/
  | refused {q : Progress} {h : Halt} {r : NodeResult} (adv : Advances known p q 0 [r] [])
      (result : r.IsOf d .failed) (fault : h.fault.isOfCreation = true) :
      Started known d f p (.halted none q h)
  /-- The node cannot be made, and the build goes on. -/
  | failed {q : Progress} {r : NodeResult} (adv : Advances known p q 0 (r :: skippedBelow d) [])
      (result : r.IsOf d .failed) : Started known d f p (.done none q)
  /-- The build ends at a property of the node, whose result says that it is built. -/
  | abandoned {q : Progress} {h : Halt} {r : NodeResult}
      (adv : Advances known p q 1 [r] [.create p.nextId]) (result : r.IsOf d .success)
      (fault : h.fault.isOfProperty = true) : Started known d f p (.halted none q h)
  /-- The build ends at a wrapper for the node. -/
  | stuck {q : Progress} {h : Halt} (adv : Advances known p q 1 [] [.create p.nextId])
      (fault : ∃ m, h.fault = .noModule m) : Started known d f p (.halted none q h)
  /-- The parent cannot take the node. -/
  | dropped {q : Progress} {r : NodeResult} {n : Node}
      (adv : Advances known p q 1 (r :: skippedBelow d) [.create p.nextId, .drop p.nextId])
      (result : r.IsOf d .skipped) : Started known d f p (.done (some ⟨f, n, none, false⟩) q)
  /-- The parent has room for the node. -/
  | placed {q : Progress} {r : NodeResult} {n : Node} {f' : Frame} {place : Place}
      {steps : List BuildStep} {goesOn : Bool} (room : HasRoom f (p.nextId + 1) f' place steps)
      (new : NewNode known q.types d.typeName p.nextId n)
      (adv : Advances known p q (1 + steps.length) (r :: if goesOn then [] else skippedBelow d)
        (.create p.nextId :: (steps ++ [.attach f.node.id p.nextId])))
      (result : r.IsOf d .success) :
      Started known d f p (.done (some ⟨f', n, some place, goesOn⟩) q)

/-- A node whose properties are assigned is dropped or placed, unless the build ends at a wrapper. -/
theorem started_finish {s : Setup} (hs : s.Behaves known) (hnew : ∀ t, known t → t.MakesNew)
    (d : Descriptor) {f : Frame} (hf : f.Fits) (hp : p.types.All known) (group : Option Value)
    {w : Work} (hfill : Advances known p q 1 [] [.create p.nextId])
    (hresult : w.result.IsOf d .success)
    (hnode : NewNode known q.types d.typeName p.nextId w.node) :
    Started known d f p (match (finish s d f group w q).halt with
      | some h => .halted none (finish s d f group w q).progress h
      | none => .done (some (finish s d f group w q).value)
          ((finish s d f group w q).progress.wait s.mode)) := by
  have hfinishes := finishes hs hnew d hf group w (hfill.known hp)
  generalize finish s d f group w q = finished at hfinishes ⊢
  cases hfinishes with
  | ended still fault => exact .stuck (hfill.still still) fault
  | @dropped q' n' same adv =>
    rw [hnode.id] at adv
    have hdropped : Advances known p q' 1
        ({ w.result with state := .skipped } :: skippedBelow d)
        [.create p.nextId, .drop p.nextId] := by
      simpa using hfill.trans adv
    exact .dropped (hdropped.still (.wait _ _)) ⟨hresult.typeName, hresult.source, rfl⟩
  | @placed q' n' f' place steps goesOn same room adv =>
    rw [hfill.nextId] at room
    rw [hnode.id] at adv
    have hplaced : Advances known p q' (1 + steps.length)
        (w.result :: if goesOn then [] else skippedBelow d)
        (.create p.nextId :: (steps ++ [.attach f.node.id p.nextId])) := by
      simpa using hfill.trans adv
    have hwait : Still known q' (q'.wait s.mode) := .wait _ _
    exact .placed room (hnode.of_sameObject (adv.types.trans hwait.types) same)
      (hplaced.still hwait) hresult

/-- **The building of one node** comes to one of the cases of `Started`. -/
theorem started {s : Setup} (hs : s.Behaves known) (hnew : ∀ t, known t → t.MakesNew)
    (d : Descriptor) {f : Frame} (hf : f.Fits) (hp : p.types.All known) :
    Started known d f p (start s d f p) := by
  rw [start]
  split
  · exact .ended (.refl p) (Or.inl rfl)
  · have hcreated := created hs hnew d hp
    dsimp only
    generalize createNode s d p = made at hcreated ⊢
    cases hcreated with
    | ended still fault => exact .ended still (Or.inr fault)
    | refused adv result fault => exact .refused adv result fault
    | failed adv result => exact .failed adv result
    | @made q n adv new =>
      have hgroup : Still known q (groupContext s d q).2 := rel_groupContext Still.allowsLookup s d q
      have hassigns := @assigns_applyProperties known s d d.properties
        ⟨n, .ofState d.typeName .success d.source, none⟩ (groupContext s d q).2
      dsimp only [Stage.done, fill]
      generalize applyProperties s d d.properties _ _ = filled at hassigns ⊢
      obtain ⟨w, q', halt⟩ := filled
      have hfill : Advances known p q' 1 [] [.create p.nextId] :=
        adv.still (hgroup.trans hassigns.still)
      have hresult : w.result.IsOf d .success :=
        ⟨hassigns.typeName, hassigns.source, hassigns.state⟩
      cases halt with
      | some h =>
        exact .abandoned (by simpa using hfill.trans (.addNode q' w.result)) hresult
          (hassigns.halt h rfl).1
      | none =>
        exact started_finish hs hnew d hf hp _ hfill hresult
          (new.of_sameObject (hgroup.trans hassigns.still).types (hassigns.node hs))

end Build

end LayoutTree
