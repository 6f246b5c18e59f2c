import LayoutTree.Proofs.Build.Growth

/-!
# The nodes that a build comes to

A build comes to one node after the other, and all that it does is done at one of them: `visitsAll`
lists them with the progress at that time and the tree as it then stands. The build goes from each
to the next (`Course`), so what holds from one visit to the next holds of a whole build. The nodes
that are attached are read off the visits (`attachments`), each with its descriptor and that of the
node above it.

Two builds of the same descriptors are compared visit by visit (`Parts`): if one of them can only
differ from the other by ending, then it does the same up to the first visit at which the two
differ, and ends there.
-/

namespace LayoutTree

/-- A part of a build with another progress, which is told by the one that it has. -/
def Stage.on {α : Type} (φ : Progress → Progress) (st : Stage α) : Stage α :=
  { st with progress := φ st.progress }

namespace Build

/-- A node that a build comes to. -/
structure Visit where
  descriptor : Descriptor
  /-- The descriptor above it, unless it is at the top. -/
  under : Option Descriptor
  /-- The node that it is to be attached to. -/
  parent : Frame
  /-- The node at the top, with all that is attached below it so far. -/
  top : Frame
  progress : Progress

namespace Visit

/-- What the build does at a node, before it comes to the nodes below. -/
def start (s : Setup) (v : Visit) : Stage (Option Finished) :=
  Build.start s v.descriptor v.parent v.progress

/-- A visit below a node as one below its parent. -/
def within (parent : Frame) (place : Place) (v : Visit) : Visit :=
  { v with top := parent.place v.top.node place }

end Visit

mutual

/-- The nodes that the building of a descriptor comes to, in order. -/
def visitsNode (s : Setup) (under : Option Descriptor) :
    Descriptor → Frame → Progress → List Visit
  | .mk typeName properties group children source, f, p =>
    let d : Descriptor := ⟨typeName, properties, group, children, source⟩
    let started := start s d f p
    let below := match started.halt, started.value with
      | none, some ⟨parent, node, some place, true⟩ =>
        (visitsAll s (some d) children ⟨node, false⟩ started.progress).map (.within parent place)
      | _, _ => []
    ⟨d, under, f, f, p⟩ :: below

/-- The nodes that the building of descriptors comes to, in order. -/
def visitsAll (s : Setup) (under : Option Descriptor) :
    List Descriptor → Frame → Progress → List Visit
  | [], _, _ => []
  | d :: rest, f, p =>
    let first := buildNode s d f p
    let others := match first.halt with
      | some _ => []
      | none => visitsAll s under rest first.value first.progress
    visitsNode s under d f p ++ others

end

/-! ## From visit to visit -/

/-- A build goes on from a progress, comes to some nodes one after the other, and arrives at another
progress, where it may end. -/
inductive Course (s : Setup) : Progress → List Visit → Progress → Option Halt → Prop
  | nil (p : Progress) : Course s p [] p none
  | ended {v : Visit} {h : Halt} (halt : (v.start s).halt = some h) :
      Course s v.progress [v] (v.start s).progress (some h)
  | cons {v : Visit} {vs : List Visit} {q : Progress} {halt : Option Halt}
      (goesOn : (v.start s).halt = none) (rest : Course s (v.start s).progress vs q halt) :
      Course s v.progress (v :: vs) q halt

namespace Course

variable {s : Setup} {p q q' : Progress} {vs vs' : List Visit} {halt : Option Halt}

theorem append (h : Course s p vs q none) (h' : Course s q vs' q' halt) :
    Course s p (vs ++ vs') q' halt := by
  generalize hnone : (none : Option Halt) = halt₀ at h
  induction h with
  | nil => exact h'
  | ended => cases hnone
  | cons goesOn _ ih => exact .cons goesOn (ih h' hnone)

theorem within (parent : Frame) (place : Place) (h : Course s p vs q halt) :
    Course s p (vs.map (.within parent place)) q halt := by
  induction h with
  | nil p => exact .nil p
  | @ended v h hhalt => exact @ended s (v.within parent place) h hhalt
  | @cons v vs q halt goesOn _ ih => exact @cons s (v.within parent place) _ q halt goesOn ih

end Course

mutual

/-- **The building of a descriptor** goes from visit to visit. -/
theorem course_buildNode (s : Setup) (under : Option Descriptor) :
    ∀ (d : Descriptor) (f : Frame) (p : Progress), Course s p (visitsNode s under d f p)
      (buildNode s d f p).progress (buildNode s d f p).halt
  | .mk typeName properties group children source, f, p => by
    let v : Visit := ⟨⟨typeName, properties, group, children, source⟩, under, f, f, p⟩
    have hbelow := course_buildAll s (some v.descriptor) children
    have hv : start s v.descriptor f p = v.start s := rfl
    rw [buildNode, visitsNode]
    dsimp only
    rw [hv]
    cases hhalt : (v.start s).halt with
    | some h => exact .ended hhalt
    | none =>
      rcases hvalue : (v.start s).value with _ | ⟨parent, node, _ | place, _ | _⟩
      · exact .cons hhalt (.nil _)
      · exact .cons hhalt (.nil _)
      · exact .cons hhalt (.nil _)
      · exact .cons hhalt (.nil _)
      · exact .cons hhalt ((hbelow ⟨node, false⟩ _).within parent place)

/-- **The building of descriptors** goes from visit to visit. -/
theorem course_buildAll (s : Setup) (under : Option Descriptor) :
    ∀ (ds : List Descriptor) (f : Frame) (p : Progress), Course s p (visitsAll s under ds f p)
      (buildAll s ds f p).progress (buildAll s ds f p).halt
  | [], f, p => by
    rw [buildAll, visitsAll]
    exact .nil p
  | d :: rest, f, p => by
    have hfirst := course_buildNode s under d f p
    have hrest := course_buildAll s under rest
    rw [buildAll, visitsAll]
    generalize buildNode s d f p = first at hfirst ⊢
    obtain ⟨f', q, halt⟩ := first
    cases halt with
    | some h =>
      rw [List.append_nil]
      exact hfirst
    | none => exact hfirst.append (hrest f' q)

end

namespace Course

variable {s : Setup} {p q : Progress} {vs : List Visit} {halt : Option Halt}

/-- A build up to one of the nodes that it comes to, and from there on. -/
theorem split {before after : List Visit} {v : Visit}
    (h : Course s p (before ++ v :: after) q halt) :
    Course s p before v.progress none ∧ Course s v.progress (v :: after) q halt := by
  induction before generalizing p with
  | nil =>
    obtain rfl : v.progress = p := by cases h <;> rfl
    exact ⟨.nil _, h⟩
  | cons u before ih =>
    rw [List.cons_append] at h
    generalize hvs : before ++ v :: after = vs at h
    cases h with
    | ended => exact absurd hvs (by simp)
    | cons goesOn rest =>
      obtain ⟨hbefore, hafter⟩ := ih (hvs ▸ rest)
      exact ⟨.cons goesOn hbefore, hafter⟩

/-- What all visits record and attach is what the build does, one after the other. -/
theorem adds (kind : NodeResult → Prop) (h : Course s p vs q halt)
    (hvisit : ∀ v ∈ vs, ∃ results, (∀ r ∈ results, kind r) ∧
      Grows v.progress (v.start s).progress results (attachedBy (v.start s).value)) :
    ∃ results, (∀ r ∈ results, kind r) ∧
      Grows p q results (vs.flatMap fun v => attachedBy (v.start s).value) := by
  induction h with
  | nil p => exact ⟨[], nofun, Notes.refl p⟩
  | @ended v h hhalt =>
    obtain ⟨results, hkind, hadds⟩ := hvisit v (List.mem_singleton_self v)
    exact ⟨results, hkind, by rwa [List.flatMap_singleton]⟩
  | cons goesOn _ ih =>
    obtain ⟨⟨results, hkind, hadds⟩, hrest⟩ := List.forall_mem_cons.1 hvisit
    obtain ⟨results', hkind', hadds'⟩ := ih hrest
    refine ⟨results ++ results', fun r hr => ?_, hadds.trans hadds'⟩
    exact (List.mem_append.1 hr).elim (hkind r) (hkind' r)

/-- What every visit keeps holds at each of them, and at the end. -/
theorem forall_progress {P : Progress → Prop} (h : Course s p vs q halt) (hp : P p)
    (hkept : ∀ v : Visit, P v.progress → P (v.start s).progress) :
    (∀ v ∈ vs, P v.progress) ∧ P q := by
  induction h with
  | nil => exact ⟨nofun, hp⟩
  | ended => exact ⟨List.forall_mem_singleton.2 hp, hkept _ hp⟩
  | cons _ _ ih =>
    obtain ⟨hvisits, hend⟩ := ih (hkept _ hp)
    exact ⟨List.forall_mem_cons.2 ⟨hp, hvisits⟩, hend⟩

theorem exists_grows (h : Course s p vs q halt) : ∃ results,
    Grows p q results (vs.flatMap fun v => attachedBy (v.start s).value) := by
  obtain ⟨results, -, hadds⟩ := h.adds (fun _ => True) fun v _ => by
    obtain ⟨⟨results, hadds⟩, -⟩ := grows_start s v.descriptor v.parent v.progress
    exact ⟨results, fun _ _ => trivial, hadds⟩
  exact ⟨results, hadds⟩

/-- A build that ends does so at one of the nodes that it comes to. -/
theorem exists_halt (hcourse : Course s p vs q halt) {h : Halt} (hhalt : halt = some h) :
    ∃ v ∈ vs, (v.start s).halt = some h := by
  induction hcourse with
  | nil => cases hhalt
  | @ended v _ hv => exact ⟨v, List.mem_singleton_self v, hv.trans hhalt⟩
  | cons _ _ ih =>
    obtain ⟨v, hv, hend⟩ := ih hhalt
    exact ⟨v, List.mem_cons_of_mem _ hv, hend⟩

/-- A build goes on from its first visit, unless it ends there. -/
theorem first {v : Visit} (h : Course s v.progress (v :: vs) q halt) :
    (∃ results attached, Grows (v.start s).progress q results attached) ∧
      ((v.start s).halt = none ∨ (v.start s).halt = halt) := by
  generalize hp : v.progress = p at h
  generalize hvs : v :: vs = ws at h
  cases h with
  | nil => cases hvs
  | ended hhalt =>
    obtain ⟨rfl, -⟩ := List.cons.inj hvs
    exact ⟨⟨[], [], Notes.refl _⟩, .inr hhalt⟩
  | cons goesOn rest =>
    obtain ⟨rfl, -⟩ := List.cons.inj hvs
    obtain ⟨results, hadds⟩ := rest.exists_grows
    exact ⟨⟨results, _, hadds⟩, .inl goesOn⟩

/-- A module that cannot be used at a visit ends the build. -/
theorem endsAtModule_of_first {v : Visit} (h : Course s v.progress (v :: vs) q halt)
    (hmodule : EndsAtModule (v.start s).halt) : EndsAtModule halt := by
  rcases h.first.2 with hnone | hsome
  · obtain ⟨h, hh, -⟩ := hmodule
    rw [hnone] at hh
    cases hh
  · exact hsome ▸ hmodule

end Course

/-! ## Attachments -/

/-- A node that is attached to another. -/
structure Attachment where
  descriptor : Descriptor
  /-- The descriptor of the node that it is attached to, unless that is the container. -/
  under : Option Descriptor
  /-- The identity of the node that it is attached to. -/
  parent : Nat
  /-- Its own identity. -/
  node : Nat

/-- The attachment at a visit, if the node is attached. -/
def Visit.attachment? (s : Setup) (v : Visit) : Option Attachment :=
  ((v.start s).value.bind Finished.attachment?).map fun ids => ⟨v.descriptor, v.under, ids.1, ids.2⟩

/-- The attachments of a build that comes to some nodes, in order. -/
def attachments (s : Setup) (vs : List Visit) : List Attachment :=
  vs.filterMap (Visit.attachment? s)

/-- A node is attached to the one that the visit comes from. -/
theorem Visit.parent_of_attachment? {s : Setup} {v : Visit} {a : Attachment}
    (h : v.attachment? s = some a) : a.under = v.under ∧ a.parent = v.parent.node.id := by
  obtain ⟨ids, hids, rfl⟩ := Option.map_eq_some_iff.1 h
  obtain ⟨x, hx, hplace⟩ := Option.bind_eq_some_iff.1 hids
  obtain ⟨place, -, rfl⟩ := Option.map_eq_some_iff.1 hplace
  exact ⟨rfl, (grows_start s v.descriptor v.parent v.progress).2 x hx⟩

/-- The attachments are the steps in which nodes are attached. -/
theorem ids_attachments (s : Setup) (vs : List Visit) :
    (attachments s vs).map (fun a => (a.parent, a.node)) =
      vs.flatMap fun v => attachedBy (v.start s).value := by
  induction vs with
  | nil => rfl
  | cons v vs ih =>
    rw [List.flatMap_cons, ← ih, attachments, List.filterMap_cons, Visit.attachment?, attachedBy]
    cases (v.start s).value.bind Finished.attachment? <;> rfl

theorem attachments_append (s : Setup) (vs vs' : List Visit) :
    attachments s (vs ++ vs') = attachments s vs ++ attachments s vs' :=
  List.filterMap_append

theorem attachments_cons_of_value {s : Setup} {v : Visit} {x : Finished} {ids : Nat × Nat}
    (hvalue : (v.start s).value = some x) (hids : x.attachment? = some ids) (vs : List Visit) :
    attachments s (v :: vs) = ⟨v.descriptor, v.under, ids.1, ids.2⟩ :: attachments s vs := by
  have hv : v.attachment? s = some ⟨v.descriptor, v.under, ids.1, ids.2⟩ := by
    rw [Visit.attachment?, hvalue, Option.bind_some, hids, Option.map_some]
  exact List.filterMap_cons_some hv

/-- Visits below a node attach the same, seen from its parent. -/
theorem attachments_within (s : Setup) (parent : Frame) (place : Place) (vs : List Visit) :
    attachments s (vs.map (.within parent place)) = attachments s vs := by
  rw [attachments, List.filterMap_map]
  rfl

/-- The parent at a visit is the node at the top, or a node that was attached before for the
descriptor above. -/
def Visit.IsBelow (under : Option Descriptor) (id : Nat) (attached : List Attachment) (v : Visit) :
    Prop :=
  v.under = under ∧ v.parent.node.id = id ∨
    ∃ a ∈ attached, v.under = some a.descriptor ∧ v.parent.node.id = a.node

theorem Visit.IsBelow.mono {under : Option Descriptor} {id : Nat}
    {attached attached' : List Attachment} {v : Visit}
    (h : v.IsBelow under id attached) (hle : attached ⊆ attached') :
    v.IsBelow under id attached' :=
  h.imp_right fun ⟨a, ha, hv⟩ => ⟨a, hle ha, hv⟩

mutual

theorem isBelow_visitsNode (s : Setup) (under : Option Descriptor) :
    ∀ (d : Descriptor) (f : Frame) (p : Progress),
      (buildNode s d f p).value.node.id = f.node.id ∧ ∀ v ∈ visitsNode s under d f p,
        v.IsBelow under f.node.id (attachments s (visitsNode s under d f p))
  | .mk typeName properties group children source, f, p => by
    let v : Visit := ⟨⟨typeName, properties, group, children, source⟩, under, f, f, p⟩
    have hbelow := isBelow_visitsAll s (some v.descriptor) children
    have hv : start s v.descriptor f p = v.start s := rfl
    have hparent := (grows_start s v.descriptor f p).2
    rw [buildNode, visitsNode]
    dsimp only
    rw [hv] at hparent ⊢
    have hfirst : ∀ attached, v.IsBelow under f.node.id attached := fun _ => .inl ⟨rfl, rfl⟩
    have honly : ∀ u ∈ [v], u.IsBelow under f.node.id (attachments s [v]) := fun u hu => by
      rw [List.mem_singleton.1 hu]
      exact hfirst _
    cases hhalt : (v.start s).halt with
    | some h => exact ⟨rfl, honly⟩
    | none =>
      rcases hvalue : (v.start s).value with _ | ⟨parent, node, _ | place, _ | _⟩
      · exact ⟨rfl, honly⟩
      · exact ⟨hparent _ hvalue, honly⟩
      · exact ⟨hparent _ hvalue, honly⟩
      · exact ⟨(parent.id_place node place).trans (hparent _ hvalue), honly⟩
      · obtain ⟨-, hchildren⟩ := hbelow ⟨node, false⟩ (v.start s).progress
        let vs := visitsAll s (some v.descriptor) children ⟨node, false⟩ (v.start s).progress
        have hattached : attachments s (v :: vs.map (.within parent place)) =
            ⟨v.descriptor, under, parent.node.id, node.id⟩ :: attachments s vs := by
          rw [← attachments_within s parent place vs]
          exact attachments_cons_of_value hvalue rfl _
        refine ⟨(parent.id_place _ place).trans (hparent _ hvalue), fun u hu => ?_⟩
        rw [hattached]
        rcases List.mem_cons.1 hu with rfl | hu
        · exact hfirst _
        · obtain ⟨u', hu', rfl⟩ := List.mem_map.1 hu
          rcases hchildren u' hu' with ⟨hunder, hid⟩ | ⟨a, ha, hunder⟩
          · exact .inr ⟨_, List.mem_cons_self, hunder, hid⟩
          · exact .inr ⟨a, List.mem_cons_of_mem _ ha, hunder⟩

theorem isBelow_visitsAll (s : Setup) (under : Option Descriptor) :
    ∀ (ds : List Descriptor) (f : Frame) (p : Progress),
      (buildAll s ds f p).value.node.id = f.node.id ∧ ∀ v ∈ visitsAll s under ds f p,
        v.IsBelow under f.node.id (attachments s (visitsAll s under ds f p))
  | [], f, p => by
    rw [buildAll, visitsAll]
    exact ⟨rfl, nofun⟩
  | d :: rest, f, p => by
    obtain ⟨hid, hfirst⟩ := isBelow_visitsNode s under d f p
    have hrest := isBelow_visitsAll s under rest
    rw [buildAll, visitsAll]
    generalize buildNode s d f p = first at hid ⊢
    obtain ⟨f', q, halt⟩ := first
    cases halt with
    | some h =>
      rw [List.append_nil]
      exact ⟨hid, hfirst⟩
    | none =>
      obtain ⟨hid', hothers⟩ := hrest f' q
      refine ⟨hid'.trans hid, fun v hv => ?_⟩
      rw [attachments_append]
      rcases List.mem_append.1 hv with hv | hv
      · exact (hfirst v hv).mono (List.subset_append_left _ _)
      · rw [← hid]
        exact (hothers v hv).mono (List.subset_append_right _ _)

end

/-! ## Two builds of the same descriptors -/

section Parts

/- The progress of the other build is told by that of ours through `φ`. -/
variable (s t : Setup) (φ : Progress → Progress)

/-- A visit of the other build. -/
def Visit.on (v : Visit) : Visit := { v with progress := φ v.progress }

/-- The other build does the same at a visit. -/
def Visit.Agrees (v : Visit) : Prop := (v.on φ).start t = (v.start s).on φ

variable {s t φ} in
/-- Where the other build does the same, it attaches the same. -/
theorem attachments_of_agree {vs : List Visit} (h : ∀ v ∈ vs, v.Agrees s t φ) :
    attachments t (vs.map (.on φ)) = attachments s vs := by
  rw [attachments, List.filterMap_map, attachments]
  refine List.filterMap_congr fun v hv => ?_
  have hagree : (v.on φ).start t = (v.start s).on φ := h v hv
  have hvalue : ((v.on φ).start t).value = (v.start s).value := by rw [hagree]; rfl
  rw [Function.comp_apply, Visit.attachment?, hvalue]
  rfl

/-- How another build compares with ours: it does the same at all visits, or at all before one at
which it ends. -/
inductive Parts (vs : List Visit) (ours : Stage Frame) (vs' : List Visit) (other : Stage Frame) :
    Prop
  | never (agree : ∀ v ∈ vs, v.Agrees s t φ) (visits : vs' = vs.map (.on φ))
      (eq : other = ours.on φ)
  | cut {before after : List Visit} {v : Visit} {h : Halt} (ours : vs = before ++ v :: after)
      (agree : ∀ u ∈ before, u.Agrees s t φ) (differs : ¬ v.Agrees s t φ)
      (halt : ((v.on φ).start t).halt = some h) (visits : vs' = (before ++ [v]).map (.on φ))
      (eq : other = ⟨v.top, ((v.on φ).start t).progress, some h⟩)

variable {s t φ}

namespace Parts

variable {vs vs' : List Visit} {ours other : Stage Frame}

/-- Builds below a node compare as they do seen from its parent, after the visit of the node. -/
theorem below {v : Visit} (hv : v.Agrees s t φ) (parent : Frame) (place : Place)
    (h : Parts s t φ vs ours vs' other) :
    Parts s t φ (v :: vs.map (.within parent place))
      ⟨parent.place ours.value.node place, ours.progress, ours.halt⟩
      (v.on φ :: vs'.map (.within parent place))
      ⟨parent.place other.value.node place, other.progress, other.halt⟩ := by
  have hwithin : ∀ {us : List Visit}, (∀ u ∈ us, u.Agrees s t φ) →
      ∀ u ∈ v :: us.map (.within parent place), u.Agrees s t φ := by
    intro us hus
    refine List.forall_mem_cons.2 ⟨hv, List.forall_mem_map.2 fun u hu => ?_⟩
    exact hus u hu
  cases h with
  | never agree visits eq =>
    refine .never (hwithin agree) ?_ (by rw [eq]; rfl)
    rw [visits, List.map_cons, List.map_map, List.map_map]
    rfl
  | @cut before after u h hours agree differs halt visits eq =>
    refine @cut s t φ _ _ _ _ (v :: before.map (.within parent place))
      (after.map (.within parent place)) (u.within parent place) h ?_ (hwithin agree) differs halt
      ?_ (by rw [eq]; rfl)
    · rw [hours, List.map_append, List.map_cons, List.cons_append]
    · rw [visits]
      simp only [List.map_append, List.map_cons, List.map_map, List.map_nil, List.cons_append]
      rfl

/-- Builds compare as those after some visits do at which they do the same. -/
theorem next {us us' : List Visit} (hus : ∀ u ∈ us, u.Agrees s t φ) (hvisits : us' = us.map (.on φ))
    (h : Parts s t φ vs ours vs' other) : Parts s t φ (us ++ vs) ours (us' ++ vs') other := by
  have happend : ∀ {ws : List Visit}, (∀ w ∈ ws, w.Agrees s t φ) →
      ∀ u ∈ us ++ ws, u.Agrees s t φ := fun hws =>
    List.forall_mem_append.2 ⟨hus, hws⟩
  cases h with
  | never agree visits eq =>
    exact .never (happend agree) (by rw [hvisits, visits, List.map_append]) eq
  | cut hours agree differs halt visits eq =>
    refine .cut (by rw [hours, List.append_assoc]) (happend agree) differs halt ?_ eq
    rw [hvisits, visits, ← List.map_append, List.append_assoc]

/-- The other build ends at the first visit. -/
theorem here {v : Visit} {h : Halt} (differs : ¬ v.Agrees s t φ)
    (halt : ((v.on φ).start t).halt = some h) (after : List Visit) :
    Parts s t φ (v :: after) ours [v.on φ] ⟨v.top, ((v.on φ).start t).progress, some h⟩ :=
  @cut s t φ _ _ _ _ [] after v h rfl nofun differs halt rfl rfl

/-- Two builds that do the same at a node, which is the only one that they come to. -/
theorem only {v : Visit} (hv : v.Agrees s t φ) (ours : Stage Frame) :
    Parts s t φ [v] ours [v.on φ] (ours.on φ) :=
  .never (fun _ hu => List.mem_singleton.1 hu ▸ hv) rfl rfl

/-- What the other build attaches are the first attachments of ours. -/
theorem attachments_first (h : Parts s t φ vs ours vs' other) :
    attachments t vs' <+: attachments s vs := by
  cases h with
  | never agree visits eq =>
    have hsame : attachments t vs' = attachments s vs := by
      rw [visits, attachments_of_agree agree]
    exact hsame ▸ List.prefix_rfl
  | @cut before after v h hours agree differs halt visits eq =>
    have hnone : (v.on φ).attachment? t = none := by
      rw [Visit.attachment?, Visit.start, value_start_of_halt halt]
      rfl
    have hlast : attachments t [v.on φ] = [] := List.filterMap_cons_none hnone
    rw [visits, hours, List.map_append, attachments_append, attachments_append, List.map_singleton,
      hlast, List.append_nil, attachments_of_agree agree]
    exact List.prefix_append _ _

end Parts

variable (s t φ) in
/-- Wherever the other build does not do the same at one of some visits, it ends. -/
def EndsWhereDiffers (vs : List Visit) : Prop :=
  ∀ v ∈ vs, v.Agrees s t φ ∨ ∃ h, ((v.on φ).start t).halt = some h

mutual

/-- **Two builds of a descriptor** do the same up to the visit at which the other ends. -/
theorem parts_buildNode (under : Option Descriptor) : ∀ (d : Descriptor) (f : Frame) (p : Progress),
    EndsWhereDiffers s t φ (visitsNode s under d f p) →
      Parts s t φ (visitsNode s under d f p) (buildNode s d f p)
        (visitsNode t under d f (φ p)) (buildNode t d f (φ p))
  | .mk typeName properties group children source, f, p => by
    let v : Visit := ⟨⟨typeName, properties, group, children, source⟩, under, f, f, p⟩
    have hbelow := parts_buildAll (some v.descriptor) children
    have hours : start s v.descriptor f p = v.start s := rfl
    have hother : start t v.descriptor f (φ p) = (v.on φ).start t := rfl
    rw [buildNode, visitsNode, buildNode, visitsNode]
    dsimp only
    rw [hours, hother]
    intro hcut
    by_cases hv : v.Agrees s t φ
    · rw [hv]
      dsimp only [Stage.on]
      cases hhalt : (v.start s).halt with
      | some h => exact .only hv (.halted f (v.start s).progress h)
      | none =>
        rcases hvalue : (v.start s).value with _ | ⟨parent, node, _ | place, _ | _⟩
        · exact .only hv (.done f (v.start s).progress)
        · exact .only hv (.done parent (v.start s).progress)
        · exact .only hv (.done parent (v.start s).progress)
        · exact .only hv (.done (parent.place node place) (v.start s).progress)
        · rw [hhalt, hvalue] at hcut
          have hbelow := hbelow ⟨node, false⟩ (v.start s).progress fun u hu =>
            hcut (u.within parent place) (List.mem_cons_of_mem _ (List.mem_map_of_mem hu))
          exact hbelow.below hv parent place
    · obtain ⟨h, hhalt⟩ := (hcut v List.mem_cons_self).resolve_left hv
      rw [hhalt]
      exact .here hv hhalt _

/-- **Two builds of descriptors** do the same up to the visit at which the other ends. -/
theorem parts_buildAll (under : Option Descriptor) :
    ∀ (ds : List Descriptor) (f : Frame) (p : Progress),
      EndsWhereDiffers s t φ (visitsAll s under ds f p) →
        Parts s t φ (visitsAll s under ds f p) (buildAll s ds f p)
          (visitsAll t under ds f (φ p)) (buildAll t ds f (φ p))
  | [], f, p => by
    rw [buildAll, visitsAll, buildAll, visitsAll]
    exact fun _ => .never nofun rfl rfl
  | d :: rest, f, p => by
    have hfirst := parts_buildNode under d f p
    have hrest := parts_buildAll under rest
    rw [buildAll, visitsAll, buildAll, visitsAll]
    intro hcut
    replace hfirst := hfirst fun v hv => hcut v (List.mem_append_left _ hv)
    generalize buildNode s d f p = first at hfirst hcut ⊢
    generalize buildNode t d f (φ p) = first' at hfirst ⊢
    obtain ⟨f', q, halt⟩ := first
    cases hfirst with
    | never agree visits eq =>
      rw [eq]
      cases halt with
      | some h =>
        dsimp only [Stage.on]
        rw [List.append_nil, List.append_nil]
        exact .never agree visits rfl
      | none =>
        have hrest := hrest f' q fun v hv => hcut v (List.mem_append_right _ hv)
        exact hrest.next agree visits
    | @cut before after v h hours agree differs hhalt visits eq =>
      rw [eq, hours, List.append_assoc, List.cons_append]
      dsimp only
      rw [List.append_nil]
      exact .cut rfl agree differs hhalt visits rfl

end

end Parts

end Build

end LayoutTree
