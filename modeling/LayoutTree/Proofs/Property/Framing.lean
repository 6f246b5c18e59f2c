import LayoutTree.Proofs.Property.Bounds

/-!
# What an entry can change

The name of an entry addresses one part of a node of a class (`NodeClass.address?`): a slot, a value
attached under a qualified name, the style classes, the tracks in one direction, a binding, or the
data context that the node asks for. With the setters of the library an entry changes that part at
most (`SameBut`), and it does so only if it counts as applied: an entry that is skipped, blocked or
that fails leaves the node as it was (`Processed`).

The main statement is `processed_newNodeAfter`.
-/

namespace LayoutTree

open LayoutTree.Text LayoutTree.Validator

/-! ## Addresses -/

/-- The parts of a node that entries can address. -/
inductive Address
  | slot (slot : String)
  /-- The value attached under a qualified name. -/
  | attached (name : String)
  | classes
  | tracks (which : Setter.Tracks)
  | binding (target : String)
  /-- The data context that the node asks for. -/
  | context
  deriving DecidableEq

namespace NodeClass

/-- The style classes, under the names that they go by. -/
def classesAddress? (c : NodeClass) (name : String) : Option Address :=
  if Setter.classesKeys.contains (propertyKey name) && c.isNode then some .classes else none

/-- The value attached under a short name or a qualified one. -/
def attachedAddress? (c : NodeClass) (name : String) : Option Address :=
  if c.isNode then
    (Setter.attachedProperties.lookup (propertyKey name)).map fun e => .attached e.1
  else none

/-- The tracks of a grid in one direction. -/
def tracksAddress? (c : NodeClass) (name : String) : Option Address :=
  if c.hasTracks then (Setter.tracks? name).map .tracks else none

/-- The tool tip, which is an attached value. -/
def toolTipAddress? (c : NodeClass) (name : String) : Option Address :=
  if propertyKey name = "tooltip" && c.isNode then some (.attached Setter.toolTipProperty) else none

/-- The source of an image, under the names that it goes by. -/
def imageAddress? (c : NodeClass) (name : String) : Option Address :=
  if Setter.imageKeys.contains (propertyKey name) && Setter.isImage c then
    (c.accessor? "source").map fun a => .slot a.slot
  else none

/-- The slot of a declared property. -/
def declaredAddress? (c : NodeClass) (name : String) : Option Address :=
  (c.accessor? name).map fun a => .slot a.slot

/-- The address of an assigned property: the first one that its name can be read as. -/
def assignedAddress? (c : NodeClass) (name : String) : Option Address :=
  [c.classesAddress? name, c.attachedAddress? name, c.tracksAddress? name, c.toolTipAddress? name,
    c.imageAddress? name, c.declaredAddress? name].findSome? id

/-- What a name addresses in the nodes of the class, if anything. -/
def address? (c : NodeClass) (name : String) : Option Address :=
  match bindingTarget? name with
  | some target => some (.binding target)
  | none => if propertyKey name = dataContextKey then some .context else c.assignedAddress? name

end NodeClass

/-! ## Nodes that differ at one address -/

/-- A node is as another one, but for what is at an address. -/
structure Node.SameBut (address : Option Address) (n m : Node) : Prop where
  id : m.id = n.id
  cls : m.cls = n.cls
  parent : m.parent = n.parent
  dataContext : m.dataContext = n.dataContext
  children : m.children = n.children
  slot : ∀ slot, address ≠ some (.slot slot) → m.slot? slot = n.slot? slot
  attached : ∀ name, address ≠ some (.attached name) →
    m.attached.lookup name = n.attached.lookup name
  classes : address ≠ some .classes → m.classes = n.classes
  columns : address ≠ some (.tracks .columns) → m.columns = n.columns
  rows : address ≠ some (.tracks .rows) → m.rows = n.rows
  binding : ∀ target, address ≠ some (.binding target) →
    m.bindings.lookup target = n.bindings.lookup target

namespace Node.SameBut

variable {n : Node}

theorem refl (address : Option Address) (n : Node) : SameBut address n n :=
  ⟨rfl, rfl, rfl, rfl, rfl, fun _ _ => rfl, fun _ _ => rfl, fun _ => rfl, fun _ => rfl,
    fun _ => rfl, fun _ _ => rfl⟩

/-- A value assigned as the content would replace a child, so there must be none. -/
theorem assign (h : n.children = []) (slot : String) (v : Value) :
    SameBut (some (.slot slot)) n (n.assign slot v) := by
  have hslot : ∀ other, some (Address.slot slot) ≠ some (.slot other) →
      (n.assign slot v).slot? other = n.slot? other :=
    fun other hother => slot?_assign_ne v fun heq => hother (by rw [heq])
  refine ⟨?_, cls_assign n slot v, ?_, ?_, ?_, hslot, ?_, ?_, ?_, ?_, ?_⟩
  all_goals
    rw [Node.assign]
    dsimp only
    split <;> simp [h]

theorem attach (n : Node) (name : String) (v : Value) :
    SameBut (some (.attached name)) n (Setter.attach n name v) :=
  { refl _ n with
    attached := fun _ hother => lookup_putNamed_ne v n.attached fun heq => hother (by rw [heq]) }

theorem withClasses (n : Node) (classes : List String) :
    SameBut (some .classes) n { n with classes } :=
  { refl _ n with classes := fun h => absurd rfl h }

theorem withTracks (n : Node) (sizes : List Value) (which : Setter.Tracks) :
    SameBut (some (.tracks which)) n (Setter.withTracks n sizes which) := by
  cases which with
  | columns => exact { refl _ n with columns := fun h => absurd rfl h }
  | rows => exact { refl _ n with rows := fun h => absurd rfl h }

theorem withBinding (n : Node) (target path : String) :
    SameBut (some (.binding target)) n { n with bindings := putNamed target path n.bindings } :=
  { refl _ n with
    binding := fun _ hother => lookup_putNamed_ne path n.bindings fun heq => hother (by rw [heq]) }

end Node.SameBut

/-! ## Setters -/

/-- An assignment changes what is at an address at most, and nothing if it fails. -/
structure Assignment.Frames (address : Option Address) (n : Node) (a : Assignment) : Prop where
  same : n.SameBut address a.node
  failed : a.failure.isSome = true → a.node = n

namespace Assignment.Frames

variable {address : Option Address} {n : Node}

theorem done {m : Node} (h : n.SameBut address m) : (Assignment.done m).Frames address n :=
  ⟨h, nofun⟩

theorem fails (address : Option Address) (n : Node) (failure : AssignmentFailure) :
    (Assignment.failed n failure).Frames address n :=
  ⟨.refl address n, fun _ => rfl⟩

theorem ofConversion (r : Except ConversionFault Value) {assign : Value → Node}
    (h : ∀ v, n.SameBut address (assign v)) :
    (Assignment.ofConversion n r assign).Frames address n := by
  cases r with
  | ok v => exact done (h v)
  | error f => exact fails address n _

end Assignment.Frames

namespace Setter

variable {n : Node} {name : String} {converters : Chain Converter}

/-- A setter claims a property exactly where the name can be read as an address, and changes what is
there at most. -/
structure Serves (setter : Setter) (converters : Chain Converter) (n : Node) (name : String)
    (address : Option Address) : Prop where
  claims : setter.claims n name = address.isSome
  frames : address.isSome = true → ∀ value, (setter.apply converters n name value).Frames address n

theorem Serves.unclaimed {setter : Setter} (h : setter.claims n name = false) :
    setter.Serves converters n name none :=
  ⟨h, nofun⟩

theorem serves_styleClasses (converters : Chain Converter) (n : Node) (name : String) :
    styleClasses.Serves converters n name (n.cls.classesAddress? name) := by
  have hclaims : styleClasses.claims n name =
      (classesKeys.contains (propertyKey name) && n.cls.isNode) := by rw [styleClasses, builtIn]
  rw [NodeClass.classesAddress?]
  split
  · next h => exact ⟨hclaims.trans h, fun _ value => .done (.withClasses n _)⟩
  · next h => exact .unclaimed (hclaims.trans (eq_false_of_ne_true h))

theorem serves_attachedProperty (converters : Chain Converter) (n : Node) (name : String) :
    attachedProperty.Serves converters n name (n.cls.attachedAddress? name) := by
  have hclaims : attachedProperty.claims n name =
      ((attachedProperties.lookup (propertyKey name)).isSome && n.cls.isNode) := by
    rw [attachedProperty, builtIn]
  rw [NodeClass.attachedAddress?]
  split
  · next hnode =>
    rw [hnode, Bool.and_true] at hclaims
    refine ⟨by rw [hclaims, Option.isSome_map], fun hsome value => ?_⟩
    simp only [attachedProperty, builtIn]
    cases hlookup : attachedProperties.lookup (propertyKey name) with
    | none => rw [hlookup] at hsome; cases hsome
    | some e => exact .ofConversion _ fun v => .attach n e.1 v
  · next hnode =>
    rw [eq_false_of_ne_true hnode, Bool.and_false] at hclaims
    exact .unclaimed hclaims

theorem serves_gridTracks (converters : Chain Converter) (n : Node) (name : String) :
    gridTracks.Serves converters n name (n.cls.tracksAddress? name) := by
  have hclaims : gridTracks.claims n name = ((tracks? name).isSome && n.cls.hasTracks) := by
    rw [gridTracks, builtIn]
  rw [NodeClass.tracksAddress?]
  split
  · next htracks =>
    rw [htracks, Bool.and_true] at hclaims
    refine ⟨by rw [hclaims, Option.isSome_map], fun hsome value => ?_⟩
    simp only [gridTracks, builtIn]
    cases hwhich : tracks? name with
    | none => rw [hwhich] at hsome; cases hsome
    | some which =>
      cases trackSizes converters value with
      | ok sizes => exact .done (.withTracks n sizes which)
      | error f => exact .fails _ n _
  · next htracks =>
    rw [eq_false_of_ne_true htracks, Bool.and_false] at hclaims
    exact .unclaimed hclaims

theorem serves_toolTip (converters : Chain Converter) (n : Node) (name : String) :
    toolTip.Serves converters n name (n.cls.toolTipAddress? name) := by
  have hclaims : toolTip.claims n name = (propertyKey name = "tooltip" && n.cls.isNode) := by
    rw [toolTip, builtIn]
  rw [NodeClass.toolTipAddress?]
  split
  · next h => exact ⟨hclaims.trans h, fun _ value => .done (.attach n _ _)⟩
  · next h => exact .unclaimed (hclaims.trans (eq_false_of_ne_true h))

theorem serves_imageSource (converters : Chain Converter) (h : n.children = []) (name : String) :
    imageSource.Serves converters n name (n.cls.imageAddress? name) := by
  have hclaims : imageSource.claims n name =
      (imageKeys.contains (propertyKey name) && (n.cls.accessor? "source").isSome &&
        isImage n.cls) := by rw [imageSource, builtIn]
  rw [NodeClass.imageAddress?]
  split
  · next himage =>
    obtain ⟨hkey, hclass⟩ := Bool.and_eq_true_iff.1 himage
    rw [hkey, hclass, Bool.true_and, Bool.and_true] at hclaims
    refine ⟨by rw [hclaims, Option.isSome_map], fun hsome value => ?_⟩
    simp only [imageSource, builtIn]
    cases hsource : n.cls.accessor? "source" with
    | none => rw [hsource] at hsome; cases hsome
    | some a => exact .done (.assign h _ _)
  · next himage =>
    rw [Bool.and_right_comm, eq_false_of_ne_true himage, Bool.false_and] at hclaims
    exact .unclaimed hclaims

theorem serves_declared (converters : Chain Converter) (h : n.children = []) (name : String) :
    declared.Serves converters n name (n.cls.declaredAddress? name) := by
  have hclaims : declared.claims n name = (n.cls.accessor? name).isSome := by rw [declared, builtIn]
  rw [NodeClass.declaredAddress?]
  refine ⟨by rw [hclaims, Option.isSome_map], fun hsome value => ?_⟩
  simp only [declared, builtIn]
  cases haccessor : n.cls.accessor? name with
  | none => rw [haccessor] at hsome; cases hsome
  | some a =>
    have hassign : ∀ v, n.SameBut (some (.slot a.slot)) (n.assign a.slot v) :=
      fun v => .assign h _ v
    change (assignDeclared converters n a value).Frames (some (.slot a.slot)) n
    rw [assignDeclared]
    split
    · exact .done (hassign _)
    · split
      · exact .done (hassign _)
      · split
        · exact ⟨hassign _, fun hfailed => by cases hfailed⟩
        · exact .fails _ n _
      · exact .fails _ n _

/-- Setters asked in order change what is at the first address that the name can be read as. -/
theorem frames_of_serves {setters : List Setter} {addresses : List (Option Address)}
    (h : List.Forall₂ (fun m address => m.Serves converters n name address) setters addresses)
    {found : Setter} (hfind : setters.find? (fun m => m.claims n name) = some found)
    (value : String) :
    (found.apply converters n name value).Frames (addresses.findSome? id) n := by
  induction h with
  | nil => cases hfind
  | @cons setter address setters addresses hserves _ ih =>
    rw [List.find?_cons, hserves.claims] at hfind
    cases address with
    | none => exact ih hfind
    | some address =>
      obtain rfl := Option.some.inj hfind
      exact hserves.frames rfl value

/-- **The setter that is found** for a property changes what the property addresses at most, and
nothing if it fails. -/
theorem frames_apply (converters : Chain Converter) (h : n.children = []) {setter : Setter}
    (hfind : find? Setter.standard n name = some setter) (value : String) :
    (setter.apply converters n name value).Frames (n.cls.assignedAddress? name) n :=
  frames_of_serves
    (.cons (serves_styleClasses converters n name) <|
      .cons (serves_attachedProperty converters n name) <|
      .cons (serves_gridTracks converters n name) <| .cons (serves_toolTip converters n name) <|
      .cons (serves_imageSource converters h name) <|
      .cons (serves_declared converters h name) .nil)
    hfind value

end Setter

/-! ## One entry -/

namespace Build

/-- A node at work is as another one, but for what is at an address. -/
structure Work.SameBut (address : Option Address) (w w' : Work) : Prop where
  node : w.node.SameBut address w'.node
  context : address ≠ some .context → w'.context = w.context

/-- An entry has been counted. It changes what is at an address at most, and nothing unless it
counts as applied. -/
structure Work.Processed (address : Option Address) (w w' : Work) (t : Tally) : Prop where
  same : w.SameBut address w'
  counted : w'.result = (w.count t).result
  kept : t ≠ .applied → w' = w.count t

namespace Work

variable {w : Work} {address : Option Address}

theorem context_count (w : Work) (t : Tally) : (w.count t).context = w.context := by
  cases t <;> rfl

/-- The node is left as it was. -/
theorem Processed.count (address : Option Address) (w : Work) (t : Tally) :
    w.Processed address (w.count t) t where
  same := ⟨count_node w t ▸ .refl address w.node, fun _ => context_count w t⟩
  counted := rfl
  kept _ := rfl

/-- The node is changed. -/
theorem Processed.applied {n : Node} (h : w.node.SameBut address n) :
    w.Processed address ({ w with node := n }.count .applied) .applied where
  same := ⟨h, fun _ => rfl⟩
  counted := rfl
  kept h := absurd rfl h

/-- The node asks for a data context. -/
theorem Processed.asked (w : Work) (context : Option Value) :
    w.Processed (some .context) ({ w with context }.count .applied) .applied where
  same := ⟨.refl _ w.node, fun h => absurd rfl h⟩
  counted := rfl
  kept h := absurd rfl h

end Work

variable {s : Setup} {d : Descriptor}

theorem processed_bind (happlier : s.applier = storeBinding) (name target path : String) (w : Work)
    (p : Progress) :
    ∃ t, w.Processed (some (.binding target)) (bind s d name target path w p).value t := by
  simp only [bind, happlier]
  rw [storeBinding]
  split
  · next node hnode =>
    split at hnode
    · cases hnode
      exact ⟨_, .applied (.withBinding w.node target path)⟩
    · cases hnode
  · exact ⟨_, .count _ w .failed⟩

theorem processed_assign (hsetters : s.setters = Setter.standard) {w : Work}
    (h : w.node.children = []) {name : String} {setter : Setter}
    (hfind : Setter.find? s.setters w.node name = some setter) (value : String) (p : Progress) :
    ∃ t, w.Processed (w.node.cls.assignedAddress? name) (assign s d setter name value w p).value
      t := by
  rw [hsetters] at hfind
  have hlater : setter.applyLater = none :=
    Setter.applyLater_standard
      (List.mem_of_find?_eq_some (p := fun m : Setter => m.claims w.node name) hfind)
  obtain ⟨hsame, hfailed⟩ := Setter.frames_apply s.converters h hfind value
  rw [assign, assignment_eq hlater]
  cases hfailure : (setter.apply s.converters w.node name value).failure with
  | none => exact ⟨_, .applied hsame⟩
  | some failure =>
    rw [hfailed (by rw [hfailure]; rfl)]
    exact ⟨_, .count _ w .failed⟩

theorem processed_dispatch (hsetters : s.setters = Setter.standard) {w : Work}
    (h : w.node.children = []) {name : String} (hbinding : bindingTarget? name = none)
    (value : String) (p : Progress) :
    ∃ t, w.Processed (w.node.cls.address? name) (dispatch s d name value w p).value t := by
  rw [NodeClass.address?, hbinding, dispatch]
  dsimp only
  split
  · split
    · exact ⟨_, .count _ w .skipped⟩
    · exact ⟨_, .asked w _⟩
  · split
    · next setter hfind => exact processed_assign hsetters h hfind value p
    · exact ⟨_, .count _ w .skipped⟩

/-- **An entry that is gone through** changes what its name addresses at most, and only if it is
applied. -/
theorem processed_applyProperty (hsetters : s.setters = Setter.standard)
    (happlier : s.applier = storeBinding) (entry : Property) {w : Work} (h : w.node.children = [])
    {p : Progress} (hcancelled : p.cancelled = false) :
    ∃ t, w.Processed (w.node.cls.address? entry.name) (applyProperty s d entry w p).value t := by
  rw [applyProperty, hcancelled, if_neg Bool.false_ne_true]
  split
  · exact ⟨_, .count _ w .skipped⟩
  · cases entry.value with
    | none => exact ⟨_, .count _ w .skipped⟩
    | some value =>
      cases hbinding : bindingTarget? entry.name with
      | some target =>
        rw [NodeClass.address?, hbinding]
        exact processed_bind happlier entry.name target value w p
      | none =>
        dsimp only
        rw [validateAndDispatch]
        split
        · exact processed_dispatch hsetters h hbinding value _
        · exact ⟨_, .count _ w .blocked⟩

/-! ## All entries -/

/-- Entries leave a node without children as it is in this, and of its class. -/
theorem bare_applyProperties (hsetters : s.setters = Setter.standard)
    (happlier : s.applier = storeBinding) (entries : List Property) {w : Work}
    (h : w.node.children = []) (p : Progress) :
    (applyProperties s d entries w p).value.node.children = [] ∧
      (applyProperties s d entries w p).value.node.cls = w.node.cls := by
  induction entries generalizing w p with
  | nil => exact ⟨h, rfl⟩
  | cons entry rest ih =>
    have hone : (applyProperty s d entry w p).value.node.children = [] ∧
        (applyProperty s d entry w p).value.node.cls = w.node.cls := by
      cases hcancelled : p.cancelled with
      | true =>
        rw [applyProperty, if_pos hcancelled]
        exact ⟨h, rfl⟩
      | false =>
        obtain ⟨_, hprocessed⟩ :=
          processed_applyProperty (d := d) hsetters happlier entry h hcancelled
        exact ⟨hprocessed.same.node.children.trans h, hprocessed.same.node.cls⟩
    rw [applyProperties, Stage.andThen]
    split
    · exact hone
    · exact (ih hone.1 _).imp_right fun hcls => hcls.trans hone.2

/-- **Entries are framed and atomic.** Whatever entries a new node of a class has gone through, one
more entry changes what its name addresses at most, and only if it counts as applied: an entry that
is skipped, blocked or that fails leaves the node as it was. An entry that the build does not come
to, because it has ended or has been cancelled, changes nothing either. -/
theorem processed_newNodeAfter (s : Setup) (hsetters : s.setters = Setter.standard)
    (happlier : s.applier = storeBinding) (d : Descriptor) (c : NodeClass) (id : Nat)
    (result : NodeResult) (p : Progress) (done : List Property) (entry : Property) :
    let before := newNodeAfter s d c id result p done
    let after := newNodeAfter s d c id result p (done ++ [entry])
    (before.halt.isSome ∨ before.progress.cancelled = true → after.value = before.value) ∧
      (before.halt = none → before.progress.cancelled = false →
        ∃ t, before.value.Processed (c.address? entry.name) after.value t) := by
  intro before after
  obtain ⟨hchildren, hcls⟩ := bare_applyProperties (d := d) (w := ⟨.ofClass id c, result, none⟩)
    hsetters happlier done rfl p
  have hvalue : after.value =
      if before.halt.isSome then before.value
      else (applyProperty s d entry before.value before.progress).value :=
    value_applyProperties_append s d done entry _ p
  rw [hvalue]
  constructor
  · intro hstopped
    split
    · rfl
    · next hhalt => rw [applyProperty, if_pos (hstopped.resolve_left hhalt), Stage.halted]
  · intro hhalt hcancelled
    have hprocessed := processed_applyProperty (d := d) hsetters happlier entry hchildren hcancelled
    rw [hcls] at hprocessed
    rw [hhalt]
    exact hprocessed

/-- A grid, which has lists of tracks. -/
def gridClass : NodeClass := { NodeClass.panel "Grid" [] with hasTracks := true }

/-- The second of two track sizes is none. The first one is not kept either: the grid has the tracks
that it had. -/
theorem processed_newNodeAfter_brokenTracks :
    plainSetup.setters = Setter.standard ∧ plainSetup.applier = storeBinding ∧
      (newNodeAfter plainSetup (.ofType "Grid") gridClass 1 (.ofState "Grid" .success none)
        plainStart [⟨"ColumnDefinitions", some "Auto, 2*"⟩,
          ⟨"column_definitions", some "3, wide"⟩]).value =
      (newNodeAfter plainSetup (.ofType "Grid") gridClass 1 (.ofState "Grid" .success none)
        plainStart [⟨"ColumnDefinitions", some "Auto, 2*"⟩]).value.count .failed := by
  obtain ⟨t, -, hcounted, hkept⟩ := (processed_newNodeAfter plainSetup rfl rfl (.ofType "Grid")
    gridClass 1 (.ofState "Grid" .success none) plainStart
    [⟨"ColumnDefinitions", some "Auto, 2*"⟩] ⟨"column_definitions", some "3, wide"⟩).2
    (Option.isNone_iff_eq_none.1 (by decide +kernel)) (by decide +kernel)
  rw [List.singleton_append] at hcounted hkept
  have hfailed : (newNodeAfter plainSetup (.ofType "Grid") gridClass 1
      (.ofState "Grid" .success none) plainStart [⟨"ColumnDefinitions", some "Auto, 2*"⟩,
        ⟨"column_definitions", some "3, wide"⟩]).value.result.failed = 1 := by
    decide +kernel
  have hcounted := (congrArg NodeResult.failed hcounted).symm.trans hfailed
  obtain rfl : t = .failed := by
    cases t with
    | failed => rfl
    | _ => exact absurd hcounted (by decide +kernel)
  exact ⟨rfl, rfl, hkept (by decide)⟩

end Build

end LayoutTree
