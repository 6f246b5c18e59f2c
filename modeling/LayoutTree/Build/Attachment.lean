import LayoutTree.Build.Types

/-!
# Attaching nodes

A node is attached to its parent before the nodes below it are built, and stays attached if the
build ends there. So attaching has two halves: `attach` finds the place of a node and makes room for
it, and
`Frame.place` puts the node there, with all that was built below it.

A node that holds a single child makes room for a second one by a wrapper: a panel that becomes its
content, takes the first child over and takes all further children.
-/

namespace LayoutTree.Build

/-- A node whose children are being built. -/
structure Frame where
  node : Node
  /-- Whether its content is a wrapper that was made for its children. -/
  wrapped : Bool

/-- The place of a child. -/
inductive Place
  /-- Directly below the parent. -/
  | direct
  /-- In the wrapper below the parent. -/
  | inWrapper
  deriving DecidableEq, Repr

end LayoutTree.Build

namespace LayoutTree

/-- A node with a child, in the way its class takes children. -/
def Node.addChild (n child : Node) : Node :=
  match n.cls.capability with
  | .panel => { n with children := n.children ++ [child.ownedBy n.id] }
  | .items => { n with children := n.children ++ [child.heldBy n.id] }
  | .content => n.setContent child
  | .sink counter => n.countUp counter
  | .leaf => n

/-- Whether the nodes of a class take any number of children as a panel does. -/
def NodeClass.isContainer (c : NodeClass) : Bool :=
  match c.capability with
  | .panel => true
  | .sink _ => true
  | _ => false

end LayoutTree

namespace LayoutTree.Build

namespace Frame

/-- A child put in its place. -/
def place (f : Frame) (child : Node) : Place → Frame
  | .direct => { f with node := f.node.addChild child }
  | .inWrapper =>
    { f with node := { f.node with children := f.node.children.map fun w => w.addChild child } }

/-- A wrapper put around the content of a node. -/
def wrap (f : Frame) (content wrapper : Node) : Frame :=
  ⟨{ f.node with children := [(wrapper.heldBy f.node.id).addChild content] }, true⟩

end Frame

/-- The type that wrappers have if the one of the settings cannot be used. -/
def fallbackWrapper : String := "Panel"

/-- A wrapper of the first type that has any. -/
def createWrapper (s : Setup) (d : Descriptor) : List String → Progress → Stage (Option Node)
  | [], p => .done none p
  | name :: rest, p =>
    let found := findType s d name p
    match found.halt, found.value with
    | some h, _ => .halted none found.progress h
    | none, none => createWrapper s d rest found.progress
    | none, some t =>
      let p := found.progress
      match t.create p.nextId with
      | .ok w =>
        if w.cls.isContainer then .done (some w) { p with nextId := p.nextId + 1 }
        else createWrapper s d rest p
      | .error _ => createWrapper s d rest p

/-- The types of wrappers in the order in which they are tried. -/
def wrapperTypes (s : Setup) : List String :=
  if s.settings.wrapperType = fallbackWrapper then [fallbackWrapper]
  else [s.settings.wrapperType, fallbackWrapper]

/-- Room for a child of a node whose content is another child. -/
def wrapContent (s : Setup) (d : Descriptor) (f : Frame) (content : Node) (p : Progress) :
    Stage (Frame × Option Place) :=
  let name := f.node.cls.name
  let made := createWrapper s d (wrapperTypes s) p
  match made.halt, made.value with
  | some h, _ => .halted (f, none) made.progress h
  | none, none =>
    .done (f, none) (made.progress.emit d none .error
      (name ++ " already has content and no wrapper container is available"))
  | none, some w =>
    .done (f.wrap content w, some .inWrapper)
      ((made.progress.take (.wrap f.node.id w.id)).emit d none .warning
        (name ++ " holds a single child; content wrapped in " ++ w.cls.name))

/-- Finds the place of a child in a node that holds one content. -/
def attachContent (s : Setup) (d : Descriptor) (f : Frame) (p : Progress) :
    Stage (Frame × Option Place) :=
  match f.node.children with
  | [] =>
    let replaces := !(f.node.contentText?.getD "").isEmpty
    .done (f, some .direct) (if replaces then
      p.emit d none .warning ("Child replaces text content of " ++ f.node.cls.name) else p)
  | content :: _ =>
    if f.wrapped then .done (f, some .inWrapper) p else wrapContent s d f content p

/-- Finds the place of a child and makes room for it. -/
def attach (s : Setup) (d : Descriptor) (f : Frame) (p : Progress) : Stage (Frame × Option Place) :=
  match f.node.cls.capability with
  | .content => attachContent s d f p
  | .leaf =>
    .done (f, none) (p.emit d none .warning (f.node.cls.name ++ " cannot hold children; node dropped"))
  | _ => .done (f, some .direct) p

end LayoutTree.Build
