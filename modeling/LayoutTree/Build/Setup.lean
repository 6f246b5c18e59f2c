import LayoutTree.Build.Settings
import LayoutTree.Files.Store
import LayoutTree.Registry.Registry

/-!
# What a build works with

A build reads its settings, the files, the modules and the members of the registry other than the
types, and it asks two collaborators: a resolver for data contexts and an applier for bindings. A
build is either direct or one that waits; only the latter can be cancelled.
-/

namespace LayoutTree

/-- The answer of a resolver to a handle. -/
inductive Resolution
  /-- A value. -/
  | value (v : Value)
  /-- The handle cannot be resolved. -/
  | failed (message : String)
  /-- A value or a failure that has to be waited for. -/
  | later (result : Except String Value)

/-- What data contexts are resolved by. -/
abbrev Resolver := String → Resolution

/-- What bindings are given to: the node, the target and the path. -/
abbrev Applier := Node → String → String → Except String Node

/-- When a build is asked to stop from outside. The moments of a build are those when it waits and
those when a setter is at work. -/
structure Cancellation where
  /-- Whether it is asked before it starts. -/
  atStart : Bool
  /-- Whether it is asked at a moment of it, by the number of the moment. -/
  atWait : Nat → Bool

/-- How a build goes on. -/
inductive Mode
  /-- Without waiting. -/
  | direct
  /-- Waiting where need be. It can be cancelled if there is a way to ask for it. -/
  | waiting (cancellation : Option Cancellation)

namespace Mode

/-- Whether a build waits, and can be asked to stop at moments. -/
def waits : Mode → Bool
  | direct => false
  | waiting _ => true

/-- Whether a build can be cancelled. -/
def isCancellable : Mode → Bool
  | direct => false
  | waiting c => c.isSome

/-- Whether a build is cancelled before it starts. -/
def isCancelledAtStart : Mode → Bool
  | waiting (some c) => c.atStart
  | _ => false

/-- Whether a build is cancelled at its `n`th moment. -/
def isCancelledAt : Mode → Nat → Bool
  | waiting (some c), n => c.atWait n
  | _, _ => false

end Mode

/-- What a build works with. -/
structure Setup where
  settings : Settings
  files : FileStore
  modules : ModuleIndex
  setters : Chain Setter
  validators : Chain Validator
  converters : Chain Converter
  resolver : Option Resolver
  applier : Applier
  mode : Mode

end LayoutTree
