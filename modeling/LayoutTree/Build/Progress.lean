import LayoutTree.Build.Report
import LayoutTree.Build.Setup
import LayoutTree.Diagnostic.Context
import LayoutTree.Layout.Descriptor

/-!
# The progress of a build

How far a build has come: what it has reported, the types it knows, and the steps that can be seen
from outside. A part of a build is a `Stage`: what it gives, the progress, and whether the build
halts there.
-/

namespace LayoutTree

open LayoutTree.Text

/-- Something that a build does to a node, or that it asks of a collaborator. -/
inductive BuildStep
  /-- A handle is resolved. -/
  | resolve (handle : String)
  /-- A property of a node of a class is bound to a path. -/
  | bind (node : Nat) (cls target path : String)
  /-- A setter is given a property. -/
  | assign (node : Nat) (property : String)
  /-- A setter asks for the build to stop. -/
  | ask
  /-- A node is made for a descriptor. -/
  | create (node : Nat)
  /-- A node is attached below another. -/
  | attach (parent node : Nat)
  /-- A node is given up, since its parent cannot take it. -/
  | drop (node : Nat)
  /-- A wrapper is put around the content of a node. -/
  | wrap (node wrapper : Nat)
  deriving DecidableEq, Repr

/-- How far a build has come. -/
structure Progress where
  report : Report
  /-- What type names stand for. -/
  types : TypeRegistry
  /-- The identity of the next node. -/
  nextId : Nat
  /-- Whether the build has been asked to stop. -/
  cancelled : Bool
  /-- How many moments of a waiting build have gone by. -/
  waits : Nat
  log : Log
  /-- The steps taken. -/
  steps : List BuildStep

namespace Progress

/-- The part of the program that reports about builds. -/
def channel : String := "dynui.core.builder"

/-- A message about a node, or one of its properties. -/
def emit (p : Progress) (d : Descriptor) (property : Option String) (severity : Severity)
    (text : String) : Progress :=
  let place := match property with
    | none => d.typeName
    | some name => d.typeName ++ "." ++ name
  { p with
    report := p.report.addMessage ⟨severity, text, some d.typeName, property, d.source⟩
    log := p.log ++ [⟨severity.level, channel, place ++ ": " ++ text⟩] }

/-- Messages of one severity. -/
def emitAll (p : Progress) (d : Descriptor) (property : Option String) (severity : Severity)
    (texts : List String) : Progress :=
  texts.foldl (fun p text => p.emit d property severity text) p

/-- One more node result. -/
def addNode (p : Progress) (r : NodeResult) : Progress := { p with report := p.report.addNode r }

/-- One more step. -/
def take (p : Progress) (s : BuildStep) : Progress := { p with steps := p.steps ++ [s] }

/-- The build is asked to stop, if it can be. -/
def cancelIf (p : Progress) (asked : Bool) : Progress := { p with cancelled := p.cancelled || asked }

/-- A moment of a build goes by, if it is one that waits. -/
def wait (p : Progress) (mode : Mode) : Progress :=
  if mode.waits then { p.cancelIf (mode.isCancelledAt p.waits) with waits := p.waits + 1 } else p

/-- A setter has been heard, which may ask for the build to stop. -/
def hear (p : Progress) (mode : Mode) (asks : Bool) : Progress :=
  if asks then (p.take .ask).cancelIf mode.isCancellable else p

end Progress

/-! ## Ends -/

/-- Why a build ends early. -/
inductive BuildFault
  | unknownType (name : String)
  /-- No node of the type can be made. -/
  | notCreated (name message : String)
  /-- Validation blocks a value. -/
  | rejected (property : String) (errors : List String)
  /-- A value cannot be assigned. -/
  | notAssigned (value message : String)
  | cancelled
  /-- A module cannot be used. -/
  | noModule (fault : ModuleFault)
  deriving DecidableEq, Repr

/-- The message about an early end. -/
def BuildFault.message : BuildFault → String
  | unknownType name => "Unknown type " ++ quoted name
  | notCreated name message => "Cannot create " ++ quoted name ++ ": " ++ message
  | rejected property errors =>
    "Property " ++ quoted property ++ " rejected by validation: " ++ joinWith "; " errors
  | notAssigned value message => "Cannot set value " ++ quoted value ++ ": " ++ message
  | cancelled => "Build cancelled"
  | noModule fault => fault.message

/-- An early end of a build. -/
structure Halt where
  fault : BuildFault
  /-- Where it happened. -/
  context : Option Context

namespace Halt

/-- An end at a node, or at one of its properties. -/
def ofDescriptor (fault : BuildFault) (d : Descriptor) (property : Option String) : Halt :=
  ⟨fault, some { Context.empty with fileName := d.source, typeName := some d.typeName, property }⟩

/-- An end that does not depend on a place. -/
def bare (fault : BuildFault) : Halt := ⟨fault, none⟩

/-- The message about an end, with its place. -/
def message (h : Halt) : String := Context.format h.fault.message h.context

end Halt

/-- A part of a build. -/
structure Stage (α : Type) where
  /-- What it gives. -/
  value : α
  progress : Progress
  /-- The early end, if the build ends there. -/
  halt : Option Halt

namespace Stage

variable {α : Type}

/-- A part after which the build goes on. -/
def done (value : α) (progress : Progress) : Stage α := ⟨value, progress, none⟩

/-- A part that ends the build. -/
def halted (value : α) (progress : Progress) (h : Halt) : Stage α := ⟨value, progress, some h⟩

/-- A part that ends the build if problems do. -/
def haltedIf (stop : Bool) (value : α) (progress : Progress) (h : Halt) : Stage α :=
  ⟨value, progress, if stop then some h else none⟩

/-- Another part after one that does not end the build. -/
def andThen (s : Stage α) (f : α → Progress → Stage α) : Stage α :=
  if s.halt.isSome then s else f s.value s.progress

end Stage

end LayoutTree
