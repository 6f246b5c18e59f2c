import LayoutTree.Property.Validator
import LayoutTree.Registry.Types

/-!
# Registries

All that a build draws on and that plugins can extend: node types, setters, validators and
converters.
-/

namespace LayoutTree

/-- What a build draws on. -/
structure Registry where
  /-- What type names stand for. -/
  types : TypeRegistry
  /-- The setters. -/
  setters : Chain Setter
  /-- The validators. -/
  validators : Chain Validator
  /-- The converters. -/
  conversion : ConversionEngine

namespace Registry

/-- The registry of the library. It has no types until some are registered. -/
def standard : Registry :=
  ⟨.empty, Setter.standard, Validator.standard, .standard⟩

/-- Another collection of types. -/
def withTypes (r : Registry) (types : TypeRegistry) : Registry := { r with types }

/-- One setter asked before all others. -/
def addSetter (r : Registry) (s : Setter) : Registry := { r with setters := r.setters.register s }

/-- One validator asked before all others. -/
def addValidator (r : Registry) (v : Validator) : Registry :=
  { r with validators := r.validators.register v }

/-- One converter asked before all others. -/
def addConverter (r : Registry) (c : Converter) : Registry :=
  { r with conversion := r.conversion.register c }

/-- The first setter of a key taken out. -/
def dropSetter (r : Registry) (key : String) : Registry := { r with setters := r.setters.remove key }

/-- The first validator of a key taken out. -/
def dropValidator (r : Registry) (key : String) : Registry :=
  { r with validators := r.validators.remove key }

/-- The first converter of a key taken out. -/
def dropConverter (r : Registry) (key : String) : Registry :=
  { r with conversion := (r.conversion.remove key).2 }

end Registry

end LayoutTree
