import LayoutTree.Build.Forest
import LayoutTree.Layout.Format

/-!
# Builds

A build puts the nodes of a layout below a container (`Builder.build`). It gives the container, the
registry with the types that were found on the way, and a report, which is complete as far as the
build went.
-/

namespace LayoutTree

/-- What builds have in common. -/
structure Builder where
  settings : Settings
  formats : Formats
  files : FileStore
  modules : ModuleIndex
  /-- What data contexts are resolved by, if not taken as they are. -/
  resolver : Option Resolver
  applier : Applier

/-- What a build leads to. -/
structure BuildOutcome where
  container : Node
  registry : Registry
  report : Report
  /-- Why the build ended early, if it did. -/
  halt : Option Halt
  log : Log
  /-- The steps taken. -/
  steps : List BuildStep

namespace Builder

/-- A builder that takes data contexts as they are and keeps bindings on the nodes. -/
def standard (settings : Settings) (files : FileStore) (modules : ModuleIndex) : Builder :=
  ⟨settings, Formats.standard, files, modules, none, storeBinding⟩

/-- What a build works with. -/
def setup (b : Builder) (r : Registry) (mode : Mode) : Setup where
  settings := b.settings
  files := b.files
  modules := b.modules
  setters := r.setters
  validators := r.validators
  converters := r.conversion.converters
  resolver := b.resolver
  applier := b.applier
  mode := mode

/-- The progress of a build that has not begun. -/
def initial (r : Registry) (container : Node) (source : Option String) (mode : Mode) : Progress where
  report := .empty source
  types := r.types
  nextId := container.freshId
  cancelled := mode.isCancelledAtStart
  waits := 0
  log := []
  steps := []

/-- Builds descriptors below a container. -/
def build (b : Builder) (r : Registry) (plugins : PluginManager) (container : Node)
    (ds : List Descriptor) (source : Option String) (mode : Mode) : BuildOutcome :=
  let built := Build.buildAll (b.setup r mode) ds ⟨container, false⟩ (initial r container source mode)
  let p := built.progress
  let r := r.withTypes p.types
  ⟨built.value.node, r, p.report.close r plugins, built.halt, p.log, p.steps⟩

/-- Builds a layout file below a container. -/
def buildFile (b : Builder) (r : Registry) (plugins : PluginManager) (container : Node)
    (path : String) (mode : Mode) : Log × Except ParseFailure BuildOutcome :=
  let (log, parsed) := Formats.parse b.formats b.files (FilePath.ofString path)
  (log, parsed.map fun ds => b.build r plugins container ds (some path) mode)

end Builder

end LayoutTree
