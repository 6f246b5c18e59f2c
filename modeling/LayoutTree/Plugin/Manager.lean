import LayoutTree.Plugin.Plugin

/-!
# Loading and unloading plugins

A `PluginManager` knows the loaded plugins with their records. Loading takes the actions of a
plugin, or none of them if it fails (`load`); unloading runs its callbacks and takes its actions
back (`unload`). Plugins can be offered by entry points, some of which are bad: `loadEntryPoints`
passes over these, or stops at the first where the manager is strict.
-/

namespace LayoutTree

open LayoutTree.Text

/-- Why a plugin is not loaded. -/
inductive PluginFault
  /-- The plugin fails while it is initialized. -/
  | initialization (plugin message : String)
  /-- An entry point cannot be used. -/
  | entryPoint (message : String)
  deriving DecidableEq, Repr

namespace PluginFault

/-- The message about a plugin that is not loaded. -/
def message : PluginFault → String
  | initialization plugin message =>
    "Plugin " ++ quoted plugin ++ " failed to initialize: " ++ message
  | entryPoint message => message

/-- The plugin that is to blame. -/
def plugin? : PluginFault → Option String
  | initialization plugin _ => some plugin
  | entryPoint _ => none

end PluginFault

/-- A loaded plugin. -/
structure LoadedPlugin where
  plugin : Plugin
  record : PluginRecord

/-- The summary of a loaded plugin. -/
def LoadedPlugin.info (l : LoadedPlugin) : PluginInfo := .ofRecord l.plugin l.record

/-- The loaded plugins. -/
structure PluginManager where
  /-- Whether a bad entry point is an error. -/
  strict : Bool
  /-- The plugins in the order in which they were loaded. -/
  loaded : List LoadedPlugin

/-- What an operation on plugins leads to. -/
structure PluginOutcome (α : Type) where
  manager : PluginManager
  registry : Registry
  log : Log
  /-- Warnings to the caller. -/
  warnings : List String
  /-- The callbacks that were run. -/
  ran : List Callback
  result : α

namespace PluginManager

/-- A manager without plugins. -/
def empty (strict : Bool) : PluginManager := ⟨strict, []⟩

/-- The names of the loaded plugins. -/
def names (m : PluginManager) : List String := m.loaded.map (·.plugin.name)

/-- The loaded plugin of a name. -/
def find? (m : PluginManager) (name : String) : Option LoadedPlugin :=
  m.loaded.find? fun l => l.plugin.name = name

/-- Summaries of the loaded plugins. -/
def infos (m : PluginManager) : List PluginInfo := m.loaded.map LoadedPlugin.info

/-- The part of the program that reports about loading and unloading. -/
def channel : String := PluginRecord.channel

/-! ## Loading -/

/-- Loads a plugin, unless one of its name is loaded. A plugin that fails leaves the registry as it
was. -/
def load (m : PluginManager) (r : Registry) (p : Plugin) : PluginOutcome (Except PluginFault Bool) :=
  if (m.find? p.name).isSome then
    ⟨m, r, [], ["Plugin " ++ quoted p.name ++ " is already loaded"], [], .ok false⟩
  else
    let i := p.takeAll r
    match p.failure with
    | some message =>
      let fault := PluginFault.initialization p.name message
      let (r, log) := i.record.revert p.name i.registry
      ⟨m, r, i.log ++ ⟨.error, channel, fault.message⟩ :: log, [], [], .error fault⟩
    | none =>
      ⟨{ m with loaded := m.loaded ++ [⟨p, i.record⟩] }, i.registry,
        i.log ++ [⟨.info, channel, "Loaded plugin " ++ p.name ++ " " ++ p.version⟩], [], [], .ok true⟩

/-! ## Unloading -/

/-- Runs callbacks up to the first that fails. Gives those that were run and whether none failed. -/
def run : List Callback → List Callback × Bool
  | [] => ([], true)
  | c :: rest =>
    match c.failure with
    | some _ => ([c], false)
    | none =>
      let (ran, clean) := run rest
      (c :: ran, clean)

/-- Unloads a plugin: its cleanups run, the latest first, then its shutdown; then its actions are
taken back. Gives whether it was loaded and nothing failed. -/
def unload (m : PluginManager) (r : Registry) (name : String) : PluginOutcome Bool :=
  match m.find? name with
  | none => ⟨m, r, [⟨.warning, channel, "Plugin " ++ quoted name ++ " is not loaded"⟩], [], [], false⟩
  | some l =>
    let (ran, clean) := run (l.record.cleanups.reverse ++ [l.plugin.shutdown])
    let failed :=
      if clean then [] else [⟨.error, channel, "Plugin " ++ quoted name ++ " failed to shut down"⟩]
    let (r, log) := l.record.revert name r
    ⟨{ m with loaded := m.loaded.eraseP fun l => l.plugin.name = name }, r,
      failed ++ log ++ [⟨.info, channel, "Unloaded plugin " ++ name⟩], [], ran, clean⟩

/-- Unloads plugins of some names one after the other. -/
def unloadEach (m : PluginManager) (r : Registry) : List String → PluginOutcome Bool
  | [] => ⟨m, r, [], [], [], true⟩
  | name :: rest =>
    let first := m.unload r name
    let others := unloadEach first.manager first.registry rest
    ⟨others.manager, others.registry, first.log ++ others.log, first.warnings ++ others.warnings,
      first.ran ++ others.ran, first.result && others.result⟩

/-- Unloads all plugins, the latest first. -/
def unloadAll (m : PluginManager) (r : Registry) : PluginOutcome Bool :=
  m.unloadEach r m.names.reverse

end PluginManager

/-! ## Entry points -/

/-- What an entry point leads to. -/
inductive EntryContent
  /-- A plugin. -/
  | plugin (p : Plugin)
  /-- Something that is no plugin. -/
  | object
  /-- Nothing, because it cannot be loaded. -/
  | unavailable

/-- A named offer of a plugin. -/
structure EntryPoint where
  name : String
  /-- The group that it belongs to. -/
  group : String
  content : EntryContent

namespace PluginManager

/-- The group of the entry points that offer plugins. -/
def pluginGroup : String := "dynui_plugins"

/-- A problem with an entry point: an error if the manager is strict, else a warning. -/
def issue (o : PluginOutcome Unit) (message : String) : PluginOutcome (Except PluginFault Unit) :=
  if o.manager.strict then { o with result := .error (.entryPoint message) }
  else { o with warnings := o.warnings ++ [message], result := .ok () }

/-- Loads the plugin of an entry point. -/
def loadEntryPoint (m : PluginManager) (r : Registry) (e : EntryPoint) :
    PluginOutcome (Except PluginFault Unit) :=
  let nothing : PluginOutcome Unit := ⟨m, r, [], [], [], ()⟩
  match e.content with
  | .unavailable => issue nothing ("Failed to load entrypoint " ++ quoted e.name)
  | .object =>
    issue nothing ("Loaded from entrypoint " ++ quoted e.name ++ " object is not a plugin")
  | .plugin p =>
    let o := m.load r p
    match o.result with
    | .ok _ => { o with result := .ok () }
    | .error _ =>
      issue { o with result := () } ("Plugin from entrypoint " ++ quoted e.name ++ " failed to initialize")

/-- Loads the plugins of entry points one after the other. -/
def loadEach (m : PluginManager) (r : Registry) :
    List EntryPoint → PluginOutcome (Except PluginFault Unit)
  | [] => ⟨m, r, [], [], [], .ok ()⟩
  | e :: rest =>
    let first := m.loadEntryPoint r e
    match first.result with
    | .error _ => first
    | .ok () =>
      let others := loadEach first.manager first.registry rest
      ⟨others.manager, others.registry, first.log ++ others.log, first.warnings ++ others.warnings,
        first.ran ++ others.ran, others.result⟩

/-- Loads the plugins of the entry points of a group. Gives the names of those that were loaded. -/
def loadEntryPoints (m : PluginManager) (r : Registry) (points : List EntryPoint) (group : String) :
    PluginOutcome (Except PluginFault (List String)) :=
  let o := m.loadEach r (points.filter fun e => e.group = group)
  { o with result := o.result.map fun _ => o.manager.names.filter fun name => !m.names.contains name }

end PluginManager

end LayoutTree
