import LayoutTree.Build.Builder
import LayoutTree.Command.Arguments
import LayoutTree.Command.Document
import LayoutTree.Command.Reference

/-!
# The commands

What the program does with its arguments. `formats` lists the layout formats, `parse` shows the
descriptors of a layout file, and `build` builds a layout file below a window and shows the report.
All of it is decided here (`run`); what remains is to print the outcome.
-/

namespace LayoutTree.Command

/-! ## Outcomes -/

/-- What is printed. -/
inductive Output
  | text (s : String)
  /-- A document, in the YAML format. -/
  | document (v : Data)

/-- A failure that no command handles. -/
inductive Escape
  | settings (fault : SettingsFault)
  | module (fault : ModuleFault)
  | parsing (failure : ParseFailure)

/-- The message about a failure that no command handles. -/
def Escape.message : Escape → String
  | settings fault => fault.message
  | module fault => fault.message
  | parsing failure => failure.text

/-- What a run of the program comes to. -/
structure Outcome where
  exitCode : Nat
  output : Output
  /-- What is printed as errors and log lines. -/
  notes : String
  escape : Option Escape
  warnings : List String

namespace Outcome

/-- A run that prints a text. -/
def printed (s : String) : Outcome := ⟨0, .text s, "", none, []⟩

/-- A run that ends with an error. -/
def failed (exitCode : Nat) (notes : String) : Outcome := ⟨exitCode, .text "", notes, none, []⟩

/-- A run that ends with a failure that no command handles. -/
def escaped (e : Escape) : Outcome := ⟨1, .text "", "", some e, []⟩

/-- The lines of a log printed before all other notes. -/
def logged (level : LogLevel) (log : Log) (o : Outcome) : Outcome :=
  { o with notes := String.join ((log.atLeast level).map fun e => e.line ++ "\n") ++ o.notes }

/-- An outcome with warnings. -/
def warned (warnings : List String) (o : Outcome) : Outcome :=
  { o with warnings := warnings ++ o.warnings }

/-- A run that ends with an error message. -/
def error (message : String) : Outcome := failed 1 ("Error: " ++ message ++ "\n")

end Outcome

/-! ## What commands take -/

/-- A command as the user sees it. -/
structure CommandSpec where
  /-- The words that call it. -/
  path : String
  /-- What follows them. -/
  synopsis : String
  options : List OptionSpec
  /-- What it does and what its options mean. -/
  description : String
  /-- Whether it takes a layout file. -/
  takesSource : Bool

namespace CommandSpec

/-- How a command is called. -/
def usage (c : CommandSpec) : String := "Usage: " ++ c.path ++ " " ++ c.synopsis ++ "\n"

/-- The help on a command. -/
def help (c : CommandSpec) : String := c.usage ++ "\n" ++ c.description

/-- A run that ends because its arguments are wrong. -/
def refuse (c : CommandSpec) (fault : UsageFault) : Outcome :=
  .failed 2 (c.usage ++ "Try '" ++ c.path ++ " --help' for help.\n\nError: " ++ fault.message ++ "\n")

end CommandSpec

/-- The option that asks for help. -/
def helpOption : OptionSpec := ⟨"help", ["--help"], false⟩

/-- The program without a command. -/
def program : CommandSpec where
  path := "dynui"
  synopsis := "[OPTIONS] COMMAND [ARGS]..."
  options := [helpOption]
  description :=
    "  Command-line utilities for dynui layouts.\n\n" ++
    "Options:\n  --help  Show this message and exit.\n\n" ++
    "Commands:\n" ++
    "  build    Build a layout file into a reference Window and print the...\n" ++
    "  formats  List the registered layout formats and their extensions.\n" ++
    "  parse    Print the node descriptors of a layout file as YAML.\n"
  takesSource := false

/-- The command that lists the formats. -/
def formatsSpec : CommandSpec where
  path := "dynui formats"
  synopsis := "[OPTIONS]"
  options := [helpOption]
  description :=
    "  List the registered layout formats and their extensions.\n\n" ++
    "Options:\n  --help  Show this message and exit.\n"
  takesSource := false

/-- The command that shows descriptors. -/
def parseSpec : CommandSpec where
  path := "dynui parse"
  synopsis := "[OPTIONS] SOURCE"
  options := [helpOption]
  description :=
    "  Print the node descriptors of a layout file as YAML.\n\n" ++
    "Options:\n  --help  Show this message and exit.\n"
  takesSource := true

/-- The command that builds. -/
def buildSpec : CommandSpec where
  path := "dynui build"
  synopsis := "[OPTIONS] SOURCE"
  options := [
    ⟨"stop", ["--stop-on-error"], false⟩, ⟨"unchecked", ["--no-validate"], false⟩,
    ⟨"plugin", ["-p", "--plugin"], true⟩, helpOption]
  description :=
    "  Build a layout file into a reference Window and print the build report as\n" ++
    "  YAML. Exits with code 1 on build errors.\n\n" ++
    "Options:\n" ++
    "  --stop-on-error    Abort on the first error instead of reporting it.\n" ++
    "  --no-validate      Skip property validation.\n" ++
    "  -p, --plugin TEXT  Plugin to load, as module:attribute. May be repeated.\n" ++
    "  --help             Show this message and exit.\n"
  takesSource := true

/-- The commands. -/
inductive Action
  | formats
  | parse
  | build
  deriving DecidableEq, Repr

/-- The commands by name. -/
def actions : List (String × Action) := [("build", .build), ("formats", .formats), ("parse", .parse)]

/-- The command as the user sees it. -/
def Action.spec : Action → CommandSpec
  | formats => formatsSpec
  | parse => parseSpec
  | build => buildSpec

/-! ## Running commands -/

/-- What a run of the program depends on. -/
structure Surroundings where
  environment : List (String × String)
  files : FileStore
  modules : ModuleIndex
  offers : Offers

/-- The argument that names a layout file. -/
def sourceName : String := "SOURCE"

/-- Whether a path is written as that of a directory. -/
def looksLikeDirectory (path : String) : Bool := path.endsWith "/" || path.endsWith "/."

/-- What is wrong with the path of a layout file. -/
def sourceFault? (files : FileStore) (path : String) : Option UsageFault :=
  let p := FilePath.ofString path
  let isFile := (files.isFile p).toOption.getD false
  let isThere := (files.leadsAnywhere p).toOption.getD false
  if path.isEmpty || !isThere || (isFile && looksLikeDirectory path) then
    some (.absentFile sourceName path)
  else if isFile then none
  else some (.isDirectory sourceName path)

/-- The layout file among plain arguments. -/
def source (files : FileStore) : List String → Except UsageFault FilePath
  | [] => .error (.missingArgument sourceName)
  | path :: rest =>
    match sourceFault? files path with
    | some fault => .error fault
    | none => if rest.isEmpty then .ok (.ofString path) else .error (.extra rest)

/-- Lists the formats. -/
def listFormats : Outcome :=
  .printed (String.join (Formats.standard.members.map fun f =>
    f.name ++ ": " ++ String.intercalate " " f.extensions ++ "\n"))

/-- Ends a run because a layout file cannot be parsed. -/
def parseFailed : ParseFailure → Outcome
  | .source e => .error e.text
  | failure => .escaped (.parsing failure)

/-- Shows the descriptors of a layout file. -/
def parseLayout (s : Surroundings) (level : LogLevel) (path : FilePath) : Outcome :=
  let (log, parsed) := Formats.parse Formats.standard s.files path
  .logged level log <|
    match parsed with
    | .ok ds => ⟨0, .document (.list (Descriptor.documents ds)), "", none, []⟩
    | .error failure => parseFailed failure

/-- Loads plugins by their references, one after the other. The outcome says why one cannot be
loaded. -/
def loadPlugins (s : Surroundings) (m : PluginManager) (r : Registry) :
    List String → PluginOutcome (Option Outcome)
  | [] => ⟨m, r, [], [], [], none⟩
  | reference :: rest =>
    let stop := fun o => (⟨m, r, [], [], [], some o⟩ : PluginOutcome (Option Outcome))
    match Reference.resolve s.modules s.offers reference with
    | .error (.module (.relative name)) => stop (.escaped (.module (.relative name)))
    | .error fault =>
      stop (.error ("Cannot load plugin " ++ Text.quoted reference ++ ": " ++ fault.message))
    | .ok (.plugin p) =>
      let first := m.load r p
      match first.result with
      | .error fault => { first with result := some (.error fault.message) }
      | .ok _ =>
        let others := loadPlugins s first.manager first.registry rest
        { others with log := first.log ++ others.log, warnings := first.warnings ++ others.warnings }
    | .ok _ => stop (.error ("Object " ++ Text.quoted reference ++ " is not a plugin"))

/-- The class of the container that layouts are built into. -/
def windowClass : NodeClass :=
  (NodeClass.widgets.find? fun c => c.name = "Window").getD (NodeClass.leaf "Window" [])

/-- Ends a run after a build. -/
def builtOutcome (o : BuildOutcome) : Outcome :=
  match o.halt with
  | some ⟨.noModule fault, _⟩ => .escaped (.module fault)
  | some h => .error h.message
  | none => ⟨if o.report.hasErrors then 1 else 0, .document o.report.document, "", none, []⟩

/-- Builds a layout file below a window. -/
def buildLayout (s : Surroundings) (level : LogLevel) (r : Reader) (path : FilePath) : Outcome :=
  let given := [("stop_on_error", Data.bool (r.has "stop")),
    ("validate_properties", .bool (!r.has "unchecked"))]
  match Settings.read s.environment given with
  | .error fault => .escaped (.settings fault)
  | .ok settings =>
    let plugins := loadPlugins s (.empty settings.strictPlugins) .standard (r.values "plugin")
    .warned plugins.warnings <| .logged level plugins.log <|
      match plugins.result with
      | some o => o
      | none =>
        let b := Builder.standard settings s.files s.modules
        let (log, built) :=
          b.buildFile plugins.registry plugins.manager (.ofClass 0 windowClass) path.text .direct
        match built with
        | .ok o => .logged level (log ++ o.log) (builtOutcome o)
        | .error failure => .logged level log (parseFailed failure)

/-- Runs a command whose arguments have been read. -/
def runAction (s : Surroundings) (level : LogLevel) (a : Action) (r : Reader) : Outcome :=
  if r.has helpOption.key then .printed a.spec.help
  else if !a.spec.takesSource then
    if r.plain.isEmpty then listFormats else a.spec.refuse (.extra r.plain)
  else
    match source s.files r.plain with
    | .error fault => a.spec.refuse fault
    | .ok path => if a = .parse then parseLayout s level path else buildLayout s level r path

/-- Refuses a name that no command has. One that looks like an option is taken for one. -/
def refuseCommand (name : String) (arguments : List String) : Outcome :=
  match Reader.readAll program.options false (name :: arguments) with
  | .error fault => program.refuse fault
  | .ok r =>
    if r.has helpOption.key then .printed program.help
    else program.refuse (.noCommand name (suggestions name (actions.map (·.1))))

/-- Runs the command of a name with its arguments. -/
def runNamed (s : Surroundings) (name : String) (arguments : List String) : Outcome :=
  match actions.lookup name with
  | none => refuseCommand name arguments
  | some a =>
    match Settings.read s.environment [] with
    | .error fault => .escaped (.settings fault)
    | .ok settings =>
      match Reader.readAll a.spec.options true arguments with
      | .error fault => a.spec.refuse fault
      | .ok r => runAction s settings.logLevel a r

/-- Runs the program. -/
def run (s : Surroundings) (arguments : List String) : Outcome :=
  if arguments.isEmpty then .failed 2 (program.help)
  else
    match Reader.readAll program.options false arguments with
    | .error fault => program.refuse fault
    | .ok r =>
      if r.has helpOption.key then .printed program.help
      else
        match r.plain with
        | [] => program.refuse .missingCommand
        | name :: rest => runNamed s name rest

end LayoutTree.Command
