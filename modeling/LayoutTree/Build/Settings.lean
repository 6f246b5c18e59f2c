import LayoutTree.Conversion.Record
import LayoutTree.Diagnostic.Log
import LayoutTree.Json.Reader

/-!
# Settings

What a build does about problems, and where it looks for types. Settings are read from given values
and from the environment (`Settings.read`): a given value goes before a variable, and a variable
before the default. The names of variables do not depend on case.
-/

namespace LayoutTree

open LayoutTree.Text

/-- The switches of a build. -/
structure Settings where
  /-- Whether the first problem ends the build. -/
  stopOnError : Bool
  /-- Whether values are validated before they are assigned. -/
  validateProperties : Bool
  /-- Whether unknown types are looked for in modules. -/
  autoRegister : Bool
  /-- The modules in which unknown types are looked for. -/
  autoRegisterModules : List String
  /-- The type of the panel that is put around a second child. -/
  wrapperType : String
  /-- Whether problems with the entry points of plugins are errors. -/
  strictPlugins : Bool
  /-- The least serious log entries that are shown. -/
  logLevel : LogLevel
  deriving DecidableEq, Repr

/-- Why settings cannot be read. -/
inductive SettingsFault
  /-- The variable of a field does not hold a JSON document. -/
  | unreadable (field : String)
  /-- Values are wrong. -/
  | invalid (violations : List RecordViolation)

namespace SettingsFault

/-- The message about a variable that cannot be read. -/
def message : SettingsFault → String
  | unreadable field =>
    "error parsing value for field \"" ++ field ++ "\" from source \"EnvSettingsSource\""
  | invalid _ => ""

end SettingsFault

namespace Settings

/-- The settings where nothing is said. -/
def standard : Settings where
  stopOnError := false
  validateProperties := true
  autoRegister := true
  autoRegisterModules := ["dynui.widgets"]
  wrapperType := "StackPanel"
  strictPlugins := false
  logLevel := .info

/-- What the names of variables start with. -/
def variableStem : String := "dynui_"

/-- The variable of a field: the last one whose name is that of the field, case aside. -/
def valueIn (environment : List (String × String)) (field : String) : Option String :=
  (environment.reverse.find? fun v => onChars lower v.1 = variableStem ++ field).map (·.2)

/-- The fields whose variables hold plain texts. -/
def plainFields : List String :=
  ["stop_on_error", "validate_properties", "auto_register", "wrapper_type", "strict_plugins",
    "log_level"]

/-- The field whose variable holds a JSON document. -/
def modulesField : String := "auto_register_modules"

/-- The value of the field for modules in the environment. Null stands for no value. -/
def modulesIn (environment : List (String × String)) : Except SettingsFault (List (String × Data)) :=
  match valueIn environment modulesField with
  | none => .ok []
  | some s =>
    match Json.read s with
    | .ok .null => .ok []
    | .ok v => .ok [(modulesField, v)]
    | .error _ => .error (.unreadable modulesField)

/-- The levels of log entries by name. -/
def logLevels : List (String × LogLevel) :=
  [LogLevel.debug, .info, .warning, .error].map fun l => (l.name, l)

/-- Settings read from values of fields. Values of other fields do not count. -/
def ofFields (fields : List (String × Data)) : Checked Settings :=
  let truth := fun name default => Record.field fields name Record.truth (some default)
  (((((((truth "stop_on_error" standard.stopOnError).map Settings.mk).along
    (truth "validate_properties" standard.validateProperties)).along
    (truth "auto_register" standard.autoRegister)).along
    (Record.field fields modulesField (Record.listOf Record.text)
      (some standard.autoRegisterModules))).along
    (Record.field fields "wrapper_type" Record.text (some standard.wrapperType))).along
    (truth "strict_plugins" standard.strictPlugins)).along
    (Record.field fields "log_level" (Record.option logLevels) (some standard.logLevel))

/-- Settings read from given values and the environment. -/
def read (environment : List (String × String)) (given : List (String × Data)) :
    Except SettingsFault Settings := do
  let plain := plainFields.filterMap fun f => (valueIn environment f).map fun s => (f, Data.text s)
  let modules ← modulesIn environment
  match ofFields (given ++ plain ++ modules) with
  | .ok s => .ok s
  | .wrong vs => .error (.invalid vs)

/-- Settings as values of fields. -/
def fields (s : Settings) : List (String × Data) := [
  ("stop_on_error", .bool s.stopOnError), ("validate_properties", .bool s.validateProperties),
  ("auto_register", .bool s.autoRegister),
  ("auto_register_modules", .list (s.autoRegisterModules.map .text)),
  ("wrapper_type", .text s.wrapperType), ("strict_plugins", .bool s.strictPlugins),
  ("log_level", .text s.logLevel.name)]

theorem ofFields_nil : (ofFields []).toOption = some standard := rfl

end Settings

end LayoutTree
