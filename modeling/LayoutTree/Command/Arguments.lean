import LayoutTree.Command.Suggestion
import LayoutTree.Text.Quoted
import LayoutTree.Text.Search

/-!
# Arguments

Commands are given options and plain arguments. An option is written with its name, and its value
follows it or is joined to it; single letters can be written together. After `--` all arguments are
plain. Arguments are read one at a time by a `Reader`, which remembers the option that waits for its
value.
-/

namespace LayoutTree.Command

open LayoutTree.Text

/-- An option of a command. -/
structure OptionSpec where
  /-- What it is known by. -/
  key : String
  /-- How it can be written. -/
  names : List String
  /-- Whether it has a value. -/
  takesValue : Bool
  deriving DecidableEq, Repr

/-- What is wrong with arguments. -/
inductive UsageFault
  | noOption (name : String) (instead : List String)
  | noCommand (name : String) (instead : List String)
  | missingCommand
  | takesNoValue (name : String)
  | needsValue (name : String)
  | missingArgument (name : String)
  | absentFile (name path : String)
  | isDirectory (name path : String)
  | extra (arguments : List String)
  deriving DecidableEq, Repr

namespace UsageFault

/-- The hint at what may have been meant. -/
def hint : List String → String
  | [] => ""
  | [a] => " Did you mean " ++ quoted a ++ "?"
  | words => " (Did you mean one of: " ++ joinWith ", " (words.map quoted) ++ "?)"

/-- The message about wrong arguments. -/
def message : UsageFault → String
  | noOption name instead => "No such option " ++ quoted name ++ "." ++ hint instead
  | noCommand name instead => "No such command " ++ quoted name ++ "." ++ hint instead
  | missingCommand => "Missing command."
  | takesNoValue name => "Option " ++ quoted name ++ " does not take a value."
  | needsValue name => "Option " ++ quoted name ++ " requires an argument."
  | missingArgument name => "Missing argument '" ++ name ++ "'."
  | absentFile name path =>
    "Invalid value for '" ++ name ++ "': File " ++ quoted path ++ " does not exist."
  | isDirectory name path =>
    "Invalid value for '" ++ name ++ "': File " ++ quoted path ++ " is a directory."
  | extra [a] => "Got unexpected extra argument (" ++ a ++ ")"
  | extra arguments => "Got unexpected extra arguments (" ++ joinWith " " arguments ++ ")"

end UsageFault

/-- What has been read of arguments. -/
structure Reader where
  /-- The options with their values. -/
  given : List (String × String)
  /-- The plain arguments. -/
  plain : List String
  /-- The option that waits for its value: what it is known by, and how it was written. -/
  waiting : Option (String × String)
  /-- Whether no more options are expected. -/
  ended : Bool
  deriving DecidableEq, Repr

namespace Reader

/-- Nothing has been read. -/
def start : Reader := ⟨[], [], none, false⟩

/-- One more option. -/
def give (r : Reader) (key value : String) : Reader := { r with given := r.given ++ [(key, value)] }

/-- The option of a name. -/
def option? (specs : List OptionSpec) (name : String) : Option OptionSpec :=
  specs.find? fun s => s.names.contains name

/-- Whether an option is written with a single letter. -/
def isLetterName (name : String) : Bool := name.length = 2

/-- The names of options that are longer than a letter. -/
def longNames (specs : List OptionSpec) : List String :=
  (specs.flatMap OptionSpec.names).filter fun name => !isLetterName name

/-- Options written as single letters together. -/
def readLetters (specs : List OptionSpec) (r : Reader) : List Char → Except UsageFault Reader
  | [] => .ok r
  | c :: rest =>
    let name := String.ofList ['-', c]
    match option? specs name with
    | none => .error (.noOption name [])
    | some o =>
      if !o.takesValue then readLetters specs (r.give o.key "") rest
      else if rest.isEmpty then .ok { r with waiting := some (o.key, name) }
      else .ok (r.give o.key (String.ofList rest))

/-- An option by its long name, perhaps with its value. -/
def readLong (o : OptionSpec) (name : String) (value : Option String) (r : Reader) :
    Except UsageFault Reader :=
  match o.takesValue, value with
  | true, some v => .ok (r.give o.key v)
  | true, none => .ok { r with waiting := some (o.key, name) }
  | false, some _ => .error (.takesNoValue name)
  | false, none => .ok (r.give o.key "")

/-- An argument that begins with a dash. -/
def readOption (specs : List OptionSpec) (r : Reader) (argument : String) : Except UsageFault Reader :=
  let s := argument.toList
  let name := String.ofList (s.takeWhile (· ≠ '='))
  let value := if s.contains '=' then some (String.ofList ((s.dropWhile (· ≠ '=')).drop 1)) else none
  match if isLetterName name then none else option? specs name with
  | some o => readLong o name value r
  | none =>
    if s.take 2 = ['-', '-'] then .error (.noOption name (suggestions name (longNames specs)))
    else readLetters specs r (s.drop 1)

/-- One more argument. Where options and plain arguments are not mixed, the first plain one ends the
options. -/
def read (specs : List OptionSpec) (mixed : Bool) (r : Reader) (argument : String) :
    Except UsageFault Reader :=
  match r.waiting with
  | some (key, _) => .ok ({ r with waiting := none }.give key argument)
  | none =>
    if r.ended then .ok { r with plain := r.plain ++ [argument] }
    else if argument = "--" then .ok { r with ended := true }
    else if argument.toList.head? = some '-' ∧ 1 < argument.length then readOption specs r argument
    else .ok { r with plain := r.plain ++ [argument], ended := !mixed }

/-- All arguments read in order. -/
def readAll (specs : List OptionSpec) (mixed : Bool) (arguments : List String) :
    Except UsageFault Reader := do
  let r ← arguments.foldlM (read specs mixed) start
  match r.waiting with
  | some (_, name) => .error (.needsValue name)
  | none => .ok r

/-- Whether an option is given. -/
def has (r : Reader) (key : String) : Bool := r.given.any fun g => g.1 = key

/-- The values of an option. -/
def values (r : Reader) (key : String) : List String :=
  (r.given.filter fun g => g.1 = key).map (·.2)

end Reader

end LayoutTree.Command
