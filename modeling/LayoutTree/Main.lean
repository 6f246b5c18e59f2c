import LayoutTree.Command.Run
import LayoutTree.Yaml.Writer

/-!
# The program

Collects what a run depends on, runs the command and prints its outcome.
-/

namespace LayoutTree

/-- The variables of the environment that settings are read from. -/
def settingVariables : IO (List (String × String)) := do
  let names := (Settings.plainFields ++ [Settings.modulesField]).map fun f =>
    Text.onChars Text.upper (Settings.variableStem ++ f)
  names.filterMapM fun name => do return (← IO.getEnv name).map fun value => (name, value)

/-- The files below a directory. -/
partial def filesBelow (location : List String) (entries : Array IO.FS.DirEntry) :
    IO (List (List String × FileEntry)) := do
  let mut found := []
  for e in entries do
    let here := location ++ [e.fileName]
    if ← e.path.isDir then
      found := (here, FileEntry.directory) :: (← filesBelow here (← e.path.readDir)) ++ found
    else
      found := (here, FileEntry.file (← IO.FS.readBinFile e.path)) :: found
  return found

/-- The files below the working directory. -/
def workingFiles : IO FileStore := do
  let here ← IO.currentDir
  let location := here.components.filter fun part => !part.isEmpty
  return ⟨← filesBelow location (← here.readDir), location⟩

/-- Runs the program with its arguments, and prints what comes of it. -/
def runProgram (arguments : List String) : IO UInt32 := do
  let surroundings : Command.Surroundings :=
    ⟨← settingVariables, ← workingFiles, ModuleIndex.standard, []⟩
  let o := Command.run surroundings arguments
  IO.eprint o.notes
  for w in o.warnings do
    IO.eprintln w
  match o.output with
  | .text s => IO.print s
  | .document v => IO.print (Yaml.render v)
  if let some e := o.escape then IO.eprintln e.message
  return UInt32.ofNat o.exitCode

end LayoutTree

/-- The entry of the program. -/
def main (arguments : List String) : IO UInt32 :=
  LayoutTree.runProgram arguments
