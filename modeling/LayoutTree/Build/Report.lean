import LayoutTree.Plugin.Manager

/-!
# Reports

A report records what a build came to: one result for each node that was reached, and messages about
what was noticed. Counts are taken from these lists, so they agree with them.
-/

namespace LayoutTree

/-- What became of a node. -/
inductive NodeState
  | success
  | skipped
  | failed
  deriving DecidableEq, Repr

/-- How serious a message is. -/
inductive Severity
  | info
  | warning
  | error
  deriving DecidableEq, Repr

namespace NodeState

/-- All states. -/
def all : List NodeState := [success, skipped, failed]

/-- The name of a state. -/
def name : NodeState → String
  | success => "success"
  | skipped => "skipped"
  | failed => "failed"

end NodeState

namespace Severity

/-- All severities. -/
def all : List Severity := [info, warning, error]

/-- The name of a severity. -/
def name : Severity → String
  | info => "info"
  | warning => "warning"
  | error => "error"

/-- The level of a log entry about a message. -/
def level : Severity → LogLevel
  | info => .info
  | warning => .warning
  | error => .error

end Severity

/-- Something that was noticed. -/
structure BuildMessage where
  severity : Severity
  text : String
  /-- The type of the node that it is about. -/
  typeName : Option String
  /-- The property that it is about. -/
  property : Option String
  /-- The file that it is about. -/
  source : Option String
  deriving DecidableEq, Repr

/-- What became of a node and its properties. -/
structure NodeResult where
  typeName : String
  state : NodeState
  source : Option String
  /-- How many properties were assigned. -/
  applied : Nat
  /-- How many had no value or no use. -/
  skipped : Nat
  /-- How many were blocked by validation. -/
  blocked : Nat
  /-- How many could not be assigned. -/
  failed : Nat
  deriving DecidableEq, Repr

/-- The result of a node whose properties have not been looked at. -/
def NodeResult.ofState (typeName : String) (state : NodeState) (source : Option String) : NodeResult :=
  ⟨typeName, state, source, 0, 0, 0, 0⟩

/-- What a build came to. -/
structure Report where
  /-- The file that was built. -/
  source : Option String
  nodes : List NodeResult
  messages : List BuildMessage
  /-- The plugins that were loaded. -/
  plugins : List PluginInfo
  /-- How many setters there were. -/
  setters : Nat
  /-- How many validators there were. -/
  validators : Nat
  /-- How many converters there were. -/
  converters : Nat
  deriving DecidableEq, Repr

namespace Report

/-- A report that says nothing yet. -/
def empty (source : Option String) : Report := ⟨source, [], [], [], 0, 0, 0⟩

/-- The report with one more message. -/
def addMessage (r : Report) (m : BuildMessage) : Report := { r with messages := r.messages ++ [m] }

/-- The report with one more result. -/
def addNode (r : Report) (n : NodeResult) : Report := { r with nodes := r.nodes ++ [n] }

/-- The messages of a severity. -/
def ofSeverity (r : Report) (s : Severity) : List String :=
  (r.messages.filter fun m => m.severity = s).map (·.text)

/-- How many messages have a severity. -/
def messageCount (r : Report) (s : Severity) : Nat := r.messages.countP fun m => m.severity = s

/-- How many nodes are in a state. -/
def stateCount (r : Report) (s : NodeState) : Nat := r.nodes.countP fun n => n.state = s

/-- Whether an error was noticed. -/
def hasErrors (r : Report) : Bool := r.messageCount .error ≠ 0

/-- The report with what there was at the end of the build. -/
def close (r : Report) (registry : Registry) (plugins : PluginManager) : Report :=
  { r with
    plugins := plugins.infos
    setters := registry.setters.members.length
    validators := registry.validators.members.length
    converters := registry.conversion.converters.members.length }

theorem length_ofSeverity (r : Report) (s : Severity) :
    (r.ofSeverity s).length = r.messageCount s := by
  simp [ofSeverity, messageCount, List.countP_eq_length_filter]

end Report

end LayoutTree
