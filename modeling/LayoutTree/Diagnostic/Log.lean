/-!
# Log entries

What an operation reports besides its result: entries in the order in which they arose. A log is a
plain list, so an operation's entries are part of its value.
-/

namespace LayoutTree

/-- How serious a log entry is. -/
inductive LogLevel
  | debug
  | info
  | warning
  | error
  deriving DecidableEq, Repr

namespace LogLevel

/-- The rank of a level: more serious levels have greater ranks. -/
def rank : LogLevel → Nat
  | debug => 0
  | info => 1
  | warning => 2
  | error => 3

/-- The name of a level. -/
def name : LogLevel → String
  | debug => "DEBUG"
  | info => "INFO"
  | warning => "WARNING"
  | error => "ERROR"

end LogLevel

/-- One entry of a log. -/
structure LogEntry where
  /-- How serious it is. -/
  level : LogLevel
  /-- The part of the program that it comes from. -/
  channel : String
  /-- The message. -/
  text : String
  deriving DecidableEq, Repr

/-- Log entries, oldest first. -/
abbrev Log := List LogEntry

/-- The line that shows an entry. -/
def LogEntry.line (e : LogEntry) : String :=
  e.level.name ++ " " ++ e.channel ++ ": " ++ e.text

/-- The entries that are at least as serious as a level. -/
def Log.atLeast (level : LogLevel) (log : Log) : Log :=
  log.filter fun e => level.rank ≤ e.level.rank

theorem Log.atLeast_append (level : LogLevel) (a b : Log) :
    Log.atLeast level (a ++ b) = Log.atLeast level a ++ Log.atLeast level b := by
  simp [Log.atLeast]

end LayoutTree
