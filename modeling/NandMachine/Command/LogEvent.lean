/-
# NandMachine.Command.LogEvent -- what is worth a line in the log

An event has a level, the target that it comes from, a message, and fields with
values.  Levels say how much an event matters; as the bound of a log they say how
much is written.
-/
namespace NandMachine.Command

set_option autoImplicit false

/-- How much an event matters, or how much is logged. -/
inductive LogLevel
  | off | error | warn | info | debug | trace
  deriving DecidableEq, Repr

namespace LogLevel

/-- Levels in order, from nothing to everything. -/
def rank : LogLevel → Nat
  | off => 0 | error => 1 | warn => 2 | info => 3 | debug => 4 | trace => 5

/-- The name of a level in a log line. -/
def name : LogLevel → String
  | off => "OFF" | error => "ERROR" | warn => "WARN" | info => "INFO" | debug => "DEBUG"
  | trace => "TRACE"

/-- All levels, each at the place of its rank. -/
def all : List LogLevel := [off, error, warn, info, debug, trace]

end LogLevel

/-- Something worth a line in the log. -/
structure LogEvent where
  level : LogLevel
  target : String
  message : String
  fields : List (String × String)
  deriving DecidableEq, Repr

namespace LogEvent

/-- Whether an event has a field; the message counts as one. -/
def hasField (e : LogEvent) (name : String) : Bool :=
  name == "message" || e.fields.any (·.1 == name)

/-- The event as a log line: level, target, message and fields. -/
def line (e : LogEvent) : String :=
  e.level.name ++ " " ++ e.target ++ ": " ++ " ".intercalate
    (e.message :: e.fields.map fun (key, value) => key ++ "=" ++ value)

end LogEvent

end NandMachine.Command
