/-
# NandMachine.Command.Outcome -- what a command leaves behind

A command writes to standard output and to standard error, logs events, and ends
with an exit code.
-/
import NandMachine.Command.LogFilter

namespace NandMachine.Command

set_option autoImplicit false

/-- The exit code, the texts written, and the events that happened. -/
structure Outcome where
  exit : Nat := 0
  stdout : String := ""
  stderr : String := ""
  events : List LogEvent := []
  deriving Repr

namespace Outcome

/-- Lines of output. -/
def lines (texts : List String) : String := String.join (texts.map (· ++ "\n"))

/-- Ends with a complaint after some output. -/
def failure (stdout : String) (complaint : String) (events : List LogEvent) : Outcome :=
  { exit := 1, stdout, stderr := complaint ++ "\n", events }

end Outcome

end NandMachine.Command
