/-
# NandMachine.Command.LogFilter -- which events are logged

A log setting is a list of directives separated by commas; empty ones do not
count.  Of the directives that speak of an event the most specific one decides,
the last of several: the event is logged when that directive admits its level.  An
event of which no directive speaks is not logged.  A setting without directives
admits errors only.
-/
import NandMachine.Command.LogDirective

namespace NandMachine.Command

set_option autoImplicit false

/-- A list of directives, of equally specific ones the last one counting. -/
abbrev LogFilter := List LogDirective

namespace LogFilter

def ofText? (text : String) : Except LogSettingError LogFilter := do
  match ← ((text.toList.splitOn ',').filter (!·.isEmpty)).mapM LogDirective.ofText? with
  | [] => return [{ level := .error }]
  | directives => return directives

/-- The filter of a level. -/
def ofLevel (level : LogLevel) : LogFilter := [{ level }]

/-- The directive that decides about an event. -/
def deciding (filter : LogFilter) (e : LogEvent) : Option LogDirective :=
  filter.foldl (fun best d =>
    if d.concerns e && best.all (fun b => (LogDirective.specificity b d).isLE) then some d
    else best) none

def admits (filter : LogFilter) (e : LogEvent) : Bool :=
  (filter.deciding e).any fun d => e.level.rank ≤ d.level.rank

end LogFilter

end NandMachine.Command
