/-
# NandMachine.Command.Grammar -- the grammar of a command line

A command line is a list of arguments.  An argument that starts with two hyphens
names an option, with its value behind `=` or in the next argument; one hyphen
introduces one-letter options, which may be joined, the last one with its value.
Every other argument, and every argument after a bare `--`, is positional.

`matchAll` reads the arguments of one command against its options and answers
what it found, or the first thing that does not fit.  The value of an option in
an argument of its own is judged when the next known option or positional
argument arrives, so an unknown argument behind a bad value is reported in its
place.  A closing option, such as a request for help, ends the reading where it
stands, and nothing that follows or is missing is judged.
-/
import NandMachine.Text.Plain

namespace NandMachine.Command

set_option autoImplicit false

/-- An option of a command. -/
structure Opt where
  long : String
  short : Option Char := none
  /-- The name of its value; a switch has none. -/
  valueName : Option String := none
  /-- Whether it may be given more than once. -/
  repeatable : Bool := false
  /-- Whether it ends the reading. -/
  closing : Bool := false
  /-- The complaint about a value, if there is one. -/
  complaint : String → Option String := fun _ => none

namespace Opt

/-- The option as usage messages show it. -/
def shown (o : Opt) : String :=
  "--" ++ o.long ++ match o.valueName with
    | some value => " <" ++ value ++ ">"
    | none => ""

end Opt

/-- What does not fit in a command line. -/
inductive UsageError
  | invalidValue (value option reason : String)
  | unknownCommand (name : String)
  | unexpectedArgument (argument : String)
  | missingArguments (names : List String)
  | missingValue (option : String)
  | repeated (option : String)
  | unneededValue (value option : String)
  deriving DecidableEq, Repr

/-- The wording of a usage error on a terminal, with names and values marked. -/
def UsageError.wording : UsageError → String
  | invalidValue value option reason =>
      s!"error: invalid value '{Text.marked value}' for '{Text.marked option}': {reason}"
  | unknownCommand name => s!"error: unrecognized subcommand '{Text.marked name}'"
  | unexpectedArgument argument => s!"error: unexpected argument '{Text.marked argument}' found"
  | missingArguments names =>
      "\n".intercalate ("error: the following required arguments were not provided:" ::
        names.map ("  " ++ Text.marked ·))
  | missingValue option =>
      s!"error: a value is required for '{Text.marked option}' but none was supplied"
  | repeated option => s!"error: the argument '{Text.marked option}' cannot be used multiple times"
  | unneededValue value option =>
      s!"error: unexpected value '{Text.marked value}' for '{Text.marked option}' found; " ++
        "no more were expected"

/-- The message about a usage error where there is no terminal.  A mark ends what a
value leaves open, but a reason has none behind it. -/
def UsageError.message (e : UsageError) : String :=
  let help := Text.marked "--help"
  Text.plain (e.wording ++ s!"\n\nFor more information, try '{help}'.\n")

/-- What has been read of a command line so far. -/
structure Matches where
  /-- The options given, latest first, with their values (empty for a switch). -/
  given : List (String × String) := []
  /-- The positional arguments, latest first. -/
  positional : List String := []
  /-- An option that waits for its value or whose value is not judged yet. -/
  pending : Option (Opt × Option String) := none
  /-- Whether a closing option was met. -/
  closed : Bool := false
  deriving Inhabited

namespace Matches

def has (m : Matches) (long : String) : Bool := m.given.any (·.1 == long)

/-- The values of an option in the order given. -/
def values (m : Matches) (long : String) : List String :=
  (m.given.filter (·.1 == long)).reverse.map (·.2)

/-- Records an option with its value. -/
def give (m : Matches) (o : Opt) (value : String) : Except UsageError Matches :=
  if m.has o.long && !o.repeatable then .error (.repeated o.shown)
  else match o.complaint value with
    | some reason => .error (.invalidValue value o.shown reason)
    | none => .ok { m with given := (o.long, value) :: m.given, closed := m.closed || o.closing }

/-- Judges the option that waits. -/
def settle (m : Matches) : Except UsageError Matches :=
  match m.pending with
  | none => .ok m
  | some (o, none) => .error (.missingValue o.shown)
  | some (o, some value) => { m with pending := none }.give o value

/-- Meets a switch. -/
def switch (m : Matches) (o : Opt) : Except UsageError Matches := do
  (← m.settle).give o ""

/-- Meets an option with the value attached to it, if any. -/
def option (m : Matches) (o : Opt) (attached : Option String) : Except UsageError Matches := do
  let m ← m.settle
  match attached with
  | some value => m.give o value
  | none => return { m with pending := some (o, none) }

/-- Meets a long option by name. -/
def longOption (opts : List Opt) (m : Matches) (name : String) (attached : Option String) :
    Except UsageError Matches :=
  match opts.find? (·.long == name) with
  | none => .error (.unexpectedArgument ("--" ++ name))
  | some o => match o.valueName, attached with
      | none, some value => .error (.unneededValue value o.shown)
      | none, none => m.switch o
      | some _, attached => m.option o attached

/-- Meets joined one-letter options. -/
def shortOptions (opts : List Opt) (m : Matches) : List Char → Except UsageError Matches
  | [] => .ok m
  | c :: rest =>
      match opts.find? (·.short == some c) with
      | none => .error (.unexpectedArgument (String.ofList ['-', c]))
      | some o =>
          if o.valueName.isNone then do
            let m ← m.switch o
            if m.closed then return m else shortOptions opts m rest
          else match rest with
            | [] => m.option o none
            | '=' :: value => m.option o (some (String.ofList value))
            | value => m.option o (some (String.ofList value))

/-- Whether an option waits for the next argument. -/
def expectsValue (m : Matches) : Bool := m.pending.any (·.2.isNone)

/-- Meets a positional argument. -/
def positionalArgument (places : Nat) (m : Matches) (argument : String) :
    Except UsageError Matches :=
  if m.positional.length < places then do
    let m ← m.settle
    return { m with positional := argument :: m.positional }
  else .error (.unexpectedArgument argument)

/-- A text cut at its first equals sign. -/
def cutAtEquals (cs : List Char) : String × Option String :=
  (String.ofList (cs.takeWhile (· != '=')),
    match cs.dropWhile (· != '=') with
    | _ :: value => some (String.ofList value)
    | [] => none)

/-- Reads the arguments behind what is read already.  After a bare `--` all of
them are positional. -/
def read (opts : List Opt) (places : Nat) :
    Matches → (bare : Bool) → List String → Except UsageError Matches
  | m, _, [] => m.settle
  | m, true, argument :: rest => do
      read opts places (← m.positionalArgument places argument) true rest
  | m, false, argument :: rest =>
      if m.closed then .ok m
      else match argument.toList with
      | ['-', '-'] => read opts places m true rest
      | '-' :: '-' :: name => do
          let (name, attached) := cutAtEquals name
          read opts places (← m.longOption opts name attached) false rest
      | '-' :: c :: letters => do
          read opts places (← m.shortOptions opts (c :: letters)) false rest
      | _ => match m.pending with
          | some (o, none) => read opts places { m with pending := some (o, some argument) } false rest
          | _ => do read opts places (← m.positionalArgument places argument) false rest

end Matches

/-- Reads the arguments of a command with the given options and names of
positional arguments, all of which are required. -/
def matchAll (opts : List Opt) (names : List String) (arguments : List String) :
    Except UsageError Matches := do
  let m ← Matches.read opts names.length {} false arguments
  if m.closed then return m
  else match names.drop m.positional.length with
    | [] => return m
    | missing => .error (.missingArguments missing)

end NandMachine.Command
