/-
# NandMachine.Command.Line -- the commands

The program runs, debugs and disassembles program files and has a self-test;
without a command it shows its gates at work.  `Invocation.ofArguments` reads a
command line.
-/
import NandMachine.Command.Grammar
import NandMachine.Command.Number
import NandMachine.Machine.Memory
import NandMachine.Text.Blank

namespace NandMachine.Command

set_option autoImplicit false

/-- A memory word to set before a run. -/
structure Assignment where
  address : Word
  value : Word
  deriving DecidableEq, Repr

/-- A stretch of memory to show after a run. -/
structure DumpRange where
  start : Nat
  count : Nat
  deriving DecidableEq, Repr

/-- How to run a program. -/
structure RunOptions where
  program : String
  maxCycles : Nat := 10000
  flat : Bool := false
  ram : List Assignment := []
  dump : DumpRange := ⟨0, 16⟩
  trace : Bool := false
  json : Bool := false
  deriving DecidableEq, Repr

/-- A command with its options. -/
inductive Request
  | run (options : RunOptions)
  | debug (program : String) (flat : Bool)
  | disassemble (program : String)
  | selfTest
  | demo
  | version
  | help
  deriving DecidableEq, Repr

/-- A command line: the command, and whether logging was asked for. -/
structure Invocation where
  request : Request
  verbose : Bool := false
  deriving DecidableEq, Repr

/-! ## Values of options -/

/-- A text cut at the first occurrence of a separator, if it has one. -/
def cutAt? (separator : Char) (cs : List Char) : Option (List Char × List Char) :=
  match cs.dropWhile (· != separator) with
  | _ :: rest => some (cs.takeWhile (· != separator), rest)
  | [] => none

/-- Reads a number with blanks around it, or says what it should have been. -/
def readPart {α : Type} (role : String) (number? : List Char → Except NumberError α)
    (cs : List Char) : Except String α :=
  match number? (Text.trim cs) with
  | .ok n => .ok n
  | .error e => .error s!"bad {role} '{String.ofList cs}': {e.message}"

/-- Reads `ADDR=VALUE`: an address in RAM and a signed value. -/
def readAssignment (text : String) : Except String Assignment :=
  match cutAt? '=' text.toList with
  | none => .error s!"expected ADDR=VALUE, got '{text}'"
  | some (address, value) => do
      let address ← readPart "address" (unsigned? 65535) address
      if Memory.screenStart ≤ address then
        .error s!"address {address} is outside RAM (0-16383)"
      else
        let value ← readPart "value" (signed? 32768 32767) value
        return ⟨BitVec.ofNat 16 address, Word.ofInt value⟩

/-- Reads `START:COUNT`. -/
def readDumpRange (text : String) : Except String DumpRange :=
  match cutAt? ':' text.toList with
  | none => .error s!"expected START:COUNT, got '{text}'"
  | some (start, count) => do
      let start ← readPart "start" (unsigned? 65535) start
      let count ← readPart "count" (unsigned? 65535) count
      return ⟨start, count⟩

/-- Reads a number of instructions. -/
def readCycles (text : String) : Except String Nat :=
  match unsigned? (Fault.counterLimit - 1) text.toList with
  | .ok n => .ok n
  | .error e => .error e.message

/-- The complaint of a reader about a text. -/
def complaintOf {α : Type} (read : String → Except String α) (text : String) : Option String :=
  match read text with
  | .ok _ => none
  | .error reason => some reason

/-! ## The grammar of each command -/

def verboseOpt : Opt := { long := "verbose", short := some 'v' }

def helpOpt : Opt := { long := "help", short := some 'h', closing := true }

def versionOpt : Opt := { long := "version", short := some 'V', closing := true }

def flatOpt : Opt := { long := "flat" }

def runOpts : List Opt :=
  [{ long := "max-cycles", short := some 'm', valueName := some "MAX_CYCLES"
     complaint := complaintOf readCycles },
   flatOpt,
   { long := "ram", valueName := some "RAM", repeatable := true
     complaint := complaintOf readAssignment },
   { long := "dump", valueName := some "DUMP", complaint := complaintOf readDumpRange },
   { long := "trace", short := some 't' },
   { long := "json" },
   verboseOpt, helpOpt]

/-- The value that a reader accepts, or a fallback. -/
def accepted {α : Type} (read : String → Except String α) (fallback : α) : Option String → α
  | some text => match read text with
      | .ok a => a
      | .error _ => fallback
  | none => fallback

/-- The options of a run from what was given. -/
def RunOptions.ofMatches (m : Matches) : RunOptions where
  program := m.positional.headD ""
  maxCycles := accepted readCycles 10000 (m.values "max-cycles").head?
  flat := m.has "flat"
  ram := (m.values "ram").filterMap fun text => (readAssignment text).toOption
  dump := accepted readDumpRange ⟨0, 16⟩ (m.values "dump").head?
  trace := m.has "trace"
  json := m.has "json"

/-- The names of the commands. -/
def commandNames : List String := ["run", "debug", "disasm", "test", "help"]

/-- A request for help on a command, which has no commands of its own. -/
def readHelp : List String → Except UsageError Invocation
  | [] => .ok { request := .help }
  | name :: rest =>
      if !commandNames.contains name then .error (.unknownCommand name)
      else match rest with
        | [] => .ok { request := .help }
        | next :: _ => .error (.unknownCommand next)

/-- Reads the arguments behind the name of a command; none if there is no such
command. -/
def readCommand (name : String) (arguments : List String) : Option (Except UsageError Invocation) :=
  let reading (opts : List Opt) (names : List String) (build : Matches → Request) := do
    let m ← matchAll opts names arguments
    return { request := if m.has "help" then .help else build m, verbose := m.has "verbose" }
  match name with
  | "run" => some (reading runOpts ["<PROGRAM>"] fun m => .run (RunOptions.ofMatches m))
  | "debug" => some (reading [flatOpt, verboseOpt, helpOpt] ["<PROGRAM>"] fun m =>
      .debug (m.positional.headD "") (m.has "flat"))
  | "disasm" => some (reading [verboseOpt, helpOpt] ["<PROGRAM>"] fun m =>
      .disassemble (m.positional.headD ""))
  | "test" => some (reading [verboseOpt, helpOpt] [] fun _ => .selfTest)
  | "help" => some (readHelp arguments)
  | _ => none

/-- The options in front of the command. -/
def globalOpts : List Opt := [verboseOpt, helpOpt, versionOpt]

namespace Invocation

/-- Reads the arguments behind the options in front of the command. -/
def readFrom : Matches → List String → Except UsageError Invocation
  | m, [] => .ok { request := .demo, verbose := m.has "verbose" }
  | m, argument :: rest =>
      let continued (read : Except UsageError Matches) : Except UsageError Invocation := do
        let m ← read
        if m.has "version" then return { request := .version }
        else if m.has "help" then return { request := .help }
        else readFrom m rest
      match readCommand argument rest with
      | some read => do
          let invocation ← read
          return { invocation with verbose := invocation.verbose || m.has "verbose" }
      | none => match argument.toList with
          | '-' :: '-' :: [] => match rest with
              | [] => .ok { request := .demo, verbose := m.has "verbose" }
              | next :: _ =>
                  if commandNames.contains next then .error (.unexpectedArgument next)
                  else .error (.unknownCommand next)
          | '-' :: '-' :: name =>
              let (name, attached) := Matches.cutAtEquals name
              continued (m.longOption globalOpts name attached)
          | '-' :: c :: letters => continued (m.shortOptions globalOpts (c :: letters))
          | _ => .error (.unknownCommand argument)

/-- Reads a command line. -/
def ofArguments (arguments : List String) : Except UsageError Invocation := readFrom {} arguments

end Invocation

end NandMachine.Command
