/-
# NandMachine.Command.Perform -- carrying out a command line

`perform` maps a command line, a log setting and what lies under a path to an
outcome.  At most one file is read, the program that a command names; an empty
program is refused like one that cannot be loaded.
-/
import NandMachine.Assembly.Listing
import NandMachine.Command.Demo
import NandMachine.Command.SelfTest
import NandMachine.Program.File

namespace NandMachine.Command

set_option autoImplicit false

/-! ## Loading -/

/-- The event of a line that is skipped. -/
def skippedEvent (number : Nat) : LogEvent where
  level := .debug
  target := "hack::hack::hackfile"
  message := "skipping non-word line"
  fields := [("line", toString number)]

/-- The event of a program that is loaded. -/
def loadedEvent (message path : String) (program : Array Word) : LogEvent where
  level := .info
  target := "hack::hack::hackfile"
  message := message
  fields := [("path", path), ("words", toString program.size)]

/-- The events of loading a program from a path. -/
def loadEvents (path : String) (contents : Program.Contents) : List LogEvent :=
  let loaded (message : String) := match Program.load? path contents with
    | .ok program => [loadedEvent message path program]
    | .error _ => []
  if Program.isTextPath path then
    (match Program.decodeText contents with
      | .ok text => (Program.remarks text).map skippedEvent
      | .error _ => []) ++ loaded "loaded program"
  else loaded "loaded binary program"

/-- Loads a program that is not empty, or says why there is none. -/
def loadProgram (path : String) (contents : Program.Contents) : Except String (Array Word) :=
  match Program.load? path contents with
  | .ok program => if program.isEmpty then .error s!"❌ No instructions in {path}" else .ok program
  | .error e => .error (s!"❌ Failed to load {path}: " ++ e.message)

/-- Prints a heading, loads a program and goes on with it. -/
def withProgram (heading path : String) (contents : Program.Contents)
    (use : Array Word → List LogEvent → Outcome) : Outcome :=
  let events := loadEvents path contents
  match loadProgram path contents with
  | .error complaint => .failure heading complaint events
  | .ok program => use program events

/-! ## Commands -/

/-- The heading of a run. -/
def runHeading (options : RunOptions) (program : Array Word) : String :=
  if options.json then ""
  else s!"🔧 Running: {options.program} ({program.size} words, " ++
    (if options.flat then "flat" else "gate-level") ++ " memory)\n"

/-- Runs a program file. -/
def performRun (options : RunOptions) (contents : Program.Contents) (logged : Bool) : Outcome :=
  withProgram "" options.program contents fun program events =>
    let heading := runHeading options program
    match runProgram program options logged with
    | .ok (text, more) => { stdout := heading ++ text, events := events ++ more }
    | .error e => .failure heading ("❌ Failed to load program: " ++ e.message) events

/-- Disassembles a program file. -/
def performDisassemble (path : String) (contents : Program.Contents) : Outcome :=
  let heading := s!"📖 Disassembling: {path}\n\n"
  withProgram heading path contents fun program events =>
    { stdout := heading ++ Listing.ofProgram program, events }

/-- Debugs a program file.  The debugger needs a terminal, and there is none. -/
def performDebug (path : String) (flat : Bool) (contents : Program.Contents) : Outcome :=
  let heading := s!"🔍 Loading: {path}\n"
  withProgram heading path contents fun program events =>
    .failure (heading ++ "🚀 Launching debugger...\n")
      "❌ Debugger error: No such device or address (os error 6)"
      (events ++ if flat then [] else
        [{ level := .debug, target := "hack::computer::rom", message := "burned gate-level ROM"
           fields := [("words", toString program.size)] }])

/-- The usage text. -/
def usage : String := Outcome.lines
  ["A gate-level simulation of the 16-bit Hack computer", "",
   "Usage: hack-emu [OPTIONS] [COMMAND]", "",
   "Commands:",
   "  run     Run a program for a bounded number of instructions",
   "  debug   Interactive debugger",
   "  disasm  Disassemble a program to Hack assembly",
   "  test    Run the built-in self-test",
   "  help    Print this message or the help of the given subcommand(s)", "",
   "Options:",
   "  -v, --verbose  Log at debug level unless RUST_LOG says otherwise",
   "  -h, --help     Print help",
   "  -V, --version  Print version"]

/-- The path of the file that a command reads. -/
def Request.path? : Request → Option String
  | .run options => some options.program
  | .debug program _ => some program
  | .disassemble program => some program
  | _ => none

/-- Carries out a command on what lies under its path. -/
def Request.perform (request : Request) (contents : Program.Contents) (logged : Bool) : Outcome :=
  match request with
  | .run options => performRun options contents logged
  | .debug program flat => performDebug program flat contents
  | .disassemble program => performDisassemble program contents
  | .selfTest => selfTestOutcome logged
  | .demo => demoOutcome
  | .version => { stdout := "hack-emu 0.1.0\n" }
  | .help => { stdout := usage }

/-- The filter of a log setting, which counts before the choice of the command
line unless it is malformed; none for a setting that breaks a character. -/
def filterOf (setting : Option String) (verbose : Bool) : Option LogFilter :=
  match setting.map LogFilter.ofText? with
  | some (.ok filter) => some filter
  | some (.error .brokenCharacter) => none
  | some (.error .malformed) | none => some (.ofLevel (if verbose then .debug else .warn))

/-- Whether a command has a log.  The version and the usage are shown before the log
setting is looked at. -/
def Request.logs : Request → Bool
  | .version | .help => false
  | _ => true

/-- Carries out a command line; the events that remain are those that the log
setting admits.  A setting that breaks a character stops the program. -/
def perform (arguments : List String) (setting : Option String)
    (contents : String → Program.Contents) : Outcome :=
  match Invocation.ofArguments arguments with
  | .error e => { exit := 2, stderr := e.message }
  | .ok invocation =>
      match filterOf (setting.filter fun _ => invocation.request.logs) invocation.verbose with
      | none => { exit := 101, stderr := "\n" }
      | some filter =>
          let found := match invocation.request.path? with
            | some path => contents path
            | none => .error .notFound
          let outcome := invocation.request.perform found filter.admitsSteps
          { outcome with events := outcome.events.filter filter.admits }

end NandMachine.Command
