/-
# NandMachine.Command.Run -- running a program file

Programs for the machine end in a loop that jumps to itself: an address
instruction with its own address, then an unconditional jump.  A run executes
instructions until the machine sits on such a loop or a limit is reached, and
then reports counters, registers and a stretch of memory.
-/
import NandMachine.Codec.Machine
import NandMachine.Command.Line
import NandMachine.Command.Outcome
import NandMachine.Json.Printer

namespace NandMachine.Command

set_option autoImplicit false

variable {ρ σ : Type} [Bank ρ 14] [Rom σ]

/-- Whether an address sits on the loop that programs end with.  The last address
never does, because no instruction follows it. -/
def isHaltLoop (rom : σ) (pc : Address) : Bool :=
  if 0x7FFF#15 ≤ pc then false
  else match Instruction.ofWord (Rom.peek rom pc), Instruction.ofWord (Rom.peek rom (pc + 1)) with
    | .address target, .compute _ _ _ .always => target == Bus.extend pc 16
    | _, _ => false

/-- An executed instruction. -/
structure Executed where
  pc : Address
  instruction : Word
  out : CpuOutput
  /-- The registers after it. -/
  registers : RegisterValues
  deriving DecidableEq, Repr

/-- Executes one instruction with the reset line low, and keeps it in front of
those executed before if asked to. -/
def stepKept (keep : Bool) (c : Computer ρ σ) (seen : List Executed) :
    Computer ρ σ × List Executed :=
  if keep then
    let pc := c.pc
    let instruction := Rom.peek c.rom pc
    let (next, out) := c.step false
    (next, { pc, instruction, out, registers := next.registers } :: seen)
  else (c.next, seen)

/-- The end of a run. -/
structure RunEnd (ρ σ : Type) where
  computer : Computer ρ σ
  /-- Whether the run ended on a loop rather than at its limit. -/
  halted : Bool
  /-- The instructions executed, if they were kept. -/
  executed : List Executed

/-- Executes at most a number of instructions, up to the loop that ends the
program; keeps what it executes if asked to, in reverse. -/
def runToHalt (keep : Bool) (c : Computer ρ σ) (seen : List Executed) : Nat → RunEnd ρ σ
  | 0 => { computer := c, halted := false, executed := seen.reverse }
  | n + 1 =>
      if isHaltLoop c.rom c.pc then { computer := c, halted := true, executed := seen.reverse }
      else
        let (next, seen) := stepKept keep c seen
        runToHalt keep next seen n

/-- The RAM image of a list of assignments: as long as the highest address needs,
the last assignment to an address counting. -/
def ramImage (assignments : List Assignment) : Array Word :=
  assignments.foldl (fun image a => image.setIfInBounds a.address.toNat a.value)
    (Array.replicate (assignments.foldl (fun top a => max top (a.address.toNat + 1)) 0) 0#16)

/-- Runs a computer as the options say, until it has made as many steps as they allow. -/
def execute (options : RunOptions) (keep : Bool) (c : Computer ρ σ) : RunEnd ρ σ :=
  let c := if options.ram.isEmpty then c else c.preload (ramImage options.ram)
  runToHalt keep c [] (options.maxCycles - c.steps)

/-! ## Reports -/

/-- The line of an executed instruction. -/
def Executed.line (e : Executed) : String :=
  Text.zeroPadded 5 e.pc.toNat ++ ": " ++ Text.leftColumn 16 e.instruction.mnemonic ++ " " ++
    e.registers.text

/-- The report of a run in lines. -/
def report (options : RunOptions) (final : RunEnd ρ σ) (snapshot : Snapshot) : List String :=
  ["", "━━━ Result ━━━", s!"Steps: {snapshot.steps}", "Registers: " ++ snapshot.registers.text,
    s!"addressM: {snapshot.addressM.toNat}"] ++
  (if snapshot.ram.isEmpty then []
    else "" :: snapshot.ram.map fun cell =>
      "RAM[" ++ Text.zeroPadded 5 cell.address.toNat ++ "] = " ++ toString cell.value.signed) ++
  ["", if final.halted then
      s!"✓ Reached the end-of-program loop at PC={final.computer.pc.toNat}"
    else
      s!"⚠️  Reached max cycles limit ({options.maxCycles}). Use --max-cycles to increase."]

/-- What a run prints. -/
def output (options : RunOptions) (final : RunEnd ρ σ) : String :=
  let snapshot := final.computer.snapshot (Snapshot.addresses options.dump.start options.dump.count)
  if options.json then (Json.toJson snapshot).pretty ++ "\n"
  else Outcome.lines
    ((if options.trace then "" :: "━━━ Execution ━━━" :: final.executed.map Executed.line else []) ++
      report options final snapshot)

/-! ## Events -/

/-- The event of an executed instruction, with the texts of its fields. -/
def stepEvent (pc instruction addressM writeM : String) : LogEvent where
  level := .trace
  target := "hack::computer::machine"
  message := "step"
  fields := [("pc", pc), ("instruction", instruction), ("address_m", addressM),
    ("write_m", writeM)]

/-- The event of an executed instruction. -/
def Executed.event (e : Executed) : LogEvent :=
  stepEvent (toString e.pc.toNat) e.instruction.text (toString e.out.addressM.toNat)
    (toString e.out.writeM)

/-- Whether executed instructions are logged, which does not depend on the texts of
their fields. -/
def LogFilter.admitsSteps (filter : LogFilter) : Bool := filter.admits (stepEvent "" "" "" "")

/-- The events of a run on a fresh computer. -/
def runEvents (program : Array Word) (options : RunOptions) (final : RunEnd ρ σ) : List LogEvent :=
  (if Rom.gateLevel σ then
    [{ level := .debug, target := "hack::computer::rom", message := "burned gate-level ROM"
       fields := [("words", toString program.size)] }] else []) ++
  (if options.ram.isEmpty then []
    else [{ level := .debug, target := "hack::computer::machine", message := "preloaded RAM"
            fields := [("words", toString (ramImage options.ram).size)] }]) ++
  final.executed.map Executed.event

/-- Runs a program on a fresh computer of a given kind. -/
def runOn (ρ σ : Type) [Bank ρ 14] [Rom σ] (program : Array Word) (options : RunOptions)
    (keep : Bool) : Except Program.Error (String × List LogEvent) := do
  let c : Computer ρ σ ← Computer.ofProgram? program
  let final := execute options keep c
  return (output options final, runEvents program options final)

/-- Runs a program as the options say. -/
def runProgram (program : Array Word) (options : RunOptions) (logged : Bool) :
    Except Program.Error (String × List LogEvent) :=
  let keep := logged || (options.trace && !options.json)
  if options.flat then runOn (FlatBank 14) FlatRom program options keep
  else runOn Ram16K GateRom program options keep

end NandMachine.Command
