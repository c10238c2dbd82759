/-
# NandMachine.Processor.Cpu -- the processor circuit

The processor holds the registers A and D and the program counter, and a clock of
its own that only it advances.  One step is one cycle of that clock: the word of
the instruction is tapped, the arithmetic unit runs on D and on A or the memory
word, the registers are driven, and the clock moves on.  What leaves the
processor is the result with its store line, taken before the edge, and the
memory address and program counter, taken after it.
-/
import NandMachine.Processor.Control
import NandMachine.Storage.Counter
import NandMachine.Text.Pad

namespace NandMachine

set_option autoImplicit false

/-- The contents of the registers at one instant. -/
structure RegisterValues where
  a : Word := 0#16
  d : Word := 0#16
  pc : Word := 0#16
  deriving DecidableEq, Repr

/-- The registers in writing: A and D signed and in columns, the counter
unsigned. -/
def RegisterValues.text (v : RegisterValues) : String :=
  "A=" ++ Text.leftColumn 6 (toString v.a.signed) ++ " D=" ++
    Text.leftColumn 6 (toString v.d.signed) ++ " PC=" ++ toString v.pc.toNat

/-- What the processor drives towards memory and the instruction store. -/
structure CpuOutput where
  /-- The result of the arithmetic unit. -/
  outM : Word
  /-- High when the result is to be stored in memory. -/
  writeM : Signal
  /-- The memory address after the step. -/
  addressM : Address
  /-- The address of the next instruction. -/
  pc : Address
  deriving DecidableEq, Repr

/-- The processor: its registers and their clock. -/
structure Cpu where
  clock : Clock := {}
  a : Register := {}
  d : Register := {}
  pc : Counter := {}
  deriving DecidableEq, Repr, Inhabited

namespace Cpu

/-- The current cycle of the processor. -/
def now (cpu : Cpu) : Cycle := cpu.clock.now

def values (cpu : Cpu) : RegisterValues where
  a := cpu.a.read cpu.now
  d := cpu.d.read cpu.now
  pc := cpu.pc.read cpu.now

/-- Executes one instruction with the memory word `inM`.  A and D are driven
twice in the cycle: first with the load line low, which shows the words that the
arithmetic unit takes, and then with what it answers. -/
def step (cpu : Cpu) (inM instruction : Word) (reset : Signal) : Cpu × CpuOutput :=
  let now := cpu.now
  let c := Control.ofWord instruction
  let d := cpu.d.read now
  let heldD := cpu.d.drive now false instruction
  let a := cpu.a.read now
  let heldA := cpu.a.drive now false instruction
  let result := alu d (Word.mux a inM c.a) c.alu
  let loadA := Gate.or (Gate.not c.i) (Gate.and c.i c.destA)
  let jump := jumpTaken result.zr result.ng c.jump
  let next : Cpu :=
    { clock := cpu.clock.advance
      a := heldA.drive now loadA (Word.mux instruction result.out c.i)
      d := heldD.drive now (Gate.and c.i c.destD) result.out
      pc := cpu.pc.drive now a (Gate.and c.i jump) (Gate.or (Gate.not c.i) (Gate.not jump)) reset }
  let after := next.values
  (next,
    { outM := result.out
      writeM := Gate.and c.i c.destM
      addressM := Bus.slice after.a 0 15
      pc := Bus.slice after.pc 0 15 })

end Cpu

end NandMachine
