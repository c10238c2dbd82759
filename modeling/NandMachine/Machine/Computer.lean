/-
# NandMachine.Machine.Computer -- the fetch-execute loop

A computer joins a processor, a data memory and an instruction store.  `step` is
the only way in which time passes: the instruction at the program counter is
fetched, the processor executes it with the memory word it was looking at, its
result is offered to memory in the current cycle, the clock moves on, and memory
is driven once more to show the word at the new address.  The processor clock and
the memory clock so move together, once for each step.
-/
import NandMachine.Machine.Memory
import NandMachine.Machine.Rom
import NandMachine.Assembly.Mnemonic
import NandMachine.Processor.Cpu

namespace NandMachine

set_option autoImplicit false

/-- A processor with its memory `ρ` and instruction store `σ`. -/
structure Computer (ρ σ : Type) where
  cpu : Cpu
  memory : Memory ρ
  rom : σ
  clock : Clock
  /-- Address of the next instruction. -/
  pc : Address
  /-- The memory address that the processor looks at. -/
  addressM : Address
  /-- The memory word at that address. -/
  inM : Word
  /-- Instructions executed so far. -/
  steps : Nat

/-- Gate-level memory and instruction store. -/
abbrev GateComputer := Computer Ram16K GateRom

/-- Map-backed memory and a plain instruction store. -/
abbrev FlatComputer := Computer (FlatBank 14) FlatRom

namespace Computer

variable {ρ σ : Type} [Bank ρ 14] [Rom σ]

/-- Wires up a computer from parts that may have a history. -/
def assemble (cpu : Cpu) (memory : Memory ρ) (rom : σ) (clock : Clock) : Computer ρ σ :=
  let values := cpu.values
  let addressM := Bus.slice values.a 0 15
  { cpu, memory, rom, clock
    pc := Bus.slice values.pc 0 15
    addressM
    inM := memory.peek clock.now addressM
    steps := 0 }

/-- A fresh computer with a program burned in. -/
def ofProgram? (program : Array Word) : Except Program.Error (Computer ρ σ) := do
  return assemble {} Memory.blank (← Rom.ofProgram? program) {}

def step (c : Computer ρ σ) (reset : Signal) : Computer ρ σ × CpuOutput :=
  let { cpu, memory, rom, clock, pc, inM, steps, .. } := c
  let instruction := Rom.output rom pc
  let (cpu, out) := cpu.step inM instruction reset
  let memory := memory.drive clock.now out.outM out.writeM out.addressM
  let clock := clock.advance
  let shown := memory.output clock.now out.addressM
  ({ cpu, clock
     memory := memory.drive clock.now inM false out.addressM
     rom := Rom.fetched rom pc
     pc := out.pc
     addressM := out.addressM
     inM := shown
     steps := steps + 1 },
   out)

/-- Executes one instruction with the reset line low. -/
def next (c : Computer ρ σ) : Computer ρ σ := (c.step false).1

/-- Executes instructions with the reset line low. -/
def run (c : Computer ρ σ) : Nat → Computer ρ σ
  | 0 => c
  | n + 1 => c.next.run n

/-- Executes one instruction with the reset line high, which sends the program
counter to 0. -/
def reset (c : Computer ρ σ) : Computer ρ σ × CpuOutput := c.step true

def now (c : Computer ρ σ) : Cycle := c.clock.now

/-- The memory word at an address; the sixteenth wire of the address is ignored. -/
def peek (c : Computer ρ σ) (address : Word) : Word :=
  c.memory.peek c.now (Bus.slice address 0 15)

def registers (c : Computer ρ σ) : RegisterValues := c.cpu.values

/-- Sets the first words of the RAM. -/
def preload (c : Computer ρ σ) (image : Array Word) : Computer ρ σ :=
  let memory := c.memory.preset c.now image
  { c with memory, inM := memory.peek c.now c.addressM }

/-- Sets the first words of the RAM to an image that fits it. -/
def preload? (c : Computer ρ σ) (image : Array Word) : Except Fault (Computer ρ σ) := do
  let memory ← c.memory.preset? c.now image
  return { c with memory, inM := memory.peek c.now c.addressM }

/-- Holds the key of a code. -/
def press (c : Computer ρ σ) (code : Word) : Computer ρ σ :=
  { c with memory := c.memory.press code }

def release (c : Computer ρ σ) : Computer ρ σ := c.press 0#16

/-- Holds the key of a code on the one keyboard that copies of a computer share. -/
def pressShared (copies : Array (Computer ρ σ)) (code : Word) : Array (Computer ρ σ) :=
  copies.map (·.press code)

/-- The assembly text of the instruction at an address. -/
def mnemonicAt (c : Computer ρ σ) (address : Address) : String := (Rom.peek c.rom address).mnemonic

end Computer

end NandMachine
