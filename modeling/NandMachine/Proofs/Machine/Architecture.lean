/-
# NandMachine.Proofs.Machine.Architecture -- the machine a programmer has in mind

Three registers, 24576 words of data, a key, and a program, with no gate, clock edge
or bank in sight.  One step takes the word of the program at the program counter
modulo `2 ^ 15` and does what the instruction set says with it
(`InstructionSet.execute`); a store goes to the address in A after the instruction,
and is lost when no data word has that address.

Two things are remembered from one step to the next.  The memory word that an
instruction computes with is latched at the end of the step before
(`Architecture.latch`), and the addresses from 24576 on show the key as that step
saw it, however often keys change before the next one.
-/
import NandMachine.Proofs.Machine.Events
import NandMachine.Proofs.Machine.InstructionStore
import NandMachine.Proofs.Processor.InstructionSet

namespace NandMachine

set_option autoImplicit false

/-- The state of a machine of the instruction set. -/
structure Architecture where
  program : Array Word
  registers : RegisterValues := {}
  /-- The words at the addresses below 24576. -/
  data : Address → Word := fun _ => 0#16
  /-- The code of the key that is held, 0 for none. -/
  key : Word := 0#16
  /-- The key as the last step saw it, none before the first step. -/
  seen : Option Word := none
  /-- The memory word that the next instruction computes with. -/
  operand : Word := 0#16
  steps : Nat := 0

namespace Architecture

/-- The word of the next instruction. -/
def instruction (s : Architecture) : Word :=
  Program.wordAt s.program (Address.ofWord s.registers.pc)

/-- The memory word at an address. -/
def word (s : Architecture) (a : Address) : Word :=
  if a.toNat < 24576 then s.data a else s.seen.getD s.key

/-- Latches the memory word at the address in A. -/
def latch (s : Architecture) : Architecture :=
  { s with operand := s.word (Address.ofWord s.registers.a) }

def step (s : Architecture) (reset : Bool) : Architecture × CpuOutput :=
  let out := InstructionSet.output s.registers s.operand s.instruction reset
  let next : Architecture :=
    { s with
      registers := InstructionSet.execute s.registers s.operand s.instruction reset
      data := fun a =>
        if out.writeM = true ∧ a = out.addressM ∧ a.toNat < 24576 then out.outM else s.data a
      seen := some s.key
      steps := s.steps + 1 }
  (next.latch, out)

/-- Executes instructions with the reset line low. -/
def run (s : Architecture) : Nat → Architecture
  | 0 => s
  | n + 1 => (s.step false).1.run n

def preload (s : Architecture) (image : Array Word) : Architecture :=
  { s with data := fun a => image[a.toNat]?.getD (s.data a) }.latch

/-- Holds the key of a code. -/
def press (s : Architecture) (code : Word) : Architecture := { s with key := code }

def perform (s : Architecture) : Event → Architecture × Option CpuOutput
  | .step reset => ((s.step reset).1, some (s.step reset).2)
  | .run steps => (s.run steps, none)
  | .reset => ((s.step true).1, some (s.step true).2)
  | .preload image => (s.preload image.words, none)
  | .press code => (s.press code, none)
  | .release => (s.press 0#16, none)

/-- The memory word at an address of sixteen wires, the last one ignored. -/
def peek (s : Architecture) (a : Word) : Word := s.word (Address.ofWord a)

def observe (s : Architecture) : Observation where
  registers := s.registers
  pc := Address.ofWord s.registers.pc
  addressM := Address.ofWord s.registers.a
  steps := s.steps
  now := s.steps
  memory := s.peek
  program := Program.wordAt s.program
  screen := Vector.ofFn fun i => s.data (BitVec.ofNat 15 (16384 + i.val))
  snapshot addresses :=
    { steps := s.steps, cycle := s.steps, registers := s.registers
      pc := Address.ofWord s.registers.pc, addressM := Address.ofWord s.registers.a
      ram := addresses.map fun n =>
        { address := BitVec.ofNat 16 n, value := s.peek (BitVec.ofNat 16 n) } }

instance : Operated Architecture where
  perform := perform
  observe := observe

end Architecture

end NandMachine
