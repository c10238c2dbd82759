/-
# NandMachine.Proofs.Processor.Recurrence -- the processor through any list of inputs

A step of the processor takes a memory word, an instruction word and the reset line.  No
machine stands around the processor here: the three are whatever a host feeds it, and the
memory word need not have anything to do with the address that the processor put out.

`Cpu.transcript` lists what can be seen after each step of a list of inputs, the registers
and what left the processor in the step; `InstructionSet.transcript` lists the same for the
recurrence of the instruction set, which holds three words and knows neither gate nor clock.
One step from any state of the cells is one step of the recurrence from the words that they
show (`Cpu.values_step`), so the two lists are equal from any state (`Cpu.transcript_eq`), the
induction being on the inputs.  A processor that was just built shows three zeros.
-/
import NandMachine.Proofs.Processor.InstructionSet
import NandMachine.Proofs.Storage.Timing

namespace NandMachine

set_option autoImplicit false

/-- What the processor is given in one step. -/
structure Cpu.Input where
  inM : Word
  instruction : Word
  reset : Signal

namespace InstructionSet

/-- The recurrence along a list of inputs: the registers after each step, with what is put out
in it. -/
def transcript (v : RegisterValues) : List Cpu.Input → List (RegisterValues × CpuOutput)
  | [] => []
  | i :: rest =>
      let next := execute v i.inM i.instruction i.reset
      (next, output v i.inM i.instruction i.reset) :: transcript next rest

end InstructionSet

namespace Cpu

/-- The processor after a list of inputs. -/
def after (cpu : Cpu) (inputs : List Input) : Cpu :=
  inputs.foldl (fun cpu i => (cpu.step i.inM i.instruction i.reset).1) cpu

/-- The registers after each step, with what left the processor in it. -/
def transcript (cpu : Cpu) : List Input → List (RegisterValues × CpuOutput)
  | [] => []
  | i :: rest =>
      let (next, out) := cpu.step i.inM i.instruction i.reset
      (next.values, out) :: transcript next rest

theorem values_blank : ({} : Cpu).values = {} := by
  show RegisterValues.mk (({} : Register).read 0) (({} : Register).read 0)
    (({} : Register).read 0) = _
  rw [Register.read_fresh]

/-- From any state of its cells the processor follows the recurrence. -/
theorem transcript_eq (cpu : Cpu) (inputs : List Input) :
    cpu.transcript inputs = InstructionSet.transcript cpu.values inputs := by
  induction inputs generalizing cpu with
  | nil => rfl
  | cons i rest ih =>
      have next := cpu.values_step i.inM i.instruction i.reset
      have out := cpu.output_step i.inM i.instruction i.reset
      rw [transcript, InstructionSet.transcript]
      simp only [ih, next, out]

/-- The clock of the processor counts its steps. -/
theorem now_after (cpu : Cpu) (inputs : List Input) :
    (cpu.after inputs).now = cpu.now + inputs.length := by
  induction inputs generalizing cpu with
  | nil => rfl
  | cons i rest ih =>
      have first : (cpu.step i.inM i.instruction i.reset).1.now = cpu.now + 1 := rfl
      calc (cpu.after (i :: rest)).now
          = ((cpu.step i.inM i.instruction i.reset).1.after rest).now := rfl
        _ = cpu.now + 1 + rest.length := by rw [ih, first]
        _ = cpu.now + (i :: rest).length := by
            rw [List.length_cons, Nat.add_assoc, Nat.add_comm 1]

end Cpu

/-- **The processor is the recurrence of the instruction set.**  A new processor shows after
each step of every list of inputs the registers and the output that the recurrence has when it
starts from zeros; and its clock stands at the number of its steps. -/
theorem processor_follows_recurrence (inputs : List Cpu.Input) :
    ({} : Cpu).transcript inputs = InstructionSet.transcript {} inputs ∧
      (({} : Cpu).after inputs).now = inputs.length := by
  constructor
  · rw [Cpu.transcript_eq, Cpu.values_blank]
  · rw [Cpu.now_after]
    exact Nat.zero_add inputs.length

/-- `@7`, then `AD=A+1;JMP` with another memory word at hand: the jump goes to the old A. -/
example :
    (InstructionSet.transcript {} [⟨0#16, 0x0007#16, false⟩, ⟨9#16, 0xEDF7#16, false⟩]).map
        Prod.fst =
      [{ a := 7#16, d := 0#16, pc := 1#16 }, { a := 8#16, d := 8#16, pc := 7#16 }] := by
  decide

end NandMachine
