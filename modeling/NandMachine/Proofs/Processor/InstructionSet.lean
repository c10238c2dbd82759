/-
# NandMachine.Proofs.Processor.InstructionSet -- what an instruction does

The instruction set as a recurrence on three sixteen-bit numbers, read straight off
the instruction word `w` and a memory word `m` (`InstructionSet.execute`):

* with bit 15 low, `w` itself is loaded into A;
* with bit 15 high, the result of the arithmetic unit on D and A, or on D and `m`
  when bit 12 is high, under bits 11 to 6, goes to A if bit 5 is high and to D if
  bit 4 is, and to memory if bit 3 is (`InstructionSet.stores`);
* the program counter becomes 0 on reset, else the old A when bit 15 is high and
  the signed result meets one of the conditions that bits 2 to 0 ask for, else one
  more than it was.

`Cpu.values_step` and `Cpu.output_step` say that one step of the processor circuit,
from any state of its cells, is this recurrence.
-/
import NandMachine.Processor.Cpu
import NandMachine.Processor.Instruction
import NandMachine.Proofs.Logic.Address
import NandMachine.Proofs.Logic.Alu

namespace NandMachine

set_option autoImplicit false

/-! ## The recurrence -/

namespace InstructionSet

/-- The result of the arithmetic unit, computed for every instruction word. -/
def result (v : RegisterValues) (m w : Word) : Word :=
  Arithmetic.result v.d (if w.getLsbD 12 then m else v.a)
    { zx := w.getLsbD 11, nx := w.getLsbD 10, zy := w.getLsbD 9, ny := w.getLsbD 8
      f := w.getLsbD 7, no := w.getLsbD 6 }

/-- Whether the result goes to memory. -/
def stores (w : Word) : Bool := w.getLsbD 15 && w.getLsbD 3

/-- Whether a result meets a condition that the instruction jumps on. -/
def meets (w out : Word) : Bool :=
  (w.getLsbD 2 && decide (out.toInt < 0)) || (w.getLsbD 1 && decide (out.toInt = 0)) ||
    (w.getLsbD 0 && decide (0 < out.toInt))

/-- The registers after an instruction. -/
def execute (v : RegisterValues) (m w : Word) (reset : Bool) : RegisterValues :=
  let out := result v m w
  { a := if w.getLsbD 15 then (if w.getLsbD 5 then out else v.a) else w
    d := if w.getLsbD 15 && w.getLsbD 4 then out else v.d
    pc := if reset then 0#16 else if w.getLsbD 15 && meets w out then v.a else v.pc + 1#16 }

/-- What leaves the processor: the result with its store line, and the addresses
after the instruction. -/
def output (v : RegisterValues) (m w : Word) (reset : Bool) : CpuOutput where
  outM := result v m w
  writeM := stores w
  addressM := Address.ofWord (execute v m w reset).a
  pc := Address.ofWord (execute v m w reset).pc

end InstructionSet

/-! ## The jump circuit -/

/-- Of two flags that are not both high, the jump circuit tests the one that each
bit of the code names. -/
theorem jumpTaken_eq (zr ng : Signal) (jump : Bus 3) (apart : (zr && ng) = false) :
    jumpTaken zr ng jump =
      ((jump.getLsbD 2 && ng) || (jump.getLsbD 1 && zr) ||
        (jump.getLsbD 0 && !zr && !ng)) := by
  revert zr ng jump
  decide

/-- The flags of a result meet the jump code of a word when the result does. -/
theorem jumpTaken_flags (w out : Word) :
    jumpTaken (decide (out = 0#16)) (decide (out.toInt < 0)) (Bus.slice w 0 3) =
      InstructionSet.meets w out := by
  have zero : out = 0#16 ↔ out.toInt = 0 := by
    rw [← BitVec.toInt_inj, BitVec.toInt_zero]
  have apart : (decide (out = 0#16) && decide (out.toInt < 0)) = false := by
    rw [← Bool.decide_and, decide_eq_false_iff_not, zero]
    omega
  have positive : (!decide (out = 0#16) && !decide (out.toInt < 0)) = decide (0 < out.toInt) := by
    rw [← decide_not, ← decide_not, ← Bool.decide_and, decide_eq_decide, zero]
    omega
  rw [jumpTaken_eq _ _ _ apart, InstructionSet.meets,
    Bus.getLsbD_slice_zero w (by decide : 2 < 3), Bus.getLsbD_slice_zero w (by decide : 1 < 3),
    Bus.getLsbD_slice_zero w (by decide : 0 < 3), Bool.and_assoc (w.getLsbD 0), positive,
    decide_eq_decide.mpr zero]

/-! ## Words of instructions -/

theorem Instruction.and_constant_of_low {w : Word} (low : w.getLsbD 15 = false) :
    w &&& 0x7FFF#16 = w := by
  apply BitVec.eq_of_getLsbD_eq
  intro i h
  rw [BitVec.getLsbD_and]
  by_cases top : i = 15
  · rw [top, low, Bool.false_and]
  · have kept : (0x7FFF#16).getLsbD i = true := by
      have inside : i < 15 := by omega
      revert i
      decide
    rw [kept, Bool.and_true]

/-! ## Jumps without a condition -/

/-- A jump code is unconditional when it asks for all three conditions. -/
theorem Instruction.jump_always_iff (w : Word) : Jump.ofBus (Bus.slice w 0 3) = .always ↔
    w.getLsbD 2 = true ∧ w.getLsbD 1 = true ∧ w.getLsbD 0 = true := by
  have codes : ∀ code : Bus 3, Jump.ofBus code = .always ↔
      code.getLsbD 2 = true ∧ code.getLsbD 1 = true ∧ code.getLsbD 0 = true := by decide
  rw [codes, Bus.getLsbD_slice_zero w (by decide : 2 < 3),
    Bus.getLsbD_slice_zero w (by decide : 1 < 3), Bus.getLsbD_slice_zero w (by decide : 0 < 3)]

namespace InstructionSet

theorem meets_of_always {w : Word} (jump : Jump.ofBus (Bus.slice w 0 3) = .always)
    (out : Word) : meets w out = true := by
  obtain ⟨negative, zero, positive⟩ := (Instruction.jump_always_iff w).mp jump
  rw [meets, negative, zero, positive]
  rcases Int.lt_trichotomy out.toInt 0 with below | here | above
  · simp [below]
  · simp [here]
  · simp [above]

/-- A compute instruction that always jumps goes to the address in A, from wherever it
stands. -/
theorem execute_of_always {w : Word} (computes : w.getLsbD 15 = true)
    (jumps : Jump.ofBus (Bus.slice w 0 3) = .always) (v : RegisterValues) (m : Word) :
    execute v m w false =
      { a := if w.getLsbD 5 then result v m w else v.a
        d := if w.getLsbD 4 then result v m w else v.d
        pc := v.a } := by
  rw [execute, computes, meets_of_always jumps]
  rfl

/-- What it puts out does not depend on where it stands either. -/
theorem output_of_always {w : Word} (computes : w.getLsbD 15 = true)
    (jumps : Jump.ofBus (Bus.slice w 0 3) = .always) {v v' : RegisterValues} (a : v.a = v'.a)
    (d : v.d = v'.d) (m : Word) : output v m w false = output v' m w false := by
  obtain ⟨_, _, _⟩ := v
  obtain ⟨_, _, _⟩ := v'
  obtain rfl := a
  obtain rfl := d
  rw [output, output, execute_of_always computes jumps, execute_of_always computes jumps]
  rfl

end InstructionSet

/-! ## One step of the processor -/

theorem Control.alu_ofWord (w : Word) :
    (Control.ofWord w).alu =
      { zx := w.getLsbD 11, nx := w.getLsbD 10, zy := w.getLsbD 9, ny := w.getLsbD 8
        f := w.getLsbD 7, no := w.getLsbD 6 } := by
  have wire (i : Nat) (h : i < 6) : (Bus.slice w 6 6).getLsbD i = w.getLsbD (6 + i) :=
    Bus.getLsbD_slice_of_lt w 6 h
  simp only [Control.ofWord, AluControl.ofBus]
  rw [wire 5 (by decide), wire 4 (by decide), wire 3 (by decide), wire 2 (by decide),
    wire 1 (by decide), wire 0 (by decide)]

theorem Counter.chosen_eq (count input : Word) (load inc reset : Signal) :
    chosen count input load inc reset =
      if reset then 0#16 else if load then input else if inc then count + 1#16 else count := by
  rw [chosen]
  simp only [Word.mux_eq, Word.inc_eq]

/-- A driven counter shows the word that its control lines chose. -/
theorem Counter.read_drive_next (c : Counter) (now : Cycle) (input : Word)
    (load inc reset : Signal) :
    (c.drive now input load inc reset).read (now + 1) =
      chosen (c.read now) input load inc reset := by
  rw [read, drive, Register.read_drive_next, if_pos rfl]

namespace Cpu

/-- The arithmetic unit with the operands and control lines of an instruction. -/
def unit (v : RegisterValues) (inM w : Word) : AluResult :=
  alu v.d (Word.mux v.a inM (Control.ofWord w).a) (Control.ofWord w).alu

theorem unit_eq (v : RegisterValues) (inM w : Word) :
    unit v inM w =
      { out := InstructionSet.result v inM w
        zr := decide (InstructionSet.result v inM w = 0#16)
        ng := decide ((InstructionSet.result v inM w).toInt < 0) } := by
  have computes : Arithmetic.result v.d (Word.mux v.a inM (Control.ofWord w).a)
      (Control.ofWord w).alu = InstructionSet.result v inM w := by
    rw [Control.alu_ofWord, Word.mux_eq]
    rfl
  rw [← computes, ← alu_zr, ← alu_ng, ← alu_out]
  rfl

section Step

variable (cpu : Cpu) (inM w : Word) (reset : Signal)

/-- The probe with the load line low leaves no trace, so A is loaded by the second
drive alone. -/
theorem a_step : (cpu.step inM w reset).1.values.a =
    (InstructionSet.execute cpu.values inM w reset).a := by
  show ((cpu.a.drive cpu.now false w).drive cpu.now
      (Gate.or (Gate.not (w.getLsbD 15)) (Gate.and (w.getLsbD 15) (w.getLsbD 5)))
      (Word.mux w (unit cpu.values inM w).out (w.getLsbD 15))).read (cpu.now + 1) = _
  rw [Register.drive_drive, Register.read_drive_next, Gate.or_eq, Gate.not_eq, Gate.and_eq,
    Word.mux_eq, unit_eq, InstructionSet.execute]
  cases w.getLsbD 15 with
  | false => rfl
  | true => cases w.getLsbD 5 <;> rfl

theorem d_step : (cpu.step inM w reset).1.values.d =
    (InstructionSet.execute cpu.values inM w reset).d := by
  show ((cpu.d.drive cpu.now false w).drive cpu.now
      (Gate.and (w.getLsbD 15) (w.getLsbD 4)) (unit cpu.values inM w).out).read (cpu.now + 1) = _
  rw [Register.drive_drive, Register.read_drive_next, Gate.and_eq, unit_eq,
    InstructionSet.execute]
  rfl

/-- The counter is loaded from the A register as it was before the step. -/
theorem pc_step : (cpu.step inM w reset).1.values.pc =
    (InstructionSet.execute cpu.values inM w reset).pc := by
  let jump := jumpTaken (unit cpu.values inM w).zr (unit cpu.values inM w).ng (Bus.slice w 0 3)
  have decides : jump = InstructionSet.meets w (InstructionSet.result cpu.values inM w) := by
    show jumpTaken (unit cpu.values inM w).zr (unit cpu.values inM w).ng (Bus.slice w 0 3) = _
    rw [unit_eq]
    exact jumpTaken_flags w _
  show (cpu.pc.drive cpu.now cpu.values.a (Gate.and (w.getLsbD 15) jump)
      (Gate.or (Gate.not (w.getLsbD 15)) (Gate.not jump)) reset).read (cpu.now + 1) = _
  rw [Counter.read_drive_next, Counter.chosen_eq, decides, Gate.or_eq, Gate.not_eq, Gate.not_eq,
    Gate.and_eq, InstructionSet.execute]
  cases w.getLsbD 15 with
  | false => rfl
  | true => cases InstructionSet.meets w (InstructionSet.result cpu.values inM w) <;> rfl

/-- **One step of the processor is one step of the instruction set.** -/
theorem values_step : (cpu.step inM w reset).1.values =
    InstructionSet.execute cpu.values inM w reset := by
  show RegisterValues.mk (cpu.step inM w reset).1.values.a (cpu.step inM w reset).1.values.d
      (cpu.step inM w reset).1.values.pc = _
  rw [a_step, d_step, pc_step]

/-- What leaves the processor in one step. -/
theorem output_step : (cpu.step inM w reset).2 = InstructionSet.output cpu.values inM w reset := by
  show CpuOutput.mk (unit cpu.values inM w).out (Gate.and (w.getLsbD 15) (w.getLsbD 3))
      (Bus.slice (cpu.step inM w reset).1.values.a 0 15)
      (Bus.slice (cpu.step inM w reset).1.values.pc 0 15) = _
  rw [unit_eq, values_step, Address.slice_eq_ofWord, Address.slice_eq_ofWord, Gate.and_eq,
    InstructionSet.output, InstructionSet.stores]

end Step

/-- A step drives each register from the word that it holds. -/
theorem registers_step (cpu : Cpu) (inM w : Word) (reset : Signal) :
    (∃ load input, (cpu.step inM w reset).1.a = cpu.a.drive cpu.now load input) ∧
      (∃ load input, (cpu.step inM w reset).1.d = cpu.d.drive cpu.now load input) ∧
        ∃ load input, (cpu.step inM w reset).1.pc.register =
          cpu.pc.register.drive cpu.now load input := by
  refine ⟨?_, ?_, ?_⟩
  · exact ⟨_, _, Register.drive_drive cpu.a cpu.now _ _ _ _⟩
  · exact ⟨_, _, Register.drive_drive cpu.d cpu.now _ _ _ _⟩
  · exact ⟨_, _, rfl⟩

/-- Two words that the instruction set does not tell apart do the same to the processor,
down to its cells: a register holds after a drive only what it shows at the edge. -/
theorem step_congr (cpu : Cpu) (inM : Word) {w w' : Word} (reset : Signal)
    (values : InstructionSet.execute cpu.values inM w reset =
      InstructionSet.execute cpu.values inM w' reset)
    (out : InstructionSet.output cpu.values inM w reset =
      InstructionSet.output cpu.values inM w' reset) :
    cpu.step inM w reset = cpu.step inM w' reset := by
  have shown : (cpu.step inM w reset).1.values = (cpu.step inM w' reset).1.values := by
    rw [values_step, values_step, values]
  obtain ⟨⟨_, _, a⟩, ⟨_, _, d⟩, ⟨_, _, pc⟩⟩ := registers_step cpu inM w reset
  obtain ⟨⟨_, _, a'⟩, ⟨_, _, d'⟩, ⟨_, _, pc'⟩⟩ := registers_step cpu inM w' reset
  have edgeA := congrArg RegisterValues.a shown
  have edgeD := congrArg RegisterValues.d shown
  have edgePc := congrArg RegisterValues.pc shown
  simp only [Cpu.values, Counter.read, a, a', d, d', pc, pc'] at edgeA edgeD edgePc
  have parts (x : Word) : (cpu.step inM x reset).1 =
      { clock := ⟨cpu.now + 1⟩
        a := (cpu.step inM x reset).1.a
        d := (cpu.step inM x reset).1.d
        pc := ⟨(cpu.step inM x reset).1.pc.register⟩ } := rfl
  apply Prod.ext
  · rw [parts w, parts w', a, a', d, d', pc, pc', Register.drive_eq_of_read_next _ _ edgeA,
      Register.drive_eq_of_read_next _ _ edgeD, Register.drive_eq_of_read_next _ _ edgePc]
  · rw [output_step, output_step, out]

end Cpu

end NandMachine
