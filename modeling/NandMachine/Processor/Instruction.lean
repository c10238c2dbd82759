/-
# NandMachine.Processor.Instruction -- instructions and their words

Every word is an instruction.  With wire 15 low it is an address instruction: its
other fifteen wires are a constant for the A register.  With wire 15 high it is a
compute instruction, `111a cccc ccdd djjj`: the operand choice `a`, six control
bits for the arithmetic unit, three destinations and three jump bits.  Wires 14
and 13 of a compute word are ignored in reading and high in writing.

`Instruction.ofWord` reads a word and `Instruction.toWord?` writes one.  The type
holds constants of sixteen bits and eight control bits; writing refuses those
that do not fit their field.
-/
import NandMachine.Logic.Bus

namespace NandMachine

set_option autoImplicit false

/-- The condition under which a compute instruction jumps, a comparison of its
result with zero. -/
inductive Jump
  | never | gt | eq | ge | lt | ne | le | always
  deriving DecidableEq, Repr

namespace Jump

/-- The conditions in the order of their codes. -/
def all : Vector Jump 8 := #v[never, gt, eq, ge, lt, ne, le, always]

def ofBus (code : Bus 3) : Jump := all[code.toFin]

def toBus : Jump → Bus 3
  | never => 0 | gt => 1 | eq => 2 | ge => 3 | lt => 4 | ne => 5 | le => 6 | always => 7

theorem ofBus_toBus (j : Jump) : ofBus j.toBus = j := by cases j <;> rfl

theorem toBus_ofBus (code : Bus 3) : (ofBus code).toBus = code := by revert code; decide

end Jump

/-- The places where a compute instruction stores its result. -/
structure Dest where
  a : Bool := false
  d : Bool := false
  m : Bool := false
  deriving DecidableEq, Repr

namespace Dest

/-- The destination field: A on the top wire, then D, then memory. -/
def toBus (d : Dest) : Bus 3 := Bus.ofSignals [d.m, d.d, d.a]

end Dest

inductive Instruction
  | address (constant : Word)
  /-- Compute from D and either A or, when `fromMemory` holds, the memory word. -/
  | compute (fromMemory : Bool) (control : Bus 8) (dest : Dest) (jump : Jump)
  deriving DecidableEq, Repr

namespace Instruction

def ofWord (w : Word) : Instruction :=
  if w.getLsbD 15 then
    compute (w.getLsbD 12) ((Bus.slice w 6 6).setWidth 8)
      { a := w.getLsbD 5, d := w.getLsbD 4, m := w.getLsbD 3 }
      (Jump.ofBus (Bus.slice w 0 3))
  else address (w &&& 0x7FFF#16)

/-- The word of an instruction whose fields fit. -/
def toWord? : Instruction → Except Fault Word
  | address constant =>
      if constant ≤ 0x7FFF#16 then .ok constant else .error (.constantTooWide constant.toNat)
  | compute fromMemory control dest jump =>
      if control < 64#8 then
        .ok (0b111#3 ++ BitVec.ofBool fromMemory ++ control.setWidth 6 ++ dest.toBus ++ jump.toBus)
      else .error (.controlTooWide control.toNat)

end Instruction

end NandMachine
