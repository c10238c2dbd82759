/-
# NandMachine.Logic.Alu -- the arithmetic-logic unit

Six control wires prepare the operands (zero, then complement), choose between
the conjunction and the sum, and complement the result.  Two flags come with the
result: `zr` is high when every wire of it is low, and `ng` is its top wire.
-/
import NandMachine.Logic.Adder

namespace NandMachine

set_option autoImplicit false

/-- The six control wires, in the order in which an instruction carries them. -/
structure AluControl where
  /-- Zero the first operand. -/
  zx : Signal
  /-- Complement the first operand. -/
  nx : Signal
  /-- Zero the second operand. -/
  zy : Signal
  /-- Complement the second operand. -/
  ny : Signal
  /-- Low for the conjunction, high for the sum. -/
  f : Signal
  /-- Complement the result. -/
  no : Signal
  deriving DecidableEq, Repr

namespace AluControl

/-- The control wires from a six-wire field, `zx` on the top wire. -/
def ofBus (comp : Bus 6) : AluControl where
  zx := comp.getLsbD 5
  nx := comp.getLsbD 4
  zy := comp.getLsbD 3
  ny := comp.getLsbD 2
  f := comp.getLsbD 1
  no := comp.getLsbD 0

/-- The six-wire field of the control wires. -/
def toBus (c : AluControl) : Bus 6 := Bus.ofSignals [c.no, c.f, c.ny, c.zy, c.nx, c.zx]

theorem toBus_ofBus (comp : Bus 6) : (ofBus comp).toBus = comp := by
  revert comp; decide

theorem ofBus_toBus (c : AluControl) : ofBus c.toBus = c := by
  rcases c with ⟨zx, nx, zy, ny, f, no⟩
  revert zx nx zy ny f no; decide

end AluControl

/-- What the unit drives: the result and its two flags. -/
structure AluResult where
  out : Word
  zr : Signal
  ng : Signal
  deriving DecidableEq, Repr

/-- The operand after its zeroing and its complementing gate. -/
def prepareOperand (w : Word) (zero negate : Signal) : Word :=
  let zeroed := Word.mux w 0#16 zero
  Word.mux zeroed (Word.not zeroed) negate

/-- One pass through the unit. -/
def alu (x y : Word) (c : AluControl) : AluResult :=
  let x := prepareOperand x c.zx c.nx
  let y := prepareOperand y c.zy c.ny
  let chosen := Word.mux (Word.and x y) (Word.add x y) c.f
  let out := Word.mux chosen (Word.not chosen) c.no
  { out, zr := Gate.not (Gate.any16 out), ng := out.getLsbD 15 }

end NandMachine
