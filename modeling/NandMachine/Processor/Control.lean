/-
# NandMachine.Processor.Control -- control signals of an instruction word

The processor does not read an instruction as a value; it taps the wires of its
word.  `Control.ofWord` names the taps and computes nothing.  `jumpTaken` decides
a jump from the two flags of the arithmetic unit: the jump code raises one of
eight lines, each line is gated by its condition, and the gated lines are
collected.
-/
import NandMachine.Logic.Alu

namespace NandMachine

set_option autoImplicit false

/-- The wires of an instruction word, by their use. -/
structure Control where
  /-- Low for an address instruction, high for a compute instruction. -/
  i : Signal
  /-- The second operand: low for A, high for the memory word. -/
  a : Signal
  alu : AluControl
  destA : Signal
  destD : Signal
  destM : Signal
  /-- The jump code, its first bit on the top wire. -/
  jump : Bus 3
  deriving DecidableEq, Repr

/-- The taps of an instruction word. -/
def Control.ofWord (w : Word) : Control where
  i := w.getLsbD 15
  a := w.getLsbD 12
  alu := AluControl.ofBus (Bus.slice w 6 6)
  destA := w.getLsbD 5
  destD := w.getLsbD 4
  destM := w.getLsbD 3
  jump := Bus.slice w 0 3

/-- The eight jump conditions on the flags, in the order of their codes: never,
positive, zero, not negative, negative, not zero, not positive, always. -/
def jumpConditions (zr ng : Signal) : Vector Signal 8 :=
  #v[false, Gate.and (Gate.not zr) (Gate.not ng), zr, Gate.not ng, ng, Gate.not zr, Gate.or zr ng,
    true]

/-- Whether a jump code is met by the flags. -/
def jumpTaken (zr ng : Signal) (jump : Bus 3) : Signal :=
  Gate.any 3 fun line =>
    Gate.and (Gate.route true jump line) ((jumpConditions zr ng).get line)

end NandMachine
