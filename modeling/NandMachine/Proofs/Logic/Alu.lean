/-
# NandMachine.Proofs.Logic.Alu -- the arithmetic unit as arithmetic

What the gates of the arithmetic unit compute, said without a gate: operands are
zeroed and complemented, added modulo `2 ^ 16` or conjoined, and the result is
complemented (`alu_out`).  Its flags say that the result is zero (`alu_zr`) and that
it is negative in two's complement (`alu_ng`), so they are never both high.

The same is said on natural numbers below `2 ^ 16`, where complementing is subtracting
from 65535 and the sum is reduced (`Arithmetic.toNat_result`).
-/
import NandMachine.Logic.Alu

namespace NandMachine

set_option autoImplicit false

/-! ## The unit without gates -/

namespace Arithmetic

/-- An operand, zeroed and then complemented on demand. -/
def operand (w : Word) (zero complement : Bool) : Word :=
  let kept := if zero then 0#16 else w
  if complement then ~~~kept else kept

/-- The result on two operands: their sum modulo `2 ^ 16` or their conjunction,
complemented on demand. -/
def result (x y : Word) (c : AluControl) : Word :=
  let x := operand x c.zx c.nx
  let y := operand y c.zy c.ny
  let chosen := if c.f then x + y else x &&& y
  if c.no then ~~~chosen else chosen

end Arithmetic

/-! ## The gates compute it -/

theorem prepareOperand_eq (w : Word) (zero negate : Signal) :
    prepareOperand w zero negate = Arithmetic.operand w zero negate := by
  rw [prepareOperand, Arithmetic.operand]
  simp only [Word.mux_eq, Word.not_eq]

theorem alu_out (x y : Word) (c : AluControl) : (alu x y c).out = Arithmetic.result x y c := by
  rw [alu, Arithmetic.result]
  simp only [prepareOperand_eq, Word.mux_eq, Word.not_eq, Word.and_eq, Word.add_eq]

/-- A tree of OR gates over a word is low exactly when the word is zero. -/
theorem any16_eq (w : Word) : Gate.any16 w = decide (w ≠ 0#16) := by
  rw [Bool.eq_iff_iff, decide_eq_true_eq, Gate.any16, Gate.any_eq_true]
  constructor
  · rintro ⟨i, high⟩ zero
    rw [zero, BitVec.getLsbD_zero] at high
    exact Bool.false_ne_true high
  · intro nonzero
    apply Classical.byContradiction
    intro noLine
    apply nonzero
    apply BitVec.eq_of_getLsbD_eq
    intro i h
    have low : ¬ w.getLsbD i = true := fun high => noLine ⟨⟨i, h⟩, high⟩
    rw [BitVec.getLsbD_zero]
    exact Bool.eq_false_iff.mpr low

theorem alu_zr (x y : Word) (c : AluControl) :
    (alu x y c).zr = decide (Arithmetic.result x y c = 0#16) := by
  rw [← alu_out]
  show Gate.not (Gate.any16 (alu x y c).out) = _
  rw [Gate.not_eq, any16_eq, ← decide_not, decide_eq_decide]
  exact Decidable.not_not

theorem alu_ng (x y : Word) (c : AluControl) :
    (alu x y c).ng = decide ((Arithmetic.result x y c).toInt < 0) := by
  rw [← alu_out]
  show (alu x y c).out.getLsbD 15 = _
  rw [← BitVec.msb_eq_toInt, BitVec.msb_eq_getLsbD_last]

/-! ## The unit on numbers -/

namespace Arithmetic

namespace Number

/-- An operand as a number, zeroed and then complemented on demand. -/
def operand (n : Nat) (zero complement : Bool) : Nat :=
  let kept := if zero then 0 else n
  if complement then 65535 - kept else kept

/-- The result on two numbers: their sum modulo `2 ^ 16` or their conjunction,
complemented on demand. -/
def result (x y : Nat) (c : AluControl) : Nat :=
  let x := operand x c.zx c.nx
  let y := operand y c.zy c.ny
  let chosen := if c.f then (x + y) % 65536 else x &&& y
  if c.no then 65535 - chosen else chosen

end Number

theorem toNat_operand (w : Word) (zero complement : Bool) :
    (operand w zero complement).toNat = Number.operand w.toNat zero complement := by
  cases zero <;> cases complement <;> simp [operand, Number.operand]

theorem toNat_result (x y : Word) (c : AluControl) :
    (result x y c).toNat = Number.result x.toNat y.toNat c := by
  have chosen (a b : Word) : (if c.f then a + b else a &&& b).toNat =
      if c.f then (a.toNat + b.toNat) % 65536 else a.toNat &&& b.toNat := by
    cases c.f with
    | false => exact BitVec.toNat_and a b
    | true => exact BitVec.toNat_add a b
  have complemented (a : Word) :
      (if c.no then ~~~a else a).toNat = if c.no then 65535 - a.toNat else a.toNat := by
    cases c.no with
    | false => rfl
    | true => exact BitVec.toNat_not
  rw [result, Number.result, complemented, chosen, toNat_operand, toNat_operand]

end Arithmetic

/-- **The arithmetic unit computes on integers.**  For all operands and control wires its result is
the number that the wires ask for; it raises one flag when this number is zero and the other when
it is negative in two's complement; and the ripple adder adds modulo `2 ^ 16`. -/
theorem arithmetic_unit_computes_integers (x y : Word) (c : AluControl) :
    (alu x y c).out.toNat = Arithmetic.Number.result x.toNat y.toNat c ∧
      ((alu x y c).zr = true ↔ Arithmetic.Number.result x.toNat y.toNat c = 0) ∧
      ((alu x y c).ng = true ↔ (alu x y c).out.toInt < 0) ∧
      (Word.add x y).toNat = (x.toNat + y.toNat) % 65536 := by
  refine ⟨?out, ?zero, ?negative, ?sum⟩
  case out => rw [alu_out, Arithmetic.toNat_result]
  case zero =>
    rw [alu_zr, decide_eq_true_eq, ← Arithmetic.toNat_result]
    exact BitVec.toNat_inj.symm
  case negative => rw [alu_ng, decide_eq_true_eq, alu_out]
  case sum => rw [Word.add_eq, BitVec.toNat_add]

/-- The control wires of `x - y`, on operands whose difference is negative. -/
example : alu 3#16 5#16 (.ofBus 0b010011#6) = { out := 0xFFFE#16, zr := false, ng := true } := by
  decide

end NandMachine
