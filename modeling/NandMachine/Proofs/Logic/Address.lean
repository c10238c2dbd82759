/-
# NandMachine.Proofs.Logic.Address -- the wires of an address as numbers

The machine decodes an address wire by wire.  Read as numbers, wire 14 tells the
lower 16384 addresses from the upper ones, and above those wire 13 tells the
addresses of the keyboard from those of the screen.  The low wires of an address
are its remainder, so inside one region they tell all addresses apart; the address
in a word is the word modulo `2 ^ 15`.
-/
import NandMachine.Logic.Bus

namespace NandMachine

set_option autoImplicit false

namespace Address

def ofWord (w : Word) : Address := BitVec.ofNat 15 w.toNat

theorem slice_eq_ofWord (w : Word) : Bus.slice w 0 15 = ofWord w := by
  rw [Bus.slice, BitVec.extractLsb', Nat.shiftRight_zero, ofWord]

theorem toNat_ofWord (w : Word) : (ofWord w).toNat = w.toNat % 32768 :=
  BitVec.toNat_ofNat w.toNat 15

theorem ofWord_add_one (w : Word) : ofWord (w + 1#16) = ofWord w + 1 := by
  have one : (1 : Address).toNat = 1 := rfl
  apply BitVec.eq_of_toNat_eq
  simp only [ofWord, BitVec.toNat_ofNat, BitVec.toNat_add, one]
  omega

theorem lt (a : Address) : a.toNat < 32768 := a.isLt

theorem ofWord_extend (a : Address) : ofWord (Bus.extend a 16) = a := by
  have bound := lt a
  apply BitVec.eq_of_toNat_eq
  rw [ofWord, Bus.extend, BitVec.toNat_ofNat, BitVec.toNat_setWidth]
  omega

/-- A word with its top wire low is an address. -/
theorem extend_ofWord {w : Word} (low : w.getLsbD 15 = false) : Bus.extend (ofWord w) 16 = w := by
  have bound := w.isLt
  rw [BitVec.getLsbD, Nat.testBit_eq_decide_div_mod_eq, decide_eq_false_iff_not] at low
  apply BitVec.eq_of_toNat_eq
  rw [Bus.extend, ofWord, BitVec.toNat_setWidth, BitVec.toNat_ofNat]
  omega

/-- A word that is an address is an address instruction. -/
theorem getLsbD_extend (a : Address) : (Bus.extend a 16).getLsbD 15 = false := by
  rw [Bus.extend, BitVec.getLsbD_setWidth, BitVec.getLsbD_of_ge a 15 (Nat.le_refl 15)]
  rfl

theorem getLsbD_fourteen (a : Address) : a.getLsbD 14 = decide (16384 ≤ a.toNat) := by
  have bound := lt a
  rw [BitVec.getLsbD, Nat.testBit_eq_decide_div_mod_eq, decide_eq_decide]
  omega

/-- Above RAM, wire 13 tells the keyboard from the screen. -/
theorem getLsbD_thirteen {a : Address} (device : 16384 ≤ a.toNat) :
    a.getLsbD 13 = decide (24576 ≤ a.toNat) := by
  have bound := lt a
  rw [BitVec.getLsbD, Nat.testBit_eq_decide_div_mod_eq, decide_eq_decide]
  omega

theorem toNat_low (a : Address) (n : Nat) : (Bus.slice a 0 n).toNat = a.toNat % 2 ^ n := by
  rw [Bus.slice, BitVec.extractLsb'_toNat, Nat.shiftRight_zero]

/-- The low fourteen wires tell the addresses of RAM apart. -/
theorem eq_iff_of_ram {a b : Address} (ha : a.toNat < 16384) (hb : b.toNat < 16384) :
    Bus.slice a 0 14 = Bus.slice b 0 14 ↔ a = b := by
  rw [← BitVec.toNat_inj, ← BitVec.toNat_inj, toNat_low, toNat_low]
  omega

/-- The low thirteen wires tell the addresses of the screen apart. -/
theorem eq_iff_of_screen {a b : Address} (ha : 16384 ≤ a.toNat ∧ a.toNat < 24576)
    (hb : 16384 ≤ b.toNat ∧ b.toNat < 24576) :
    Bus.slice a 0 13 = Bus.slice b 0 13 ↔ a = b := by
  rw [← BitVec.toNat_inj, ← BitVec.toNat_inj, toNat_low, toNat_low]
  omega

end Address

end NandMachine
