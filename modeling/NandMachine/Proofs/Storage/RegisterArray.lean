/-
# NandMachine.Proofs.Storage.RegisterArray -- the bank tree is a flat array

A `RegisterArray w` is `2 ^ w` registers side by side, numbered from 0.  Its rules
are the plainest possible: a drive reaches every register, with the load line high
only at the register of the address; a word is read off the register of its
address; an image presets the registers of its words and leaves the others alone.

`RegisterTree β` says that a bank is such an array seen through an equivalence:
states correspond one to one, and every operation of the bank is that operation
of the array.  A single register is one (`w = 0`), and a fan of register trees is
one again: `Line.split` cuts a register's number into the child that holds it and
its number there, which is how the tree cuts an address into wires.  The routing
tree then raises the load line of one register (`Fan.registers_drive`), and the
selection tree shows its word (`Fan.output_registers`).  So the five banks of the
machine are flat arrays, whatever happened to them and whatever comes.
-/
import Mathlib.Logic.Equiv.Fin.Basic
import NandMachine.Proofs.Storage.Calls
import NandMachine.Proofs.Storage.Timing

namespace NandMachine

set_option autoImplicit false

/-! ## The array -/

/-- `2 ^ width` independent registers. -/
@[ext] structure RegisterArray (width : Nat) where
  register : Fin (2 ^ width) → Register

namespace RegisterArray

variable {w : Nat}

/-- The word of the register that an address numbers. -/
def output (array : RegisterArray w) (now : Cycle) (address : Bus w) : Word :=
  (array.register address.toFin).read now

/-- Drives every register, with the load line high only for the register that the
address numbers. -/
def drive (array : RegisterArray w) (now : Cycle) (input : Word) (load : Signal)
    (address : Bus w) : RegisterArray w :=
  ⟨fun i => (array.register i).drive now (load && decide (i = address.toFin)) input⟩

/-- Presets the registers that have a word in the image. -/
def preset (array : RegisterArray w) (now : Cycle) (image : Array Word) : RegisterArray w :=
  ⟨fun i => match image[i.val]? with
    | some word => Register.preset now word
    | none => array.register i⟩

end RegisterArray

instance {w : Nat} : Bank (RegisterArray w) w where
  blank := ⟨fun _ => {}⟩
  label := s!"RegisterArray<{w}>"
  summary := s!"RegisterArray<{w}>"
  output := RegisterArray.output
  drive := RegisterArray.drive
  peek := RegisterArray.output
  preset := RegisterArray.preset

/-- A bank that is an array of registers up to an equivalence of states. -/
class RegisterTree (β : Type) {w : Nat} [Bank β w] where
  registers : β ≃ RegisterArray w
  registers_blank : registers Bank.blank = Bank.blank
  output_registers : ∀ (bank : β) (now : Cycle) (address : Bus w),
    Bank.output bank now address = Bank.output (registers bank) now address
  peek_registers : ∀ (bank : β) (now : Cycle) (address : Bus w),
    Bank.peek bank now address = Bank.peek (registers bank) now address
  registers_drive : ∀ (bank : β) (now : Cycle) (input : Word) (load : Signal) (address : Bus w),
    registers (Bank.drive bank now input load address) =
      Bank.drive (registers bank) now input load address
  registers_preset : ∀ (bank : β) (now : Cycle) (image : Array Word),
    registers (Bank.preset bank now image) = Bank.preset (registers bank) now image

/-! ## Numbers of registers, cut as the wires of an address are cut -/

namespace Line

variable {w k : Nat}

/-- The child that holds a register, and the register's number in that child. -/
def split : Fin (2 ^ (w + k)) ≃ Fin (2 ^ k) × Fin (2 ^ w) :=
  (finCongr (by rw [Nat.pow_add, Nat.mul_comm])).trans finProdFinEquiv.symm

theorem split_fst (i : Fin (2 ^ (w + k))) : (split i).1.val = i.val / 2 ^ w := rfl

theorem split_snd (i : Fin (2 ^ (w + k))) : (split i).2.val = i.val % 2 ^ w := rfl

theorem eq_iff_split (i j : Fin (2 ^ (w + k))) :
    i = j ↔ (split i).1 = (split j).1 ∧ (split i).2 = (split j).2 := by
  rw [← Prod.ext_iff, split.apply_eq_iff_eq]

/-- The high wires of an address number the child and the low wires its register. -/
theorem split_toFin (address : Bus (w + k)) :
    split address.toFin =
      ((Bus.slice address w k).toFin, (Bus.slice address 0 w).toFin) := by
  have bound : address.toNat < 2 ^ w * 2 ^ k := by
    rw [← Nat.pow_add]
    exact address.isLt
  apply Prod.ext
  · apply Fin.ext
    rw [split_fst]
    have inside : address.toNat / 2 ^ w < 2 ^ k := Nat.div_lt_of_lt_mul bound
    simp only [Bus.slice, BitVec.val_toFin, BitVec.extractLsb'_toNat, Nat.shiftRight_eq_div_pow,
      Nat.mod_eq_of_lt inside]
  · apply Fin.ext
    rw [split_snd]
    simp only [Bus.slice, BitVec.val_toFin, BitVec.extractLsb'_toNat, Nat.shiftRight_zero]

end Line

/-! ## One register, and a fan of arrays -/

/-- A register alone is an array of one. -/
def RegisterArray.single : Register ≃ RegisterArray 0 where
  toFun r := ⟨fun _ => r⟩
  invFun array := array.register 0
  left_inv _ := rfl
  right_inv array := by
    apply RegisterArray.ext
    funext i
    show array.register 0 = array.register i
    congr 1
    exact Fin.ext (by omega)

instance : RegisterTree Register where
  registers := RegisterArray.single
  registers_blank := rfl
  output_registers := fun _ _ _ => rfl
  peek_registers := fun _ _ _ => rfl
  registers_drive := fun r now input load address => by
    apply RegisterArray.ext
    funext i
    have only : i = address.toFin := Fin.ext (by omega)
    show r.drive now load input = r.drive now (load && decide (i = address.toFin)) input
    rw [decide_eq_true only, Bool.and_true]
  registers_preset := fun r now image => by
    apply RegisterArray.ext
    funext i
    have first : i = 0 := Fin.ext (by omega)
    subst first
    rfl

namespace Fan

variable {k w : Nat} {β : Type} [Bank β w] [RegisterTree β]

def child (bank : Fan k β) (c : Fin (2 ^ k)) : β := bank.children.get c

omit [Bank β w] [RegisterTree β] in
theorem child_eq (bank : Fan k β) (c : Fin (2 ^ k)) :
    bank.child c = getElem bank.children c.val c.isLt := rfl

omit [RegisterTree β] in
theorem child_drive (bank : Fan k β) (now : Cycle) (input : Word) (load : Signal)
    (address : Bus (w + k)) (c : Fin (2 ^ k)) :
    (drive bank now input load address).child c =
      Bank.drive (bank.child c) now input (Gate.route load (Bus.slice address w k) c)
        (Bus.slice address 0 w) := by
  simp only [drive, child_eq, Vector.getElem_mapFinIdx, Fin.eta]

omit [RegisterTree β] in
theorem child_preset (bank : Fan k β) (now : Cycle) (image : Array Word) (c : Fin (2 ^ k)) :
    (preset bank now image).child c =
      Bank.preset (bank.child c) now (image.extract (c.val * 2 ^ w) ((c.val + 1) * 2 ^ w)) := by
  simp only [preset, child_eq, Vector.getElem_mapFinIdx]

/-- The registers of a fan: those of all its children, child after child. -/
def registers : Fan k β ≃ RegisterArray (w + k) where
  toFun bank :=
    ⟨fun i => (RegisterTree.registers (bank.child (Line.split i).1)).register (Line.split i).2⟩
  invFun array :=
    ⟨Vector.ofFn fun c => RegisterTree.registers.symm
      ⟨fun j => array.register (Line.split.symm (c, j))⟩⟩
  left_inv bank := by
    obtain ⟨children⟩ := bank
    simp only [Equiv.apply_symm_apply, Fan.mk.injEq]
    ext c h
    rw [Vector.getElem_ofFn]
    exact RegisterTree.registers.symm_apply_apply children[c]
  right_inv array := by
    apply RegisterArray.ext
    funext i
    simp [child_eq]

theorem register_registers (bank : Fan k β) (i : Fin (2 ^ (w + k))) :
    (registers bank).register i =
      (RegisterTree.registers (bank.child (Line.split i).1)).register (Line.split i).2 := rfl

theorem registers_blank : registers (blank : Fan k β) = Bank.blank := by
  apply RegisterArray.ext
  funext i
  have all (c : Fin (2 ^ k)) : (blank : Fan k β).child c = Bank.blank := by
    simp [child_eq, blank]
  rw [register_registers, all, RegisterTree.registers_blank]
  rfl

/-- The register that an address numbers is in the child that its high wires
number. -/
theorem register_toFin (bank : Fan k β) (address : Bus (w + k)) :
    (registers bank).register address.toFin =
      (RegisterTree.registers (bank.child (Bus.slice address w k).toFin)).register
        (Bus.slice address 0 w).toFin := by
  rw [register_registers, Line.split_toFin]

/-- The selection tree shows the word of the register that the address numbers. -/
theorem output_registers (bank : Fan k β) (now : Cycle) (address : Bus (w + k)) :
    output bank now address = Bank.output (registers bank) now address := by
  show _ = ((registers bank).register address.toFin).read now
  rw [output, Gate.select_eq, RegisterTree.output_registers, register_toFin]
  rfl

theorem peek_registers (bank : Fan k β) (now : Cycle) (address : Bus (w + k)) :
    peek bank now address = Bank.peek (registers bank) now address := by
  show _ = ((registers bank).register address.toFin).read now
  rw [peek, RegisterTree.peek_registers, register_toFin]
  rfl

/-- The routing tree raises the load line of the register that the address numbers
and of no other. -/
theorem registers_drive (bank : Fan k β) (now : Cycle) (input : Word) (load : Signal)
    (address : Bus (w + k)) :
    registers (drive bank now input load address) =
      Bank.drive (registers bank) now input load address := by
  apply RegisterArray.ext
  funext i
  have line : (load && decide (i = address.toFin)) =
      ((load && decide ((Line.split i).1 = (Bus.slice address w k).toFin)) &&
        decide ((Line.split i).2 = (Bus.slice address 0 w).toFin)) := by
    rw [Bool.and_assoc, ← Bool.decide_and]
    congr 1
    rw [decide_eq_decide, Line.eq_iff_split, Line.split_toFin address]
  rw [register_registers, child_drive, Gate.route_eq, RegisterTree.registers_drive]
  show Register.drive _ now _ input = Register.drive _ now _ input
  rw [line, register_registers]

/-- Each child takes its stretch of the image, so a register takes the word of its
own number. -/
theorem registers_preset (bank : Fan k β) (now : Cycle) (image : Array Word) :
    registers (preset bank now image) = Bank.preset (registers bank) now image := by
  apply RegisterArray.ext
  funext i
  have stretch : (image.extract ((Line.split i).1.val * 2 ^ w)
      (((Line.split i).1.val + 1) * 2 ^ w))[(Line.split i).2.val]? = image[i.val]? := by
    have inside : (Line.split i).2.val < 2 ^ w := (Line.split i).2.isLt
    have cut : (Line.split i).1.val * 2 ^ w + (Line.split i).2.val = i.val := by
      rw [Line.split_fst, Line.split_snd, Nat.div_add_mod']
    have width : ((Line.split i).1.val + 1) * 2 ^ w = (Line.split i).1.val * 2 ^ w + 2 ^ w := by
      rw [Nat.add_mul, Nat.one_mul]
    rw [Array.getElem?_extract, width]
    split
    · rw [cut]
    · rw [Array.getElem?_eq_none (by omega)]
  rw [register_registers, child_preset, RegisterTree.registers_preset]
  simp only [Bank.preset, RegisterArray.preset, stretch, register_registers]

/-- A fan of register trees is a register tree. -/
@[reducible] def registerTree (label : String) : @RegisterTree (Fan k β) (w + k) (Fan.bank label) :=
  @RegisterTree.mk _ _ (Fan.bank label) registers registers_blank output_registers peek_registers
    registers_drive registers_preset

end Fan

instance : RegisterTree Ram8 := Fan.registerTree (w := 0) (k := 3) "Ram8"

instance : RegisterTree Ram64 := Fan.registerTree (w := 3) (k := 3) "Ram64"

instance : RegisterTree Ram512 := Fan.registerTree (w := 6) (k := 3) "Ram512"

instance : RegisterTree Ram4K := Fan.registerTree (w := 9) (k := 3) "Ram4K"

instance : RegisterTree Ram16K := Fan.registerTree (w := 12) (k := 2) "Ram16K"

/-! ## Histories of calls -/

/-- A bank is an array of registers: its states are the states of the array, one
to one, it is built as the array is built, and every list of calls from every
state gets the same answers from both, leaves corresponding states behind, and is
accepted when its cycles have an edge. -/
def IsRegisterArray (β : Type) (w : Nat) [Bank β w] : Prop :=
  ∃ registers : β ≃ RegisterArray w,
    registers Bank.blank = Bank.blank ∧
    ∀ (bank : β) (calls : List (Bank.Call w)),
      Bank.calls? (registers bank) calls =
          (Bank.calls? bank calls).map (Prod.map registers id) ∧
        (Bank.InTime calls → ∃ made, Bank.calls? bank calls = .ok made)

namespace RegisterTree

variable {β : Type} {w : Nat} [Bank β w] [RegisterTree β]

/-- One call on the array is the call on the bank. -/
theorem call?_registers (bank : β) (c : Bank.Call w) :
    Bank.call? (registers bank) c = (Bank.call? bank c).map (Prod.map registers id) := by
  cases c with
  | drive now input load address =>
      simp only [Bank.call?, Bank.drive?, Cycle.driven?, ← registers_drive, ← output_registers]
      cases Cycle.next? now <;> rfl
  | peek now address =>
      simp only [Bank.call?, ← peek_registers]
      rfl
  | preset now image =>
      simp only [Bank.call?, Bank.preset?_image, ← registers_preset]
      rfl

theorem isRegisterArray : IsRegisterArray β w := by
  refine ⟨registers, registers_blank, fun bank calls => ⟨?_, fun timely => ?_⟩⟩
  · exact Bank.calls?_view registers call?_registers bank calls
  · exact ⟨_, Bank.calls?_of_inTime bank calls timely⟩

end RegisterTree

/-- **The banks of the machine are flat arrays of registers**, of 8, 64, 512, 4096
and 16384: no address reaches another register than its own, at any level. -/
theorem banks_are_register_arrays :
    IsRegisterArray Ram8 3 ∧ IsRegisterArray Ram64 6 ∧ IsRegisterArray Ram512 9 ∧
      IsRegisterArray Ram4K 12 ∧ IsRegisterArray Ram16K 14 := by
  refine ⟨?_, ?_, ?_, ?_, ?_⟩
  · exact RegisterTree.isRegisterArray
  · exact RegisterTree.isRegisterArray
  · exact RegisterTree.isRegisterArray
  · exact RegisterTree.isRegisterArray
  · exact RegisterTree.isRegisterArray

end NandMachine
