/-
# NandMachine.Logic.Bus -- several wires side by side

A bus of `n` wires is a bit vector; wire 0 is the least significant.  The two
widths of the machine have names, `Word` (16) and `Address` (15).  A word is read
as a number in two ways, unsigned (`toNat`) and in two's complement (`toInt`).

`ofSignals` and `signals` go between a bus and the list of its wires, least
significant first.  A `slice` takes a run of wires and an `extend` adds low wires
above; both are wiring and compute nothing.

The conversions that can be refused end in a question mark and answer a `Fault`:
a bus takes a number only when it has at most sixteen wires and the number fits.
-/
import NandMachine.Fault
import NandMachine.Logic.Power
import NandMachine.Logic.Signal

namespace NandMachine

set_option autoImplicit false

/-- A bus of `width` wires, wire 0 least significant. -/
abbrev Bus (width : Nat) := BitVec width

abbrev Word := Bus 16

/-- An address of the instruction store or of data memory. -/
abbrev Address := Bus 15

namespace Bus

variable {n : Nat}

/-- The number that a list of levels stands for, least significant first. -/
def value : List Signal → Nat
  | [] => 0
  | s :: rest => s.toNat + 2 * value rest

/-- The bus whose wires are the given levels, least significant first; missing
wires are low and surplus levels are dropped. -/
@[inline] def ofSignals (lines : List Signal) : Bus n := BitVec.ofNat n (value lines)

/-- The bus whose wires are read off as many parts, the first part on wire 0. -/
@[inline] def gather {α : Type} (f : α → Signal) (parts : Vector α n) : Bus n :=
  BitVec.ofNat n (parts.foldr (fun part v => (f part).toNat + 2 * v) 0)

/-- The levels of all wires, least significant first. -/
def signals (b : Bus n) : List Signal := (List.range n).map b.getLsbD

/-- The `len` wires from `start` on; wires beyond the bus are low. -/
def slice (b : Bus n) (start len : Nat) : Bus len := b.extractLsb' start len

/-- The same wires with low ones above them. -/
def extend (b : Bus n) (width : Nat) : Bus width := b.setWidth width

/-- The bus with one wire set to a level. -/
def setLine (b : Bus n) (index : Nat) (s : Signal) : Bus n := ofSignals (b.signals.set index s)

/-- The digits of a bus, most significant first. -/
def digits (b : Bus n) : List Char := b.signals.reverse.map Signal.digit

/-- A bus in writing: its digits, most significant first. -/
def text (b : Bus n) : String := String.ofList b.digits

theorem value_eq_foldr (lines : List Signal) :
    value lines = lines.foldr (fun s v => s.toNat + 2 * v) 0 := by
  induction lines with
  | nil => rfl
  | cons s rest ih => simp [value, ih]

theorem gather_eq_ofSignals {α : Type} (f : α → Signal) (parts : Vector α n) :
    gather f parts = ofSignals (parts.toList.map f) := by
  rw [gather, ofSignals, value_eq_foldr, List.foldr_map, Vector.foldr_toList]

/-- A wire of the number that levels stand for is the level at its place. -/
theorem testBit_value (lines : List Signal) (i : Nat) :
    (value lines).testBit i = lines.getD i false := by
  induction lines generalizing i with
  | nil => simp [value]
  | cons s rest ih =>
      cases i with
      | zero => cases s <;> simp [value, Nat.testBit_zero]
      | succ i =>
          have half : (s.toNat + 2 * value rest) / 2 = value rest := by
            have := Bool.toNat_lt s; omega
          simp [value, Nat.testBit_succ, half, ih]

theorem getLsbD_ofSignals (lines : List Signal) (i : Nat) :
    (ofSignals lines : Bus n).getLsbD i = (decide (i < n) && lines.getD i false) := by
  rw [ofSignals, BitVec.getLsbD_ofNat, testBit_value]

theorem getLsbD_gather {α : Type} (f : α → Signal) (parts : Vector α n) (i : Nat) (h : i < n) :
    (gather f parts).getLsbD i = f parts[i] := by
  rw [gather_eq_ofSignals, getLsbD_ofSignals, List.getD_eq_getElem?_getD, List.getElem?_map]
  simp [h]

/-- The lowest wires of a number stand for the number up to their weight. -/
theorem value_map_testBit (x n : Nat) : value ((List.range n).map x.testBit) = x % 2 ^ n := by
  induction n generalizing x with
  | zero => simp [value, Nat.mod_one]
  | succ n ih =>
      have tail : x.testBit ∘ Nat.succ = (x / 2).testBit := by
        funext i; simp [Nat.testBit_succ]
      rw [List.range_succ_eq_map, List.map_cons, List.map_map, tail, value, ih, Nat.pow_succ',
        Nat.mod_mul, Nat.toNat_testBit]
      simp

theorem value_signals (b : Bus n) : value b.signals = b.toNat := by
  have lines : b.getLsbD = b.toNat.testBit := by funext i; rfl
  rw [signals, lines, value_map_testBit, Nat.mod_eq_of_lt b.isLt]

@[simp] theorem ofSignals_signals (b : Bus n) : ofSignals b.signals = b := by
  rw [ofSignals, value_signals, BitVec.ofNat_toNat, BitVec.setWidth_eq]

theorem length_signals (b : Bus n) : b.signals.length = n := by simp [signals]

theorem length_digits (b : Bus n) : b.digits.length = n := by simp [digits, length_signals]

theorem getLsbD_slice (b : Bus n) (start len i : Nat) :
    (b.slice start len).getLsbD i = (decide (i < len) && b.getLsbD (start + i)) := by
  simp [slice]

theorem getLsbD_slice_of_lt (b : Bus n) (start : Nat) {len i : Nat} (h : i < len) :
    (b.slice start len).getLsbD i = b.getLsbD (start + i) := by
  rw [getLsbD_slice, decide_eq_true h, Bool.true_and]

theorem getLsbD_slice_zero (b : Bus n) {len i : Nat} (h : i < len) :
    (b.slice 0 len).getLsbD i = b.getLsbD i := by
  rw [getLsbD_slice_of_lt b 0 h, Nat.zero_add]

/-! ## Conversions that can be refused -/

/-- The bus that carries a number. -/
def ofNat? (n value : Nat) : Except Fault (Bus n) :=
  if 16 < n then .error (.busTooWide n)
  else if value < 2 ^ n then .ok (BitVec.ofNat n value)
  else .error (.valueTooWide value n)

/-- The number that a bus carries, if it has at most sixteen wires. -/
def toNat? (b : Bus n) : Except Fault Nat :=
  if n ≤ 16 then .ok b.toNat else .error .noNumber

/-- The level of the wire at an index. -/
def line? (b : Bus n) (index : Nat) : Except Fault Signal :=
  if index < n then .ok (b.getLsbD index) else .error (.noSuchLine n index)

/-- The bus with the wire at an index set. -/
def setLine? (b : Bus n) (index : Nat) (s : Signal) : Except Fault (Bus n) :=
  if index < n then .ok (b.setLine index s) else .error (.noSuchLine n index)

/-- The run of `len` wires from `start` on, if it lies inside the bus. -/
def slice? (b : Bus n) (start len : Nat) : Except Fault (Bus len) :=
  if Fault.counterLimit ≤ start + len then .error .counterOverflow
  else if start + len ≤ n then .ok (b.slice start len)
  else .error (.sliceOutside start (start + len) n)

/-- The bus with low wires added above, up to `width` wires. -/
def extend? (b : Bus n) (width : Nat) : Except Fault (Bus width) :=
  if n ≤ width then .ok (b.extend width) else .error (.narrowing n width)

end Bus

namespace Signal

/-- The level that the number 0 or 1 stands for. -/
def ofNat? : Nat → Except Fault Signal
  | 0 => .ok false
  | 1 => .ok true
  | value => .error (.notALevel value)

end Signal

namespace Word

/-- The word whose two's complement value is congruent to `i`. -/
def ofInt (i : Int) : Word := BitVec.ofInt 16 i

/-- The two's complement reading of a word. -/
def signed (w : Word) : Int := w.toInt

end Word

end NandMachine
