/-
# NandMachine.Logic.Adder -- addition by rippling carries

A half adder adds two levels and a full adder three; both give a sum and a carry
of twice its weight.  A ripple adder starts with a half adder at wire 0 and hands
each carry to the full adder of the next wire; the carry out of the last wire is
dropped, so that addition wraps at the width of the bus.

Each cell keeps the value of its inputs (`halfAdder_value`, `fullAdder_value`), so
a chain of them keeps the value of both rows and the carry (`value_ripple`), and
the word adder is addition of bit vectors (`Word.add_eq`).
-/
import NandMachine.Logic.WordGates

namespace NandMachine

set_option autoImplicit false

namespace Gate

/-- Adds two levels: sum and carry. -/
def halfAdder (a b : Signal) : Signal × Signal := (xor a b, and a b)

/-- Adds three levels: sum and carry. -/
def fullAdder (a b c : Signal) : Signal × Signal :=
  (xor (xor a b) c, or (or (and a b) (and a c)) (and b c))

/-- The sum wires of a chain of full adders, least significant first, from a
carry in. -/
def ripple (carry : Signal) : List Signal → List Signal → List Signal
  | a :: as, b :: bs =>
      let (sum, out) := fullAdder a b carry
      sum :: ripple out as bs
  | _, _ => []

/-- The sum wires of a ripple adder: a half adder, then a chain of full ones. -/
def rippleAdder : List Signal → List Signal → List Signal
  | a :: as, b :: bs =>
      let (sum, out) := halfAdder a b
      sum :: ripple out as bs
  | _, _ => []

theorem halfAdder_value (a b : Signal) :
    (halfAdder a b).1.toNat + 2 * (halfAdder a b).2.toNat = a.toNat + b.toNat := by
  cases a <;> cases b <;> rfl

theorem fullAdder_value (a b c : Signal) :
    (fullAdder a b c).1.toNat + 2 * (fullAdder a b c).2.toNat = a.toNat + b.toNat + c.toNat := by
  cases a <;> cases b <;> cases c <;> rfl

/-- The lowest wire and the wires above it, up to a weight. -/
theorem low_add_two_mul_mod (low rest w : Nat) (h : low < 2) :
    (low + 2 * rest) % (2 * w) = low + 2 * (rest % w) := by
  rw [Nat.mod_mul, show (low + 2 * rest) / 2 = rest by omega]
  omega

/-- A chain of full adders keeps the value of its rows and its carry. -/
theorem value_ripple (carry : Signal) (as bs : List Signal) (h : as.length = bs.length) :
    Bus.value (ripple carry as bs) =
      (carry.toNat + Bus.value as + Bus.value bs) % 2 ^ as.length := by
  induction as generalizing carry bs with
  | nil => simp [ripple, Bus.value, Nat.mod_one]
  | cons a as ih =>
      cases bs with
      | nil => simp at h
      | cons b bs =>
          have cell := fullAdder_value a b carry
          have low : (fullAdder a b carry).1.toNat < 2 := Bool.toNat_lt _
          simp only [ripple, Bus.value, List.length_cons]
          rw [ih _ bs (by simpa using h), Nat.pow_succ', ← low_add_two_mul_mod _ _ _ low]
          congr 1
          omega

/-- A ripple adder keeps the value of its rows. -/
theorem value_rippleAdder (as bs : List Signal) (h : as.length = bs.length) :
    Bus.value (rippleAdder as bs) = (Bus.value as + Bus.value bs) % 2 ^ as.length := by
  match as, bs with
  | [], _ => simp [rippleAdder, Bus.value, Nat.mod_one]
  | _ :: _, [] => simp at h
  | a :: as, b :: bs =>
      have cell := halfAdder_value a b
      have low : (halfAdder a b).1.toNat < 2 := Bool.toNat_lt _
      simp only [rippleAdder, Bus.value, List.length_cons]
      rw [value_ripple _ as bs (by simpa using h), Nat.pow_succ', ← low_add_two_mul_mod _ _ _ low]
      congr 1
      omega

end Gate

namespace Word

/-- Adds two words; the carry out of the top wire is dropped. -/
def add (a b : Word) : Word := Bus.ofSignals (Gate.rippleAdder (Bus.signals a) (Bus.signals b))

def inc (a : Word) : Word := add a 1#16

theorem add_eq (a b : Word) : add a b = a + b := by
  apply BitVec.eq_of_toNat_eq
  rw [add, Bus.ofSignals, Gate.value_rippleAdder _ _ (by simp [Bus.length_signals]),
    Bus.value_signals, Bus.value_signals, Bus.length_signals, BitVec.toNat_ofNat, BitVec.toNat_add,
    Nat.mod_mod]

theorem inc_eq (a : Word) : inc a = a + 1#16 := add_eq a 1#16

end Word

end NandMachine
