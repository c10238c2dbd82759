/-
# NandMachine.Logic.Signal -- wires, and the gates made from NAND

A wire carries one of two levels, low or high.  `Gate.nand` is the only
primitive gate; every other gate is wired from it or from gates that stand
before it in this file.  The small lemmas say which Boolean function each wiring
computes, so nothing after this file has to open a gate again.
-/
namespace NandMachine

set_option autoImplicit false

/-- The level of one wire: `false` is low and `true` is high. -/
abbrev Signal := Bool

namespace Signal

def digit (s : Signal) : Char := if s then '1' else '0'

/-- Both levels, low first. -/
def all : List Signal := [false, true]

end Signal

namespace Gate

/-- Low exactly when both inputs are high. -/
@[inline] def nand (a b : Signal) : Signal := !(a && b)

/-- A NAND gate with both inputs on one wire. -/
@[inline] def not (a : Signal) : Signal := nand a a

@[inline] def and (a b : Signal) : Signal := not (nand a b)

@[inline] def or (a b : Signal) : Signal := nand (not a) (not b)

@[inline] def xor (a b : Signal) : Signal := or (and (not a) b) (and a (not b))

/-- Selects `a` when `sel` is low and `b` when it is high. -/
@[inline] def mux (a b sel : Signal) : Signal := nand (nand a (not sel)) (nand b sel)

/-- Routes `input` to the first output when `sel` is low and to the second when
it is high; the other output is low. -/
@[inline] def demux (input sel : Signal) : Signal × Signal := (and input (not sel), and input sel)

theorem nand_eq (a b : Signal) : nand a b = !(a && b) := rfl

theorem not_eq (a : Signal) : not a = !a := by cases a <;> rfl

theorem and_eq (a b : Signal) : and a b = (a && b) := by cases a <;> cases b <;> rfl

theorem or_eq (a b : Signal) : or a b = (a || b) := by cases a <;> cases b <;> rfl

theorem xor_eq (a b : Signal) : xor a b = (a != b) := by cases a <;> cases b <;> rfl

theorem mux_eq (a b sel : Signal) : mux a b sel = if sel then b else a := by
  cases a <;> cases b <;> cases sel <;> rfl

theorem demux_eq (input sel : Signal) : demux input sel = (input && !sel, input && sel) := by
  cases input <;> cases sel <;> rfl

end Gate

end NandMachine
