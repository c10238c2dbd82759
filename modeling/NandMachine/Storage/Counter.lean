/-
# NandMachine.Storage.Counter -- the program counter

A register with three control lines.  A chain of multiplexers picks what the
register loads: zero when `reset` is high, else the input when `load` is high,
else the count plus one when `inc` is high, else the count itself.  The register
is loaded in every cycle.
-/
import NandMachine.Logic.Adder
import NandMachine.Storage.Register

namespace NandMachine

set_option autoImplicit false

/-- A register that can be reset, loaded and incremented. -/
structure Counter where
  register : Register := {}
  deriving DecidableEq, Repr, Inhabited

namespace Counter

def read (c : Counter) (now : Cycle) : Word := c.register.read now

/-- The word that the chain of multiplexers picks from a count. -/
def chosen (count input : Word) (load inc reset : Signal) : Word :=
  let stepped := Word.mux count (Word.inc count) inc
  let loaded := Word.mux stepped input load
  Word.mux loaded 0#16 reset

/-- The counter after a drive at `now`. -/
def drive (c : Counter) (now : Cycle) (input : Word) (load inc reset : Signal) : Counter :=
  ⟨c.register.drive now true (chosen (c.read now) input load inc reset)⟩

end Counter

end NandMachine
