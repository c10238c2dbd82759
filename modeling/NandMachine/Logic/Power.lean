/-
# NandMachine.Logic.Power -- one reading of powers

The sizes of this library are powers of two: a bus of `n` wires carries `2 ^ n`
numbers and selects one of `2 ^ n` lines.  Bit vectors come with the power of
natural numbers as the core library defines it.  The attribute below makes `2 ^ n`
that power in every module, also beside an algebra library that reads `^` through
monoids, so that the sizes here and those of bit vectors are the same term.
-/
namespace NandMachine

attribute [instance (2000)] instPowNat

end NandMachine
