/-
# NandMachine.Machine.Snapshot -- the visible state at one instant

A snapshot holds what a run reports: the counters, the registers, the two
addresses and a stretch of data memory with signed values.
-/
import NandMachine.Machine.Computer

namespace NandMachine

set_option autoImplicit false

/-- One memory word in a snapshot. -/
structure MemoryCell where
  address : Word
  value : Word
  deriving DecidableEq, Repr

structure Snapshot where
  steps : Nat
  cycle : Cycle
  registers : RegisterValues
  pc : Address
  addressM : Address
  ram : List MemoryCell
  deriving DecidableEq, Repr

namespace Snapshot

/-- The addresses from `start` on, `count` of them, that lie in data memory; the
end is counted in sixteen bits. -/
def addresses (start count : Nat) : List Nat :=
  let stop := min (min (start + count) 65535) Memory.size
  List.range' start (stop - start)

end Snapshot

/-- The visible state with the memory words at the given addresses. -/
def Computer.snapshot {ρ σ : Type} [Bank ρ 14] [Rom σ] (c : Computer ρ σ) (addresses : List Nat) :
    Snapshot where
  steps := c.steps
  cycle := c.now
  registers := c.registers
  pc := c.pc
  addressM := c.addressM
  ram := addresses.map fun n =>
    let address := BitVec.ofNat 16 n
    { address, value := c.peek address }

end NandMachine
