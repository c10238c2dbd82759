/-
# NandMachine.Machine.Rom -- instruction stores

An instruction store is burned once with a program and then only read.  The
gate-level `GateRom` is two banks of 16384 words behind the top address wire with
their load lines tied low; both are driven in every fetch, on a clock of their
own, which is what keeps their contents.  `FlatRom` keeps the program as it is.
Words beyond the program are zero.
-/
import NandMachine.Program.Basic
import NandMachine.Storage.Bank

namespace NandMachine

set_option autoImplicit false

class Rom (σ : Type) where
  /-- Whether the store is made of gates. -/
  gateLevel : Bool
  /-- The store with a program burned in. -/
  burn : Array Word → σ
  /-- The instruction shown in a fetch. -/
  output : σ → Address → Word
  /-- The store after a fetch. -/
  fetched : σ → Address → σ
  /-- The instruction at an address, seen from outside. -/
  peek : σ → Address → Word
  /-- The number of words burned in. -/
  size : σ → Nat

namespace Rom

variable {σ : Type} [Rom σ]

/-- The store of a program that fits. -/
def ofProgram? (program : Array Word) : Except Program.Error σ :=
  if program.size ≤ Program.limit then .ok (burn program) else .error (.tooLarge program.size)

end Rom

/-- Two gate-level banks and their clock. -/
structure GateRom where
  clock : Clock := {}
  low : Ram16K
  high : Ram16K
  size : Nat

namespace GateRom

/-- Presets the lower half of the program into one bank and the rest into the
other. -/
def burn (program : Array Word) : GateRom where
  low := Bank.preset Bank.blank 0 (program.extract 0 16384)
  high := Bank.preset Bank.blank 0 (program.extract 16384 program.size)
  size := program.size

/-- The word of the bank that the top wire selects. -/
def output (rom : GateRom) (address : Address) : Word :=
  let now := rom.clock.now
  let inner := Bus.slice address 0 14
  Word.mux (Bank.output rom.low now inner) (Bank.output rom.high now inner) (address.getLsbD 14)

/-- Drives both banks for one cycle of their clock. -/
def fetched (rom : GateRom) (address : Address) : GateRom :=
  let now := rom.clock.now
  let inner := Bus.slice address 0 14
  { clock := rom.clock.advance
    low := Bank.drive rom.low now 0#16 false inner
    high := Bank.drive rom.high now 0#16 false inner
    size := rom.size }

/-- The word at an address in its bank. -/
def peek (rom : GateRom) (address : Address) : Word :=
  Bank.peek (if address.getLsbD 14 then rom.high else rom.low) rom.clock.now
    (Bus.slice address 0 14)

end GateRom

instance : Rom GateRom where
  gateLevel := true
  burn := GateRom.burn
  output := GateRom.output
  fetched := GateRom.fetched
  peek := GateRom.peek
  size := GateRom.size

/-- A program kept as it is. -/
structure FlatRom where
  program : Array Word := #[]
  deriving DecidableEq, Repr, Inhabited

namespace FlatRom

def peek (rom : FlatRom) (address : Address) : Word := rom.program[address.toNat]?.getD 0#16

end FlatRom

instance : Rom FlatRom where
  gateLevel := false
  burn program := ⟨program⟩
  output := FlatRom.peek
  fetched rom _ := rom
  peek := FlatRom.peek
  size rom := rom.program.size

end NandMachine
