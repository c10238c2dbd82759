/-
# NandMachine.Machine.Memory -- the data memory map

    address         wire 14   wire 13   device
    0     - 16383      0         -      RAM
    16384 - 24575      1         0      screen
    24576 - 32767      1         1      keyboard

The keyboard has one address of its own, 24576, but only wires 14 and 13 are
decoded, so every address above it shows the keyboard too.  A write there is
lost.  RAM and screen are driven in every access, each with its own load line, so
that neither fades while the other is used.

The key that is held is sampled at most once in a cycle, at the first access of
that cycle; until the next cycle the keyboard addresses show the sample.
-/
import NandMachine.Devices.Screen

namespace NandMachine

set_option autoImplicit false

/-- RAM, screen and keyboard behind one 15-wire address. -/
structure Memory (ρ : Type) where
  ram : ρ
  screen : Screen := {}
  /-- The code of the key that is held, 0 for none. -/
  key : Word := 0#16
  /-- The last sample of the key, with its cycle. -/
  sample : Option (Cycle × Word) := none

namespace Memory

variable {ρ : Type} [Bank ρ 14]

def blank : Memory ρ := { ram := Bank.blank }

def screenStart : Nat := 0x4000

def keyboardAddress : Nat := 0x6000

def size : Nat := 0x8000

/-- The key code that an access at `now` sees. -/
def sampled (m : Memory ρ) (now : Cycle) : Word :=
  match m.sample with
  | some (cycle, code) => if cycle = now then code else m.key
  | none => m.key

/-- The word that an access at `now` shows: the three devices behind two
multiplexers on the top wires of the address. -/
def output (m : Memory ρ) (now : Cycle) (address : Address) : Word :=
  Word.mux (Bank.output m.ram now (Bus.slice address 0 14))
    (Word.mux (m.screen.peek now (Bus.slice address 0 13)) (m.sampled now) (address.getLsbD 13))
    (address.getLsbD 14)

def ramLoad (load : Signal) (address : Address) : Signal :=
  Gate.and load (Gate.not (address.getLsbD 14))

/-- The load line of the screen: lines 4 and 5 of the top three wires. -/
def screenLoad (load : Signal) (address : Address) : Signal :=
  let lines := Gate.route load (Bus.slice address 12 3)
  Gate.and load (Gate.or (lines 4) (lines 5))

def drive (m : Memory ρ) (now : Cycle) (input : Word) (load : Signal) (address : Address) :
    Memory ρ where
  ram := Bank.drive m.ram now input (ramLoad load address) (Bus.slice address 0 14)
  screen := m.screen.drive now input (screenLoad load address) (Bus.slice address 0 13)
  key := m.key
  sample := some (now, m.sampled now)

/-- The word at an address, seen from outside. -/
def peek (m : Memory ρ) (now : Cycle) (address : Address) : Word :=
  if address.getLsbD 14 then
    if address.getLsbD 13 then m.sampled now else m.screen.peek now (Bus.slice address 0 13)
  else Bank.peek m.ram now (Bus.slice address 0 14)

/-- The memory with the first words of its RAM set. -/
def preset (m : Memory ρ) (now : Cycle) (image : Array Word) : Memory ρ :=
  { m with ram := Bank.preset m.ram now image }

/-- Holds the key of a code. -/
def press (m : Memory ρ) (code : Word) : Memory ρ := { m with key := code }

def release (m : Memory ρ) : Memory ρ := m.press 0#16

/-- Holds the key of a code on the one keyboard that copies of a memory share. -/
def pressShared (copies : Array (Memory ρ)) (code : Word) : Array (Memory ρ) :=
  copies.map (·.press code)

/-- An access at `now`; there is none after the last cycle. -/
def drive? (m : Memory ρ) (now : Cycle) (input : Word) (load : Signal) (address : Address) :
    Except Fault (Memory ρ) :=
  Cycle.driven? now (m.drive now input load address)

/-- The memory with the first words of its RAM set to an image that fits it. -/
def preset? (m : Memory ρ) (now : Cycle) (image : Array Word) : Except Fault (Memory ρ) := do
  return { m with ram := ← Bank.preset? m.ram now image }

end Memory

end NandMachine
