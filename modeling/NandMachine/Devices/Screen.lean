/-
# NandMachine.Devices.Screen -- the bitmap display

The display has 256 rows of 512 pixels, sixteen to a word: wire 0 of a word is
its leftmost pixel.  Its 8192 words follow the timing of a memory bank, except
that they never fade: a word stored in one cycle reads back from the next on, and
a later drive in the same cycle replaces an earlier one.  The picture shows the
words whose write has been committed.
-/
import NandMachine.Storage.FlatBank

namespace NandMachine

set_option autoImplicit false

/-- The display: its words and the write that waits for its edge. -/
structure Screen where
  words : Vector Word 8192 := Vector.replicate 8192 0#16
  pending : Option (PendingWrite 13) := none
  deriving DecidableEq, Repr

namespace Screen

def columns : Nat := 512

def rows : Nat := 256

def peek (screen : Screen) (now : Cycle) (address : Bus 13) : Word :=
  match screen.pending with
  | some p => if p.cycle < now ∧ p.address = address then p.word else screen.words[address.toFin]
  | none => screen.words[address.toFin]

/-- Commits the pending write if its edge has passed. -/
def settle (screen : Screen) (now : Cycle) : Screen :=
  match screen.pending with
  | some p =>
      if p.cycle < now then
        { words := screen.words.set p.address.toNat p.word p.address.isLt, pending := none }
      else screen
  | none => screen

def drive (screen : Screen) (now : Cycle) (input : Word) (load : Signal) (address : Bus 13) :
    Screen :=
  { screen.settle now with pending := if load then some ⟨now, address, input⟩ else none }

def blank : Screen := {}

/-- Whether the pixel in column `x` of row `y` is black; there is none outside the
display. -/
def pixel (screen : Screen) (x y : Nat) : Bool :=
  if x < columns ∧ y < rows then
    (screen.words[y * columns / 16 + x / 16]?.getD 0#16).getLsbD (x % 16)
  else false

end Screen

end NandMachine
