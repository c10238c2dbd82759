/-
# NandMachine.Storage.FlatBank -- a bank kept in a map

A stand-in for the gate-level banks that keeps only the words ever stored.  It
shows the same timing: a stored word reads back from the next cycle on, a later
drive in the same cycle replaces an earlier one (so a drive with the load line
low cancels a write), and the contents read low once the bank has gone more than
one edge without a drive.

That last window is kept for the bank as a whole, not for each cell: `live` is
the last cycle at which the words still read back.  A write waits in `pending`
until a later cycle commits it.
-/
import Std.Data.HashMap
import NandMachine.Storage.Bank

namespace NandMachine

set_option autoImplicit false

/-- A write that waits for its edge. -/
structure PendingWrite (width : Nat) where
  cycle : Cycle
  address : Bus width
  word : Word
  deriving DecidableEq, Repr

/-- A bank of `2 ^ width` words that stores only those ever written. -/
structure FlatBank (width : Nat) where
  words : Std.HashMap (Bus width) Word := {}
  pending : Option (PendingWrite width) := none
  /-- The last cycle at which `words` still reads back; none before any drive. -/
  live : Option Cycle := none

namespace FlatBank

variable {w : Nat}

/-- More than one edge has passed since the last drive. -/
def stale (bank : FlatBank w) (now : Cycle) : Bool := bank.live.any (· < now)

def peek (bank : FlatBank w) (now : Cycle) (address : Bus w) : Word :=
  if bank.stale now then 0#16
  else match bank.pending with
    | some p => if p.cycle < now ∧ p.address = address then p.word else bank.words.getD address 0#16
    | none => bank.words.getD address 0#16

/-- Commits the pending write if its edge has passed. -/
def commit (bank : FlatBank w) (now : Cycle) : FlatBank w :=
  match bank.pending with
  | some p =>
      if p.cycle < now then { bank with words := bank.words.insert p.address p.word, pending := none }
      else bank
  | none => bank

/-- Commits the pending write, then forgets everything if the bank is stale. -/
def settle (bank : FlatBank w) (now : Cycle) : FlatBank w :=
  let bank := bank.commit now
  if bank.stale now then { bank with words := {}, live := none } else bank

def drive (bank : FlatBank w) (now : Cycle) (input : Word) (load : Signal) (address : Bus w) :
    FlatBank w :=
  { bank.settle now with
    pending := if load then some ⟨now, address, input⟩ else none
    live := some (now + 1) }

/-- The words with the first ones replaced by an image. -/
def overlay (words : Std.HashMap (Bus w) Word) (image : Array Word) : Std.HashMap (Bus w) Word :=
  image.toList.zipIdx.foldl (fun words (word, i) => words.insert (BitVec.ofNat w i) word) words

/-- The bank whose first words read as the image at `now`.  A pending write into
those words is dropped. -/
def preset (bank : FlatBank w) (now : Cycle) (image : Array Word) : FlatBank w :=
  let bank := bank.settle now
  { words := overlay bank.words image
    pending := bank.pending.filter fun p => image.size ≤ p.address.toNat
    live := some (match bank.live with | some t => max t now | none => now) }

end FlatBank

instance {w : Nat} : Bank (FlatBank w) w where
  blank := {}
  label := s!"FlatRam<{w}>"
  summary := s!"FlatRam<{w}>"
  output := FlatBank.peek
  drive := FlatBank.drive
  peek := FlatBank.peek
  preset := FlatBank.preset

end NandMachine
