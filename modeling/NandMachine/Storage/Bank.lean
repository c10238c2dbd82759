/-
# NandMachine.Storage.Bank -- addressable stores

A bank of width `w` holds `2 ^ w` words.  In every cycle it is driven once or
more with an input word, a load line and an address: `output` is the word that it
shows at the address, as latched before the edge, and `drive` is the bank after
the drive.  `peek` looks at a word without any circuit, and `preset` sets the
first words so that they read back at a given cycle.

A single register is a bank of width 0.  `Fan k β` puts `2 ^ k` banks of one kind
behind `k` more address wires: the low wires of the address go to every child,
the high wires route the load line to one child and select one child's word.
Every child is driven in every drive.  The sizes of the machine are five such
layers over the register: `Ram8`, `Ram64`, `Ram512` and `Ram4K` of eight, and
`Ram16K` of four.
-/
import NandMachine.Logic.WordGates
import NandMachine.Storage.Register

namespace NandMachine

set_option autoImplicit false

/-- A store of `2 ^ width` words. -/
class Bank (β : Type) (width : outParam Nat) where
  /-- The store as it is built. -/
  blank : β
  /-- What the store is called in messages. -/
  label : String
  /-- What the store shows of itself: its name, and its parts if it has any. -/
  summary : String
  /-- The word shown at an address during a cycle. -/
  output : β → Cycle → Bus width → Word
  /-- The store after a drive: at the next edge the input is stored at the address
  if the load line is high. -/
  drive : β → Cycle → Word → Signal → Bus width → β
  /-- The word at an address, seen from outside. -/
  peek : β → Cycle → Bus width → Word
  /-- The store whose first words read as the image at the given cycle. -/
  preset : β → Cycle → Array Word → β

instance : Bank Register 0 where
  blank := {}
  label := "Register"
  summary := "Register"
  output r now _ := r.read now
  drive r now input load _ := r.drive now load input
  peek r now _ := r.read now
  preset r now image := match image[0]? with
    | some word => Register.preset now word
    | none => r

/-- Banks of one kind behind `k` selector wires. -/
structure Fan (k : Nat) (β : Type) where
  children : Vector β (2 ^ k)
  deriving DecidableEq, Repr

namespace Fan

variable {k w : Nat} {β : Type} [Bank β w]

def blank : Fan k β := ⟨Vector.replicate (2 ^ k) Bank.blank⟩

/-- The word of the selected child. -/
def output (bank : Fan k β) (now : Cycle) (address : Bus (w + k)) : Word :=
  let inner := Bus.slice address 0 w
  Gate.select (fun i => Bank.output bank.children[i] now inner) (Bus.slice address w k)

/-- Drives every child, the load line routed to the selected one. -/
def drive (bank : Fan k β) (now : Cycle) (input : Word) (load : Signal) (address : Bus (w + k)) :
    Fan k β :=
  let inner := Bus.slice address 0 w
  let sel := Bus.slice address w k
  ⟨bank.children.mapFinIdx fun i child h =>
    Bank.drive child now input (Gate.route load sel ⟨i, h⟩) inner⟩

/-- The word of the child that the high wires number. -/
def peek (bank : Fan k β) (now : Cycle) (address : Bus (w + k)) : Word :=
  Bank.peek bank.children[(Bus.slice address w k).toFin] now (Bus.slice address 0 w)

/-- Hands each child its stretch of the image. -/
def preset (bank : Fan k β) (now : Cycle) (image : Array Word) : Fan k β :=
  ⟨bank.children.mapFinIdx fun i child _ =>
    Bank.preset child now (image.extract (i * 2 ^ w) ((i + 1) * 2 ^ w))⟩

/-- A fan of `k` selector wires as a bank. -/
@[reducible] def bank (label : String) : Bank (Fan k β) (w + k) where
  blank := blank
  label := label
  summary := label ++ " \x7b " ++ toString (2 ^ k) ++ " x " ++ Bank.label β ++ " \x7d"
  output := output
  drive := drive
  peek := peek
  preset := preset

end Fan

/-- Eight registers. -/
def Ram8 := Fan 3 Register

instance : Bank Ram8 3 := Fan.bank "Ram8"

/-- Eight banks of 8 words. -/
def Ram64 := Fan 3 Ram8

instance : Bank Ram64 6 := Fan.bank "Ram64"

/-- Eight banks of 64 words. -/
def Ram512 := Fan 3 Ram64

instance : Bank Ram512 9 := Fan.bank "Ram512"

/-- Eight banks of 512 words. -/
def Ram4K := Fan 3 Ram512

instance : Bank Ram4K 12 := Fan.bank "Ram4K"

/-- Four banks of 4096 words, behind a 14-wire address. -/
def Ram16K := Fan 2 Ram4K

instance : Bank Ram16K 14 := Fan.bank "Ram16K"

/-! ## Requests that can be refused -/

namespace Bank

variable {β : Type} {w : Nat} [Bank β w]

/-- The bank after a drive; there is none after the last cycle. -/
def drive? (bank : β) (now : Cycle) (input : Word) (load : Signal) (address : Bus w) :
    Except Fault β :=
  Cycle.driven? now (drive bank now input load address)

/-- The bank preset with an image that fits it. -/
def preset? (bank : β) (now : Cycle) (image : Array Word) : Except Fault β :=
  if image.size ≤ 2 ^ w then .ok (preset bank now image)
  else .error (.imageTooLarge image.size (label β))

end Bank

end NandMachine
