/-
# NandMachine.Codec.Machine -- exchange forms of snapshots

A snapshot is a record; its memory words carry signed values of sixteen bits.
-/
import NandMachine.Codec.Processor
import NandMachine.Machine.Snapshot

namespace NandMachine

set_option autoImplicit false

/-- A signed value of sixteen bits inside a record. -/
structure SignedWord where
  word : Word
  deriving DecidableEq, Repr

instance : Json.FromJson SignedWord where
  fromJson j := (fun i => ⟨Word.ofInt i⟩) <$> Json.intIn (-32768) 32767 j

instance : Json.ToJson MemoryCell where
  toJson c := .object [("address", Json.toJson c.address), ("value", .integer c.value.signed)]

/-- A memory word from its address and signed value. -/
def MemoryCell.ofParts (address : Word) (value : SignedWord) : MemoryCell := ⟨address, value.word⟩

instance : Json.FromJson MemoryCell where
  fromJson := ((Json.Fields.done MemoryCell.ofParts).field "address").field "value" |>.read

instance : Inspect MemoryCell where
  inspect c := Inspect.record "MemoryCell"
    [("address", toString c.address.toNat), ("value", toString c.value.signed)]

instance : Json.ToJson Snapshot where
  toJson s := .object [("steps", .nat s.steps), ("cycle", .nat s.cycle),
    ("registers", Json.toJson s.registers), ("pc", Json.toJson s.pc),
    ("address_m", Json.toJson s.addressM), ("ram", Json.toJson s.ram)]

def Snapshot.ofParts (steps cycle : Count) (registers : RegisterValues) (pc addressM : Address)
    (ram : List MemoryCell) : Snapshot :=
  { steps := steps.value, cycle := cycle.value, registers, pc, addressM, ram }

instance : Json.FromJson Snapshot where
  fromJson := ((((((Json.Fields.done Snapshot.ofParts).field "steps").field "cycle").field
    "registers").field "pc").field "address_m").field "ram" |>.read

instance : Inspect Snapshot where
  inspect s := Inspect.record "Snapshot" [("steps", toString s.steps),
    ("cycle", Cycle.inspect s.cycle), ("registers", inspect s.registers), ("pc", inspect s.pc),
    ("address_m", inspect s.addressM), ("ram", Inspect.listed (s.ram.map inspect))]

end NandMachine
