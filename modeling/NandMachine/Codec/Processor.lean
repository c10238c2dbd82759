/-
# NandMachine.Codec.Processor -- exchange forms of instructions and processor state

An instruction is exchanged as an object with one entry, `Address` with its
constant or `Compute` with a record; the other types are records.
-/
import NandMachine.Codec.Storage
import NandMachine.Processor.Cpu
import NandMachine.Processor.Instruction

namespace NandMachine

set_option autoImplicit false

/-! ## Instructions -/

namespace Jump

def name : Jump → String
  | never => "Never" | gt => "Gt" | eq => "Eq" | ge => "Ge"
  | lt => "Lt" | ne => "Ne" | le => "Le" | always => "Always"

end Jump

instance : Json.ToJson Jump := ⟨fun j => .string j.name⟩

instance : Json.FromJson Jump := ⟨Json.oneOf (Jump.all.toList.map fun j => (j.name, j))⟩

instance : Inspect Jump := ⟨Jump.name⟩

instance : Inspect Bool := ⟨fun b => if b then "true" else "false"⟩

instance : Json.ToJson Dest where
  toJson d := .object [("a", .bool d.a), ("d", .bool d.d), ("m", .bool d.m)]

instance : Json.FromJson Dest where
  fromJson := (((Json.Fields.done Dest.mk).field "a").field "d").field "m" |>.read

instance : Inspect Dest where
  inspect d := Inspect.record "Dest" [("a", inspect d.a), ("d", inspect d.d), ("m", inspect d.m)]

/-- The control field of an instruction, a number of eight bits. -/
structure ControlField where
  bits : Bus 8
  deriving DecidableEq, Repr

instance : Json.FromJson ControlField where
  fromJson j := (fun n => ⟨BitVec.ofNat 8 n⟩) <$> Json.natOf 8 j

namespace Instruction

/-- A compute instruction from its parts. -/
def ofParts (fromMemory : Bool) (control : ControlField) (dest : Dest) (jump : Jump) :
    Instruction :=
  .compute fromMemory control.bits dest jump

/-- Reads the record of a compute instruction. -/
def computeFromJson : Json → Json.Decoded Instruction :=
  ((((Json.Fields.done ofParts).field "a").field "comp").field "dest").field "jump" |>.readObject

end Instruction

instance : Json.ToJson Instruction where
  toJson
    | .address constant => .object [("Address", Json.toJson constant)]
    | .compute fromMemory control dest jump => .object [("Compute", .object
        [("a", .bool fromMemory), ("comp", Json.toJson control), ("dest", Json.toJson dest),
         ("jump", Json.toJson jump)])]

instance : Json.FromJson Instruction where
  fromJson
    | .object [("Address", constant)] => Instruction.address <$> Json.fromJson constant
    | .object [("Compute", record)] => Instruction.computeFromJson record
    | _ => .error .mismatch

instance : Inspect Instruction where
  inspect
    | .address constant => Inspect.tuple "Address" [toString constant.toNat]
    | .compute fromMemory control dest jump => Inspect.record "Compute"
        [("a", inspect fromMemory), ("comp", toString control.toNat), ("dest", inspect dest),
         ("jump", inspect jump)]

/-! ## Processor state -/

instance : Json.ToJson Control where
  toJson c := .object [("i", c.i.toJson), ("a", c.a.toJson), ("alu", Json.toJson c.alu),
    ("dest_a", c.destA.toJson), ("dest_d", c.destD.toJson), ("dest_m", c.destM.toJson),
    ("jump", Json.toJson c.jump)]

/-- The control signals from their parts. -/
def Control.ofParts (i a : Level) (alu : AluControl) (destA destD destM : Level) (jump : Bus 3) :
    Control :=
  ⟨i.signal, a.signal, alu, destA.signal, destD.signal, destM.signal, jump⟩

instance : Json.FromJson Control where
  fromJson := (((((((Json.Fields.done Control.ofParts).field "i").field "a").field "alu").field
    "dest_a").field "dest_d").field "dest_m").field "jump" |>.read

instance : Inspect Control where
  inspect c := Inspect.record "Decoded" [("i", c.i.name), ("a", c.a.name), ("alu", inspect c.alu),
    ("dest_a", c.destA.name), ("dest_d", c.destD.name), ("dest_m", c.destM.name),
    ("jump", inspect c.jump)]

instance : Json.ToJson RegisterValues where
  toJson v := .object [("a", Json.toJson v.a), ("d", Json.toJson v.d), ("pc", Json.toJson v.pc)]

instance : Json.FromJson RegisterValues where
  fromJson := (((Json.Fields.done RegisterValues.mk).field "a").field "d").field "pc" |>.read

instance : Inspect RegisterValues where
  inspect v := Inspect.record "RegisterValues"
    [("a", inspect v.a), ("d", inspect v.d), ("pc", inspect v.pc)]

instance : Json.ToJson CpuOutput where
  toJson o := .object [("out_m", Json.toJson o.outM), ("write_m", o.writeM.toJson),
    ("address_m", Json.toJson o.addressM), ("pc", Json.toJson o.pc)]

/-- What the processor drives, from its parts. -/
def CpuOutput.ofParts (outM : Word) (writeM : Level) (addressM pc : Address) : CpuOutput :=
  ⟨outM, writeM.signal, addressM, pc⟩

instance : Json.FromJson CpuOutput where
  fromJson := ((((Json.Fields.done CpuOutput.ofParts).field "out_m").field "write_m").field
    "address_m").field "pc" |>.read

instance : Inspect CpuOutput where
  inspect o := Inspect.record "CpuOutput" [("out_m", inspect o.outM), ("write_m", o.writeM.name),
    ("address_m", inspect o.addressM), ("pc", inspect o.pc)]

end NandMachine
