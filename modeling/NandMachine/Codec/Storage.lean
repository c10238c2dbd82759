/-
# NandMachine.Codec.Storage -- exchange forms of clocks and cells

A cycle is exchanged as its 64-bit number, a clock and a cell as records.
-/
import NandMachine.Codec.Logic
import NandMachine.Storage.Register

namespace NandMachine

set_option autoImplicit false

namespace Cycle

/-- The cycle that a JSON number of 64 bits names. -/
def fromJson (j : Json) : Json.Decoded Cycle := Json.natOf 64 j

/-- A cycle spelled out. -/
def inspect (now : Cycle) : String := s!"Cycle({now})"

end Cycle

/-- A number of 64 bits inside a record. -/
structure Count where
  value : Nat
  deriving DecidableEq, Repr

instance : Json.FromJson Count := ⟨fun j => Count.mk <$> Json.natOf 64 j⟩

instance : Json.ToJson Clock := ⟨fun c => .object [("now", .nat c.now)]⟩

instance : Json.FromJson Clock where
  fromJson := (Json.Fields.done fun (now : Count) => Clock.mk now.value).field "now" |>.read

instance : Inspect Clock := ⟨fun c => Inspect.record "Clock" [("now", Cycle.inspect c.now)]⟩

instance : Json.ToJson Cell where
  toJson c := .object [("cur", c.cur.toJson), ("next", c.next.toJson), ("next_time", .nat c.edge)]

/-- A cell from two levels and the number of its edge. -/
def Cell.ofParts (cur next : Level) (edge : Count) : Cell := ⟨cur.signal, next.signal, edge.value⟩

instance : Json.FromJson Cell where
  fromJson := (((Json.Fields.done Cell.ofParts).field "cur").field "next").field "next_time" |>.read

instance : Inspect Cell where
  inspect c := Inspect.record "Dff"
    [("cur", c.cur.name), ("next", c.next.name), ("next_time", Cycle.inspect c.edge)]

instance : Inspect Latch := ⟨fun l => Inspect.record "Latch" [("dff", inspect l.cell)]⟩

end NandMachine
