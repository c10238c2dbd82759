/-
# NandMachine.Codec.Logic -- exchange forms of levels, buses and control wires

A level is exchanged as one of the names `O` and `I`, a bus as its number, and
the control wires of the arithmetic unit as a record of six levels.
-/
import NandMachine.Inspect
import NandMachine.Json.Reader
import NandMachine.Logic.Alu

namespace NandMachine

set_option autoImplicit false

namespace Signal

def name (s : Signal) : String := if s then "I" else "O"

/-- A level as the name it is exchanged under. -/
def toJson (s : Signal) : Json := .string s.name

end Signal

/-- A level inside a record, to be exchanged under its name. -/
structure Level where
  signal : Signal
  deriving DecidableEq, Repr

instance : Json.ToJson Level := ⟨fun l => l.signal.toJson⟩

instance : Json.FromJson Level := ⟨Json.oneOf [("O", ⟨false⟩), ("I", ⟨true⟩)]⟩

instance : Inspect Level := ⟨fun l => l.signal.name⟩

instance {n : Nat} : Inspect (Bus n) where
  inspect b := s!"Bits<{n}>" ++ "(" ++ b.text ++ s!" = {b.toNat})"

/-- The inspected form of a bus, which shows its number and so needs one. -/
def Bus.inspect? {n : Nat} (b : Bus n) : Except Fault String := do
  let _ ← b.toNat?
  return inspect b

/-- The exchange form of a bus, which is a number. -/
def Bus.toJson? {n : Nat} (b : Bus n) : Except Fault Json := Json.nat <$> b.toNat?

namespace AluControl

/-- The control wires from six levels in order. -/
def ofLevels (zx nx zy ny f no : Level) : AluControl :=
  ⟨zx.signal, nx.signal, zy.signal, ny.signal, f.signal, no.signal⟩

end AluControl

instance : Json.ToJson AluControl where
  toJson c := .object [("zx", c.zx.toJson), ("nx", c.nx.toJson), ("zy", c.zy.toJson),
    ("ny", c.ny.toJson), ("f", c.f.toJson), ("no", c.no.toJson)]

instance : Json.FromJson AluControl where
  fromJson := ((((((Json.Fields.done AluControl.ofLevels).field "zx").field "nx").field
    "zy").field "ny").field "f").field "no" |>.read

instance : Inspect AluControl where
  inspect c := Inspect.record "AluControl" [("zx", c.zx.name), ("nx", c.nx.name),
    ("zy", c.zy.name), ("ny", c.ny.name), ("f", c.f.name), ("no", c.no.name)]

end NandMachine
