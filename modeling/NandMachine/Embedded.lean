/-
# NandMachine.Embedded -- a machine behind texts and numbers

A handle for host programs that exchange nothing but texts and numbers with the
machine.  It holds a map-backed computer and the program it runs, loads programs
as text, and shows the state as JSON.
-/
import NandMachine.Codec.Machine
import NandMachine.Json.Printer
import NandMachine.Program.Text

namespace NandMachine

set_option autoImplicit false

/-- A map-backed computer with the program it was loaded with. -/
structure Embedded where
  computer : FlatComputer
  program : Array Word := #[]

namespace Embedded

/-- A handle with an empty instruction store. -/
def blank : Embedded where
  computer := Computer.assemble {} Memory.blank (Rom.burn #[]) {}

/-- Loads a program text into a fresh machine. -/
def load? (text : List Char) : Except Program.Error Embedded := do
  let program ← Program.parseText? text
  return { computer := ← Computer.ofProgram? program, program }

/-- Restarts the program on a fresh machine. -/
def reset? (e : Embedded) : Except Program.Error Embedded := do
  return { e with computer := ← Computer.ofProgram? e.program }

/-- Executes one instruction and shows it. -/
def step (e : Embedded) : Embedded × String :=
  ({ e with computer := e.computer.next }, e.computer.mnemonicAt e.computer.pc)

/-- Executes instructions. -/
def run (e : Embedded) (steps : Nat) : Embedded := { e with computer := e.computer.run steps }

/-- Holds a key down by its code; 0 releases. -/
def setKey (e : Embedded) (code : Word) : Embedded := { e with computer := e.computer.press code }

/-- The state as JSON, with `count` memory words from `start` on. -/
def snapshotJson (e : Embedded) (start count : Nat) : String :=
  (Json.toJson (e.computer.snapshot (Snapshot.addresses start count))).compact

end Embedded

end NandMachine
