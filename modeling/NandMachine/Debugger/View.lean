/-
# NandMachine.Debugger.View -- the display of a session

The left two fifths show the code window, the registers and the status; the rest
shows memory or the screen, and a reminder of the keys.
-/
import NandMachine.Debugger.Session
import NandMachine.Devices.Braille
import NandMachine.Text.Pane

namespace NandMachine.Session

set_option autoImplicit false

variable {ρ σ : Type} [Bank ρ 14] [Rom σ]

/-- A line of the code pane: breakpoint mark, mark of the next instruction,
address and text. -/
def codeText (s : Session ρ σ) (line : CodeLine) : String :=
  (if s.breakpoints.contains (Bus.extend line.address 16) then "●" else " ") ++ " " ++
    (if line.current then "▶ " else "  ") ++
    Text.zeroPadded 5 line.address.toNat ++ ": " ++ line.text

def codePane (s : Session ρ σ) (width height : Nat) : Text.Pane where
  width := width
  height := height
  title := " Disassembly "
  lines := (s.codeWindow (height - 2)).map s.codeText

def registersPane (s : Session ρ σ) (width : Nat) : Text.Pane where
  width := width
  height := 7
  title := " Registers "
  lines :=
    let values := s.computer.registers
    [s!"A: {values.a.text} = {values.a.signed}",
     s!"D: {values.d.text} = {values.d.signed}",
     s!"PC: {s.computer.pc.toNat}   addressM: {s.computer.addressM.toNat}",
     s!"Steps: {s.computer.steps}   State: " ++ if s.running then "running" else "paused"]

def statusPane (s : Session ρ σ) (width : Nat) : Text.Pane where
  width := width
  height := 3
  title := " Status "
  lines := [s.status]

def memoryText (s : Session ρ σ) (address : Nat) : String :=
  let word := s.computer.peek (BitVec.ofNat 16 address)
  Text.zeroPadded 5 address ++ ": " ++ word.text ++ " = " ++ toString word.signed

/-- The memory pane; the end of its view must be a 64-bit number. -/
def memoryPane? (s : Session ρ σ) (width height : Nat) : Except Fault Text.Pane :=
  let stop := s.scroll + (height - 2)
  if Fault.counterLimit ≤ stop then .error .counterOverflow
  else .ok
    { width, height
      title := " Memory "
      lines := (List.range' s.scroll (min stop Memory.size - s.scroll)).map s.memoryText }

def screenPane (s : Session ρ σ) (width height : Nat) : Text.Pane where
  width := width
  height := height
  title := " Screen "
  lines := s.computer.memory.screen.braille

/-- The reminder of the keys. -/
def helpPane (s : Session ρ σ) (width : Nat) : Text.Pane where
  width := width
  height := 4
  title := " Help "
  lines :=
    if s.running then ["Keys go to the Hack keyboard.", "Ctrl-P: Pause  Ctrl-Q: Quit"]
    else ["s: Step  r: Run  b: Breakpoint  x: Reset",
          "v: Screen/RAM  ↑↓ PgUp PgDn: Scroll  q: Quit"]

/-- The rows of the display, `width` by `height` cells. -/
def draw? (s : Session ρ σ) (width height : Nat) : Except Fault (List String) := do
  let left := width * 2 / 5
  let right := width - left
  let view ← if s.showScreen then .ok (s.screenPane right (height - 4))
    else s.memoryPane? right (height - 4)
  return Text.beside
    (Text.Pane.stacked [s.codePane left (height - 10), s.registersPane left, s.statusPane left])
    (Text.Pane.stacked [view, s.helpPane right])

end NandMachine.Session
