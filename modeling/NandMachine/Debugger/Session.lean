/-
# NandMachine.Debugger.Session -- a debugging session

A session holds a computer, the program it was built from, a set of breakpoints
and the state of the display.  While it runs, each `tick` executes a batch of
instructions and stops in front of one that has a breakpoint; `run` first steps
off a breakpoint that the session sits on.

Terminals report that a key goes down but not that it comes up, so a forwarded
key is held for six ticks and then released; `pause` releases it at once.
-/
import NandMachine.Debugger.Keys
import NandMachine.Machine.Computer

namespace NandMachine

set_option autoImplicit false

/-- A set of instruction addresses, ascending. -/
abbrev Breakpoints := List Word

namespace Breakpoints

/-- The set with one more address. -/
def insert (address : Word) : Breakpoints → Breakpoints
  | [] => [address]
  | b :: rest =>
      if address < b then address :: b :: rest
      else if address = b then b :: rest
      else b :: insert address rest

theorem mem_insert (address x : Word) (bs : Breakpoints) :
    x ∈ insert address bs ↔ x = address ∨ x ∈ bs := by
  induction bs with
  | nil => simp [insert]
  | cons b rest ih =>
      simp only [insert]
      split
      · simp
      · split
        · subst_vars; simp
        · simp [ih]; grind

end Breakpoints

structure Session (ρ σ : Type) where
  computer : Computer ρ σ
  /-- Builds a computer for a program, at the start and at each reset. -/
  build : Array Word → Except Program.Error (Computer ρ σ)
  program : Array Word
  breakpoints : Breakpoints := []
  running : Bool := false
  quit : Bool := false
  status : String := "Ready. Press 's' to step, 'r' to run, 'q' to quit."
  /-- First address of the memory view. -/
  scroll : Nat := 0
  /-- Whether the screen is shown in place of memory. -/
  showScreen : Bool := false
  /-- Instructions in a batch. -/
  batch : Nat
  /-- Ticks for which the forwarded key stays down. -/
  hold : Nat := 0

namespace Session

variable {ρ σ : Type} [Bank ρ 14] [Rom σ]

/-- Ticks for which a forwarded key is held. -/
def holdTicks : Nat := 6

/-- A session over a program; a batch has at least one instruction. -/
def start? (program : Array Word) (build : Array Word → Except Program.Error (Computer ρ σ))
    (batch : Nat) : Except Program.Error (Session ρ σ) := do
  return { computer := ← build program, build, program, batch := max batch 1 }

/-- The program counter as the breakpoints count it. -/
def pc (s : Session ρ σ) : Word := Bus.extend s.computer.pc 16

/-- Whether the next instruction has a breakpoint. -/
def atBreakpoint (s : Session ρ σ) : Bool := s.breakpoints.contains s.pc

/-- Executes one instruction and shows it. -/
def step (s : Session ρ σ) : Session ρ σ :=
  { s with
    computer := s.computer.next
    status := "PC=" ++ Text.zeroPadded 5 s.pc.toNat ++ ": " ++ s.computer.mnemonicAt s.computer.pc }

/-- Starts running, off a breakpoint that the session sits on. -/
def run (s : Session ρ σ) : Session ρ σ :=
  let s := if s.atBreakpoint then s.step else s
  { s with running := true, status := "Running... Ctrl-P pauses, keys go to the keyboard." }

def releaseKey (s : Session ρ σ) : Session ρ σ := { s with hold := 0, computer := s.computer.release }

def pause (s : Session ρ σ) : Session ρ σ :=
  let s := { s with running := false }.releaseKey
  { s with status := s!"Paused after {s.computer.steps} steps." }

/-- Counts down the hold of a forwarded key. -/
def countDown (s : Session ρ σ) : Session ρ σ :=
  match s.hold with
  | 0 => s
  | 1 => s.releaseKey
  | n + 1 => { s with hold := n }

/-- Executes up to a number of instructions, none with a breakpoint. -/
def advance (s : Session ρ σ) : Nat → Session ρ σ
  | 0 => s
  | n + 1 =>
      if s.atBreakpoint then
        { s with running := false, status := s!"Breakpoint at PC={s.pc.toNat}" }
      else advance { s with computer := s.computer.next } n

/-- One tick: the hold counts down, and a running session executes a batch. -/
def tick (s : Session ρ σ) : Session ρ σ :=
  let s := s.countDown
  if s.running then s.advance s.batch else s

/-- Sets or removes a breakpoint at the next instruction. -/
def toggleBreakpoint (s : Session ρ σ) : Session ρ σ :=
  if s.atBreakpoint then
    { s with
      breakpoints := s.breakpoints.filter (· ≠ s.pc)
      status := s!"Removed breakpoint at PC={s.pc.toNat}" }
  else
    { s with
      breakpoints := s.breakpoints.insert s.pc
      status := s!"Set breakpoint at PC={s.pc.toNat}" }

/-- Rebuilds the computer from the program. -/
def reset (s : Session ρ σ) : Session ρ σ :=
  match s.build s.program with
  | .ok computer => { s with computer, status := "Reset. Ready.", running := false }
  | .error e => { s with status := "Reset failed: " ++ e.message, running := false }

/-- Holds a key down on the machine's keyboard, if the keyboard has it. -/
def forwardKey (s : Session ρ σ) (key : TerminalKey) : Session ρ σ :=
  match key.code? with
  | some code => { s with computer := s.computer.press code, hold := holdTicks }
  | none => s

/-- Sets a breakpoint at an address, and whether it is new. -/
def setBreakpoint (s : Session ρ σ) (address : Word) : Session ρ σ × Bool :=
  ({ s with breakpoints := s.breakpoints.insert address }, !s.breakpoints.contains address)

/-- A line of the code window. -/
structure CodeLine where
  address : Address
  text : String
  current : Bool
  deriving DecidableEq, Repr

/-- The code window: at most `lines` instructions around the next one, none that
lies past both the program and the next instruction. -/
def codeWindow (s : Session ρ σ) (lines : Nat) : List CodeLine :=
  let pc := s.computer.pc.toNat
  let stop := max (Rom.size s.computer.rom) (pc + 1)
  let start := pc - lines / 2
  (List.range' start (min (start + lines) stop - start)).map fun n =>
    let address := BitVec.ofNat 15 n
    { address, text := s.computer.mnemonicAt address, current := n == pc }

end Session

end NandMachine
