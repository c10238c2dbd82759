/-
# NandMachine.Command.SelfTest -- the built-in self-test

Each check runs a part of the machine on a case with a known answer.
-/
import NandMachine.Command.Run

namespace NandMachine.Command

set_option autoImplicit false

/-- Stores the larger of RAM words 0 and 1 in RAM word 2. -/
def maxProgram : Array Word :=
  #[0b0000000000000000, 0b1111110000010000, 0b0000000000000001, 0b1111010011010000,
    0b0000000000001010, 0b1110001100000001, 0b0000000000000001, 0b1111110000010000,
    0b0000000000001100, 0b1110101010000111, 0b0000000000000000, 0b1111110000010000,
    0b0000000000000010, 0b1110001100001000, 0b0000000000001110, 0b1110101010000111]

/-- Whether a cell holds its level until the edge and changes there. -/
def cellLatches : Bool :=
  let cell : Cell := Cell.write {} 0 true
  !cell.read 0 && cell.read 1

/-- Whether a counter loads, counts and resets. -/
def counterCounts : Bool :=
  let loaded : Counter := Counter.drive {} 0 1#16 true false false
  let stepped := loaded.drive 1 0#16 false true false
  let cleared := stepped.drive 2 0#16 false false true
  loaded.read 1 == 1#16 && stepped.read 2 == 2#16 && cleared.read 3 == 0#16

/-- A check: its name, whether it passed, and the events that it caused. -/
structure Check where
  name : String
  passed : Bool
  events : List LogEvent := []

/-- The options of a run of twenty instructions on two memory words. -/
def maxOptions (a b : Int) : RunOptions where
  program := ""
  maxCycles := 20
  ram := [⟨0#16, Word.ofInt a⟩, ⟨1#16, Word.ofInt b⟩]

/-- Executes a number of instructions, and keeps them if asked to. -/
def runKept {ρ σ : Type} [Bank ρ 14] [Rom σ] (keep : Bool) (c : Computer ρ σ)
    (seen : List Executed) : Nat → RunEnd ρ σ
  | 0 => { computer := c, halted := false, executed := seen.reverse }
  | n + 1 =>
      let (next, seen) := stepKept keep c seen
      runKept keep next seen n

/-- Whether the gate-level machine finds the larger of two words.  The events of
its steps are there only if they are logged. -/
def findsMax (logged : Bool) (a b expected : Int) : Check :=
  let name := s!"Gate-level computer: max({a}, {b}) = {expected}"
  match (Computer.ofProgram? maxProgram : Except Program.Error GateComputer) with
  | .ok c =>
      let options := maxOptions a b
      let final := runKept logged (c.preload (ramImage options.ram)) [] options.maxCycles
      { name
        passed := final.computer.peek 2#16 == Word.ofInt expected
        events := runEvents maxProgram options final }
  | .error _ => { name, passed := false }

/-- All checks. -/
def checks (logged : Bool) : List Check :=
  [{ name := "NAND truth table"
     passed := Gate.nand false false && Gate.nand false true && Gate.nand true false &&
       !Gate.nand true true },
   { name := "NOT from NAND", passed := Gate.not false && !Gate.not true },
   { name := "Adder wraps on overflow"
     passed := Word.add 0xFFFF#16 1#16 == 0#16 && Word.inc (Word.ofInt (-2)) == Word.ofInt (-1) },
   { name := "Flip-flop latches on the edge", passed := cellLatches },
   { name := "Program counter load/inc/reset", passed := counterCounts },
   findsMax logged 7 1 7,
   findsMax logged 7 8 8]

/-- The line of a check. -/
def Check.line (c : Check) : String := c.name ++ "... " ++ if c.passed then "✓" else "✗"

/-- Runs the checks and counts them. -/
def selfTestOutcome (logged : Bool) : Outcome :=
  let results := checks logged
  let failed := (results.filter (!·.passed)).length
  let passed := results.length - failed
  { exit := if failed = 0 then 0 else 1
    events := results.flatMap (·.events)
    stdout := Outcome.lines
      (["━━━ Hack Emulator Self-Test ━━━", ""] ++ results.map Check.line ++
        ["", "━━━━━━━━━━━━━━━━━━━━━━━━━━━━━━", s!"Results: {passed} passed, {failed} failed"] ++
        if failed = 0 then ["✓ All tests passed!"] else []) }

end NandMachine.Command
