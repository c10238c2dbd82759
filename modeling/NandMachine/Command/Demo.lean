/-
# NandMachine.Command.Demo -- the gates at work

A short tour: the truth table of four gates, two sums of the ripple adder, and
four results of the arithmetic unit with their flags.
-/
import NandMachine.Command.Outcome
import NandMachine.Logic.Alu
import NandMachine.Text.Pad

namespace NandMachine.Command

set_option autoImplicit false

/-- The digit of a level as a text. -/
def digitText (s : Signal) : String := String.singleton s.digit

/-- A row of the truth table. -/
def truthRow (a b : Signal) : String :=
  "  " ++ digitText a ++ " " ++ digitText b ++ " |  " ++ digitText (Gate.nand a b) ++ "    " ++
    digitText (Gate.and a b) ++ "   " ++ digitText (Gate.or a b) ++ "   " ++
    digitText (Gate.xor a b)

/-- A result of the arithmetic unit on 17 and 5. -/
def aluRow (name : String) (control : Bus 6) : String :=
  let r := alu (Word.ofInt 17) (Word.ofInt 5) (AluControl.ofBus control)
  "  " ++ Text.leftColumn 4 name ++ " = " ++ Text.rightColumn 4 (toString r.out.signed) ++
    "  zr=" ++ digitText r.zr ++ " ng=" ++ digitText r.ng

def demoOutcome : Outcome :=
  let x := Word.ofInt 12345
  let y := Word.ofInt (-6789)
  let top := Word.ofInt 32767
  { stdout := Outcome.lines
      (["Hack Emulator v0.1.0", "A 16-bit computer built from NAND gates", "",
        "Use --help for available commands", "",
        "━━━ NAND and friends ━━━", "", "  a b | nand and or xor"] ++
       (Signal.all.flatMap fun a => Signal.all.map fun b => truthRow a b) ++
       ["", "Ripple-carry adder:",
        s!"  {x.signed} + {y.signed} = {(Word.add x y).signed}",
        s!"  {top.signed} + 1 = {(Word.add top 1).signed} (wraps)",
        "", "ALU (x=17, y=5):",
        aluRow "x-y" 0b010011#6, aluRow "y-x" 0b000111#6, aluRow "x&y" 0b000000#6,
        aluRow "!x" 0b001101#6,
        "", "✓ Gates working!"]) }

end NandMachine.Command
