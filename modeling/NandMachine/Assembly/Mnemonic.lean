/-
# NandMachine.Assembly.Mnemonic -- instructions in assembly language

An address instruction is written `@constant`, a compute instruction
`dest=comp;jump` without the parts that are empty.  Eighteen control fields have
an expression; the others are written `comp?` and their six bits.  The
expressions are tabled for the operand A and are the same with `M` for `A` when
the instruction takes its operand from memory.
-/
import NandMachine.Processor.Instruction
import NandMachine.Text.Pad

namespace NandMachine

set_option autoImplicit false

/-- The word of a jump condition; none for `never`. -/
def Jump.mnemonic : Jump → String
  | never => "" | gt => "JGT" | eq => "JEQ" | ge => "JGE"
  | lt => "JLT" | ne => "JNE" | le => "JLE" | always => "JMP"

/-- The letters of the destinations, in the order A, M, D. -/
def Dest.mnemonic (d : Dest) : String :=
  (if d.a then "A" else "") ++ (if d.m then "M" else "") ++ (if d.d then "D" else "")

/-- The expression of a control field with the operand A, for the eighteen fields
that have one. -/
def compExpression (control : Bus 8) : Option String :=
  match control.toNat with
  | 0b101010 => some "0"
  | 0b111111 => some "1"
  | 0b111010 => some "-1"
  | 0b001100 => some "D"
  | 0b110000 => some "A"
  | 0b001101 => some "!D"
  | 0b110001 => some "!A"
  | 0b001111 => some "-D"
  | 0b110011 => some "-A"
  | 0b011111 => some "D+1"
  | 0b110111 => some "A+1"
  | 0b001110 => some "D-1"
  | 0b110010 => some "A-1"
  | 0b000010 => some "D+A"
  | 0b010011 => some "D-A"
  | 0b000111 => some "A-D"
  | 0b000000 => some "D&A"
  | 0b010101 => some "D|A"
  | _ => none

/-- An expression with the memory word for the operand A. -/
def overMemory (expression : String) : String :=
  expression.map fun c => if c = 'A' then 'M' else c

/-- The expression of a control field, for either operand. -/
def compText (fromMemory : Bool) (control : Bus 8) : String :=
  match compExpression control with
  | some expression => if fromMemory then overMemory expression else expression
  | none =>
      "comp?" ++ String.ofList (Text.padLeft 6 '0' (Nat.toDigits 2 control.toNat))

def Instruction.mnemonic : Instruction → String
  | address constant => "@" ++ toString constant.toNat
  | compute fromMemory control dest jump =>
      (if dest.mnemonic.isEmpty then "" else dest.mnemonic ++ "=") ++
        compText fromMemory control ++
        (if jump.mnemonic.isEmpty then "" else ";" ++ jump.mnemonic)

def Word.mnemonic (w : Word) : String := (Instruction.ofWord w).mnemonic

end NandMachine
