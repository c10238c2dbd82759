/-
# NandMachine.Assembly.Listing -- program listings

A listing has one line for each word of a program: its address in at least five
digits, its assembly text in a column of sixteen, and its sixteen digits.
-/
import NandMachine.Assembly.Mnemonic

namespace NandMachine

set_option autoImplicit false

namespace Listing

/-- The line of one word, without its line end. -/
def line (address : Nat) (w : Word) : String :=
  Text.zeroPadded 5 address ++ ": " ++ Text.leftColumn 16 w.mnemonic ++ " // " ++ w.text

/-- The listing of a program, each line ended by a line feed. -/
def ofProgram (program : Array Word) : String :=
  String.join (program.toList.zipIdx.map fun (w, address) => line address w ++ "\n")

end Listing

end NandMachine
