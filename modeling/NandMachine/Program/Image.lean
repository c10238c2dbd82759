/-
# NandMachine.Program.Image -- programs as byte images

An image holds the words of a program as pairs of bytes, the more significant
byte first.  An odd number of bytes is refused before the count of words is.
-/
import NandMachine.Program.Basic

namespace NandMachine.Program

set_option autoImplicit false

def wordOfBytes (high low : UInt8) : Word := high.toBitVec ++ low.toBitVec

def wordsOfBytes (bytes : Array UInt8) : Array Word :=
  Array.ofFn fun i : Fin (bytes.size / 2) => wordOfBytes bytes[2 * i.val] bytes[2 * i.val + 1]

/-- The program that an image is. -/
def parseImage? (bytes : Array UInt8) : Except Error (Array Word) :=
  if bytes.size % 2 ≠ 0 then .error (.oddLength bytes.size) else fitting (wordsOfBytes bytes)

/-- A program as an image. -/
def toImage (program : Array Word) : Array UInt8 :=
  program.flatMap fun w => #[⟨Bus.slice w 8 8⟩, ⟨Bus.slice w 0 8⟩]

end NandMachine.Program
