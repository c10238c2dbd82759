/-
# NandMachine.Program.Basic -- programs and why they are refused

A program is the list of words burned into the instruction store, at most 32768
of them.  It comes from a text with one word to a line or from an image of
big-endian byte pairs; `Program.Error` names every way in which either fails.
-/
import NandMachine.Logic.Bus.Digits

namespace NandMachine

set_option autoImplicit false

namespace Program

/-- The number of words that the instruction store holds. -/
def limit : Nat := 32768

/-- What a file system says about a file that cannot be read or written. -/
inductive FileError
  | notFound
  | notDirectory
  | isDirectory
  | nameTooLong
  | nulInName
  | notText
  | other (description : String)
  deriving DecidableEq, Repr

def FileError.message : FileError → String
  | notFound => "No such file or directory (os error 2)"
  | notDirectory => "Not a directory (os error 20)"
  | isDirectory => "Is a directory (os error 21)"
  | nameTooLong => "File name too long (os error 36)"
  | nulInName => "file name contained an unexpected NUL byte"
  | notText => "stream did not contain valid UTF-8"
  | other description => description

/-- Why there is no program. -/
inductive Error
  | file (cause : FileError)
  /-- A line of the right length that is not a word. -/
  | line (number : Nat) (cause : Bus.DigitError)
  /-- An image with half a word at its end. -/
  | oddLength (bytes : Nat)
  | tooLarge (words : Nat)
  deriving DecidableEq, Repr

def Error.message : Error → String
  | file cause => "I/O error: " ++ cause.message
  | line number cause => s!"parse error on line {number}: " ++ cause.message
  | oddLength bytes => s!"binary image has odd length {bytes}"
  | tooLarge words => s!"program has {words} words, ROM holds {limit}"

/-- Accepts the words of a program that fits. -/
def fitting (words : Array Word) : Except Error (Array Word) :=
  if words.size ≤ limit then .ok words else .error (.tooLarge words.size)

end Program

end NandMachine
