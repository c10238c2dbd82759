/-
# NandMachine.Program.File -- programs in files

The last name of a path tells the form of a file: a file whose extension is `hack`,
in any mix of capitals, holds a program text, every other file an image.  The
extension is what follows the last dot of the name, unless that dot is the first
character.

What the file system answers is an argument here, so that loading is a function
of the name and of the bytes or the error found under it.
-/
import NandMachine.Program.Image
import NandMachine.Program.Path
import NandMachine.Program.Text

namespace NandMachine.Program

set_option autoImplicit false

def extension? (path : String) : Option (List Char) :=
  let name := (names path).getLastD []
  let ending := (name.reverse.takeWhile (· != '.')).reverse
  if ending.length + 1 < name.length ∧ name ≠ ['.', '.'] then some ending else none

def isTextPath (path : String) : Bool :=
  extension? path |>.any fun ending => ending.map Char.toLower == ['h', 'a', 'c', 'k']

/-- What is found under a path. -/
abbrev Contents := Except FileError ByteArray

/-- The characters of a program text. -/
def decodeText (contents : Contents) : Except Error (List Char) :=
  match contents with
  | .error cause => .error (.file cause)
  | .ok bytes => match String.fromUTF8? bytes with
      | some text => .ok text.toList
      | none => .error (.file .notText)

def loadText? (contents : Contents) : Except Error (Array Word) := do
  parseText? (← decodeText contents)

def loadImage? (contents : Contents) : Except Error (Array Word) :=
  match contents with
  | .error cause => .error (.file cause)
  | .ok bytes => parseImage? bytes.data

/-- Loads a program in the form that its path tells. -/
def load? (path : String) (contents : Contents) : Except Error (Array Word) :=
  if isTextPath path then loadText? contents else loadImage? contents

end NandMachine.Program
