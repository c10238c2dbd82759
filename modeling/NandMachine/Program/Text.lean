/-
# NandMachine.Program.Text -- programs as text

A program text has one word to a line, sixteen digits with blanks around them.
Lines of any other length, blank ones and comments among them, are skipped.  The
first line of sixteen characters that is not a word ends the reading with its
number, which counts all lines from 1; only a text without such a line can be too
long.

`Program.toText` writes a program; reading it back is `parseText?`.
-/
import NandMachine.Program.Basic
import NandMachine.Text.Lines

namespace NandMachine.Program

set_option autoImplicit false

/-- What a line of a program text is. -/
inductive Line
  | blank
  | remark
  | word (w : Word)
  | malformed (cause : Bus.DigitError)
  deriving DecidableEq, Repr

/-- Judges a line without its line end. -/
def Line.ofChars (cs : List Char) : Line :=
  let cs := Text.trim cs
  if cs.length ≠ 16 then
    if cs.isEmpty then .blank else .remark
  else match Bus.ofDigits? 16 cs with
    | .ok w => .word w
    | .error cause => .malformed cause

/-- The lines of a program text, with their numbers. -/
def numberedLines (cs : List Char) : List (Line × Nat) :=
  ((Text.lines cs).map Line.ofChars).zipIdx 1

/-- The words of the lines so far, or the first malformed line. -/
def addLine (words : Array Word) : Line × Nat → Except Error (Array Word)
  | (.word w, _) => .ok (words.push w)
  | (.malformed cause, number) => .error (.line number cause)
  | _ => .ok words

/-- The program that a text is. -/
def parseText? (cs : List Char) : Except Error (Array Word) := do
  fitting (← (numberedLines cs).foldlM addLine #[])

/-- The numbers of the remarks that reading passes before it ends. -/
def remarks (cs : List Char) : List Nat :=
  ((numberedLines cs).takeWhile fun (line, _) => !(line matches .malformed _)).filterMap
    fun (line, number) => if line = .remark then some number else none

/-- A program in writing, one word to a line. -/
def toText (program : Array Word) : String :=
  String.join (program.toList.map fun w => w.text ++ "\n")

end NandMachine.Program
