/-
# NandMachine.Debugger.Keys -- keys of a terminal

A terminal reports a key as a character, as one of the function keys, or by its
name.  The keys that the machine's keyboard has are mapped to their codes; all
others have none.  Modifiers do not matter.
-/
import NandMachine.Devices.KeyCode

namespace NandMachine

set_option autoImplicit false

/-- A key as a terminal reports it. -/
inductive TerminalKey
  | char (c : Char)
  | function (n : Nat)
  | named (name : String)
  deriving DecidableEq, Repr

namespace TerminalKey

/-- The named keys that the keyboard has. -/
def codes : List (String × Word) :=
  [("Enter", KeyCode.newline), ("Backspace", KeyCode.backspace), ("Left", KeyCode.left),
   ("Up", KeyCode.up), ("Right", KeyCode.right), ("Down", KeyCode.down), ("Home", KeyCode.home),
   ("End", KeyCode.endKey), ("PageUp", KeyCode.pageUp), ("PageDown", KeyCode.pageDown),
   ("Insert", KeyCode.insert), ("Delete", KeyCode.delete), ("Esc", KeyCode.escape)]

/-- The code of a key, if the keyboard has it. -/
def code? : TerminalKey → Option Word
  | char c => KeyCode.printable? c
  | function n => KeyCode.function? n
  | named name => codes.lookup name

end TerminalKey

end NandMachine
