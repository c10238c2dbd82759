/-
# NandMachine.Devices.KeyCode -- key codes

The keyboard shows the code of the key that is held, or 0.  Printable ASCII
characters have their own code, the other keys have codes from 128 on, and the
twelve function keys follow at 141.
-/
import NandMachine.Logic.Bus

namespace NandMachine.KeyCode

set_option autoImplicit false

def newline : Word := 128#16
def backspace : Word := 129#16
def left : Word := 130#16
def up : Word := 131#16
def right : Word := 132#16
def down : Word := 133#16
def home : Word := 134#16
def endKey : Word := 135#16
def pageUp : Word := 136#16
def pageDown : Word := 137#16
def insert : Word := 138#16
def delete : Word := 139#16
def escape : Word := 140#16

def function? (n : Nat) : Option Word :=
  if 1 ≤ n ∧ n ≤ 12 then some (BitVec.ofNat 16 (140 + n)) else none

/-- The code of a character, if it is printable ASCII. -/
def printable? (c : Char) : Option Word :=
  if ' ' ≤ c ∧ c ≤ '~' then some (BitVec.ofNat 16 c.toNat) else none

/-- The codes of the keys that are no characters, by name. -/
def named : List (String × Word) :=
  [("NEWLINE", newline), ("BACKSPACE", backspace), ("LEFT", left), ("UP", up), ("RIGHT", right),
   ("DOWN", down), ("HOME", home), ("END", endKey), ("PAGE_UP", pageUp), ("PAGE_DOWN", pageDown),
   ("INSERT", insert), ("DELETE", delete), ("ESCAPE", escape)]

end NandMachine.KeyCode
