/-
# NandMachine.Logic.Bus.Digits -- reading a bus from its digits

A bus of `n` wires is written as exactly `n` digits 0 and 1, most significant
first.  `ofDigits?` accepts that and nothing else: the count is judged first, and
of several characters that are no digits the one nearest the end is reported.
`parse?` also accepts blanks around the digits and one `0b` before them.
-/
import NandMachine.Logic.Bus
import NandMachine.Text.Blank

namespace NandMachine.Bus

set_option autoImplicit false

/-- Why a text is not a bus. -/
inductive DigitError
  | wrongWidth (expected got : Nat)
  | invalidChar (c : Char)
  deriving DecidableEq, Repr

namespace DigitError

def message : DigitError → String
  | wrongWidth expected got => s!"expected {expected} bits, got {got}"
  | invalidChar c => s!"invalid bit character: '{c}' (expected 0 or 1)"

end DigitError

/-- The two digits of a level. -/
def isDigit (c : Char) : Bool := c == '0' || c == '1'

/-- The bus written as the given digits, most significant first. -/
def ofDigits? (n : Nat) (cs : List Char) : Except DigitError (Bus n) :=
  if cs.length ≠ n then .error (.wrongWidth n cs.length)
  else match cs.reverse.find? (!isDigit ·) with
    | some c => .error (.invalidChar c)
    | none => .ok (ofSignals (cs.reverse.map (· == '1')))

/-- A text without its leading `0b`, if it has one. -/
def dropMark : List Char → List Char
  | '0' :: 'b' :: rest => rest
  | cs => cs

/-- The bus written as digits with blanks around them and one `0b` before them,
both optional. -/
def parse? (n : Nat) (cs : List Char) : Except DigitError (Bus n) :=
  ofDigits? n (dropMark (Text.trim cs))

/-- The bus whose wires are exactly the given levels, least significant first. -/
def ofSignals? (n : Nat) (lines : List Signal) : Except DigitError (Bus n) :=
  if lines.length = n then .ok (ofSignals lines) else .error (.wrongWidth n lines.length)

end NandMachine.Bus
