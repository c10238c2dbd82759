/-
# NandMachine.Command.Number -- numbers on the command line

A number is written in decimal digits, with a plus sign or, where negative
numbers are allowed, a minus sign before them.  Digits are judged from the left:
the first character that is no digit and the first digit that takes the number
out of range each end the reading, whichever comes first.
-/
namespace NandMachine.Command

set_option autoImplicit false

/-- Why a text is not a number of the wanted range. -/
inductive NumberError
  | empty
  | invalidDigit
  | tooLarge
  | tooSmall
  deriving DecidableEq, Repr

/-- The wording of a number error. -/
def NumberError.message : NumberError → String
  | empty => "cannot parse integer from empty string"
  | invalidDigit => "invalid digit found in string"
  | tooLarge => "number too large to fit in target type"
  | tooSmall => "number too small to fit in target type"

/-- Reads digits after a magnitude that may not pass a bound. -/
def magnitude (bound : Nat) (overflow : NumberError) : Nat → List Char → Except NumberError Nat
  | n, [] => .ok n
  | n, c :: rest =>
      if c.isDigit then
        let n := 10 * n + (c.toNat - '0'.toNat)
        if n ≤ bound then magnitude bound overflow n rest else .error overflow
      else .error .invalidDigit

/-- Digits, at least one of them. -/
def digits (bound : Nat) (overflow : NumberError) (cs : List Char) : Except NumberError Nat :=
  if cs.isEmpty then .error .invalidDigit else magnitude bound overflow 0 cs

/-- A number from 0 to `high`. -/
def unsigned? (high : Nat) : List Char → Except NumberError Nat
  | [] => .error .empty
  | '+' :: cs => digits high .tooLarge cs
  | cs => digits high .tooLarge cs

/-- A number from `-low` to `high`. -/
def signed? (low high : Nat) : List Char → Except NumberError Int
  | [] => .error .empty
  | '+' :: cs => Int.ofNat <$> digits high .tooLarge cs
  | '-' :: cs => (fun n => -Int.ofNat n) <$> digits low .tooSmall cs
  | cs => Int.ofNat <$> digits high .tooLarge cs

end NandMachine.Command
