/-
# NandMachine.Proofs.Assembly.Statement -- the assembly language

A statement loads a constant into A, or computes a word from D, A and the memory word
M, stores it in any of A, M and D, and jumps to the address in A when the word, read
as a signed number, meets a condition.

    statement   @number   or   [letters=]expression[;condition]
    expression  operand,  -operand,  !operand  or  operand op operand  with  + - & |
    operand     0, 1, A, D or M

The meaning of a statement is said on words, without the processor and without an
instruction word: sums and differences are taken modulo `2 ^ 16`, the jump goes to the
A of before the statement, and reset sends the counter to 0 (`Statement.execute`).
`Statement.read?` reads a statement from its text.
-/
import NandMachine.Processor.Cpu
import NandMachine.Processor.Instruction

namespace NandMachine

set_option autoImplicit false

/-- Whether a result, as a signed number, meets a condition. -/
def Jump.holds (out : Word) : Jump → Bool
  | never => false
  | gt => 0 < out.toInt
  | eq => out.toInt = 0
  | ge => 0 ≤ out.toInt
  | lt => out.toInt < 0
  | ne => out.toInt ≠ 0
  | le => out.toInt ≤ 0
  | always => true

namespace Assembly

inductive Operand
  | zero | one | a | d | m
  deriving DecidableEq, Repr

inductive Expression
  | operand (x : Operand)
  | negative (x : Operand)
  | complement (x : Operand)
  | sum (x y : Operand)
  | difference (x y : Operand)
  | conjunction (x y : Operand)
  | disjunction (x y : Operand)
  deriving DecidableEq, Repr

inductive Statement
  | address (constant : Address)
  | compute (dest : Dest) (expression : Expression) (jump : Jump)
  deriving DecidableEq, Repr

/-! ## Meaning -/

def Operand.value (v : RegisterValues) (inM : Word) : Operand → Word
  | zero => 0#16
  | one => 1#16
  | a => v.a
  | d => v.d
  | m => inM

def Expression.value (v : RegisterValues) (inM : Word) : Expression → Word
  | operand x => x.value v inM
  | negative x => -x.value v inM
  | complement x => ~~~x.value v inM
  | sum x y => x.value v inM + y.value v inM
  | difference x y => x.value v inM - y.value v inM
  | conjunction x y => x.value v inM &&& y.value v inM
  | disjunction x y => x.value v inM ||| y.value v inM

namespace Statement

/-- The registers after a statement. -/
def execute (v : RegisterValues) (inM : Word) (reset : Bool) : Statement → RegisterValues
  | address constant =>
      { v with
        a := Bus.extend constant 16
        pc := if reset then 0#16 else v.pc + 1#16 }
  | compute dest expression jump =>
      let out := expression.value v inM
      { a := if dest.a then out else v.a
        d := if dest.d then out else v.d
        pc := if reset then 0#16 else if jump.holds out then v.a else v.pc + 1#16 }

/-- The word that a statement stores in memory, if it stores one. -/
def stored? (v : RegisterValues) (inM : Word) : Statement → Option Word
  | address _ => none
  | compute dest expression _ => if dest.m then some (expression.value v inM) else none

end Statement

/-! ## Reading -/

def Operand.read? : Char → Option Operand
  | '0' => some zero
  | '1' => some one
  | 'A' => some a
  | 'D' => some d
  | 'M' => some m
  | _ => none

def Expression.read? : List Char → Option Expression
  | [x] => return operand (← Operand.read? x)
  | ['-', x] => return negative (← Operand.read? x)
  | ['!', x] => return complement (← Operand.read? x)
  | [x, '+', y] => return sum (← Operand.read? x) (← Operand.read? y)
  | [x, '-', y] => return difference (← Operand.read? x) (← Operand.read? y)
  | [x, '&', y] => return conjunction (← Operand.read? x) (← Operand.read? y)
  | [x, '|', y] => return disjunction (← Operand.read? x) (← Operand.read? y)
  | _ => none

/-- The destinations of one or more different letters, in any order. -/
def readDest? (letters : List Char) : Option Dest :=
  if letters ≠ [] ∧ letters.Nodup ∧ letters ⊆ ['A', 'M', 'D'] then
    some { a := 'A' ∈ letters, d := 'D' ∈ letters, m := 'M' ∈ letters }
  else none

def readJump? : List Char → Option Jump
  | ['J', 'G', 'T'] => some .gt
  | ['J', 'E', 'Q'] => some .eq
  | ['J', 'G', 'E'] => some .ge
  | ['J', 'L', 'T'] => some .lt
  | ['J', 'N', 'E'] => some .ne
  | ['J', 'L', 'E'] => some .le
  | ['J', 'M', 'P'] => some .always
  | _ => none

/-- A decimal number that is an address. -/
def readAddress? (digits : List Char) : Option Address :=
  if digits ≠ [] ∧ digits.all Char.isDigit then
    let number := Nat.ofDigitChars 10 digits 0
    if number < 32768 then some (BitVec.ofNat 15 number) else none
  else none

namespace Statement

/-- What stands behind the destinations: an expression and, behind a semicolon, a
condition. -/
def readComputation? (dest : Dest) (cs : List Char) : Option Statement :=
  match cs.splitOn ';' with
  | [expression] => return compute dest (← Expression.read? expression) .never
  | [expression, condition] =>
      return compute dest (← Expression.read? expression) (← readJump? condition)
  | _ => none

def read? : List Char → Option Statement
  | '@' :: digits => address <$> readAddress? digits
  | cs =>
      match cs.splitOn '=' with
      | [computation] => readComputation? {} computation
      | [letters, computation] => do readComputation? (← readDest? letters) computation
      | _ => none

end Statement

end Assembly

end NandMachine
