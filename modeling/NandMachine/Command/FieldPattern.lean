/-
# NandMachine.Command.FieldPattern -- values to ask for in fields

A log directive may ask for a field with a value, given as a number or as a
regular expression.  Only whether the text is one matters: values belong to spans,
and the machine opens none.
-/
import NandMachine.Command.Pattern.Expression

namespace NandMachine.Command

set_option autoImplicit false

namespace Pattern

/-- Whether a text is an exponent, or nothing. -/
def isExponent : List Char → Bool
  | [] => true
  | e :: cs =>
      let digits := match cs with
        | '+' :: rest | '-' :: rest => rest
        | _ => cs
      e.toLower == 'e' && !digits.isEmpty && digits.all Char.isDigit

/-- Whether a text without its sign is a number, in decimals or by name. -/
def isMagnitude (cs : List Char) : Bool :=
  let rest := cs.dropWhile Char.isDigit
  let (fraction, rest) := match rest with
    | '.' :: rest => (rest.takeWhile Char.isDigit, rest.dropWhile Char.isDigit)
    | _ => ([], rest)
  (!(cs.takeWhile Char.isDigit ++ fraction).isEmpty && isExponent rest) ||
    ["inf", "infinity", "nan"].contains (String.ofList (cs.map Char.toLower))

/-- Whether a text is a number. -/
def isNumber : List Char → Bool
  | '+' :: cs | '-' :: cs => isMagnitude cs
  | cs => isMagnitude cs

end Pattern

/-- Whether a text can be asked for as the value of a field. -/
def isFieldPattern (cs : List Char) : Bool := Pattern.isNumber cs || Pattern.isExpression cs

end NandMachine.Command
