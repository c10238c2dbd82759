/-
# NandMachine.Json.Parser -- reading JSON text

`Json.parse?` reads one value with blanks around it and nothing else.  Every
function here takes what is left of the text and answers a value with the rest;
nesting is bounded by a budget, which `parse?` takes from the length of the text,
so that no text runs out of it.

A number literal is a minus sign or none, digits without a leading zero, and a
fraction and an exponent or neither.  It is an `integer` when it has neither and
is not minus zero.
-/
import NandMachine.Json.Basic

namespace NandMachine.Json

set_option autoImplicit false

def isBlank (c : Char) : Bool := c == ' ' || c == '\n' || c == '\r' || c == '\t'

def skipBlanks (cs : List Char) : List Char := cs.dropWhile isBlank

def hexDigit? (c : Char) : Option Nat :=
  if '0' ≤ c ∧ c ≤ '9' then some (c.toNat - '0'.toNat)
  else if 'a' ≤ c ∧ c ≤ 'f' then some (c.toNat - 'a'.toNat + 10)
  else if 'A' ≤ c ∧ c ≤ 'F' then some (c.toNat - 'A'.toNat + 10)
  else none

/-- Four hexadecimal digits. -/
def hex4? : List Char → Option (Nat × List Char)
  | a :: b :: c :: d :: rest => do
      let a ← hexDigit? a
      let b ← hexDigit? b
      let c ← hexDigit? c
      let d ← hexDigit? d
      return (((a * 16 + b) * 16 + c) * 16 + d, rest)
  | _ => none

/-- A character given by its number in UTF-16 units: one unit, or a high unit and
a low one. -/
def unicodeEscape? (cs : List Char) : Option (Char × List Char) := do
  let (unit, rest) ← hex4? cs
  if unit < 0xD800 ∨ 0xDFFF < unit then return (Char.ofNat unit, rest)
  else if 0xDC00 ≤ unit then none
  else match rest with
    | '\\' :: 'u' :: rest =>
        let (low, rest) ← hex4? rest
        if 0xDC00 ≤ low ∧ low ≤ 0xDFFF then
          return (Char.ofNat (0x10000 + (unit - 0xD800) * 0x400 + (low - 0xDC00)), rest)
        else none
    | _ => none

/-- The character of an escape after its backslash. -/
def escape? : List Char → Option (Char × List Char)
  | '"' :: rest => some ('"', rest)
  | '\\' :: rest => some ('\\', rest)
  | '/' :: rest => some ('/', rest)
  | 'b' :: rest => some ('\x08', rest)
  | 'f' :: rest => some ('\x0c', rest)
  | 'n' :: rest => some ('\n', rest)
  | 'r' :: rest => some ('\r', rest)
  | 't' :: rest => some ('\t', rest)
  | 'u' :: rest => unicodeEscape? rest
  | _ => none

/-- The characters of a string up to its closing quote, in reverse. -/
def stringChars? : Nat → List Char → List Char → Option (List Char × List Char)
  | _, _, [] => none
  | _, seen, '"' :: rest => some (seen, rest)
  | 0, _, _ => none
  | budget + 1, seen, '\\' :: rest => do
      let (c, rest) ← escape? rest
      stringChars? budget (c :: seen) rest
  | budget + 1, seen, c :: rest =>
      if c.toNat < 0x20 then none else stringChars? budget (c :: seen) rest

/-- A string after its opening quote. -/
def stringBody? (cs : List Char) : Option (String × List Char) :=
  (stringChars? cs.length [] cs).map fun (seen, rest) => (String.ofList seen.reverse, rest)

/-- Digits at the start of a text. -/
def digits (cs : List Char) : List Char × List Char :=
  (cs.takeWhile Char.isDigit, cs.dropWhile Char.isDigit)

/-- The fraction at the start of a text, if there is one. -/
def fraction? : List Char → Option (List Char × List Char)
  | '.' :: rest => match digits rest with
      | ([], _) => none
      | (ds, rest) => some ('.' :: ds, rest)
  | cs => some ([], cs)

/-- The exponent at the start of a text, if there is one. -/
def exponent? (cs : List Char) : Option (List Char × List Char) :=
  let body (mark : List Char) (rest : List Char) := match digits rest with
    | ([], _) => none
    | (ds, rest) => some (mark ++ ds, rest)
  match cs with
  | 'e' :: '+' :: rest | 'E' :: '+' :: rest => body ['e', '+'] rest
  | 'e' :: '-' :: rest | 'E' :: '-' :: rest => body ['e', '-'] rest
  | 'e' :: rest | 'E' :: rest => body ['e'] rest
  | cs => some ([], cs)

/-- The number that digits stand for. -/
def decimalValue (ds : List Char) : Nat := ds.foldl (fun n d => 10 * n + (d.toNat - '0'.toNat)) 0

/-- A number literal after its sign. -/
def unsigned? (negative : Bool) (cs : List Char) : Option (Json × List Char) := do
  let (whole, rest) := digits cs
  guard (!whole.isEmpty && (whole.head? != some '0' || whole.length == 1))
  let (point, rest) ← fraction? rest
  let (power, rest) ← exponent? rest
  let n := decimalValue whole
  if point.isEmpty && power.isEmpty && !(negative && n == 0) then
    return (integer (if negative then -(n : Int) else n), rest)
  else
    let sign := if negative then ['-'] else []
    return (decimal (String.ofList (sign ++ whole ++ point ++ power)), rest)

/-- A fixed word at the start of a text. -/
def word? (word : List Char) (value : Json) (cs : List Char) : Option (Json × List Char) :=
  if word.isPrefixOf cs then some (value, cs.drop word.length) else none

mutual

/-- A value at the start of a text. -/
def value? : Nat → List Char → Option (Json × List Char)
  | 0, _ => none
  | budget + 1, cs => match skipBlanks cs with
      | '"' :: rest => (stringBody? rest).map fun (s, rest) => (string s, rest)
      | '[' :: rest => match skipBlanks rest with
          | ']' :: rest => some (array [], rest)
          | rest => (items? budget rest).map fun (items, rest) => (array items, rest)
      | '\x7b' :: rest => match skipBlanks rest with
          | '\x7d' :: rest => some (object [], rest)
          | rest => (entries? budget rest).map fun (entries, rest) => (object entries, rest)
      | '-' :: rest => unsigned? true rest
      | 'n' :: rest => word? "ull".toList null rest
      | 't' :: rest => word? "rue".toList (bool true) rest
      | 'f' :: rest => word? "alse".toList (bool false) rest
      | rest => unsigned? false rest

/-- The items of an array up to its closing bracket. -/
def items? : Nat → List Char → Option (List Json × List Char)
  | 0, _ => none
  | budget + 1, cs => do
      let (item, rest) ← value? budget cs
      match skipBlanks rest with
      | ',' :: rest => do
          let (items, rest) ← items? budget rest
          return (item :: items, rest)
      | ']' :: rest => return ([item], rest)
      | _ => none

/-- The entries of an object up to its closing brace. -/
def entries? : Nat → List Char → Option (List (String × Json) × List Char)
  | 0, _ => none
  | budget + 1, cs => match skipBlanks cs with
      | '"' :: rest => do
          let (key, rest) ← stringBody? rest
          match skipBlanks rest with
          | ':' :: rest => do
              let (value, rest) ← value? budget rest
              match skipBlanks rest with
              | ',' :: rest => do
                  let (entries, rest) ← entries? budget rest
                  return ((key, value) :: entries, rest)
              | '\x7d' :: rest => return ([(key, value)], rest)
              | _ => none
          | _ => none
      | _ => none

end

/-- The value that a text is. -/
def parse? (text : String) : Option Json := do
  let cs := text.toList
  let (value, rest) ← value? (cs.length + 1) cs
  if (skipBlanks rest).isEmpty then some value else none

end NandMachine.Json
