/-
# NandMachine.Json.Printer -- JSON in writing

Two forms: `compact`, without any blank, and `pretty`, with one entry to a line,
two blanks of indent for each level, and `[]` and `{}` for what is empty.  In
strings a quote, a backslash and the control characters are escaped, everything
else stands for itself.
-/
import NandMachine.Json.Basic
import NandMachine.Text.Pad

namespace NandMachine.Json

set_option autoImplicit false

/-- The four digits of an escaped character. -/
def escapeDigits (c : Char) : List Char := Text.padLeft 4 '0' (Nat.toDigits 16 c.toNat)

/-- A character inside a string literal. -/
def escaped (c : Char) : List Char :=
  match c with
  | '"' => ['\\', '"']
  | '\\' => ['\\', '\\']
  | '\n' => ['\\', 'n']
  | '\r' => ['\\', 'r']
  | '\t' => ['\\', 't']
  | '\x08' => ['\\', 'b']
  | '\x0c' => ['\\', 'f']
  | c => if c.toNat < 0x20 then '\\' :: 'u' :: escapeDigits c else [c]

def quoted (s : String) : List Char := '"' :: s.toList.flatMap escaped ++ ['"']

mutual

/-- A value without blanks. -/
def compactChars : Json → List Char
  | null => "null".toList
  | bool b => if b then "true".toList else "false".toList
  | integer i => (toString i).toList
  | decimal literal => literal.toList
  | string s => quoted s
  | array items => '[' :: compactItems items ++ [']']
  | object entries => '\x7b' :: compactEntries entries ++ ['\x7d']

/-- Values with commas between them. -/
def compactItems : List Json → List Char
  | [] => []
  | [item] => compactChars item
  | item :: rest => compactChars item ++ ',' :: compactItems rest

/-- Entries with commas between them. -/
def compactEntries : List (String × Json) → List Char
  | [] => []
  | [(key, value)] => quoted key ++ ':' :: compactChars value
  | (key, value) :: rest => quoted key ++ ':' :: compactChars value ++ ',' :: compactEntries rest

end

/-- A line end and the indent of a level. -/
def newLine (level : Nat) : List Char := '\n' :: List.replicate (2 * level) ' '

mutual

/-- A value with one entry to a line, inside a given level. -/
def prettyChars (level : Nat) : Json → List Char
  | null => "null".toList
  | bool b => if b then "true".toList else "false".toList
  | integer i => (toString i).toList
  | decimal literal => literal.toList
  | string s => quoted s
  | array [] => ['[', ']']
  | array items => '[' :: prettyItems (level + 1) items ++ newLine level ++ [']']
  | object [] => ['\x7b', '\x7d']
  | object entries => '\x7b' :: prettyEntries (level + 1) entries ++ newLine level ++ ['\x7d']

/-- Values, each on lines of its own. -/
def prettyItems (level : Nat) : List Json → List Char
  | [] => []
  | [item] => newLine level ++ prettyChars level item
  | item :: rest => newLine level ++ prettyChars level item ++ ',' :: prettyItems level rest

/-- Entries, each on lines of its own. -/
def prettyEntries (level : Nat) : List (String × Json) → List Char
  | [] => []
  | [(key, value)] => newLine level ++ quoted key ++ ':' :: ' ' :: prettyChars level value
  | (key, value) :: rest =>
      newLine level ++ quoted key ++ ':' :: ' ' :: prettyChars level value ++
        ',' :: prettyEntries level rest

end

/-- A value without blanks. -/
def compact (j : Json) : String := String.ofList (compactChars j)

/-- A value with one entry to a line. -/
def pretty (j : Json) : String := String.ofList (prettyChars 0 j)

end NandMachine.Json
