/-
# NandMachine.Command.Pattern.Escape -- the characters of an expression

A regular expression is read under flags that its groups set: whether letters are
matched in any case, whether it speaks of characters or of bytes, and whether it is
verbose, so that blanks and comments between its parts do not count.

Expressions are compiled without knowledge of the scripts of the world and match
nothing but well-formed text.  So under the flag for characters there are no word
boundaries, no classes such as `\d`, and no letters in any case; for bytes there
are, but nothing that could match a byte beyond ASCII on its own.
-/
import NandMachine.Text.Blank

namespace NandMachine.Command.Pattern

set_option autoImplicit false

/-- What the groups around a place say about it. -/
structure Flags where
  /-- Letters are matched in any case. -/
  anyCase : Bool := false
  /-- The expression speaks of characters, and not of bytes. -/
  characters : Bool := true
  /-- Blanks and comments do not count. -/
  verbose : Bool := false
  deriving DecidableEq, Repr

/-! ## Blanks and comments -/

/-- A text behind its leading blanks and comments, possibly from within a comment.  A
comment reaches from a number sign to the end of the line. -/
def skipFrom (comment : Bool) : List Char → List Char
  | [] => []
  | c :: cs =>
      if comment then skipFrom (c != '\n') cs
      else if Text.isBlank c then skipFrom false cs
      else if c == '#' then skipFrom true cs
      else c :: cs

/-- A text behind what does not count. -/
def Flags.skip (flags : Flags) (cs : List Char) : List Char :=
  if flags.verbose then skipFrom false cs else cs

/-- The first character that is neither a blank nor the first number sign. -/
def firstMark? (signed : Bool) : List Char → Option Char
  | [] => none
  | c :: cs =>
      if Text.isBlank c then firstMark? signed cs
      else if c == '#' && !signed then firstMark? true cs
      else some c

/-- The character that decides whether a hyphen before it stands for a range: the
next one that counts, where of a comment only the number sign is left out. -/
def Flags.peek? (flags : Flags) (cs : List Char) : Option Char :=
  if flags.verbose then (firstMark? false cs).or cs.head? else cs.head?

/-! ## Escapes -/

/-- What a backslash and the characters behind it stand for. -/
inductive Escape
  /-- A character; `byte` if it was given by two hexadecimal digits. -/
  | character (c : Char) (byte : Bool)
  /-- An end of the text. -/
  | anchor
  /-- A place between a word and what is around it. -/
  | boundary
  /-- Digits, blanks or word characters, or all others. -/
  | class (negated : Bool)
  deriving DecidableEq, Repr

def hexDigit? (c : Char) : Option Nat :=
  if c.isDigit then some (c.toNat - '0'.toNat)
  else if 'a' ≤ c.toLower && c.toLower ≤ 'f' then some (c.toLower.toNat - 'a'.toNat + 10)
  else none

/-- Reads a number of hexadecimal digits behind digits with a value. -/
def hexDigits? (flags : Flags) : (count : Nat) → (value : Nat) → List Char →
    Option (Nat × List Char)
  | 0, value, cs => some (value, cs)
  | count + 1, value, c :: cs => do
      let digit ← hexDigit? c
      hexDigits? flags count (16 * value + digit) (flags.skip cs)
  | _ + 1, _, [] => none

/-- Reads a character that is given by its number. -/
def numbered? (flags : Flags) (digits : Nat) (cs : List Char) : Option (Escape × List Char) := do
  let (value, rest) ← hexDigits? flags digits 0 (flags.skip cs)
  if value < 0xD800 || (0xDFFF < value && value < 0x110000) then
    return (.character (Char.ofNat value) (digits == 2), rest)
  else none

/-- Reads what stands behind a backslash.  Every ASCII character but a letter or digit
stands for itself there. -/
def escape? (flags : Flags) : List Char → Option (Escape × List Char)
  | [] => none
  | c :: rest =>
      let control (n : Nat) := some (Escape.character (Char.ofNat n) false, rest)
      match c with
      | 'A' | 'z' => some (.anchor, rest)
      | 'b' | 'B' | '<' | '>' => some (.boundary, rest)
      | 'd' | 's' | 'w' => some (.class false, rest)
      | 'D' | 'S' | 'W' => some (.class true, rest)
      | 'a' => control 7
      | 't' => control 9
      | 'n' => control 10
      | 'v' => control 11
      | 'f' => control 12
      | 'r' => control 13
      | 'x' => numbered? flags 2 rest
      | 'u' => numbered? flags 4 rest
      | 'U' => numbered? flags 8 rest
      | _ => if c.isAlphanum || 0x80 ≤ c.toNat then none else some (.character c false, rest)

/-! ## What flags allow -/

namespace Flags

/-- Whether a character may stand for itself. -/
def allowsCharacter (flags : Flags) (c : Char) (byte : Bool) : Bool :=
  if flags.characters then !flags.anyCase else !byte || c.toNat < 0x80

/-- Whether a character may stand in a class in brackets. -/
def allowsMember (flags : Flags) (c : Char) : Bool :=
  if flags.characters then !flags.anyCase else c.toNat < 0x80

/-- Whether a class of an escape, or all other characters, may be asked for. -/
def allowsClass (flags : Flags) (negated : Bool) : Bool := !flags.characters && !negated

/-- Whether a class with a name, or all other characters, may be asked for. -/
def allowsNamed (flags : Flags) (negated : Bool) : Bool :=
  if flags.characters then !flags.anyCase else !negated

/-- Whether all characters outside a class in brackets may be asked for. -/
def allowsOthers (flags : Flags) : Bool := flags.characters

end Flags

end NandMachine.Command.Pattern
