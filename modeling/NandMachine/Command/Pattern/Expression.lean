/-
# NandMachine.Command.Pattern.Expression -- regular expressions

An expression is a choice between sequences of parts: characters, classes, places,
groups in parentheses, and repetitions of the part before a star, a plus or a
question mark.  A group may have a name of its own, or flags that count inside it;
flags alone in parentheses count up to the end of the group around them.

Expressions are nested at most 250 levels deep.  A level is a group, a class, a
repetition, a sequence of several parts, or a choice.

An expression stands between braces, so a brace that it opens never closes, and a
counted repetition is refused.
-/
import NandMachine.Command.Pattern.Bracket
import NandMachine.Text.Alphanumeric

namespace NandMachine.Command.Pattern

set_option autoImplicit false

/-- The number of levels that an expression may have. -/
def nestingLimit : Nat := 250

/-! ## Flags and names of groups -/

/-- The letters of flags. -/
def flagLetters : List Char := ['i', 'm', 's', 'U', 'u', 'R', 'x']

/-- What a list of flags says of one of them; flags behind a hyphen are switched
off. -/
def switched (letter : Char) (old : Bool) (letters : List Char) : Bool :=
  if !letters.contains letter then old else (letters.takeWhile (· != '-')).contains letter

/-- The flags after a list of letters, if it is one.  Every letter and the hyphen
stand there once at most, and the hyphen not last. -/
def Flags.changed? (flags : Flags) (letters : List Char) : Option Flags :=
  if letters.all (fun c => c == '-' || flagLetters.contains c) &&
      letters.eraseDups == letters && letters.getLast? != some '-' then
    some
      { anyCase := switched 'i' flags.anyCase letters
        characters := switched 'u' flags.characters letters
        verbose := switched 'x' flags.verbose letters }
  else none

/-- Whether a text can name a group. -/
def isGroupName (cs : List Char) : Bool :=
  match cs with
  | [] => false
  | c :: rest =>
      (c == '_' || Text.isAlphabetic c) &&
      rest.all fun c => ['_', '.', '[', ']'].contains c || Text.isAlphanumeric c

/-! ## Reading -/

/-- What has been read of a group, or of the whole expression. -/
structure Level where
  flags : Flags := {}
  /-- The nesting of the sequences that are complete. -/
  choices : List Nat := []
  /-- The nesting of the parts of the last sequence, latest first. -/
  parts : List Nat := []
  /-- Whether the last part may be repeated. -/
  repeatable : Bool := false
  deriving Repr

namespace Level

/-- One more part. -/
def add (level : Level) (depth : Nat) : Level :=
  { level with parts := depth :: level.parts, repeatable := true }

/-- Flags for the rest of the group. -/
def set (level : Level) (flags : Flags) : Level :=
  { level.add 0 with flags, repeatable := false }

/-- Another sequence. -/
def choose (level : Level) : Level :=
  { level with choices := nesting level.parts :: level.choices, parts := [], repeatable := false }

/-- The last part, repeated. -/
def repeated? (level : Level) : Option Level :=
  match level.parts with
  | depth :: parts => if level.repeatable then some { level with parts := (depth + 1) :: parts }
      else none
  | [] => none

/-- The nesting of all that has been read. -/
def depth (level : Level) : Nat := nesting (nesting level.parts :: level.choices)

end Level

/-- What has been read of an expression. -/
structure Reading where
  inner : Level := {}
  /-- The groups around, the closest first. -/
  outer : List Level := []
  /-- The names of groups. -/
  names : List (List Char) := []
  deriving Repr

namespace Reading

/-- One more part without parts of its own, if it is allowed. -/
def simple (r : Reading) (allowed : Bool) : Option Reading :=
  if allowed then some { r with inner := r.inner.add 0 } else none

/-- Opens a group. -/
def push (r : Reading) (flags : Flags) : Reading :=
  { r with inner := { flags }, outer := r.inner :: r.outer }

/-- Closes a group. -/
def pop? (r : Reading) : Option Reading :=
  match r.outer with
  | [] => none
  | around :: outer => some { r with inner := around.add (r.inner.depth + 1), outer }

/-- Opens a group with a name. -/
def named? (r : Reading) (cs : List Char) : Option (Reading × List Char) :=
  let name := cs.takeWhile (· != '>')
  match cs.dropWhile (· != '>') with
  | _ :: rest =>
      if isGroupName name && !r.names.contains name then
        some ({ r.push r.inner.flags with names := name :: r.names }, rest)
      else none
  | [] => none

/-- Opens a group, of which the parenthesis is read, or sets flags. -/
def group? (r : Reading) (cs : List Char) : Option (Reading × List Char) :=
  match r.inner.flags.skip cs with
  | '?' :: 'P' :: '<' :: rest => r.named? rest
  | '?' :: '<' :: rest => r.named? rest
  | '?' :: rest =>
      let letters := rest.takeWhile fun c => c != ':' && c != ')'
      match r.inner.flags.changed? letters, rest.drop letters.length with
      | some flags, ':' :: rest => some (r.push flags, rest)
      | some flags, _ :: rest =>
          if letters.isEmpty then none else some ({ r with inner := r.inner.set flags }, rest)
      | _, _ => none
  | rest => some (r.push r.inner.flags, rest)

/-- One more part that is given by an escape, if it is allowed. -/
def escaped? (r : Reading) : Escape → Option Reading
  | .character c byte => r.simple (r.inner.flags.allowsCharacter c byte)
  | .anchor => r.simple true
  | .boundary => r.simple (!r.inner.flags.characters)
  | .class negated => r.simple (r.inner.flags.allowsClass negated)

/-- Reads one piece of an expression. -/
def piece? (r : Reading) : List Char → Option (Reading × List Char)
  | [] => none
  | '(' :: rest => r.group? rest
  | ')' :: rest => r.pop?.map (·, rest)
  | '|' :: rest => some ({ r with inner := r.inner.choose }, rest)
  | '*' :: rest | '+' :: rest | '?' :: rest => do
      let inner ← r.inner.repeated?
      return ({ r with inner }, match rest with
        | '?' :: more => more
        | _ => rest)
  | '[' :: rest => do
      let (depth, rest) ← bracket? r.inner.flags rest
      return ({ r with inner := r.inner.add depth }, rest)
  | '\x7b' :: _ => none
  | '\\' :: rest => do
      let (escape, rest) ← escape? r.inner.flags rest
      return (← r.escaped? escape, rest)
  | '.' :: rest => (r.simple r.inner.flags.characters).map (·, rest)
  | '^' :: rest | '$' :: rest => (r.simple true).map (·, rest)
  | c :: rest => (r.simple (r.inner.flags.allowsCharacter c false)).map (·, rest)

/-- Whether the rest completes the expression; the budget bounds the number of
pieces. -/
def completes (r : Reading) : (budget : Nat) → List Char → Bool
  | 0, _ => false
  | budget + 1, cs => match r.inner.flags.skip cs with
      | [] => r.outer.isEmpty && r.inner.depth ≤ nestingLimit
      | c :: cs => match r.piece? (c :: cs) with
          | some (r, rest) => completes r budget rest
          | none => false

end Reading

/-- Whether a text is a regular expression. -/
def isExpression (cs : List Char) : Bool := Reading.completes {} (cs.length + 1) cs

end NandMachine.Command.Pattern
