/-
# NandMachine.Command.Pattern.Bracket -- classes in brackets

A class in brackets lists characters, ranges, classes with a name, and classes in
brackets again.  Two such lists with `&&`, `--` or `~~` between them stand for what
they share, what only the first has, or what only one of them has.  Hyphens at the
beginning stand for themselves, and so does a closing bracket that comes first.

`afterClass?` answers what follows a class and how deeply it is nested: one level
for its brackets, one for a list of several members, and one for each operator.
-/
import NandMachine.Command.Pattern.Escape

namespace NandMachine.Command.Pattern

set_option autoImplicit false

/-- The nesting of several parts: that of the only one, or one more than the deepest. -/
def nesting : List Nat → Nat
  | [] => 0
  | [depth] => depth
  | depths => depths.foldl max 0 + 1

/-- What has been read of a class that is open. -/
inductive Progress
  | bracket
  | hyphens
  | members
  deriving DecidableEq, Repr

/-- A class that is open. -/
structure OpenClass where
  progress : Progress := .bracket
  /-- The nesting of what stands before the last operator. -/
  left : Option Nat := none
  /-- The nesting of the members behind it. -/
  members : List Nat := []
  deriving DecidableEq, Repr

namespace OpenClass

/-- One more member. -/
def add (open_ : OpenClass) (depth : Nat) : OpenClass :=
  { open_ with members := depth :: open_.members, progress := .members }

/-- The nesting of all that has been read. -/
def depth (open_ : OpenClass) : Nat :=
  match open_.left with
  | none => nesting open_.members
  | some left => max left (nesting open_.members) + 1

/-- An operator ends the list of members. -/
def combine (open_ : OpenClass) : OpenClass := { progress := .members, left := some open_.depth }

end OpenClass

/-- Opens a class, of which the bracket is read. -/
def openClass? (flags : Flags) (cs : List Char) : Option (OpenClass × List Char) :=
  match flags.skip cs with
  | '^' :: rest => if flags.allowsOthers then some ({}, rest) else none
  | rest => some ({}, rest)

/-- The classes that have a name, written `[:name:]`. -/
def classNames : List String :=
  ["alnum", "alpha", "ascii", "blank", "cntrl", "digit", "graph", "lower", "print", "punct",
   "space", "upper", "word", "xdigit"]

/-- Reads a class with a name, of which the first bracket is read: whether all other
characters are meant, and what follows. -/
def namedClass? : List Char → Option (Bool × List Char)
  | ':' :: cs =>
      let (negated, cs) := match cs with
        | '^' :: rest => (true, rest)
        | _ => (false, cs)
      match cs.dropWhile (· != ':') with
      | ':' :: ']' :: rest =>
          if classNames.contains (String.ofList (cs.takeWhile (· != ':'))) then some (negated, rest)
          else none
      | _ => none
  | _ => none

/-- Reads a member that is no range and has no brackets. -/
def member? (flags : Flags) : List Char → Option (Escape × List Char)
  | [] => none
  | '\\' :: rest => escape? flags rest
  | c :: rest => some (.character c false, rest)

/-- Whether a member may stand in a class. -/
def Flags.allows (flags : Flags) : Escape → Bool
  | .character c _ => flags.allowsMember c
  | .class negated => flags.allowsClass negated
  | .anchor | .boundary => false

/-- Reads a member or a range. -/
def range? (flags : Flags) (cs : List Char) : Option (List Char) := do
  let (low, rest) ← member? flags cs
  let rest := flags.skip rest
  let alone := if flags.allows low then some rest else none
  match rest with
  | [] => none
  | '-' :: more =>
      if flags.peek? more = some ']' ∨ flags.peek? more = some '-' then alone
      else match low, ← member? flags (flags.skip more) with
        | .character low _, (.character high _, rest) =>
            if low ≤ high && flags.allowsMember low && flags.allowsMember high then some rest
            else none
        | _, _ => none
  | _ => alone

/-- What follows the classes that are open, the innermost first, and how deeply the
outermost is nested.  The budget bounds the number of steps. -/
def afterClass? (flags : Flags) : (budget : Nat) → OpenClass → List OpenClass → List Char →
    Option (Nat × List Char)
  | 0, _, _, _ => none
  | budget + 1, inner, outer, cs =>
      let literal (c : Char) (progress : Progress) (rest : List Char) :=
        if flags.allowsMember c then
          afterClass? flags budget { inner.add 0 with progress } outer rest
        else none
      match inner.progress, flags.skip cs with
      | _, [] => none
      | .bracket, ']' :: rest => literal ']' .members rest
      | .bracket, '-' :: rest => literal '-' .hyphens rest
      | .hyphens, '-' :: rest => literal '-' .hyphens rest
      | _, ']' :: rest => match outer with
          | [] => some (inner.depth + 1, rest)
          | around :: outer => afterClass? flags budget (around.add (inner.depth + 1)) outer rest
      | _, '[' :: rest => match namedClass? rest with
          | some (negated, rest) =>
              if flags.allowsNamed negated then afterClass? flags budget (inner.add 0) outer rest
              else none
          | none => match openClass? flags rest with
              | some (nested, rest) => afterClass? flags budget nested (inner :: outer) rest
              | none => none
      | _, '&' :: '&' :: rest => afterClass? flags budget inner.combine outer rest
      | _, '-' :: '-' :: rest => afterClass? flags budget inner.combine outer rest
      | _, '~' :: '~' :: rest => afterClass? flags budget inner.combine outer rest
      | _, rest => match range? flags rest with
          | some rest => afterClass? flags budget (inner.add 0) outer rest
          | none => none

/-- What follows a class, of which the bracket is read, and how deeply it is nested. -/
def bracket? (flags : Flags) (cs : List Char) : Option (Nat × List Char) := do
  let (inner, rest) ← openClass? flags cs
  afterClass? flags (cs.length + 1) inner [] rest

end NandMachine.Command.Pattern
