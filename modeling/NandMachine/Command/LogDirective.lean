/-
# NandMachine.Command.LogDirective -- one part of a log setting

A directive is a level, or says for which events a level counts: for those of a
target, of a span, of a field, or several of these.

    level
    target  target=level
    target[span]  target[span]=level
    target[span{field}]  target[span{field=value}]=level

Target and span may be left out in front of a bracket and a brace, and a missing
level, also behind `=`, is the level of everything.  Levels are names in any mix of
capitals or numbers from 0 (off) to 5 (trace).

Blanks around a directive are skipped when its marks are looked for, but its parts
are cut from the whole text at the positions so found.
-/
import NandMachine.Command.FieldPattern
import NandMachine.Command.LogEvent
import NandMachine.Command.Number
import NandMachine.Text.Blank

namespace NandMachine.Command

set_option autoImplicit false

/-- The level of a name or number. -/
def LogLevel.ofText? (cs : List Char) : Option LogLevel :=
  match unsigned? 5 cs with
  | .ok n => all[n]?
  | .error _ => all.find? fun level => level.name.toList == cs.map Char.toUpper

/-- Why a log setting cannot be read. -/
inductive LogSettingError
  /-- A directive is not well formed. -/
  | malformed
  /-- A part would be cut within a character. -/
  | brokenCharacter
  deriving DecidableEq, Repr

/-- A field that is asked for, with a value or with any. -/
structure FieldTest where
  name : List Char
  value : Option (List Char) := none
  deriving DecidableEq, Repr

def FieldTest.ofText? (cs : List Char) : Except LogSettingError FieldTest :=
  if cs.isEmpty then .error .malformed
  else match cs.splitOn '=' with
    | name :: value :: _ =>
        if isFieldPattern value then .ok { name, value := some value } else .error .malformed
    | _ => .ok { name := cs }

/-- What is asked for, and the level that counts for it. -/
structure LogDirective where
  /-- The beginning of the targets it speaks of. -/
  target : Option (List Char) := none
  /-- The span that an event has to be in. -/
  span : Option (List Char) := none
  field : Option FieldTest := none
  level : LogLevel
  deriving DecidableEq, Repr

namespace LogDirective

/-! ## Reading -/

/-- A text behind a number of bytes. -/
def dropBytes : Nat → List Char → Except LogSettingError (List Char)
  | 0, cs => .ok cs
  | _ + 1, [] => .ok []
  | n + 1, c :: cs =>
      if c.utf8Size ≤ n + 1 then dropBytes (n + 1 - c.utf8Size) cs else .error .brokenCharacter

/-- The first bytes of a text. -/
def takeBytes : Nat → List Char → Except LogSettingError (List Char)
  | 0, _ => .ok []
  | _ + 1, [] => .ok []
  | n + 1, c :: cs =>
      if c.utf8Size ≤ n + 1 then (c :: ·) <$> takeBytes (n + 1 - c.utf8Size) cs
      else .error .brokenCharacter

/-- The part of a text between two positions. -/
def part (whole : List Char) (start stop : Nat) : Except LogSettingError (List Char) := do
  takeBytes (stop - start) (← dropBytes start whole)

/-- The part of a directive that is being read, with the position where it
starts. -/
inductive Stage
  | start
  | target
  | span (start : Nat)
  | field (start : Nat)
  | fieldEnd
  | spanEnd
  | level (start : Nat)
  deriving DecidableEq, Repr

/-- Whether a directive may start with a character. -/
def isOpening (c : Char) : Bool :=
  c == '-' || c == ':' || c == '_' || Text.isAlphanumeric c

/-- Reads the next character, which stands at a position. -/
def readChar (whole : List Char) (d : LogDirective) (position : Nat) (c : Char) :
    Stage → Except LogSettingError (Stage × LogDirective)
  | .start =>
      if c == '[' then .ok (.span (position + 1), d)
      else if isOpening c then .ok (.target, d)
      else .error .malformed
  | .target =>
      if c == '=' then do
        return (.level (position + 1), { d with target := some (← part whole 0 position) })
      else if c == '[' then do
        return (.span (position + 1), { d with target := some (← part whole 0 position) })
      else .ok (.target, d)
  | .span start =>
      if c == ']' then do return (.spanEnd, { d with span := some (← part whole start position) })
      else if c == '\x7b' then do
        let span ← part whole start position
        return (.field (position + 1), { d with span := if span.isEmpty then none else some span })
      else .ok (.span start, d)
  | .field start =>
      if c == '\x7d' then do
        let field ← FieldTest.ofText? (← part whole start position)
        return (.fieldEnd, { d with field := some field })
      else .ok (.field start, d)
  | .fieldEnd => if c == ']' then .ok (.spanEnd, d) else .error .malformed
  | .spanEnd => if c == '=' then .ok (.level (position + 1), d) else .error .malformed
  | .level start => .ok (.level start, d)

/-- Reads characters from a position on. -/
def readChars (whole : List Char) (d : LogDirective) (stage : Stage) (position : Nat) :
    List Char → Except LogSettingError (Stage × LogDirective)
  | [] => .ok (stage, d)
  | c :: cs => do
      let (stage, d) ← readChar whole d position c stage
      readChars whole d stage (position + c.utf8Size) cs

/-- Ends the reading. -/
def finish (whole : List Char) (d : LogDirective) : Stage → Except LogSettingError LogDirective
  | .target => match LogLevel.ofText? whole with
      | some level => .ok { d with level }
      | none => .ok { d with target := some whole }
  | .level start => do
      let text ← dropBytes start whole
      if text.isEmpty then return d
      else match LogLevel.ofText? text with
        | some level => return { d with level }
        | none => .error .malformed
  | .spanEnd => .ok d
  | _ => .error .malformed

def ofText? (whole : List Char) : Except LogSettingError LogDirective := do
  let (stage, d) ← readChars whole { level := .trace } .start 0 (Text.trim whole)
  finish whole d stage

/-! ## Meaning -/

/-- Whether a directive speaks of an event.  No event is in a span, and values are
asked for in spans only. -/
def concerns (d : LogDirective) (e : LogEvent) : Bool :=
  d.span.isNone &&
  d.target.all (·.isPrefixOf e.target.toList) &&
  d.field.all fun f => f.value.isNone && e.hasField (String.ofList f.name)

/-- How directives compare in what they ask for: first by the length of the target,
then by whether there is a field, then by the name of the field. -/
def specificity (a b : LogDirective) : Ordering :=
  (compare (a.target.map List.length) (b.target.map List.length)).then
    ((compare a.field.isSome b.field.isSome).then
      (compare (a.field.map (·.name)) (b.field.map (·.name))))

end LogDirective

end NandMachine.Command
