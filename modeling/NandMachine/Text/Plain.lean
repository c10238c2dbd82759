/-
# NandMachine.Text.Plain -- text without terminal controls

Text for a terminal holds sequences that set colours, move the cursor or carry
commands.  `plain` leaves what a reader would see: every sequence goes, and so do
the control characters, the ASCII blanks among them apart.

A sequence starts with the escape character.  What follows it tells its kind: a
bracket opens parameters that end at the first character from `@` to `~`, a few
letters open a string with an end of its own, and everything else is a sequence
of one final character.  The escape character also ends what is open before it.

A blank control within a sequence is shown, and the text behind it too, up to the
next control; there the sequence goes on.
-/
namespace NandMachine.Text

set_option autoImplicit false

namespace Plain

/-- What a reader of terminal text is in the middle of. -/
inductive Inside
  /-- Text that is shown. -/
  | text
  /-- A sequence of which nothing but the escape character is read. -/
  | escape
  /-- A sequence that ends with its first character from `0` to `~`. -/
  | marks
  /-- Parameters. -/
  | parameters
  /-- What introduces a string for the device. -/
  | device
  /-- The parameters of such a string. -/
  | deviceParameters
  /-- The marks behind them. -/
  | deviceMarks
  /-- A command to the terminal, up to the bell. -/
  | command
  /-- A string up to its terminator. -/
  | string
  deriving DecidableEq, Repr

/-- Whether a character is a control that is also an ASCII blank. -/
def isBlankControl (c : Char) : Bool := c == '\t' || c == '\n' || c == '\x0c' || c == '\r'

/-- Whether a character is shown in a text. -/
def isShown (c : Char) : Bool :=
  isBlankControl c || (0x20 ≤ c.toNat && c != '\x7f')

/-- Whether the byte of the string terminator is among the bytes of a character. -/
def holdsTerminator (c : Char) : Bool := (String.singleton c).toUTF8.data.contains 0x9C

/-- What an escape character and the character behind it open. -/
def opened (c : Char) : Inside :=
  match c with
  | '[' => .parameters
  | ']' => .command
  | 'P' => .device
  | 'X' | '^' | '_' => .string
  | _ => if '0' ≤ c && c ≤ '~' then .text else if ' ' ≤ c && c ≤ '/' then .marks else .escape

/-- What the reader is in after a character that is not shown. -/
def Inside.next (inside : Inside) (c : Char) : Inside :=
  if c == '\x1b' then .escape
  else if c == '\x18' || c == '\x1a' then .text
  else match inside with
    | .text => .text
    | .escape => opened c
    | .marks => if '0' ≤ c && c ≤ '~' then .text else .marks
    | .parameters => if '@' ≤ c && c ≤ '~' then .text else .parameters
    | .device =>
        if '@' ≤ c && c ≤ '~' then .string
        else if '0' ≤ c && c ≤ '?' then .deviceParameters
        else if ' ' ≤ c && c ≤ '/' then .deviceMarks else .device
    | .deviceParameters =>
        if '<' ≤ c && c ≤ '~' then .string
        else if ' ' ≤ c && c ≤ '/' then .deviceMarks else .deviceParameters
    | .deviceMarks => if '0' ≤ c && c ≤ '~' then .string else .deviceMarks
    | .command => if c == '\x07' then .text else .command
    | .string => if holdsTerminator c then .text else .string

/-- Whether blank controls are shown here. -/
def Inside.showsBlanks : Inside → Bool
  | .text | .escape | .marks | .parameters => true
  | .device | .deviceParameters | .deviceMarks | .command | .string => false

/-- What the reader is in after a character that is shown: one beyond ASCII ends a
sequence. -/
def Inside.after (inside : Inside) (c : Char) : Inside :=
  if 0x80 ≤ c.toNat then .text else inside

/-- What is shown of a text.  While text is `showing`, a sequence that is open waits
for the next control. -/
def shown (inside : Inside) (showing : Bool) : List Char → List Char
  | [] => []
  | c :: rest =>
      if (showing || inside == .text) && isShown c || inside.showsBlanks && isBlankControl c then
        c :: shown (inside.after c) true rest
      else shown (inside.next c) false rest

end Plain

/-- A text in a terminal attribute, which ends behind it. -/
def marked (text : String) : String := "\x1b[1m" ++ text ++ "\x1b[0m"

/-- A text without terminal controls. -/
def plain (text : String) : String := String.ofList (Plain.shown .text false text.toList)

end NandMachine.Text
