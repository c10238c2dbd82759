/-
# NandMachine.Fault -- requests the machine refuses outright

A fault is a request that no part of the machine gives a meaning to: a number
that does not fit its bus, a wire that is not there, a drive after the last
cycle, an image larger than its bank.  Every checked operation of the library
names the cause with one of these constructors; the wording is `Fault.message`
and stands nowhere else.
-/
namespace NandMachine

set_option autoImplicit false

/-- Why a request was refused. -/
inductive Fault
  /-- A number that needs more wires than the bus has. -/
  | valueTooWide (value width : Nat)
  /-- A bus too wide to be set from a sixteen-bit number. -/
  | busTooWide (width : Nat)
  /-- A bus too wide to be read as a sixteen-bit number. -/
  | noNumber
  /-- A number other than 0 and 1 where a level is wanted. -/
  | notALevel (value : Nat)
  /-- A wire beyond the last one of a bus. -/
  | noSuchLine (width index : Nat)
  /-- A run of wires that leaves the bus. -/
  | sliceOutside (start stop width : Nat)
  /-- An extension to fewer wires. -/
  | narrowing (width target : Nat)
  /-- A sum that leaves the 64-bit counters. -/
  | counterOverflow
  /-- A memory image with more words than the bank. -/
  | imageTooLarge (words : Nat) (bank : String)
  /-- An address instruction whose constant needs sixteen bits. -/
  | constantTooWide (value : Nat)
  /-- A compute instruction with more than six control bits. -/
  | controlTooWide (bits : Nat)
  deriving DecidableEq, Repr

namespace Fault

/-- The first number that a 64-bit counter cannot hold. -/
def counterLimit : Nat := 0x10000000000000000

/-- The binary digits of a number, most significant first. -/
def binary (n : Nat) : String := String.ofList (Nat.toDigits 2 n)

/-- The one wording of each fault. -/
def message : Fault → String
  | valueTooWide value width => s!"Value {value} out of range for Bits<{width}>"
  | busTooWide width => s!"Bits<{width}> is wider than 16 bits"
  | noNumber => "assertion failed: N <= 16"
  | notALevel value => s!"Invalid bit value: {value} (must be 0 or 1)"
  | noSuchLine width index => s!"index out of bounds: the len is {width} but the index is {index}"
  | sliceOutside start stop width => s!"slice {start}..{stop} out of range for Bits<{width}>"
  | narrowing width target => s!"cannot extend Bits<{width}> to Bits<{target}>"
  | counterOverflow => "attempt to add with overflow"
  | imageTooLarge words bank => s!"image of {words} words does not fit {bank}"
  | constantTooWide value => s!"address {value} exceeds 15 bits"
  | controlTooWide bits => s!"comp field 0b{binary bits} exceeds 6 bits"

end Fault

end NandMachine
