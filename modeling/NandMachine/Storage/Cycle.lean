/-
# NandMachine.Storage.Cycle -- discrete time

Time is counted in cycles, from 0.  Clocked parts hold no clock: the cycle is an
input of every call.  A drive at cycle `t` takes effect at the edge between `t`
and `t + 1`.  The counters of the machine have 64 bits, so the edge after the
last cycle does not exist; a request for it is refused (`Cycle.next?`).
-/
import NandMachine.Fault

namespace NandMachine

set_option autoImplicit false

/-- A point in simulated time. -/
abbrev Cycle := Nat

namespace Cycle

/-- The last cycle that a 64-bit counter can name. -/
def last : Cycle := Fault.counterLimit - 1

/-- The cycle after this one, unless this one is the last. -/
def next? (now : Cycle) : Except Fault Cycle :=
  if now < last then .ok (now + 1) else .error .counterOverflow

/-- What a drive at a cycle leaves behind, unless the cycle is the last: there is
no edge after it. -/
def driven? {α : Type} (now : Cycle) (after : α) : Except Fault α :=
  (fun _ => after) <$> next? now

/-- Before the last cycle no drive is refused. -/
theorem driven?_of_lt {α : Type} {now : Cycle} (early : now < last) (after : α) :
    driven? now after = .ok after := by
  rw [driven?, next?, if_pos early]
  rfl

def text (now : Cycle) : String := s!"t{now}"

end Cycle

/-- A counter of cycles that only moves forward. -/
structure Clock where
  now : Cycle := 0
  deriving DecidableEq, Repr, Inhabited

namespace Clock

def advance (c : Clock) : Clock := ⟨c.now + 1⟩

/-- One cycle later, unless the last cycle is reached. -/
def advance? (c : Clock) : Except Fault Clock := Clock.mk <$> Cycle.next? c.now

end Clock

end NandMachine
