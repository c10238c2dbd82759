/-
# NandMachine.Devices.Keyboard -- keyboards and the handles on them

A keyboard shows the code of the key that is held, or 0.  It is reached through
handles, and a copy of a handle is a handle on the same keyboard: what one of
them presses, all of them show (`shown_press`).  A handle on another keyboard
shows what it showed before (`shown_press_of_ne`).
-/
import NandMachine.Logic.Bus

namespace NandMachine

set_option autoImplicit false

/-- Some keyboards, and the handles on them in the order in which they were made. -/
structure Keyboards where
  /-- The code that each keyboard shows. -/
  codes : List Word := [0#16]
  /-- The keyboard of each handle. -/
  handles : List Nat := [0]
  deriving DecidableEq, Repr

namespace Keyboards

def keyboard (k : Keyboards) (handle : Nat) : Nat := k.handles.getD handle 0

/-- The code that a handle shows. -/
def shown (k : Keyboards) (handle : Nat) : Word := k.codes.getD (k.keyboard handle) 0#16

/-- The codes that all handles show. -/
def allShown (k : Keyboards) : List Word := (List.range k.handles.length).map k.shown

/-- Holds a key down on the keyboard of a handle. -/
def press (k : Keyboards) (handle : Nat) (code : Word) : Keyboards :=
  { k with codes := k.codes.set (k.keyboard handle) code }

/-- Releases the key that is held on the keyboard of a handle. -/
def release (k : Keyboards) (handle : Nat) : Keyboards := k.press handle 0#16

/-- One more handle on the keyboard of a handle. -/
def copy (k : Keyboards) (handle : Nat) : Keyboards :=
  { k with handles := k.handles ++ [k.keyboard handle] }

/-- One more keyboard with a handle on it. -/
def add (k : Keyboards) : Keyboards where
  codes := k.codes ++ [0#16]
  handles := k.handles ++ [k.codes.length]

/-- Every handle on a keyboard shows what any of them presses. -/
theorem shown_press (k : Keyboards) (handle other : Nat) (code : Word)
    (there : k.keyboard handle < k.codes.length) (same : k.keyboard other = k.keyboard handle) :
    (k.press handle code).shown other = code := by
  have keep : (k.press handle code).keyboard other = k.keyboard handle := same
  rw [shown, keep, press, List.getD_eq_getElem?_getD, List.getElem?_set_self there]
  rfl

/-- Handles on other keyboards show what they showed before. -/
theorem shown_press_of_ne (k : Keyboards) (handle other : Nat) (code : Word)
    (apart : k.keyboard other ≠ k.keyboard handle) :
    (k.press handle code).shown other = k.shown other := by
  have keep : (k.press handle code).keyboard other = k.keyboard other := rfl
  rw [shown, keep, press, List.getD_eq_getElem?_getD, List.getElem?_set_ne (Ne.symm apart), shown,
    List.getD_eq_getElem?_getD]

end Keyboards

end NandMachine
