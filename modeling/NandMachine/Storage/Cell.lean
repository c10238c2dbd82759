/-
# NandMachine.Storage.Cell -- one bit of storage

A cell keeps the level latched at its last edge (`cur`), the level that waits for
the next one (`next`), and the cycle at which `next` takes over (`edge`).  Reads
within a cycle agree however many drives the cycle sees, because a drive writes
only what shows after the edge; a second drive in the same cycle replaces the
waiting level.

A cell must be driven in every cycle to keep its level: once more than one edge
has passed since its last drive it reads low.
-/
import NandMachine.Logic.Signal
import NandMachine.Storage.Cycle

namespace NandMachine

set_option autoImplicit false

/-- A one-bit store that changes at clock edges only. -/
structure Cell where
  cur : Signal := false
  next : Signal := false
  edge : Cycle := 0
  deriving DecidableEq, Repr, Inhabited

namespace Cell

/-- The level latched at the most recent edge before or at `now`; low when more
than one edge has passed without a drive. -/
def read (c : Cell) (now : Cycle) : Signal :=
  if now = c.edge then c.next
  else if now < c.edge then c.cur
  else false

/-- Schedules a level for the edge after `now`. -/
def write (c : Cell) (now : Cycle) (level : Signal) : Cell where
  cur := if c.edge = now then c.next else if c.edge < now then false else c.cur
  next := level
  edge := now + 1

/-- Drives the cell for one cycle: it takes `level` when `load` is high and holds
what it reads when `load` is low. -/
def drive (c : Cell) (now : Cycle) (load level : Signal) : Cell :=
  c.write now (Gate.mux (c.read now) level load)

/-- A cell that reads `level` at `now`. -/
def preset (now : Cycle) (level : Signal) : Cell where
  cur := level
  next := level
  edge := now

theorem read_write_next (c : Cell) (now : Cycle) (level : Signal) :
    (c.write now level).read (now + 1) = level := by
  simp [read, write]

/-- A write does not show before its edge. -/
theorem read_write_now (c : Cell) (now : Cycle) (level : Signal) :
    (c.write now level).read now = c.read now := by
  simp only [read, write]
  grind

/-- A driven cell reads at the edge what its load line chose. -/
theorem read_drive_next (c : Cell) (now : Cycle) (load level : Signal) :
    (c.drive now load level).read (now + 1) = if load then level else c.read now := by
  rw [drive, read_write_next, Gate.mux_eq]

theorem read_drive_now (c : Cell) (now : Cycle) (load level : Signal) :
    (c.drive now load level).read now = c.read now := read_write_now _ _ _

/-- Of two writes in one cycle only the second leaves a trace. -/
theorem write_write (c : Cell) (now : Cycle) (first second : Signal) :
    (c.write now first).write now second = c.write now second := by
  simp only [write, Cell.mk.injEq, and_true]
  grind

/-- Of two drives in one cycle only the second leaves a trace. -/
theorem drive_drive (c : Cell) (now : Cycle) (load load' first second : Signal) :
    (c.drive now load first).drive now load' second = c.drive now load' second := by
  rw [drive, read_drive_now, drive, write_write, drive]

end Cell

end NandMachine
