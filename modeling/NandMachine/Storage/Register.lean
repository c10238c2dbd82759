/-
# NandMachine.Storage.Register -- a word of storage

A latch is a cell behind a load line.  A register is sixteen latches on one load
line, one for each wire of a word: it reads the word that its latches read and is
driven by driving all of them.
-/
import NandMachine.Logic.Bus
import NandMachine.Storage.Cell

namespace NandMachine

set_option autoImplicit false

/-- A loadable one-bit store. -/
structure Latch where
  cell : Cell := {}
  deriving DecidableEq, Repr, Inhabited

namespace Latch

def read (l : Latch) (now : Cycle) : Signal := l.cell.read now

def drive (l : Latch) (now : Cycle) (load level : Signal) : Latch := ⟨l.cell.drive now load level⟩

/-- A latch that reads `level` at `now`. -/
def preset (now : Cycle) (level : Signal) : Latch := ⟨Cell.preset now level⟩

end Latch

/-- Sixteen latches on one load line. -/
structure Register where
  latches : Vector Latch 16 := Vector.replicate 16 {}
  deriving DecidableEq, Repr, Inhabited

namespace Register

def read (r : Register) (now : Cycle) : Word := Bus.gather (·.read now) r.latches

/-- The register after a drive at `now`: it takes `input` when `load` is high and
holds its word when `load` is low. -/
def drive (r : Register) (now : Cycle) (load : Signal) (input : Word) : Register :=
  ⟨r.latches.mapFinIdx fun i latch _ => latch.drive now load (input.getLsbD i)⟩

/-- A register that reads `word` at `now`. -/
def preset (now : Cycle) (word : Word) : Register :=
  ⟨Vector.ofFn fun i => Latch.preset now (word.getLsbD i.val)⟩

theorem getLsbD_read (r : Register) (now : Cycle) (i : Nat) (h : i < 16) :
    (r.read now).getLsbD i = r.latches[i].read now := Bus.getLsbD_gather _ _ _ h

/-- A driven register reads at the edge what its load line chose. -/
theorem read_drive_next (r : Register) (now : Cycle) (load : Signal) (input : Word) :
    (r.drive now load input).read (now + 1) = if load then input else r.read now := by
  apply BitVec.eq_of_getLsbD_eq
  intro i h
  rw [getLsbD_read _ _ _ h]
  cases load <;> simp [drive, Latch.drive, Latch.read, Cell.read_drive_next, getLsbD_read _ _ _ h]

/-- A drive does not show before its edge. -/
theorem read_drive_now (r : Register) (now : Cycle) (load : Signal) (input : Word) :
    (r.drive now load input).read now = r.read now := by
  apply BitVec.eq_of_getLsbD_eq
  intro i h
  rw [getLsbD_read _ _ _ h, getLsbD_read _ _ _ h]
  simp [drive, Latch.drive, Latch.read, Cell.read_drive_now]

/-- Of two drives in one cycle only the second leaves a trace. -/
theorem drive_drive (r : Register) (now : Cycle) (load load' : Signal) (first second : Word) :
    (r.drive now load first).drive now load' second = r.drive now load' second := by
  simp only [drive, Register.mk.injEq]
  ext i h
  simp [Latch.drive, Cell.drive_drive]

/-- What a driven register shows at the edge tells all that the drive left in it. -/
theorem drive_eq_of_read_next (r : Register) (now : Cycle) {load load' : Signal}
    {input input' : Word}
    (same : (r.drive now load input).read (now + 1) = (r.drive now load' input').read (now + 1)) :
    r.drive now load input = r.drive now load' input' := by
  simp only [drive, Register.mk.injEq]
  apply Vector.ext
  intro i h
  have line := congrArg (·.getLsbD i) same
  simp only [getLsbD_read _ _ _ h] at line
  simp only [drive, Vector.getElem_mapFinIdx, Latch.read, Latch.drive, Cell.drive,
    Cell.read_write_next] at line ⊢
  rw [line]

end Register

end NandMachine
