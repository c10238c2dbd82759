/-
# NandMachine.Proofs.Storage.Timing -- what a driven part shows, at every cycle

A drive at `now` fixes what a cell shows at every cycle, past and future
(`Cell.read_drive`): up to `now` it shows what it showed at `now`, in the next
cycle it shows what the load line chose, and from then on it is low.  A preset
at `now` shows its level up to `now` and is low afterwards (`Cell.read_preset_at`).
A register is sixteen cells on one load line, so the same holds of its word.

Nothing is asked of the state before: the cell may be fresh, live, stale, or
driven in a cycle that lies ahead of `now`.
-/
import NandMachine.Storage.Register

namespace NandMachine

set_option autoImplicit false

namespace Cell

theorem read_fresh (t : Cycle) : ({} : Cell).read t = false := by
  simp [read]

theorem read_drive (c : Cell) (now t : Cycle) (load level : Signal) :
    (c.drive now load level).read t =
      if t ≤ now then c.read now
      else if t = now + 1 then (if load then level else c.read now)
      else false := by
  by_cases next : t = now + 1
  · subst next
    rw [read_drive_next, if_neg (Nat.not_succ_le_self now), if_pos rfl]
  · by_cases past : t ≤ now
    · -- before the edge the cell shows `cur`, which the drive made what it read at `now`
      have early : t < now + 1 := Nat.lt_succ_of_le past
      rw [if_pos past, drive, read]
      simp only [write, next, early, if_true, if_false, read]
      grind
    · have late : ¬ t < now + 1 := fun early => past (Nat.le_of_lt_succ early)
      rw [if_neg past, if_neg next, drive, read]
      simp only [write, next, late, if_false]

theorem read_preset_at (now t : Cycle) (level : Signal) :
    (preset now level).read t = if t ≤ now then level else false := by
  simp only [read, preset]
  grind

end Cell

namespace Register

theorem read_fresh (t : Cycle) : ({} : Register).read t = 0#16 := by
  apply BitVec.eq_of_getLsbD_eq
  intro i h
  rw [getLsbD_read _ _ _ h]
  simp [Latch.read, Cell.read_fresh]

/-- A driven register at every cycle. -/
theorem read_drive (r : Register) (now t : Cycle) (load : Signal) (input : Word) :
    (r.drive now load input).read t =
      if t ≤ now then r.read now
      else if t = now + 1 then (if load then input else r.read now)
      else 0#16 := by
  apply BitVec.eq_of_getLsbD_eq
  intro i h
  have wire : (r.drive now load input).latches[i].read t =
      (r.latches[i].cell.drive now load (input.getLsbD i)).read t := by
    simp [drive, Latch.drive, Latch.read]
  have before : (r.read now).getLsbD i = r.latches[i].cell.read now := getLsbD_read r now i h
  rw [getLsbD_read _ _ _ h, wire, Cell.read_drive, ← before]
  split
  · rfl
  · split
    · cases load <;> rfl
    · simp

/-- A preset register at every cycle. -/
theorem read_preset_at (now t : Cycle) (word : Word) :
    (preset now word).read t = if t ≤ now then word else 0#16 := by
  apply BitVec.eq_of_getLsbD_eq
  intro i h
  have wire : (preset now word).latches[i].read t =
      (Cell.preset now (word.getLsbD i)).read t := by
    simp [preset, Latch.preset, Latch.read, BitVec.getLsbD_eq_getElem h]
  rw [getLsbD_read _ _ _ h, wire, Cell.read_preset_at]
  split
  · rfl
  · simp

end Register

end NandMachine
