/-
# NandMachine.Proofs.Devices.Screen -- what the display shows after a drive

The display keeps its words for good, so its law is shorter than that of a bank:
up to `now` a drive at `now` shows nothing new, and from the next cycle on the
addressed word is the input if the load line was high (`Screen.peek_drive`).
Settling the display at `now` makes its committed words the words that it shows at
`now` (`Screen.committed_settle`), and a drive with the load line low leaves no write
waiting, so its committed words are then all there is to see.
-/
import NandMachine.Devices.Screen

namespace NandMachine

set_option autoImplicit false

namespace Screen

/-- The committed word at an address. -/
def committed (screen : Screen) (a : Bus 13) : Word := getElem screen.words a.toNat a.isLt

/-- Settling the display at `now` commits what it shows at `now`. -/
theorem committed_settle (screen : Screen) (now : Cycle) (a : Bus 13) :
    (screen.settle now).committed a = screen.peek now a := by
  unfold committed settle peek
  cases screen.pending with
  | none => rfl
  | some p =>
      by_cases due : p.cycle < now
      · by_cases hit : p.address = a
        · subst hit
          simp [due]
        · have apart : p.address.toNat ≠ a.toNat := fun same => hit (BitVec.eq_of_toNat_eq same)
          simp [due, hit, Vector.getElem_set_ne _ _ apart]
      · simp [due]

/-- A display without a waiting write shows its committed words. -/
theorem peek_of_calm {screen : Screen} (calm : screen.pending = none) (t : Cycle) (a : Bus 13) :
    screen.peek t a = screen.committed a := by
  rw [peek, calm]
  rfl

theorem peek_drive (screen : Screen) (now t : Cycle) (input : Word) (load : Signal)
    (address a : Bus 13) :
    (screen.drive now input load address).peek t a =
      if now < t ∧ load = true ∧ a = address then input else screen.peek now a := by
  have settled : (screen.drive now input load address).committed a = screen.peek now a :=
    committed_settle screen now a
  cases load with
  | false => rw [peek_of_calm rfl, settled, if_neg (by simp)]
  | true =>
      have waits : (screen.drive now input true address).pending = some ⟨now, address, input⟩ := rfl
      rw [peek, waits, ← settled]
      simp only [true_and, eq_comm]
      rfl

/-- A drive with the load line low leaves no write waiting. -/
theorem pending_drive_low (screen : Screen) (now : Cycle) (input : Word) (address : Bus 13) :
    (screen.drive now input false address).pending = none := rfl

/-- The word that holds a pixel, and the pixel's place in it. -/
theorem pixel_eq (screen : Screen) {x y : Nat} (column : x < columns) (row : y < rows) :
    ∃ _ : 32 * y + x / 16 < 8192,
      screen.pixel x y = screen.words[32 * y + x / 16].getLsbD (x % 16) := by
  have place : y * columns / 16 + x / 16 = 32 * y + x / 16 := by
    unfold columns
    omega
  have inside : 32 * y + x / 16 < 8192 := by
    unfold columns rows at *
    omega
  refine ⟨inside, ?_⟩
  rw [pixel, if_pos ⟨column, row⟩, place, Vector.getElem?_eq_getElem inside, Option.getD_some]

end Screen

end NandMachine
