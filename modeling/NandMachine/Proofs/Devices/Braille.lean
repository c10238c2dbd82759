/-
# NandMachine.Proofs.Devices.Braille -- the braille text is the picture

A braille character is U+2800 plus one bit for each raised dot, bit `n - 1` for dot `n`.  The
dots of a cell are numbered down its two columns, 1 to 3 on the left and 4 to 6 on the right,
and then along its fourth row, 7 and 8 (`Braille.dotAt`).

A cell of the display is collected dot by dot into one number.  No two of its eight pixels go
to one bit of it (`Screen.testBit_dots_at`), so its character raises a dot exactly when the
pixel of the dot is black (`Screen.raised_brailleCell`).  The pixel of every column and row has
a dot in the text (`Screen.cellAt?_braille`), and so nothing is lost: all words of the display
can be read back from the text (`Screen.words_eq_of_braille_eq`).
-/
import NandMachine.Devices.Braille
import NandMachine.Proofs.Devices.Screen

namespace NandMachine

set_option autoImplicit false

/-! ## Braille text -/

namespace Braille

/-- The number of the dot in a column and a row of a cell, both counted from 0. -/
def dotAt (column row : Nat) : Nat := ([[1, 2, 3, 7], [4, 5, 6, 8]].getD column []).getD row 0

/-- A braille character raises a dot. -/
def Raised (c : Char) (dot : Nat) : Prop := (c.toNat - 0x2800).testBit (dot - 1) = true

/-- The character of the cell that a column `x` and a row `y` of dots lie in. -/
def cellAt? (lines : List String) (x y : Nat) : Option Char :=
  lines[y / 4]?.bind fun line => line.toList[x / 2]?

end Braille

/-- Raising bits one after the other raises those that some step raises. -/
theorem testBit_foldl {α : Type} {collect : Nat → α → Nat} {raises : α → Bool} {b : Nat}
    (step : ∀ bits a, (collect bits a).testBit b = (bits.testBit b || raises a)) (l : List α)
    (bits : Nat) : (l.foldl collect bits).testBit b = (bits.testBit b || l.any raises) := by
  induction l generalizing bits with
  | nil => rw [List.foldl_nil, List.any_nil, Bool.or_false]
  | cons a rest ih => rw [List.foldl_cons, ih, step, List.any_cons, Bool.or_assoc]

namespace Screen

/-! ## One cell -/

theorem testBit_dots (screen : Screen) (row column b : Nat) :
    (screen.dots row column).testBit b =
      [0, 1].any fun dx => [0, 1, 2, 3].any fun dy =>
        screen.pixel (2 * column + dx) (4 * row + dy) && decide (dotBit dx dy = b) := by
  have pixel (black : Bool) (bit bits : Nat) :
      (if black then bits ||| 2 ^ bit else bits).testBit b =
        (bits.testBit b || (black && decide (bit = b))) := by
    cases black with
    | false => simp
    | true => simp [Nat.testBit_or, Nat.testBit_two_pow]
  rw [dots, testBit_foldl, Nat.zero_testBit, Bool.false_or]
  intro bits dx
  apply testBit_foldl
  intro bits dy
  exact pixel _ _ bits

/-- The bit of each dot of a cell tells the colour of its own pixel. -/
theorem testBit_dots_at (screen : Screen) (row column : Nat) {dx dy : Nat} (inColumn : dx < 2)
    (inRow : dy < 4) :
    (screen.dots row column).testBit (Braille.dotAt dx dy - 1) =
      screen.pixel (2 * column + dx) (4 * row + dy) := by
  rw [testBit_dots]
  -- One case for each dot: of the eight terms, only that of the dot itself has its bit.
  obtain rfl | rfl : dx = 0 ∨ dx = 1 := by omega
  all_goals
    obtain rfl | rfl | rfl | rfl : dy = 0 ∨ dy = 1 ∨ dy = 2 ∨ dy = 3 := by omega
    all_goals simp [dotBit, Braille.dotAt]

theorem dots_lt (screen : Screen) (row column : Nat) : screen.dots row column < 256 := by
  have low : ∀ dx ∈ [0, 1], ∀ dy ∈ [0, 1, 2, 3], dotBit dx dy < 8 := by decide
  refine Nat.lt_pow_two_of_testBit (n := 8) _ fun b high => ?_
  rw [testBit_dots, List.any_eq_false]
  intro dx inColumn raised
  obtain ⟨dy, inRow, black⟩ := List.any_eq_true.mp raised
  rw [Bool.and_eq_true, decide_eq_true_eq] at black
  have bit := low dx inColumn dy inRow
  omega

theorem toNat_brailleCell (screen : Screen) (row column : Nat) :
    (screen.brailleCell row column).toNat = 0x2800 + screen.dots row column := by
  have small := screen.dots_lt row column
  have valid : (0x2800 + screen.dots row column).isValidChar := by
    left
    omega
  rw [brailleCell, Char.ofNat, dif_pos valid]
  rfl

theorem raised_brailleCell (screen : Screen) (row column : Nat) {dx dy : Nat} (inColumn : dx < 2)
    (inRow : dy < 4) :
    Braille.Raised (screen.brailleCell row column) (Braille.dotAt dx dy) ↔
      screen.pixel (2 * column + dx) (4 * row + dy) = true := by
  rw [Braille.Raised, toNat_brailleCell, Nat.add_sub_cancel_left,
    testBit_dots_at screen row column inColumn inRow]

/-! ## The text -/

theorem cellAt?_braille (screen : Screen) {x y : Nat} (column : x < columns) (row : y < rows) :
    Braille.cellAt? screen.braille x y = some (screen.brailleCell (y / 4) (x / 2)) := by
  have inRows : y / 4 < rows / 4 := by
    unfold rows at *
    omega
  have inColumns : x / 2 < columns / 2 := by
    unfold columns at *
    omega
  simp [Braille.cellAt?, braille, brailleRows, inRows, inColumns]

/-- What the braille text of a display shows.  It has a line of 256 braille characters for each
of the 64 rows of cells; and the dot in the place of every pixel is raised exactly when the wire
of the word that holds the pixel is high. -/
structure ShowsInBraille (screen : Screen) : Prop where
  rows : screen.braille.length = 64
  columns : ∀ line ∈ screen.braille, line.length = 256
  block : ∀ line ∈ screen.braille, ∀ c ∈ line.toList, 0x2800 ≤ c.toNat ∧ c.toNat ≤ 0x28FF
  dots : ∀ x y (column : x < 512) (row : y < 256),
    ∃ c, Braille.cellAt? screen.braille x y = some c ∧
      (Braille.Raised c (Braille.dotAt (x % 2) (y % 4)) ↔
        screen.words[32 * y + x / 16].getLsbD (x % 16) = true)

theorem showsInBraille (screen : Screen) : screen.ShowsInBraille := by
  constructor
  case rows => simp [braille, brailleRows, Screen.rows]
  case columns =>
    intro line member
    simp only [braille, brailleRows, List.mem_map] at member
    obtain ⟨_, ⟨row, _, rfl⟩, rfl⟩ := member
    simp [Screen.columns]
  case block =>
    intro line member c inLine
    simp only [braille, brailleRows, List.mem_map] at member
    obtain ⟨_, ⟨row, _, rfl⟩, rfl⟩ := member
    rw [String.toList_ofList, List.mem_map] at inLine
    obtain ⟨column, _, rfl⟩ := inLine
    have small := screen.dots_lt row column
    rw [toNat_brailleCell]
    omega
  case dots =>
    intro x y column row
    have place : 2 * (x / 2) + x % 2 = x := Nat.div_add_mod x 2
    have place' : 4 * (y / 4) + y % 4 = y := Nat.div_add_mod y 4
    obtain ⟨_, pixel⟩ := screen.pixel_eq column row
    refine ⟨_, cellAt?_braille screen column row, ?_⟩
    rw [raised_brailleCell screen _ _ (Nat.mod_lt x (by decide)) (Nat.mod_lt y (by decide)), place,
      place', pixel]

/-- Only the words of a display are in its text, not the write that waits. -/
theorem braille_congr {screen screen' : Screen} (words : screen.words = screen'.words) :
    screen.braille = screen'.braille := by
  have pixel : screen.pixel = screen'.pixel := by
    funext x y
    rw [Screen.pixel, Screen.pixel, words]
  have cell : screen.brailleCell = screen'.brailleCell := by
    funext row column
    rw [brailleCell, brailleCell, dots, dots, pixel]
  rw [braille, braille, brailleRows, brailleRows, cell]

/-- Every wire of every word has a dot of its own in the text. -/
theorem words_eq_of_braille_eq {screen screen' : Screen}
    (text : screen.braille = screen'.braille) : screen.words = screen'.words := by
  apply Vector.ext
  intro i inside
  apply BitVec.eq_of_getLsbD_eq
  intro b wire
  -- Wire `b` of word `i` is the pixel in column `16 * (i % 32) + b` of row `i / 32`.
  have column : 16 * (i % 32) + b < 512 := by omega
  have row : i / 32 < 256 := by omega
  have word : 32 * (i / 32) + (16 * (i % 32) + b) / 16 = i := by omega
  have line : (16 * (i % 32) + b) % 16 = b := by omega
  obtain ⟨c, cell, shown⟩ := screen.showsInBraille.dots _ _ column row
  obtain ⟨c', cell', shown'⟩ := screen'.showsInBraille.dots _ _ column row
  rw [text, cell'] at cell
  obtain rfl := Option.some.inj cell
  simp only [word, line] at shown shown'
  rw [Bool.eq_iff_iff, ← shown, shown']

end Screen

/-- **The braille text is the picture.**  It shows every pixel of every display in its place,
and two displays have the same text exactly when all their words are the same. -/
theorem braille_text_is_the_picture :
    (∀ screen : Screen, screen.ShowsInBraille) ∧
      ∀ screen screen' : Screen,
        screen.braille = screen'.braille ↔ screen.words = screen'.words :=
  ⟨Screen.showsInBraille, fun _ _ => ⟨Screen.words_eq_of_braille_eq, Screen.braille_congr⟩⟩

end NandMachine
