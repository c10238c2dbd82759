/-
# NandMachine.Devices.Braille -- the display as braille text

Each character stands for a cell of two columns and four rows of pixels.  The
eight dots of a braille character have a bit each in its code point above U+2800;
they are numbered down the left column (1, 2, 3), down the right one (4, 5, 6),
and then along the fourth row (7, 8).
-/
import NandMachine.Devices.Screen

namespace NandMachine.Screen

set_option autoImplicit false

/-- The bit of the dot in a column (0 or 1) and row (0 to 3) of a cell. -/
def dotBit (column row : Nat) : Nat :=
  match column, row with
  | 0, 3 => 6
  | 1, 3 => 7
  | column, row => 3 * column + row

/-- The dots of the cell in a row and column of cells. -/
def dots (screen : Screen) (row column : Nat) : Nat :=
  [0, 1].foldl (fun bits dx => [0, 1, 2, 3].foldl (fun bits dy =>
    if screen.pixel (2 * column + dx) (4 * row + dy) then bits ||| 2 ^ dotBit dx dy else bits)
    bits) 0

/-- The character of a cell. -/
def brailleCell (screen : Screen) (row column : Nat) : Char :=
  Char.ofNat (0x2800 + screen.dots row column)

/-- The characters of each row of cells. -/
def brailleRows (screen : Screen) : List (List Char) :=
  (List.range (rows / 4)).map fun row =>
    (List.range (columns / 2)).map fun column => screen.brailleCell row column

/-- The display as lines of text. -/
def braille (screen : Screen) : List String := screen.brailleRows.map String.ofList

end NandMachine.Screen
