/-
# NandMachine.Text.Pad -- columns

A text is padded to a column with a fill character, on its right or on its left.
A text that is already as wide as its column, or wider, is left as it is.
-/
namespace NandMachine.Text

set_option autoImplicit false

/-- Fills on the right up to a width. -/
def padRight (width : Nat) (fill : Char) (cs : List Char) : List Char :=
  cs ++ List.replicate (width - cs.length) fill

/-- Fills on the left up to a width. -/
def padLeft (width : Nat) (fill : Char) (cs : List Char) : List Char :=
  List.replicate (width - cs.length) fill ++ cs

/-- A number in a column of zeros. -/
def zeroPadded (width n : Nat) : String := String.ofList (padLeft width '0' (toString n).toList)

/-- A text at the left of a column of blanks. -/
def leftColumn (width : Nat) (s : String) : String := String.ofList (padRight width ' ' s.toList)

/-- A text at the right of a column of blanks. -/
def rightColumn (width : Nat) (s : String) : String := String.ofList (padLeft width ' ' s.toList)

end NandMachine.Text
