/-
# NandMachine.Text.Lines -- lines of a text

A text is cut after each line feed.  The line feed is dropped, and a carriage
return right before it with it; a text that ends in a line feed has no empty line
after it.
-/
namespace NandMachine.Text

set_option autoImplicit false

/-- A finished line from its reversed characters. -/
def closeLine : List Char → List Char
  | '\r' :: rest => rest.reverse
  | rest => rest.reverse

/-- The lines of a text after the reversed start of its first line, behind lines
already cut (reversed). -/
def linesFrom (start : List Char) (cut : List (List Char)) : List Char → List (List Char)
  | [] => (if start.isEmpty then cut else start.reverse :: cut).reverse
  | c :: rest =>
      if c = '\n' then linesFrom [] (closeLine start :: cut) rest
      else linesFrom (c :: start) cut rest

def lines (cs : List Char) : List (List Char) := linesFrom [] [] cs

theorem linesFrom_eq_append (start : List Char) (cut : List (List Char)) (cs : List Char) :
    linesFrom start cut cs = cut.reverse ++ linesFrom start [] cs := by
  induction cs generalizing start cut with
  | nil => by_cases h : start.isEmpty <;> simp [linesFrom, h]
  | cons c rest ih =>
      simp only [linesFrom]
      split
      · rw [ih, ih [] [closeLine start]]; simp
      · rw [ih]

end NandMachine.Text
