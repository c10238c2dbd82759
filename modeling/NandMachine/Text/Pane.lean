/-
# NandMachine.Text.Pane -- boxes of text

A pane is a box of a given width and height, drawn with box-drawing characters.
Its title starts at the second cell of the top border.  Its lines fill the inside
from the top; each is cut at the inner width, and lines below the inner height
are not shown.  Panes of one height stand side by side, panes of one width stand
on each other.
-/
import NandMachine.Text.Pad

namespace NandMachine.Text

set_option autoImplicit false

structure Pane where
  width : Nat
  height : Nat
  title : String
  lines : List String

namespace Pane

/-- A text cut to a width or filled up to it. -/
def fitted (width : Nat) (fill : Char) (cs : List Char) : List Char :=
  padRight width fill (cs.take width)

/-- The rows of a pane from top to bottom. -/
def rows (p : Pane) : List (List Char) :=
  let inner := p.width - 2
  let top := '┌' :: fitted inner '─' p.title.toList ++ ['┐']
  let body := (List.range (p.height - 2)).map fun i =>
    '│' :: fitted inner ' ' ((p.lines[i]?.getD "").toList) ++ ['│']
  let bottom := '└' :: List.replicate inner '─' ++ ['┘']
  top :: body ++ [bottom]

/-- Panes that stand on each other. -/
def stacked (panes : List Pane) : List (List Char) := panes.flatMap rows

end Pane

/-- Rows that stand side by side. -/
def beside (left right : List (List Char)) : List String :=
  List.zipWith (fun l r => String.ofList (l ++ r)) left right

end NandMachine.Text
