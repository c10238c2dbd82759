/-
# NandMachine.Text.Blank -- blanks around a text

The characters that carry Unicode's White_Space property, and the trimming of
them from both ends of a text.  The property holds twenty-five characters: the
ASCII blanks with the vertical tab and the form feed, the next-line character,
the no-break space, the Ogham space, the widths of U+2000 to U+200A, the line
and paragraph separators, and the narrow, mathematical and ideographic spaces.
The zero-width space and the byte-order mark are not among them.
-/
namespace NandMachine.Text

set_option autoImplicit false

/-- The characters of Unicode's White_Space property. -/
def isBlank (c : Char) : Bool :=
  let n := c.toNat
  (9 ≤ n && n ≤ 13) || n == 0x20 || n == 0x85 || n == 0xA0 || n == 0x1680 ||
  (0x2000 ≤ n && n ≤ 0x200A) || n == 0x2028 || n == 0x2029 || n == 0x202F ||
  n == 0x205F || n == 0x3000

def trimEnd (cs : List Char) : List Char := (cs.reverse.dropWhile isBlank).reverse

def trim (cs : List Char) : List Char := trimEnd (cs.dropWhile isBlank)

end NandMachine.Text
