/-
# NandMachine.Proofs.Text.Unbroken -- texts that are one line

A line is put together from words without blanks, numbers, columns and fixed texts, and none of
these holds a line feed or a carriage return (`Text.Unbroken`).  So lines that are written one
after the other, each ended by a line feed, are read again as these lines, each at its number
(`Text.lines_join`, `Text.lineAt?_join`).
-/
import NandMachine.Proofs.Text.Lines
import NandMachine.Text.Pad

namespace NandMachine.Text

set_option autoImplicit false

/-! ## Numbers hold no blanks -/

theorem isBlank_of_isDigit {c : Char} (digit : c.isDigit = true) : isBlank c = false := by
  have bounds : 48 ≤ c.toNat ∧ c.toNat ≤ 57 := by
    simpa [Char.isDigit, UInt32.le_iff_toNat_le] using digit
  simp only [isBlank]
  grind

theorem solid_toDigits {base : Nat} (many : 0 < base) (few : base ≤ 10) (n : Nat) :
    Solid (Nat.toDigits base n) := fun _ member =>
  isBlank_of_isDigit (Nat.isDigit_of_mem_toDigits many few member)

theorem solid_toString (n : Nat) : Solid (toString n).toList := by
  have digits : (toString n).toList = Nat.toDigits 10 n := Nat.toList_repr
  rw [digits]
  exact solid_toDigits (by decide) (by decide) n

/-- A whole number is written in decimal, with a sign when it is negative. -/
theorem toList_toString (i : Int) : (toString i).toList =
    if 0 ≤ i then Nat.toDigits 10 i.toNat else '-' :: Nat.toDigits 10 (-i).toNat := by
  rw [Int.toString_eq_repr, Int.repr_eq_if]
  split
  · exact Nat.toList_repr
  · rw [String.toList_append, Nat.toList_repr]
    rfl

theorem solid_toString_int (i : Int) : Solid (toString i).toList := by
  have digits (n : Nat) : Solid (Nat.toDigits 10 n) := solid_toDigits (by decide) (by decide) n
  have sign : Solid ['-'] := by decide
  rw [toList_toString]
  split
  · exact digits i.toNat
  · exact sign.append (digits (-i).toNat)

theorem solid_padLeft {cs : List Char} (solid : Solid cs) (width : Nat) :
    Solid (padLeft width '0' cs) := by
  have zeros : Solid (List.replicate (width - cs.length) '0') := by
    intro c member
    rw [List.eq_of_mem_replicate member]
    rfl
  exact zeros.append solid

theorem solid_zeroPadded (width n : Nat) : Solid (zeroPadded width n).toList := by
  rw [zeroPadded, String.toList_ofList]
  exact solid_padLeft (solid_toString n) width

/-! ## Parts of a line -/

/-- A text that holds no line end. -/
def Unbroken (s : String) : Prop := '\n' ∉ s.toList ∧ '\r' ∉ s.toList

instance (s : String) : Decidable (Unbroken s) :=
  inferInstanceAs (Decidable ('\n' ∉ s.toList ∧ '\r' ∉ s.toList))

theorem Unbroken.append {s t : String} (left : Unbroken s) (right : Unbroken t) :
    Unbroken (s ++ t) := by
  simp [Unbroken, left.1, left.2, right.1, right.2]

theorem Solid.unbroken {s : String} (solid : Solid s.toList) : Unbroken s :=
  ⟨solid.not_mem rfl, solid.not_mem rfl⟩

/-- A column is filled with spaces. -/
theorem Unbroken.leftColumn {s : String} (whole : Unbroken s) (width : Nat) :
    Unbroken (leftColumn width s) := by
  simp [Unbroken, Text.leftColumn, padRight, whole.1, whole.2]

/-! ## Lines -/

/-- The line of a text with a number, counted from 0. -/
def lineAt? (text : String) (i : Nat) : Option String :=
  (lines text.toList)[i]?.map String.ofList

/-- Lines that are written one after the other are read again. -/
theorem lines_join {texts : List String} (whole : ∀ s ∈ texts, Unbroken s) :
    lines (String.join (texts.map (· ++ "\n"))).toList = texts.map String.toList := by
  rw [toList_join_lines (fun s : String => s)]
  apply lines_flatMap
  · intro line member feed
    obtain ⟨s, inside, rfl⟩ := List.mem_map.mp member
    exact (whole s inside).1 feed
  · intro line member ret
    obtain ⟨s, inside, rfl⟩ := List.mem_map.mp member
    exact (whole s inside).2 (List.mem_of_getLast? ret)

theorem lineAt?_join {texts : List String} (whole : ∀ s ∈ texts, Unbroken s) (i : Nat) :
    lineAt? (String.join (texts.map (· ++ "\n"))) i = texts[i]? := by
  have same : String.ofList ∘ String.toList = id := funext fun _ => String.ofList_toList
  rw [lineAt?, lines_join whole, List.getElem?_map, Option.map_map, same, Option.map_id_apply]

end NandMachine.Text
