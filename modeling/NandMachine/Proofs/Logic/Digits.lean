/-
# NandMachine.Proofs.Logic.Digits -- what a row of digits is read as

A bus is written most significant digit first.  Read from the left as a binary numeral,
a row of digits is the number that its levels stand for (`Bus.numeral_eq_value`).  So a
row of the right width is refused for the last of its characters that is no digit, and
is else the bus of its numeral (`Bus.ofDigits?_eq`); and the digits of a bus are read as
that bus (`Bus.ofDigits?_digits`).
-/
import NandMachine.Logic.Bus.Digits
import NandMachine.Proofs.Text.Lines

namespace NandMachine.Bus

set_option autoImplicit false

/-- The number that a row of binary digits is, most significant first. -/
def numeral (cs : List Char) : Nat := cs.foldl (fun n c => 2 * n + if c = '1' then 1 else 0) 0

/-- Of the characters of a row that are no binary digits, the one nearest the end. -/
def stray? (cs : List Char) : Option Char := (cs.filter fun c => c ≠ '0' ∧ c ≠ '1').getLast?

theorem numeral_eq_value (cs : List Char) : numeral cs = value (cs.reverse.map (· == '1')) := by
  have step : (fun (c : Char) n => (c == '1').toNat + 2 * n) =
      fun c n => 2 * n + if c = '1' then 1 else 0 := by
    funext c n
    by_cases one : c = '1'
    · simp [one, Nat.add_comm]
    · simp [one]
  rw [numeral, value_eq_foldr, List.foldr_map, step, List.foldr_reverse]

theorem find?_reverse_eq_stray? (cs : List Char) : cs.reverse.find? (!isDigit ·) = stray? cs := by
  have test : (fun c : Char => decide (c ≠ '0' ∧ c ≠ '1')) = (!isDigit ·) := by
    funext c
    by_cases zero : c = '0' <;> by_cases one : c = '1' <;> simp [isDigit, zero, one]
  rw [stray?, test, List.getLast?_filter]

theorem ofDigits?_eq {n : Nat} {cs : List Char} (width : cs.length = n) :
    ofDigits? n cs =
      match stray? cs with
      | some c => .error (.invalidChar c)
      | none => .ok (BitVec.ofNat n (numeral cs)) := by
  rw [ofDigits?, if_neg (Decidable.not_not.mpr width), find?_reverse_eq_stray?]
  cases stray? cs with
  | some c => rfl
  | none =>
      rw [numeral_eq_value]
      rfl

/-! ## The digits of a bus -/

variable {n : Nat}

theorem mem_digits {b : Bus n} {c : Char} (member : c ∈ b.digits) : c = '0' ∨ c = '1' := by
  obtain ⟨level, _, rfl⟩ := List.mem_map.mp member
  cases level with
  | false => exact .inl rfl
  | true => exact .inr rfl

theorem solid_digits (b : Bus n) : Text.Solid b.digits := by
  intro c member
  rcases mem_digits member with rfl | rfl <;> rfl

theorem stray?_digits (b : Bus n) : stray? b.digits = none := by
  rw [stray?, List.getLast?_eq_none_iff, List.filter_eq_nil_iff]
  intro c member other
  rcases mem_digits member with rfl | rfl <;> simp at other

theorem numeral_digits (b : Bus n) : numeral b.digits = b.toNat := by
  have levels : ((· == '1') ∘ Signal.digit) = id := by
    funext level
    cases level <;> rfl
  rw [numeral_eq_value, digits, ← List.map_reverse, List.reverse_reverse, List.map_map, levels,
    List.map_id, value_signals]

theorem ofDigits?_digits (b : Bus n) : ofDigits? n b.digits = .ok b := by
  rw [ofDigits?_eq b.length_digits, stray?_digits, numeral_digits, BitVec.ofNat_toNat,
    BitVec.setWidth_eq]

end NandMachine.Bus
