/-
# NandMachine.Proofs.Logic.BitString -- which texts are buses

A text is read as a bus of `n` wires in two ways.  Strictly, it has to be the digits of the bus
and nothing else; then the bus is written as that very text, so the strict reading and the digits
of a bus are inverse to each other (`Bus.ofDigits?_eq_ok_iff`).  Any other text is refused for its
number of characters, or else for the last of its characters that is no digit
(`Bus.readStrictly`).

Freely, there may be blanks around the digits and one mark `0b` before them.  Which texts are
accepted is told without trimming (`Bus.Spells`): a text that spells a bus is taken apart into the
blanks, the mark and the digits, and reading finds these parts since neither the digits nor the
mark are blank, and since no digits begin with the mark (`Bus.parse?_eq_ok_iff`).
-/
import Mathlib.Logic.Basic
import NandMachine.Proofs.Logic.Digits

namespace NandMachine

set_option autoImplicit false

namespace Bus

variable {n : Nat}

/-! ## Digits and no digits -/

theorem stray?_eq_none_iff (cs : List Char) :
    stray? cs = none ↔ ∀ c ∈ cs, c = '0' ∨ c = '1' := by
  rw [stray?, List.getLast?_eq_none_iff, List.filter_eq_nil_iff]
  simp only [decide_eq_true_eq, not_and_or, not_not]

/-- The last character that is no digit has only digits behind it. -/
theorem stray?_eq_some_iff (cs : List Char) (c : Char) :
    stray? cs = some c ↔ (c ≠ '0' ∧ c ≠ '1') ∧
      ∃ before after, cs = before ++ c :: after ∧ ∀ d ∈ after, d = '0' ∨ d = '1' := by
  have digit (d : Char) : (!!isDigit d) = true ↔ d = '0' ∨ d = '1' := by simp [isDigit]
  have other : (!isDigit c) = true ↔ c ≠ '0' ∧ c ≠ '1' := by simp [isDigit]
  rw [← find?_reverse_eq_stray?, List.find?_eq_some_iff_append, other]
  refine and_congr_right fun _ => ?_
  constructor
  · rintro ⟨behind, front, split, digits⟩
    refine ⟨front.reverse, behind.reverse, ?_, fun d member => ?_⟩
    · rw [← List.reverse_reverse cs, split, List.reverse_append, List.reverse_cons,
        List.append_assoc, List.singleton_append]
    · exact (digit d).mp (digits d (List.mem_reverse.mp member))
  · rintro ⟨before, after, rfl, digits⟩
    refine ⟨after.reverse, before.reverse, ?_, fun d member => ?_⟩
    · rw [List.reverse_append, List.reverse_cons, List.append_assoc, List.singleton_append]
    · exact (digit d).mpr (digits d (List.mem_reverse.mp member))

theorem signals_ofSignals {lines : List Signal} (width : lines.length = n) :
    (ofSignals lines : Bus n).signals = lines := by
  apply List.ext_getElem
  · rw [length_signals, width]
  · intro i inside inside'
    have wire : i < n := width ▸ inside'
    simp only [signals, List.getElem_map, List.getElem_range]
    rw [getLsbD_ofSignals, decide_eq_true wire, Bool.true_and, List.getD_eq_getElem?_getD,
      List.getElem?_eq_getElem inside', Option.getD_some]

/-- The bus read from a row of digits is written as that row. -/
theorem digits_ofSignals {cs : List Char} (width : cs.length = n)
    (digits : ∀ c ∈ cs, c = '0' ∨ c = '1') :
    (ofSignals (cs.reverse.map (· == '1')) : Bus n).digits = cs := by
  have wires : (cs.reverse.map (· == '1')).length = n := by
    rw [List.length_map, List.length_reverse, width]
  rw [Bus.digits, signals_ofSignals wires, ← List.map_reverse, List.reverse_reverse, List.map_map]
  refine (List.map_congr_left fun c member => ?_).trans (List.map_id cs)
  rcases digits c member with rfl | rfl <;> rfl

/-! ## The strict reading -/

/-- Strict reading and the digits of a bus are inverse to each other. -/
theorem ofDigits?_eq_ok_iff (cs : List Char) (b : Bus n) :
    ofDigits? n cs = .ok b ↔ b.digits = cs := by
  constructor
  · intro read
    rw [ofDigits?, find?_reverse_eq_stray?] at read
    split at read
    case isTrue => cases read
    case isFalse width =>
      cases stray : stray? cs with
      | some c =>
          rw [stray] at read
          cases read
      | none =>
          rw [stray] at read
          obtain rfl := Except.ok.inj read
          exact digits_ofSignals (not_not.mp width) ((stray?_eq_none_iff cs).mp stray)
  · rintro rfl
    exact ofDigits?_digits b

/-- The number of characters is judged before any of them. -/
theorem ofDigits?_eq_error_iff (cs : List Char) (e : DigitError) :
    ofDigits? n cs = .error e ↔
      (cs.length ≠ n ∧ e = .wrongWidth n cs.length) ∨
        (cs.length = n ∧ ∃ c, stray? cs = some c ∧ e = .invalidChar c) := by
  rw [ofDigits?, find?_reverse_eq_stray?]
  by_cases width : cs.length = n
  · cases stray? cs <;> simp [width, eq_comm]
  · simp [width, eq_comm]

/-- What the strict reading of a text comes to, told from its characters. -/
structure ReadStrictly (n : Nat) (s : String) : Prop where
  accepts : (∃ b : Bus n, ofDigits? n s.toList = .ok b) ↔
    s.length = n ∧ ∀ c ∈ s.toList, c = '0' ∨ c = '1'
  shown : ∀ b : Bus n, ofDigits? n s.toList = .ok b ↔ b.text = s
  width : ∀ expected got, ofDigits? n s.toList = .error (.wrongWidth expected got) ↔
    s.length ≠ n ∧ expected = n ∧ got = s.length
  /-- The character that is named is the one nearest the end. -/
  stray : ∀ c, ofDigits? n s.toList = .error (.invalidChar c) ↔
    s.length = n ∧ (c ≠ '0' ∧ c ≠ '1') ∧
      ∃ before after, s.toList = before ++ c :: after ∧ ∀ d ∈ after, d = '0' ∨ d = '1'

theorem readStrictly (n : Nat) (s : String) : ReadStrictly n s := by
  have count : s.toList.length = s.length := String.length_toList
  constructor
  case accepts =>
    constructor
    · rintro ⟨b, read⟩
      have digits : b.digits = s.toList := (ofDigits?_eq_ok_iff _ b).mp read
      rw [← count, ← digits]
      exact ⟨b.length_digits, fun c member => mem_digits member⟩
    · rintro ⟨width, digits⟩
      exact ⟨_, (ofDigits?_eq_ok_iff _ _).mpr (digits_ofSignals (count.trans width) digits)⟩
  case shown =>
    intro b
    rw [ofDigits?_eq_ok_iff, Bus.text, ← String.toList_inj, String.toList_ofList]
  case width =>
    intro expected got
    rw [ofDigits?_eq_error_iff, count]
    simp
  case stray =>
    intro c
    rw [ofDigits?_eq_error_iff, ← stray?_eq_some_iff, count]
    simp

/-! ## The free reading -/

/-- A text that is the digits of a bus, with blanks around them and one mark `0b` before them or
none. -/
def Spells (s : String) (b : Bus n) : Prop :=
  ∃ before mark after : List Char, s.toList = before ++ (mark ++ b.digits) ++ after ∧
    (mark = [] ∨ mark = ['0', 'b']) ∧
      (∀ c ∈ before, Text.isBlank c = true) ∧ ∀ c ∈ after, Text.isBlank c = true

theorem eq_of_dropMark {cs rest : List Char} (dropped : dropMark cs = rest) :
    cs = rest ∨ cs = ['0', 'b'] ++ rest := by
  unfold dropMark at dropped
  split at dropped
  · exact .inr (by rw [← dropped]; rfl)
  · exact .inl dropped

/-- No digits begin with the mark. -/
theorem dropMark_digits (b : Bus n) : dropMark b.digits = b.digits := by
  unfold dropMark
  split
  case h_1 rest marked =>
    have letter : 'b' ∈ b.digits := by simp [marked]
    rcases mem_digits letter with absurd | absurd <;> nomatch absurd
  case h_2 => rfl

/-- Neither the digits of a bus nor the mark before them are blank. -/
theorem solid_append_digits {mark : List Char} (marks : mark = [] ∨ mark = ['0', 'b']) (b : Bus n) :
    Text.Solid (mark ++ b.digits) := by
  have plain : Text.Solid mark := by rcases marks with rfl | rfl <;> decide
  exact plain.append b.solid_digits

theorem parse?_eq_ok_iff (s : String) (b : Bus n) : parse? n s.toList = .ok b ↔ Spells s b := by
  rw [parse?, ofDigits?_eq_ok_iff, eq_comm]
  constructor
  · intro dropped
    obtain ⟨before, after, blankBefore, blankAfter, split⟩ := Text.exists_blanks_append_trim s.toList
    rcases eq_of_dropMark dropped with plain | marked
    · exact ⟨before, [], after, plain ▸ split, .inl rfl, blankBefore, blankAfter⟩
    · exact ⟨before, ['0', 'b'], after, marked ▸ split, .inr rfl, blankBefore, blankAfter⟩
  · rintro ⟨before, mark, after, split, marks, blankBefore, blankAfter⟩
    have solid := solid_append_digits marks b
    rw [split, Text.trim_append blankBefore blankAfter
      (fun c found => solid c (List.mem_of_mem_head? found))
      (fun c found => solid c (List.mem_of_getLast? found))]
    rcases marks with rfl | rfl
    · exact b.dropMark_digits
    · rfl

end Bus

/-- **Bit strings are read exactly.**  Strictly, a text is a bus exactly when it is the digits of
it; any other text is refused for its number of characters, or for the last of them that is no
digit.  Freely, it is a bus exactly when it is the digits of it between blanks, with one mark
before them or none. -/
theorem bit_strings_are_read_exactly (n : Nat) (s : String) :
    Bus.ReadStrictly n s ∧ ∀ b : Bus n, Bus.parse? n s.toList = .ok b ↔ Bus.Spells s b :=
  ⟨Bus.readStrictly n s, Bus.parse?_eq_ok_iff s⟩

-- The mark is taken off once, and a bus of no wires is written as nothing.
example : Bus.parse? 4 "\u2003 0b1010\n".toList = .ok 10#4 ∧
    Bus.parse? 4 "0b0b10".toList = .error (.invalidChar 'b') ∧
    Bus.parse? 0 " 0b".toList = .ok 0#0 := ⟨rfl, rfl, rfl⟩

end NandMachine
