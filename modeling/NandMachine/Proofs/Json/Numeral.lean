/-
# NandMachine.Proofs.Json.Numeral -- whole numbers in JSON text

A run of digits may stand in a JSON number when it has no leading zero (`Numeral`),
and each number has exactly one such run, its decimal notation
(`Numeral.toDigits_decimalValue`).  The reader takes as many characters as belong
to a literal, so what follows must not extend it (`EndsNumber`); after that it reads
the notation of a number back (`unsigned?_toDigits`), and it answers `integer` for
nothing else (`unsigned?_eq_integer`).

`parse?_eq_nat_iff` puts the two directions together for whole texts: a text is the
number `n` exactly when it holds the digits of `n` and blanks around them.  With a
sign, a fraction, an exponent or a leading zero it is never that number.
-/
import Mathlib.Data.List.DropRight
import Mathlib.Data.List.Induction
import Mathlib.Data.Option.Basic
import NandMachine.Json.Parser
import NandMachine.Proofs.Text.Unbroken

namespace NandMachine.Json

set_option autoImplicit false

/-! ## Blanks -/

/-- Characters that may stand around a value. -/
def Blank (cs : List Char) : Prop := ∀ c ∈ cs, isBlank c = true

theorem skipBlanks_append {blanks : List Char} (blank : Blank blanks) (cs : List Char) :
    skipBlanks (blanks ++ cs) = skipBlanks cs :=
  List.dropWhile_append_of_pos blank

theorem skipBlanks_of_blank {blanks : List Char} (blank : Blank blanks) : skipBlanks blanks = [] :=
  List.dropWhile_eq_nil_iff.mpr blank

theorem skipBlanks_cons {c : Char} (solid : isBlank c = false) (cs : List Char) :
    skipBlanks (c :: cs) = c :: cs := by
  simp [skipBlanks, solid]

@[simp] theorem skipBlanks_skipBlanks (cs : List Char) :
    skipBlanks (skipBlanks cs) = skipBlanks cs :=
  List.dropWhile_idempotent isBlank cs

/-- A text is the blanks that the reader skips and what it leaves. -/
theorem exists_blank_append_skipBlanks (cs : List Char) :
    ∃ blanks, Blank blanks ∧ blanks ++ skipBlanks cs = cs :=
  ⟨cs.takeWhile isBlank, fun _ member => List.mem_takeWhile_imp member,
    List.takeWhile_append_dropWhile⟩

theorem blank_of_skipBlanks_eq_nil {cs : List Char} (nothing : skipBlanks cs = []) : Blank cs :=
  List.dropWhile_eq_nil_iff.mp nothing

/-- A value is read past the blanks before it. -/
theorem value?_congr {cs cs' : List Char} (same : skipBlanks cs = skipBlanks cs') :
    ∀ budget, value? budget cs = value? budget cs'
  | 0 => rfl
  | budget + 1 => by rw [value?, value?, same]

/-! ## Digits -/

theorem digit_bounds {d : Char} (digit : d.isDigit = true) : 48 ≤ d.toNat ∧ d.toNat ≤ 57 := by
  simp only [Char.isDigit, Bool.and_eq_true, decide_eq_true_eq] at digit
  exact ⟨digit.1, digit.2⟩

/-- A digit is the notation of its own value. -/
theorem toDigits_digit {d : Char} (digit : d.isDigit = true) :
    Nat.toDigits 10 (d.toNat - '0'.toNat) = [d] := by
  have each : ∀ k < 10, Nat.toDigits 10 k = [Char.ofNat (48 + k)] := by decide
  have bounds := digit_bounds digit
  have zero : '0'.toNat = 48 := rfl
  rw [each _ (by omega), zero, Nat.add_sub_cancel' bounds.1, Char.ofNat_toNat]

theorem decimalValue_append_digit (ds : List Char) (d : Char) :
    decimalValue (ds ++ [d]) = 10 * decimalValue ds + (d.toNat - '0'.toNat) := by
  simp [decimalValue]

@[simp] theorem decimalValue_toDigits (n : Nat) : decimalValue (Nat.toDigits 10 n) = n :=
  Nat.ofDigitChars_ten_toDigits

/-- The digits of a number literal: at least one, and a leading zero is all of them. -/
structure Numeral (ds : List Char) : Prop where
  nonempty : ds ≠ []
  digit : ∀ d ∈ ds, d.isDigit = true
  unpadded : ds.head? = some '0' → ds.length = 1

theorem head?_toDigits_ne_zero {n : Nat} (positive : 0 < n) :
    (Nat.toDigits 10 n).head? ≠ some '0' := by
  induction n using Nat.strongRecOn with
  | ind n earlier =>
    have each : ∀ k < 10, 0 < k → [Nat.digitChar k].head? ≠ some '0' := by decide
    rw [Nat.toDigits_eq_if (by decide)]
    split
    next small => exact each n small positive
    next large =>
      rw [List.head?_append_of_ne_nil _ Nat.toDigits_ne_nil]
      exact earlier (n / 10) (by omega) (by omega)

theorem numeral_toDigits (n : Nat) : Numeral (Nat.toDigits 10 n) where
  nonempty := Nat.toDigits_ne_nil
  digit _ member := Nat.isDigit_of_mem_toDigits (by decide) (by decide) member
  unpadded zero := by
    rcases Nat.eq_zero_or_pos n with rfl | positive
    · rfl
    · exact absurd zero (head?_toDigits_ne_zero positive)

/-- A numeral is the notation of its value. -/
theorem Numeral.toDigits_decimalValue {ds : List Char} (numeral : Numeral ds) :
    Nat.toDigits 10 (decimalValue ds) = ds := by
  induction ds using List.reverseRecOn with
  | nil => exact absurd rfl numeral.nonempty
  | append_singleton front d earlier =>
    have digit : d.isDigit = true := numeral.digit d (by simp)
    rw [decimalValue_append_digit]
    by_cases first : front = []
    · subst first
      simpa [decimalValue] using toDigits_digit digit
    · -- more digits follow, so the first is not a zero and the front is worth something
      have lead : front.head? ≠ some '0' := by
        intro zero
        have short := numeral.unpadded (by rw [List.head?_append_of_ne_nil _ first, zero])
        rw [List.length_append, List.length_singleton] at short
        exact first (List.eq_nil_of_length_eq_zero (by omega))
      have front_eq := earlier ⟨first, fun d member => numeral.digit d (by simp [member]),
        fun zero => absurd zero lead⟩
      have positive : 0 < decimalValue front := by
        refine Nat.pos_of_ne_zero fun zero => lead ?_
        rw [← front_eq, zero]; rfl
      have bounds := digit_bounds digit
      have zero : '0'.toNat = 48 := rfl
      rw [← Nat.toDigits_append_toDigits (by decide) positive (by omega), front_eq,
        toDigits_digit digit]

/-- The reader's test for digits that may stand in a literal. -/
theorem numeral_digits_iff (cs : List Char) : Numeral (digits cs).1 ↔
    (!(digits cs).1.isEmpty &&
      ((digits cs).1.head? != some '0' || (digits cs).1.length == 1)) = true := by
  have digit : ∀ d ∈ (digits cs).1, d.isDigit = true := fun _ member =>
    List.mem_takeWhile_imp member
  constructor
  · rintro ⟨nonempty, -, unpadded⟩
    grind
  · intro passes
    refine ⟨?_, digit, ?_⟩ <;> grind

/-! ## Literals -/

/-- A character that would extend a number literal. -/
def extendsNumber (c : Char) : Bool := c.isDigit || c == '.' || c == 'e' || c == 'E'

/-- What stands after a number literal does not extend it. -/
def EndsNumber (rest : List Char) : Prop := ∀ c ∈ rest.head?, extendsNumber c = false

theorem endsNumber_nil : EndsNumber [] := by simp [EndsNumber]

theorem endsNumber_cons {c : Char} (ends : extendsNumber c = false) (rest : List Char) :
    EndsNumber (c :: rest) := by
  simpa [EndsNumber] using ends

theorem extendsNumber_of_isBlank {c : Char} (blank : isBlank c = true) :
    extendsNumber c = false := by
  simp only [isBlank, Bool.or_eq_true, beq_iff_eq] at blank
  rcases blank with ((rfl | rfl) | rfl) | rfl <;> decide

/-- Blanks end a number, and without blanks what comes next has to. -/
theorem endsNumber_append {blanks rest : List Char} (blank : Blank blanks)
    (ends : EndsNumber rest) : EndsNumber (blanks ++ rest) := by
  cases blanks with
  | nil => exact ends
  | cons c blanks => exact endsNumber_cons (extendsNumber_of_isBlank (blank c (by simp))) _

theorem digits_append {ds rest : List Char} (digit : ∀ d ∈ ds, d.isDigit = true)
    (ends : EndsNumber rest) : digits (ds ++ rest) = (ds, rest) := by
  rw [digits, List.takeWhile_append_of_pos digit, List.dropWhile_append_of_pos digit]
  cases rest with
  | nil => simp
  | cons c rest =>
    have stop : c.isDigit = false := by
      have := ends c rfl
      simp only [extendsNumber, Bool.or_eq_false_iff] at this
      exact this.1.1.1
    simp [stop]

theorem fraction?_of_ends {rest : List Char} (ends : EndsNumber rest) :
    fraction? rest = some ([], rest) := by
  unfold fraction?
  split
  · exact absurd (ends '.' rfl) (by decide)
  · rfl

theorem exponent?_of_ends {rest : List Char} (ends : EndsNumber rest) :
    exponent? rest = some ([], rest) := by
  unfold exponent?
  split
  all_goals first
    | exact absurd (ends 'e' rfl) (by decide)
    | exact absurd (ends 'E' rfl) (by decide)
    | rfl

/-- A fraction that takes no character is none. -/
theorem fraction?_eq_nil {cs rest : List Char} (none_there : fraction? cs = some ([], rest)) :
    rest = cs := by
  unfold fraction? at none_there
  grind

theorem exponent?_eq_nil {cs rest : List Char} (none_there : exponent? cs = some ([], rest)) :
    rest = cs := by
  unfold exponent? at none_there
  grind

/-- The number of a literal with a sign or none. -/
def signed (negative : Bool) (n : Nat) : Int := if negative then -(n : Int) else n

/-- The notation of a number is read back. -/
theorem unsigned?_toDigits {negative : Bool} {n : Nat} {rest : List Char} (ends : EndsNumber rest)
    (proper : negative = true → n ≠ 0) :
    unsigned? negative (Nat.toDigits 10 n ++ rest) = some (integer (signed negative n), rest) := by
  have split : digits (Nat.toDigits 10 n ++ rest) = (Nat.toDigits 10 n, rest) :=
    digits_append (numeral_toDigits n).digit ends
  have passes := (numeral_digits_iff (Nat.toDigits 10 n ++ rest)).mp
    (by rw [split]; exact numeral_toDigits n)
  have zero : (negative && n == 0) = false := by
    cases negative
    · rfl
    · simpa using proper rfl
  rw [split] at passes
  simp [unsigned?, split, passes, fraction?_of_ends ends, exponent?_of_ends ends, zero, signed]

/-- Only the notation of a number is read as an integer. -/
theorem unsigned?_eq_integer {negative : Bool} {cs rest : List Char} {i : Int}
    (reads : unsigned? negative cs = some (integer i, rest)) :
    ∃ n, i = signed negative n ∧ (negative = true → n ≠ 0) ∧ cs = Nat.toDigits 10 n ++ rest := by
  simp only [unsigned?, Option.bind_eq_bind, Option.bind_eq_some_iff,
    Option.guard_eq_some'] at reads
  obtain ⟨-, passes, ⟨point, afterPoint⟩, fraction, ⟨power, afterPower⟩, exponent, answer⟩ :=
    reads
  have numeral := (numeral_digits_iff cs).mpr passes
  split at answer
  next plain =>
    simp only [Bool.and_eq_true, List.isEmpty_iff] at plain
    obtain ⟨⟨rfl, rfl⟩, proper⟩ := plain
    obtain rfl := fraction?_eq_nil fraction
    obtain rfl := exponent?_eq_nil exponent
    simp only [Option.pure_def, Option.some.injEq, Prod.mk.injEq, integer.injEq] at answer
    obtain ⟨number, left⟩ := answer
    refine ⟨decimalValue (digits cs).1, number.symm, ?_, ?_⟩
    · rintro rfl zero
      simp [zero] at proper
    · rw [numeral.toDigits_decimalValue, ← left]
      exact List.takeWhile_append_dropWhile.symm
  next => cases answer

/-- A value that begins with a digit is a number without a sign. -/
theorem value?_of_digit {d : Char} (digit : d.isDigit = true) (budget : Nat) (cs : List Char) :
    value? (budget + 1) (d :: cs) = unsigned? false (d :: cs) := by
  have solid : isBlank d = false := by
    by_contra blank
    have := extendsNumber_of_isBlank (by simpa using blank)
    simp [extendsNumber, digit] at this
  rw [value?, skipBlanks_cons solid]
  split
  case h_8 => rfl
  all_goals
    -- a mark that opens another kind of value is no digit
    rename_i mark
    obtain ⟨rfl, -⟩ := List.cons.inj mark
    exact absurd digit (by decide)

/-- A minus sign opens a number too. -/
theorem value?_minus (budget : Nat) (cs : List Char) :
    value? (budget + 1) ('-' :: cs) = unsigned? true cs := by
  rw [value?, skipBlanks_cons (by decide)]
  rfl

theorem value?_toDigits (budget n : Nat) {rest : List Char} (ends : EndsNumber rest) :
    value? (budget + 1) (Nat.toDigits 10 n ++ rest) = some (integer n, rest) := by
  have reads : unsigned? false (Nat.toDigits 10 n ++ rest) = some (integer n, rest) :=
    unsigned?_toDigits ends (by simp)
  have numeral := numeral_toDigits n
  generalize Nat.toDigits 10 n = ds at reads numeral ⊢
  cases ds with
  | nil => exact absurd rfl numeral.nonempty
  | cons d ds => rw [← reads, List.cons_append, value?_of_digit (numeral.digit d (by simp))]

theorem value?_toString (budget : Nat) (i : Int) {rest : List Char} (ends : EndsNumber rest) :
    value? (budget + 1) ((toString i).toList ++ rest) = some (integer i, rest) := by
  rw [Text.toList_toString]
  split
  next positive =>
    have number : ((i.toNat : Nat) : Int) = i := Int.toNat_of_nonneg positive
    rw [value?_toDigits budget i.toNat ends, number]
  next negative =>
    have number : signed true (-i).toNat = i := by
      simp only [signed, if_true]; omega
    rw [List.cons_append, value?_minus, unsigned?_toDigits ends (by omega), number]

theorem word?_ne_integer {word cs rest : List Char} {value : Json} {i : Int}
    (other : value ≠ integer i) : word? word value cs ≠ some (integer i, rest) := by
  unfold word?
  split <;> simp [other]

/-- Only the notation of a number is read as one that is not negative. -/
theorem value?_eq_nat {budget n : Nat} {cs rest : List Char}
    (reads : value? budget cs = some (integer n, rest)) :
    skipBlanks cs = Nat.toDigits 10 n ++ rest := by
  cases budget with
  | zero => cases reads
  | succ budget =>
    rw [value?] at reads
    split at reads
    case h_4 minus rest' sign =>
      obtain ⟨m, number, proper, -⟩ := unsigned?_eq_integer reads
      have := proper rfl
      simp only [signed, if_true] at number
      omega
    case h_8 =>
      obtain ⟨m, number, -, written⟩ := unsigned?_eq_integer reads
      obtain rfl : n = m := Int.ofNat_inj.mp number
      exact written
    case h_2 | h_3 => split at reads <;> simp at reads
    case h_5 | h_6 | h_7 => exact absurd reads (word?_ne_integer (by simp))
    case h_1 => simp at reads

/-- The text of a number that is not negative: its digits, with blanks around them. -/
def Spells (text : String) (n : Nat) : Prop :=
  ∃ before after, Blank before ∧ Blank after ∧
    text.toList = before ++ Nat.toDigits 10 n ++ after

/-- A text is a number that is not negative exactly when it spells it. -/
theorem parse?_eq_nat_iff (text : String) (n : Nat) :
    parse? text = some (integer n) ↔ Spells text n := by
  constructor
  · intro parses
    simp only [parse?, Option.bind_eq_bind, Option.bind_eq_some_iff] at parses
    obtain ⟨⟨value, rest⟩, reads, answer⟩ := parses
    split at answer
    next nothing =>
      obtain rfl : value = integer n := by simpa using answer
      obtain ⟨before, blank, split⟩ := exists_blank_append_skipBlanks text.toList
      refine ⟨before, rest, blank, blank_of_skipBlanks_eq_nil (by simpa using nothing), ?_⟩
      rw [List.append_assoc, ← value?_eq_nat reads, split]
    next => cases answer
  · rintro ⟨before, after, blank, blank', spelled⟩
    have reads : value? (text.toList.length + 1) text.toList = some (integer n, after) := by
      have same : skipBlanks text.toList = skipBlanks (Nat.toDigits 10 n ++ after) := by
        rw [spelled, List.append_assoc, skipBlanks_append blank]
      rw [value?_congr same]
      exact value?_toDigits _ n (by simpa using endsNumber_append blank' endsNumber_nil)
    simp [parse?, reads, skipBlanks_of_blank blank']

end NandMachine.Json
