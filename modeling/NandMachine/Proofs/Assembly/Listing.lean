/-
# NandMachine.Proofs.Assembly.Listing -- a listing loses nothing

A listing has one line for each word of a program.  No mnemonic holds a blank
(`Assembly.solid_mnemonic`), so no line is cut by a line feed of its own, and the column of a word
is its mnemonic up to the first blank, however long the mnemonic is.  The digits at the end hold
no slash, so the last mark of a line is the one in front of them, and they are read back as the
word (`Listing.shows_line`).

Hence the lines of a listing are one for each word, in order, and the program is read from it
again (`Listing.read?_ofProgram`).
-/
import NandMachine.Assembly.Listing
import NandMachine.Proofs.Assembly.Disassembly
import NandMachine.Proofs.Logic.Digits
import NandMachine.Proofs.Text.Unbroken
import NandMachine.Proofs.Traversal

namespace NandMachine

set_option autoImplicit false

/-! ## Mnemonics hold no blanks -/

namespace Assembly

theorem solid_overMemory {cs : List Char} (solid : Text.Solid cs) :
    Text.Solid (cs.map fun c => if c = 'A' then 'M' else c) := by
  intro c member
  obtain ⟨letter, found, rfl⟩ := List.mem_map.mp member
  split
  · rfl
  · exact solid letter found

/-- The expressions of the table, and the bits of a field that is not in it. -/
theorem solid_compText (fromMemory : Bool) (control : Bus 8) :
    Text.Solid (compText fromMemory control).toList := by
  cases found : compExpression control with
  | some text =>
      have plain : Text.Solid text.toList := by
        unfold compExpression at found
        split at found
        case h_19 => nomatch found
        all_goals
          obtain rfl := Option.some.inj found
          decide
      rw [toList_compText found]
      cases fromMemory with
      | false => exact plain
      | true => exact solid_overMemory plain
  | none =>
      have bits : Text.Solid (Text.padLeft 6 '0' (Nat.toDigits 2 control.toNat)) :=
        Text.solid_padLeft (Text.solid_toDigits (by decide) (by decide) _) 6
      have shown : (compText fromMemory control).toList =
          "comp?".toList ++ Text.padLeft 6 '0' (Nat.toDigits 2 control.toNat) := by
        rw [compText, found]
        exact String.toList_append.trans (congrArg _ String.toList_ofList)
      rw [shown]
      exact Text.Solid.append (by decide) bits

theorem solid_mnemonic (w : Word) : Text.Solid w.mnemonic.toList := by
  rw [Word.mnemonic]
  cases Instruction.ofWord w with
  | address constant =>
      rw [Instruction.mnemonic, String.toList_append]
      exact Text.Solid.append (by decide) (Text.solid_toString _)
  | compute fromMemory control dest jump =>
      have letters : Text.Solid (destPart dest) := by
        obtain ⟨a, d, m⟩ := dest
        revert a d m
        decide
      have condition : Text.Solid (jumpPart jump) := by cases jump <;> decide
      rw [toList_mnemonic_compute]
      exact letters.append ((solid_compText fromMemory control).append condition)

end Assembly

namespace Listing

/-! ## The parts of a line -/

/-- What stands in front of the first colon. -/
def numberPart (line : List Char) : List Char := line.takeWhile (· ≠ ':')

/-- The last sixteen characters. -/
def digitsPart (line : List Char) : List Char := line.drop (line.length - 16)

/-- A decimal number in at least five digits. -/
def fiveDigits (n : Nat) : List Char :=
  let digits := Nat.toDigits 10 n
  List.replicate (5 - digits.length) '0' ++ digits

/-- The mark in front of the digits. -/
def mark : List Char := [' ', '/', '/', ' ']

/-- What a line shows of a word and its address. -/
structure Shows (line : List Char) (address : Nat) (w : Word) : Prop where
  number : numberPart line = fiveDigits address
  /-- Between the first colon with the blank behind it and the last mark stands the mnemonic, and
  blanks behind it up to a column of sixteen. -/
  column : ∃ behind, ¬ mark <:+: (mark ++ behind).tail ∧
    line = numberPart line ++ [':', ' '] ++
      (w.mnemonic.toList ++ List.replicate (16 - w.mnemonic.length) ' ') ++ (mark ++ behind)
  /-- So the mnemonic ends at the first blank. -/
  solid : Text.Solid w.mnemonic.toList
  digits : Bus.ofDigits? 16 (digitsPart line) = .ok w

theorem toList_line (address : Nat) (w : Word) :
    (line address w).toList =
      fiveDigits address ++ [':', ' '] ++
        (w.mnemonic.toList ++ List.replicate (16 - w.mnemonic.length) ' ') ++
          (mark ++ w.digits) := by
  have digits : (toString address).toList = Nat.toDigits 10 address := Nat.toList_repr
  have padded : (Text.zeroPadded 5 address).toList = fiveDigits address := by
    rw [Text.zeroPadded, String.toList_ofList, digits]
    rfl
  have column : (Text.leftColumn 16 w.mnemonic).toList =
      w.mnemonic.toList ++ List.replicate (16 - w.mnemonic.length) ' ' := by
    rw [Text.leftColumn, String.toList_ofList, Text.padRight, String.length_toList]
  simp only [line, String.toList_append, padded, column, Bus.text, String.toList_ofList, mark,
    List.append_assoc]
  rfl

/-- Neither the digits of an address nor the zeros before them are colons or blanks. -/
theorem isDigit_of_mem_fiveDigits {n : Nat} {c : Char} (member : c ∈ fiveDigits n) :
    c.isDigit = true := by
  rcases List.mem_append.mp member with zero | digit
  · rw [List.eq_of_mem_replicate zero]
    rfl
  · exact Nat.isDigit_of_mem_toDigits (by decide) (by decide) digit

theorem numberPart_line (address : Nat) (w : Word) :
    numberPart (line address w).toList = fiveDigits address := by
  have before : ∀ c ∈ fiveDigits address, decide (c ≠ ':') = true := by
    intro c member
    refine decide_eq_true fun colon => ?_
    have digit := isDigit_of_mem_fiveDigits member
    rw [colon] at digit
    nomatch digit
  rw [numberPart, toList_line]
  simp only [List.append_assoc]
  rw [List.takeWhile_append_of_pos before]
  simp

theorem digitsPart_line (address : Nat) (w : Word) :
    digitsPart (line address w).toList = w.digits := by
  have width := w.length_digits
  rw [digitsPart, toList_line, ← List.append_assoc _ mark, List.length_append, width,
    Nat.add_sub_cancel, List.drop_left]

/-- The last mark of a line is the one in front of the digits, which hold no slash. -/
theorem mark_last (w : Word) : ¬ mark <:+: (mark ++ w.digits).tail := by
  have plain : '/' ∉ w.digits := by
    intro slash
    rcases Bus.mem_digits slash with absurd | absurd <;> nomatch absurd
  rintro ⟨before, after, split⟩
  cases before with
  | nil => nomatch (List.cons.inj split).1
  | cons first rest =>
      -- one slash is left behind the first, and a mark has two
      have count := congrArg (List.count '/') (List.cons.inj split).2
      simp [mark, List.count_append, List.count_eq_zero.mpr plain] at count
      omega

theorem shows_line (address : Nat) (w : Word) : Shows (line address w).toList address w where
  number := numberPart_line address w
  column := by
    refine ⟨w.digits, mark_last w, ?_⟩
    rw [numberPart_line, toList_line]
  solid := Assembly.solid_mnemonic w
  digits := by
    rw [digitsPart_line]
    exact Bus.ofDigits?_digits w

/-! ## The listing of a program -/

/-- The lines of a listing, without their line ends. -/
def linesOf (program : Array Word) : List (List Char) :=
  program.toList.zipIdx.map fun entry => (line entry.2 entry.1).toList

theorem toList_ofProgram (program : Array Word) :
    (ofProgram program).toList = (linesOf program).flatMap (· ++ ['\n']) := by
  have ended : (fun ((w, address) : Word × Nat) => line address w ++ "\n") =
      fun entry => line entry.2 entry.1 ++ "\n" := funext fun ⟨_, _⟩ => rfl
  rw [ofProgram, ended, Text.toList_join_lines, linesOf]

theorem getElem?_linesOf {program : Array Word} {i : Nat} (inside : i < program.size) :
    (linesOf program)[i]? = some (line i program[i]).toList := by
  rw [linesOf, List.getElem?_map, List.getElem?_zipIdx, Array.getElem?_toList,
    Array.getElem?_eq_getElem inside]
  simp

/-- Neither the numbers nor the mnemonic are broken, and the blanks around them are spaces. -/
theorem unbroken_line (address : Nat) (w : Word) : Text.Unbroken (line address w) := by
  have mnemonic : Text.Unbroken w.mnemonic := (Assembly.solid_mnemonic w).unbroken
  have digits : Text.Unbroken w.text := by
    apply Text.Solid.unbroken
    rw [Bus.text, String.toList_ofList]
    exact w.solid_digits
  have number := (Text.solid_zeroPadded 5 address).unbroken
  exact (((number.append (by decide)).append (mnemonic.leftColumn 16)).append (by decide)).append
    digits

theorem unbroken_of_mem_linesOf {program : Array Word} {cs : List Char}
    (member : cs ∈ linesOf program) : '\n' ∉ cs ∧ '\r' ∉ cs := by
  obtain ⟨⟨w, address⟩, -, rfl⟩ := List.mem_map.mp member
  exact unbroken_line address w

/-- Each line is ended by a line feed, and there is no other. -/
theorem splitOn_ofProgram (program : Array Word) :
    (ofProgram program).toList.splitOn '\n' = linesOf program ++ [[]] := by
  rw [toList_ofProgram]
  exact Text.splitOn_flatMap fun _ member => (unbroken_of_mem_linesOf member).1

theorem lines_ofProgram (program : Array Word) :
    Text.lines (ofProgram program).toList = linesOf program := by
  rw [toList_ofProgram]
  refine Text.lines_flatMap (fun _ member => (unbroken_of_mem_linesOf member).1) ?_
  exact fun _ member ret => (unbroken_of_mem_linesOf member).2 (List.mem_of_getLast? ret)

/-- Reads the words of a listing from the last sixteen characters of its lines. -/
def read? (text : List Char) : Except Bus.DigitError (Array Word) :=
  List.toArray <$> (Text.lines text).mapM fun line => Bus.ofDigits? 16 (digitsPart line)

theorem read?_ofProgram (program : Array Word) :
    read? (ofProgram program).toList = .ok program := by
  have words : program.toList.zipIdx.map Prod.fst = program.toList := by simp
  have each (entry : Word × Nat) (_ : entry ∈ program.toList.zipIdx) :
      Bus.ofDigits? 16 (digitsPart (line entry.2 entry.1).toList) = pure entry.1 :=
    (shows_line entry.2 entry.1).digits
  rw [read?, lines_ofProgram, linesOf, List.mapM_map]
  simp only [Function.comp_def]
  rw [Traversal.mapM_eq_pure each, words]
  rfl

end Listing

/-- **A listing loses nothing.**  Cut at its line feeds, it is one line for each word, in order,
and nothing behind the last; each line shows the address and the text of its word, and is read as
the word; so a program is read from its listing. -/
theorem listings_lose_nothing (program : Array Word) :
    (∃ lines : List (List Char),
      (Listing.ofProgram program).toList.splitOn '\n' = lines ++ [[]] ∧
        lines.length = program.size ∧
          ∀ i (_ : i < program.size), ∃ line, lines[i]? = some line ∧
            Listing.Shows line i program[i]) ∧
      Listing.read? (Listing.ofProgram program).toList = .ok program := by
  refine ⟨⟨Listing.linesOf program, Listing.splitOn_ofProgram program, ?_, ?_⟩,
    Listing.read?_ofProgram program⟩
  · rw [Listing.linesOf, List.length_map, List.length_zipIdx, Array.length_toList]
  · exact fun i inside => ⟨_, Listing.getElem?_linesOf inside, Listing.shows_line i program[i]⟩

-- A field without an expression, all destinations and a condition: wider than the column.
example : Listing.line 123456 0xE07F#16 =
    "123456: AMD=comp?000001;JMP // 1110000001111111" := by cbv

end NandMachine
