/-
# NandMachine.Proofs.Program.Reading -- which texts are programs, and why others are not

Reading goes through a text once, line by line, and stops at the first line that is no
word.  Here the outcome is told from the text as a whole.  Its candidates are the lines of
sixteen characters once the blanks around them are gone, with the numbers of the lines
among all lines (`candidates`).  A candidate with a character that is no digit is at fault,
for the last such character; the first fault is the outcome wherever it stands, behind too
many words as well, and only a text without one is judged by its length (`outcome`).
`program_texts_are_read_exactly` is the agreement of the two, for every text.

One lemma says what one line does to the words so far (`addLine_ofChars`), and the
induction on the lines is made once (`foldlM_addLine`).
-/
import NandMachine.Program.Text
import NandMachine.Proofs.Logic.Digits
import NandMachine.Proofs.Text.Lines

namespace NandMachine

set_option autoImplicit false

namespace Program

/-- The lines that have to be words, trimmed and with their numbers. -/
def candidates (lines : List (List Char × Nat)) : List (List Char × Nat) :=
  (lines.map (Prod.map Text.trim id)).filter fun (line, _) => line.length = 16

/-- Why a candidate is not a word. -/
def fault? : List Char × Nat → Option Error
  | (line, number) => (Bus.stray? line).map fun c => .line number (.invalidChar c)

/-- The word that a candidate of digits is. -/
def wordOf : List Char × Nat → Word
  | (line, _) => BitVec.ofNat 16 (Bus.numeral line)

/-- What becomes of a text whose candidates are given. -/
def outcome (candidates : List (List Char × Nat)) : Except Error (Array Word) :=
  match candidates.findSome? fault? with
  | some fault => .error fault
  | none =>
      if limit < candidates.length then .error (.tooLarge candidates.length)
      else .ok (candidates.map wordOf).toArray

/-! ## One line -/

theorem Line.ofChars_of_length {cs : List Char} (wide : (Text.trim cs).length = 16) :
    Line.ofChars cs = match Bus.stray? (Text.trim cs) with
      | some c => .malformed (.invalidChar c)
      | none => .word (BitVec.ofNat 16 (Bus.numeral (Text.trim cs))) := by
  simp only [Line.ofChars, wide, Bus.ofDigits?_eq wide]
  cases Bus.stray? (Text.trim cs) <;> rfl

theorem addLine_ofChars (words : Array Word) (line : List Char × Nat) :
    addLine words (Prod.map Line.ofChars id line) =
      match (candidates [line]).findSome? fault? with
      | some fault => .error fault
      | none => .ok (words ++ ((candidates [line]).map wordOf).toArray) := by
  obtain ⟨cs, number⟩ := line
  by_cases wide : (Text.trim cs).length = 16
  · have alone : candidates [(cs, number)] = [(Text.trim cs, number)] := by
      simp [candidates, wide]
    rw [alone, Prod.map_apply, Line.ofChars_of_length wide]
    cases stray : Bus.stray? (Text.trim cs) <;> simp [addLine, fault?, wordOf, stray]
  · have passed : candidates [(cs, number)] = [] := by simp [candidates, wide]
    rw [passed, Prod.map_apply, Line.ofChars]
    by_cases empty : (Text.trim cs).isEmpty <;> simp [wide, empty, addLine]

/-! ## All lines -/

theorem candidates_cons (line : List Char × Nat) (rest : List (List Char × Nat)) :
    candidates (line :: rest) = candidates [line] ++ candidates rest := by
  simp only [candidates, ← List.filter_append, ← List.map_append, List.singleton_append]

theorem foldlM_addLine (lines : List (List Char × Nat)) (words : Array Word) :
    (lines.map (Prod.map Line.ofChars id)).foldlM addLine words =
      match (candidates lines).findSome? fault? with
      | some fault => .error fault
      | none => .ok (words ++ ((candidates lines).map wordOf).toArray) := by
  induction lines generalizing words with
  | nil => simp [candidates, pure, Except.pure]
  | cons line rest ih =>
      rw [List.map_cons, List.foldlM_cons, addLine_ofChars, candidates_cons line rest,
        List.findSome?_append]
      cases (candidates [line]).findSome? fault? with
      | some fault => rfl
      | none =>
          -- the words of this line, if it is one, are in front of those of the rest
          rw [List.map_append, ← List.append_toArray, ← Array.append_assoc]
          exact ih _

theorem parseText?_eq (cs : List Char) :
    parseText? cs = outcome (candidates ((Text.lines cs).zipIdx 1)) := by
  rw [parseText?, numberedLines, List.zipIdx_map, foldlM_addLine, outcome]
  cases (candidates ((Text.lines cs).zipIdx 1)).findSome? fault? with
  | some fault => rfl
  | none =>
      show fitting _ = _
      rw [Array.empty_append, fitting, List.size_toArray, List.length_map]
      simp only [← Nat.not_lt, ite_not]

end Program

/-- A text is cut at its line feeds, and the lines of sixteen characters between blanks are
its candidates.  The first candidate with a character other than 0 and 1 is an error on
its line, which names the last such character.  Without one, more candidates than the
instruction store has words are too many, and else the program is their numerals. -/
theorem program_texts_are_read_exactly (text : List Char) :
    Program.parseText? text =
      Program.outcome (Program.candidates ((Text.cutLines text).zipIdx 1)) := by
  rw [Program.parseText?_eq, Text.lines_eq_cutLines]

-- Lines that are passed over count, and the fault is the last of the line.
example : Program.parseText? "// halt\r\n\n 0000000000000000 \n1110101010000x1z".toList =
    .error (.line 4 (.invalidChar 'z')) := by rfl

end NandMachine
