/-
# NandMachine.Proofs.Program.RoundTrip -- programs saved and loaded again

A program can be saved as a text, a line of digits for each word, and as an image, a pair
of bytes for each word.  Read back, the lines of the text are the digits of the words
(`lines_toText`) and each of them is that word, so that reading comes to the program
itself before it judges its length; so do the pairs of the image (`wordsOfBytes_toImage`).
Hence both forms of a program load alike, as the program or as too large
(`saved_programs_load_alike`).
-/
import NandMachine.Program.File
import NandMachine.Proofs.Program.Reading

namespace NandMachine

set_option autoImplicit false

namespace Program

/-! ## The text of a program -/

theorem toList_toText (program : Array Word) :
    (toText program).toList = (program.toList.map Bus.digits).flatMap (· ++ ['\n']) := by
  have digits : (fun w : Word => w.text.toList) = Bus.digits := by
    funext w
    exact String.toList_ofList
  rw [toText, Text.toList_join_lines, digits]

theorem lines_toText (program : Array Word) :
    Text.lines (toText program).toList = program.toList.map Bus.digits := by
  rw [toList_toText]
  -- digits are no blanks, so no line is cut or shortened
  refine Text.lines_flatMap ?whole ?plain
  case whole =>
    intro line member feed
    obtain ⟨w, _, rfl⟩ := List.mem_map.mp member
    exact w.solid_digits.not_mem rfl feed
  case plain =>
    intro line member ret
    obtain ⟨w, _, rfl⟩ := List.mem_map.mp member
    exact w.solid_digits.not_mem rfl (List.mem_of_getLast? ret)

/-- A line of digits has nothing to trim and is a word. -/
theorem candidates_digits (lines : List (Word × Nat)) :
    candidates (lines.map (Prod.map Bus.digits id)) = lines.map (Prod.map Bus.digits id) := by
  have trimmed : Prod.map Text.trim id ∘ Prod.map Bus.digits id =
      (Prod.map Bus.digits id : Word × Nat → List Char × Nat) := by
    funext line
    exact congrArg (·, line.2) (Text.trim_eq_self line.1.solid_digits)
  rw [candidates, List.map_map, trimmed, List.filter_eq_self]
  intro line member
  obtain ⟨w, _, rfl⟩ := List.mem_map.mp member
  simp [Bus.length_digits]

theorem findSome?_fault?_digits (lines : List (Word × Nat)) :
    (lines.map (Prod.map Bus.digits id)).findSome? fault? = none := by
  rw [List.findSome?_eq_none_iff]
  intro line member
  obtain ⟨w, _, rfl⟩ := List.mem_map.mp member
  simp [fault?, Bus.stray?_digits]

theorem wordOf_digits : wordOf ∘ Prod.map Bus.digits id = Prod.fst := by
  funext line
  simp [wordOf, Bus.numeral_digits]

theorem parseText?_toText (program : Array Word) :
    parseText? (toText program).toList = fitting program := by
  rw [parseText?_eq, lines_toText, List.zipIdx_map, candidates_digits, outcome,
    findSome?_fault?_digits, List.map_map, wordOf_digits, List.zipIdx_map_fst]
  simp only [List.length_map, List.length_zipIdx, Array.length_toList, Array.toArray_toList,
    fitting, ← Nat.not_lt, ite_not]

/-! ## The image of a program -/

theorem wordOfBytes_slices (w : Word) :
    wordOfBytes ⟨Bus.slice w 8 8⟩ ⟨Bus.slice w 0 8⟩ = w := by
  apply BitVec.eq_of_getLsbD_eq
  intro i inside
  rw [wordOfBytes, BitVec.getLsbD_append, Bus.getLsbD_slice, Bus.getLsbD_slice, Nat.zero_add]
  by_cases low : i < 8
  · simp [low]
  · have high : i - 8 < 8 := by omega
    have place : 8 + (i - 8) = i := by omega
    simp [low, high, place]

theorem toList_toImage (program : Array Word) :
    (toImage program).toList =
      program.toList.flatMap fun w => [⟨Bus.slice w 8 8⟩, ⟨Bus.slice w 0 8⟩] := by
  simp [toImage]

theorem size_toImage (program : Array Word) : (toImage program).size = 2 * program.size := by
  rw [← Array.length_toList, toList_toImage, List.length_flatMap]
  simp [List.map_const', Nat.mul_comm]

/-- The pairs made of the members of a list stand at the even places. -/
theorem getElem?_pairs {α β : Type} (first second : α → β) (l : List α) (i : Nat) :
    (l.flatMap fun a => [first a, second a])[2 * i]? = l[i]?.map first ∧
    (l.flatMap fun a => [first a, second a])[2 * i + 1]? = l[i]?.map second := by
  induction l generalizing i with
  | nil => simp
  | cons a rest ih =>
      cases i with
      | zero => simp
      | succ i => simpa [Nat.mul_succ] using ih i

theorem getElem?_toImage {program : Array Word} {i : Nat} (inside : i < program.size) :
    (toImage program)[2 * i]? = some ⟨Bus.slice program[i] 8 8⟩ ∧
    (toImage program)[2 * i + 1]? = some ⟨Bus.slice program[i] 0 8⟩ := by
  have word : program.toList[i]? = some program[i] := by simp [inside]
  rw [← Array.getElem?_toList, ← Array.getElem?_toList, toList_toImage]
  constructor
  · rw [(getElem?_pairs _ _ _ i).1, word]
    rfl
  · rw [(getElem?_pairs _ _ _ i).2, word]
    rfl

theorem wordsOfBytes_toImage (program : Array Word) : wordsOfBytes (toImage program) = program := by
  have size : (wordsOfBytes (toImage program)).size = program.size := by
    rw [wordsOfBytes, Array.size_ofFn, size_toImage]
    omega
  refine Array.ext size fun i _ inside => ?_
  obtain ⟨high, low⟩ := getElem?_toImage inside
  obtain ⟨_, high⟩ := Array.getElem?_eq_some_iff.mp high
  obtain ⟨_, low⟩ := Array.getElem?_eq_some_iff.mp low
  simp only [wordsOfBytes, Array.getElem_ofFn, high, low, wordOfBytes_slices]

theorem parseImage?_toImage (program : Array Word) :
    parseImage? (toImage program) = fitting program := by
  rw [parseImage?, size_toImage, Nat.mul_mod_right, wordsOfBytes_toImage]
  rfl

/-! ## The files of a program -/

theorem decodeText_toUTF8 (text : String) : decodeText (.ok text.toUTF8) = .ok text.toList := by
  have decoded : String.fromUTF8? text.toUTF8 = some text := dif_pos text.isValidUTF8
  rw [decodeText, decoded]

theorem loadText?_toUTF8 (text : String) :
    loadText? (.ok text.toUTF8) = parseText? text.toList := by
  rw [loadText?, decodeText_toUTF8]
  rfl

/-- What is in the file of a program, in the form that its path tells. -/
def saved (path : String) (program : Array Word) : ByteArray :=
  if isTextPath path then (toText program).toUTF8 else ⟨toImage program⟩

theorem load?_saved (path : String) (program : Array Word) :
    load? path (.ok (saved path program)) = fitting program := by
  rw [load?, saved]
  split
  case isTrue => rw [loadText?_toUTF8, parseText?_toText]
  case isFalse => exact parseImage?_toImage program

end Program

/-- A program comes back from its text and from its image unless it is longer than the
instruction store, and then both are refused with its exact length; so it does from a
file, whichever of the two forms the path asks for. -/
theorem saved_programs_load_alike (program : Array Word) :
    let loaded : Except Program.Error (Array Word) :=
      if program.size ≤ Program.limit then .ok program else .error (.tooLarge program.size)
    Program.parseText? (Program.toText program).toList = loaded ∧
    Program.parseImage? (Program.toImage program) = loaded ∧
    ∀ path, Program.load? path (.ok (Program.saved path program)) = loaded :=
  ⟨Program.parseText?_toText program, Program.parseImage?_toImage program,
    fun path => Program.load?_saved path program⟩

end NandMachine
