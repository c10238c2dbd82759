/-
# NandMachine.Proofs.Processor.Encoding -- instructions and the wires of their words

A compute word is five fields side by side (`Word.Fields`): a head of three wires, the choice of
the operand, six control bits, three destinations and three jump bits.  Reading takes the last
four and of the head only its top wire; writing puts them back under a head of high wires.  So
an instruction whose fields fit comes back from its word (`Instruction.ofWord_of_fits`), and a
word comes back as its canonical form, in which the two wires that reading ignores are high
(`Instruction.toWord?_ofWord`).

The processor does not read an instruction as a value.  It taps the word wire by wire, and
leads the whole word to the inputs of A and D.  Nevertheless a word and its canonical form do
the same to it, down to its cells (`Cpu.step_canonical`): no tap is on wire 14 or 13, and a
register loads the word itself only when it is an address instruction, which is its own
canonical form.  Words that are read as one instruction have one canonical form, so they do
the same as well (`Cpu.step_of_ofWord_eq`).
-/
import NandMachine.Proofs.Processor.InstructionSet

namespace NandMachine

set_option autoImplicit false

/-! ## The fields of a word -/

namespace Word

/-- The fields of a compute word, the top one first.  The top wire of the head says that the word
is a compute word; `memory` chooses the operand. -/
structure Fields where
  head : Bus 3
  memory : Signal
  control : Bus 6
  dest : Bus 3
  jump : Bus 3
  deriving DecidableEq, Repr

namespace Fields

def ofWord (w : Word) : Fields where
  head := Bus.slice w 13 3
  memory := w.getLsbD 12
  control := Bus.slice w 6 6
  dest := Bus.slice w 3 3
  jump := Bus.slice w 0 3

def toWord (f : Fields) : Word := f.head ++ BitVec.ofBool f.memory ++ f.control ++ f.dest ++ f.jump

theorem getLsbD_toWord (f : Fields) (i : Nat) :
    f.toWord.getLsbD i =
      if i < 3 then f.jump.getLsbD i
      else if i < 6 then f.dest.getLsbD (i - 3)
      else if i < 12 then f.control.getLsbD (i - 6)
      else if i < 13 then f.memory
      else f.head.getLsbD (i - 13) := by
  show (f.head ++ BitVec.ofBool f.memory ++ f.control ++ f.dest ++ f.jump).getLsbD i = _
  simp only [BitVec.getLsbD_append, BitVec.getLsbD_ofBool]
  grind

theorem top_toWord {f : Fields} (high : f.head.getLsbD 2 = true) : f.toWord.getLsbD 15 = true := by
  rw [getLsbD_toWord]
  exact high

/-- Wires from `start` on that all lie in one field. -/
theorem slice_toWord (f : Fields) {start len : Nat} {field : Bus len}
    (inside : ∀ i < len, f.toWord.getLsbD (start + i) = field.getLsbD i) :
    Bus.slice f.toWord start len = field := by
  apply BitVec.eq_of_getLsbD_eq
  intro i h
  rw [Bus.getLsbD_slice_of_lt _ start h, inside i h]

theorem ofWord_toWord (f : Fields) : ofWord f.toWord = f := by
  have head : Bus.slice f.toWord 13 3 = f.head := slice_toWord f (by grind [getLsbD_toWord])
  have memory : f.toWord.getLsbD 12 = f.memory := by
    rw [getLsbD_toWord]
    rfl
  have control : Bus.slice f.toWord 6 6 = f.control := slice_toWord f (by grind [getLsbD_toWord])
  have dest : Bus.slice f.toWord 3 3 = f.dest := slice_toWord f (by grind [getLsbD_toWord])
  have jump : Bus.slice f.toWord 0 3 = f.jump := slice_toWord f (by grind [getLsbD_toWord])
  rw [ofWord, head, memory, control, dest, jump]

theorem getLsbD_toWord_ofWord (w : Word) (head : Bus 3) (i : Nat) :
    (toWord { ofWord w with head := head }).getLsbD i =
      if i < 13 then w.getLsbD i else head.getLsbD (i - 13) := by
  rw [getLsbD_toWord]
  simp only [ofWord, Bus.getLsbD_slice]
  grind

end Fields

/-- A word with the wires high that a compute instruction ignores. -/
def canonical (w : Word) : Word := if w.getLsbD 15 then w ||| 0x6000#16 else w

theorem low_iff (w : Word) : w.getLsbD 15 = false ↔ w.toNat ≤ 32767 := by
  have bound := w.isLt
  rw [BitVec.getLsbD, Nat.testBit_eq_decide_div_mod_eq, decide_eq_false_iff_not]
  omega

theorem canonical_of_low {w : Word} (low : w.getLsbD 15 = false) : w.canonical = w := by
  rw [canonical, low]
  rfl

/-- The canonical form of a compute word has the fields of the word under a head of high
wires. -/
theorem canonical_of_high {w : Word} (high : w.getLsbD 15 = true) :
    w.canonical = Fields.toWord { Fields.ofWord w with head := 0b111#3 } := by
  apply BitVec.eq_of_getLsbD_eq
  intro i inside
  rw [canonical, if_pos high, BitVec.getLsbD_or, Fields.getLsbD_toWord_ofWord]
  by_cases head : i < 13
  · have spare : (0x6000#16).getLsbD i = false := by
      revert i
      decide
    rw [if_pos head, spare, Bool.or_false]
  · rw [if_neg head]
    obtain rfl | rfl | rfl : i = 13 ∨ i = 14 ∨ i = 15 := by omega
    · exact Bool.or_true _
    · exact Bool.or_true _
    · rw [high]
      rfl

/-- Wires 14 and 13 apart, a canonical form has the wires of its word. -/
theorem getLsbD_canonical (w : Word) {i : Nat} (used : i < 13 ∨ i = 15) :
    w.canonical.getLsbD i = w.getLsbD i := by
  cases top : w.getLsbD 15 with
  | false => rw [canonical_of_low top]
  | true =>
      rw [canonical_of_high top, Fields.getLsbD_toWord_ofWord]
      rcases used with below | rfl
      · rw [if_pos below]
      · rw [top]
        rfl

end Word

/-! ## Reading and writing -/

namespace Dest

/-- The destinations that a field names. -/
def ofBus (code : Bus 3) : Dest := { a := code.getLsbD 2, d := code.getLsbD 1, m := code.getLsbD 0 }

theorem ofBus_toBus (d : Dest) : ofBus d.toBus = d := by
  obtain ⟨a, d, m⟩ := d
  cases a <;> cases d <;> cases m <;> rfl

theorem toBus_ofBus (code : Bus 3) : (ofBus code).toBus = code := by
  revert code
  decide

end Dest

namespace Instruction

/-- The fields of an instruction fit its word. -/
def Fits : Instruction → Prop
  | address constant => constant.toNat ≤ 32767
  | compute _ control _ _ => control.toNat < 64

instance (i : Instruction) : Decidable i.Fits :=
  match i with
  | .address constant => inferInstanceAs (Decidable (constant.toNat ≤ 32767))
  | .compute _ control _ _ => inferInstanceAs (Decidable (control.toNat < 64))

/-- What is said of an instruction that does not fit: which field it is, and its value. -/
def misfit : Instruction → Fault
  | address constant => .constantTooWide constant.toNat
  | compute _ control _ _ => .controlTooWide control.toNat

/-- The compute instruction with the given fields. -/
def ofFields (f : Word.Fields) : Instruction :=
  compute f.memory (f.control.setWidth 8) (.ofBus f.dest) (.ofBus f.jump)

theorem ofWord_of_low {w : Word} (low : w.getLsbD 15 = false) : ofWord w = address w := by
  rw [ofWord, low, and_constant_of_low low]
  rfl

theorem ofWord_of_high {w : Word} (high : w.getLsbD 15 = true) :
    ofWord w = ofFields (.ofWord w) := by
  have dest (i : Nat) (h : i < 3) : (Bus.slice w 3 3).getLsbD i = w.getLsbD (3 + i) :=
    Bus.getLsbD_slice_of_lt w 3 h
  rw [ofWord, if_pos high, ofFields, Word.Fields.ofWord, Dest.ofBus]
  simp only [dest 0 (by decide), dest 1 (by decide), dest 2 (by decide)]

theorem toWord?_address {constant : Word} (fits : constant.toNat ≤ 32767) :
    toWord? (address constant) = .ok constant :=
  if_pos (show constant ≤ 0x7FFF#16 from fits)

theorem toWord?_compute {control : Bus 8} (fits : control.toNat < 64) (fromMemory : Bool)
    (dest : Dest) (jump : Jump) :
    toWord? (compute fromMemory control dest jump) = .ok
      (Word.Fields.toWord ⟨0b111#3, fromMemory, control.setWidth 6, dest.toBus, jump.toBus⟩) := by
  rw [toWord?, if_pos (show control < 64#8 from fits)]
  rfl

/-- Six control bits are written as they are read. -/
theorem toWord?_ofFields (f : Word.Fields) :
    (ofFields f).toWord? = .ok (Word.Fields.toWord { f with head := 0b111#3 }) := by
  have small := f.control.isLt
  have fits : (f.control.setWidth 8).toNat < 64 := by
    rw [BitVec.toNat_setWidth]
    omega
  have whole : (f.control.setWidth 8).setWidth 6 = f.control := by
    rw [BitVec.setWidth_setWidth_of_le _ (by decide), BitVec.setWidth_eq]
  rw [ofFields, toWord?_compute fits, whole, Dest.toBus_ofBus, Jump.toBus_ofBus]

/-- An instruction that fits comes back from its word. -/
theorem ofWord_of_fits {i : Instruction} (fits : i.Fits) :
    ∃ w, i.toWord? = .ok w ∧ ofWord w = i := by
  cases i with
  | address constant =>
      exact ⟨constant, toWord?_address fits, ofWord_of_low (constant.low_iff.mpr fits)⟩
  | compute fromMemory control dest jump =>
      have bound : control.toNat < 64 := fits
      have whole : (control.setWidth 6).setWidth 8 = control := by
        apply BitVec.eq_of_toNat_eq
        rw [BitVec.toNat_setWidth, BitVec.toNat_setWidth]
        omega
      -- Said of the bare head: arithmetic on literals does not reduce beside the open fields.
      have top : (0b111#3).getLsbD 2 = true := rfl
      refine ⟨_, toWord?_compute fits fromMemory dest jump, ?_⟩
      rw [ofWord_of_high (Word.Fields.top_toWord top), Word.Fields.ofWord_toWord, ofFields, whole,
        Dest.ofBus_toBus, Jump.ofBus_toBus]

/-- An instruction that does not fit is refused, and the fault names the field. -/
theorem toWord?_of_not_fits {i : Instruction} (large : ¬ i.Fits) : i.toWord? = .error i.misfit := by
  cases i with
  | address constant => exact if_neg (show ¬ constant ≤ 0x7FFF#16 from large)
  | compute fromMemory control dest jump => exact if_neg (show ¬ control < 64#8 from large)

/-- What is read from a word is written as its canonical form. -/
theorem toWord?_ofWord (w : Word) : (ofWord w).toWord? = .ok w.canonical := by
  cases top : w.getLsbD 15 with
  | false =>
      rw [ofWord_of_low top, toWord?_address (w.low_iff.mp top), Word.canonical_of_low top]
  | true => rw [ofWord_of_high top, toWord?_ofFields, Word.canonical_of_high top]

theorem ofWord_canonical (w : Word) : ofWord w.canonical = ofWord w := by
  -- What is read fits, since it is written; so it comes back from what is written.
  have fits : (ofWord w).Fits := Decidable.byContradiction fun large => by
    have refused := toWord?_of_not_fits large
    rw [toWord?_ofWord] at refused
    nomatch refused
  obtain ⟨written, ok, same⟩ := ofWord_of_fits fits
  rw [toWord?_ofWord] at ok
  rw [Except.ok.inj ok, same]

/-- Words that are read as one instruction differ in ignored wires only. -/
theorem canonical_congr {w w' : Word} (same : ofWord w = ofWord w') :
    w.canonical = w'.canonical := by
  have written : Except.ok w.canonical = Except.ok (ε := Fault) w'.canonical := by
    rw [← toWord?_ofWord w, same, toWord?_ofWord w']
  exact Except.ok.inj written

end Instruction

/-! ## The wires that the processor ignores -/

namespace InstructionSet

variable (v : RegisterValues) (m w : Word)

theorem result_canonical : result v m w.canonical = result v m w := by
  simp (disch := decide) only [result, Word.getLsbD_canonical]

theorem meets_canonical (out : Word) : meets w.canonical out = meets w out := by
  simp (disch := decide) only [meets, Word.getLsbD_canonical]

/-- Wires 14 and 13 could only get into A, as part of a constant, and a word that is loaded as
a constant is its own canonical form. -/
theorem execute_canonical (reset : Bool) :
    execute v m w.canonical reset = execute v m w reset := by
  have loaded (stored : Word) : (if w.getLsbD 15 then stored else w.canonical) =
      if w.getLsbD 15 then stored else w := by
    cases top : w.getLsbD 15 with
    | false => rw [Word.canonical_of_low top]
    | true => rfl
  simp (disch := decide) only [execute, result_canonical, meets_canonical, Word.getLsbD_canonical,
    loaded]

theorem output_canonical (reset : Bool) :
    output v m w.canonical reset = output v m w reset := by
  simp (disch := decide) only [output, execute_canonical, result_canonical, stores,
    Word.getLsbD_canonical]

end InstructionSet

namespace Cpu

/-- **A word and its canonical form do the same to the processor**, down to its cells. -/
theorem step_canonical (cpu : Cpu) (inM w : Word) (reset : Signal) :
    cpu.step inM w.canonical reset = cpu.step inM w reset :=
  cpu.step_congr inM reset (InstructionSet.execute_canonical cpu.values inM w reset)
    (InstructionSet.output_canonical cpu.values inM w reset)

/-- So do any two words that are read as one instruction. -/
theorem step_of_ofWord_eq (cpu : Cpu) (inM : Word) {w w' : Word} (reset : Signal)
    (same : Instruction.ofWord w = Instruction.ofWord w') :
    cpu.step inM w reset = cpu.step inM w' reset := by
  rw [← step_canonical, Instruction.canonical_congr same, step_canonical]

end Cpu

end NandMachine
