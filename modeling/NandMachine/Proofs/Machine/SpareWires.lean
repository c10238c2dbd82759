/-
# NandMachine.Proofs.Machine.SpareWires -- programs that are read alike act alike

A program may be rewritten word by word: any of its words may be replaced by the word that is
written for the instruction read from it (`Program.Rewritten`).  The new word differs from the
old in wires 14 and 13 of a compute word at most, so at every address the two programs are read
as the same instruction.

Two computers of one kind that differ in nothing but such programs stay that way
(`Computer.AlikeButProgram`).  A step puts the instruction into the processor and nowhere else,
and the processor cannot tell the two words apart (`Cpu.step_of_ofWord_eq`); all other events
do not look at the program.  So every history puts out the same on both, and leaves the same in
every part, down to its cells, but for the stores that hold the programs.

A run from the command line also looks at the program from outside, to find the loop that ends
it and to print its steps.  It looks at instructions and never at words, so what it prints is
the same too (`Command.output_execute_of_alike`).
-/
import NandMachine.Proofs.Command.Run
import NandMachine.Proofs.Processor.Encoding

namespace NandMachine

set_option autoImplicit false

/-! ## Programs that are read alike -/

namespace Program

/-- Some words of a program replaced by what is written for the instructions read from them. -/
structure Rewritten (program program' : Array Word) : Prop where
  size : program'.size = program.size
  words : ∀ (i : Nat) (h : i < program.size) (h' : i < program'.size),
    program'[i] = program[i] ∨ (Instruction.ofWord program[i]).toWord? = .ok program'[i]

theorem Rewritten.instruction {program program' : Array Word}
    (rewritten : Rewritten program program') (a : Address) :
    Instruction.ofWord (wordAt program' a) = Instruction.ofWord (wordAt program a) := by
  by_cases inside : a.toNat < program.size
  · have inside' : a.toNat < program'.size := rewritten.size.symm ▸ inside
    rw [wordAt, wordAt, Array.getElem?_eq_getElem inside, Array.getElem?_eq_getElem inside',
      Option.getD_some, Option.getD_some]
    rcases rewritten.words a.toNat inside inside' with kept | written
    · rw [kept]
    · rw [Instruction.toWord?_ofWord] at written
      rw [← Except.ok.inj written, Instruction.ofWord_canonical]
  · have outside : program.size ≤ a.toNat := Nat.le_of_not_lt inside
    rw [wordAt, wordAt, Array.getElem?_eq_none outside,
      Array.getElem?_eq_none (rewritten.size.symm ▸ outside)]

end Program

/-- Two stores of one kind show the same instructions. -/
def Rom.ReadAlike {σ : Type} [Rom σ] (rom rom' : σ) : Prop :=
  ∀ a, Instruction.ofWord (Rom.peek rom' a) = Instruction.ofWord (Rom.peek rom a)

/-! ## Computers that differ in their programs -/

namespace Computer

variable {ρ σ : Type} [Bank ρ 14] [Rom σ]

/-- The computers differ at most in their stores, and these show the same instructions. -/
structure AlikeButProgram (c c' : Computer ρ σ) : Prop where
  rest : ∃ rom : σ, c' = { c with rom := rom }
  instructions : Rom.ReadAlike c.rom c'.rom

namespace AlikeButProgram

variable {c c' : Computer ρ σ}

/-- Nothing but the program is seen to differ. -/
theorem observe (alike : c.AlikeButProgram c') :
    c'.observe = { c.observe with program := Rom.peek c'.rom } := by
  obtain ⟨⟨rom, rfl⟩, _⟩ := alike
  rfl

omit [Bank ρ 14] in
theorem press (alike : c.AlikeButProgram c') (code : Word) :
    (c.press code).AlikeButProgram (c'.press code) := by
  obtain ⟨⟨rom, rfl⟩, same⟩ := alike
  exact ⟨⟨rom, rfl⟩, same⟩

theorem preload (alike : c.AlikeButProgram c') (image : Array Word) :
    (c.preload image).AlikeButProgram (c'.preload image) := by
  obtain ⟨⟨rom, rfl⟩, same⟩ := alike
  exact ⟨⟨rom, rfl⟩, same⟩

variable [KeepsProgram σ]

/-- The instruction goes into the processor and nowhere else. -/
theorem step (alike : c.AlikeButProgram c') (reset : Signal) :
    (c'.step reset).2 = (c.step reset).2 ∧
      (c.step reset).1.AlikeButProgram (c'.step reset).1 := by
  obtain ⟨⟨rom, rfl⟩, same⟩ := alike
  have executed : c.cpu.step c.inM (Rom.output rom c.pc) reset =
      c.cpu.step c.inM (Rom.output c.rom c.pc) reset := by
    rw [KeepsProgram.output_eq_peek, KeepsProgram.output_eq_peek]
    exact c.cpu.step_of_ofWord_eq c.inM reset (same c.pc)
  have fetched : Rom.ReadAlike (Rom.fetched c.rom c.pc) (Rom.fetched rom c.pc) := by
    intro a
    rw [KeepsProgram.peek_fetched, KeepsProgram.peek_fetched]
    exact same a
  rw [step_eq, step_eq]
  simp only [executed]
  exact ⟨trivial, ⟨Rom.fetched rom c.pc, rfl⟩, fetched⟩

theorem run (alike : c.AlikeButProgram c') (steps : Nat) :
    (c.run steps).AlikeButProgram (c'.run steps) := by
  induction steps generalizing c c' with
  | zero => exact alike
  | succ n ih => exact ih (alike.step false).2

theorem perform (alike : c.AlikeButProgram c') (e : Event) :
    (c'.perform e).2 = (c.perform e).2 ∧ (c.perform e).1.AlikeButProgram (c'.perform e).1 := by
  cases e with
  | step reset =>
      obtain ⟨out, next⟩ := alike.step reset
      exact ⟨congrArg some out, next⟩
  | run steps => exact ⟨rfl, alike.run steps⟩
  | reset =>
      obtain ⟨out, next⟩ := alike.step true
      exact ⟨congrArg some out, next⟩
  | preload image => exact ⟨rfl, alike.preload image.words⟩
  | press code => exact ⟨rfl, alike.press code⟩
  | release => exact ⟨rfl, alike.press 0#16⟩

theorem after (alike : c.AlikeButProgram c') (events : List Event) :
    (Operated.after c events).AlikeButProgram (Operated.after c' events) := by
  induction events generalizing c c' with
  | nil => exact alike
  | cons e rest ih => exact ih (alike.perform e).2

end AlikeButProgram

end Computer

/-- A machine whose program cannot be looked at. -/
structure Sealed (μ : Type) where
  machine : μ

instance {μ : Type} [Operated μ] : Operated (Sealed μ) where
  perform m e := (⟨(Operated.perform m.machine e).1⟩, (Operated.perform m.machine e).2)
  observe m := { Operated.observe m.machine with program := fun _ => 0#16 }

theorem Computer.AlikeButProgram.indistinguishable {ρ σ : Type} [Bank ρ 14] [Rom σ]
    [KeepsProgram σ] {c c' : Computer ρ σ} (alike : c.AlikeButProgram c') :
    Indistinguishable (Sealed.mk c) (Sealed.mk c') := by
  refine .of_simulation (fun m n => m.machine.AlikeButProgram n.machine) ?seen ?kept alike
  case seen =>
    intro m n alike
    have shown : n.machine.observe = _ := alike.observe
    show { m.machine.observe with program := fun _ => 0#16 } =
      { n.machine.observe with program := fun _ => 0#16 }
    rw [shown]
  case kept =>
    intro m n e alike
    obtain ⟨out, next⟩ := alike.perform e
    exact ⟨out.symm, next⟩

/-! ## Runs from the command line -/

namespace Command

variable {ρ σ : Type} [Bank ρ 14] [Rom σ] {c c' : Computer ρ σ}

omit [Bank ρ 14] in
/-- The test for the loop that ends a program looks at two instructions. -/
theorem isHaltLoop_of_alike (alike : c.AlikeButProgram c') :
    isHaltLoop c'.rom c'.pc = isHaltLoop c.rom c.pc := by
  obtain ⟨⟨rom, rfl⟩, same⟩ := alike
  show isHaltLoop rom c.pc = _
  rw [isHaltLoop, isHaltLoop, same, same]

/-- Ends of runs that print the same: computers that differ in their programs at most, one
cause for stopping, and the same lines for the instructions executed. -/
structure RunEnd.AlikeButProgram (e e' : RunEnd ρ σ) : Prop where
  computer : e.computer.AlikeButProgram e'.computer
  halted : e'.halted = e.halted
  lines : e'.executed.map Executed.line = e.executed.map Executed.line

theorem output_of_alike {e e' : RunEnd ρ σ} (alike : e.AlikeButProgram e')
    (options : RunOptions) : output options e' = output options e := by
  obtain ⟨rom, rest⟩ := alike.computer.rest
  have shown : reported options e' = reported options e := by
    rw [reported, reported, rest]
    rfl
  have pc : e'.computer.pc = e.computer.pc := by rw [rest]
  rw [output_eq, output_eq, traced, traced, report, report, alike.lines, alike.halted, shown, pc]

variable [KeepsProgram σ]

/-- A step is printed with the text of its instruction. -/
theorem line_next_of_alike (alike : c.AlikeButProgram c') :
    (Executed.next c').line = (Executed.next c).line := by
  have pc : (Executed.next c').pc = (Executed.next c).pc := by
    obtain ⟨⟨rom, rfl⟩, _⟩ := alike
    rfl
  have text : (Executed.next c').instruction.mnemonic = (Executed.next c).instruction.mnemonic := by
    obtain ⟨⟨rom, rfl⟩, same⟩ := alike
    show (Rom.peek rom c.pc).mnemonic = (Rom.peek c.rom c.pc).mnemonic
    rw [Word.mnemonic, Word.mnemonic, same]
  have registers : (Executed.next c').registers = (Executed.next c).registers := by
    obtain ⟨after, next⟩ := (alike.step false).2.rest
    show (c'.step false).1.registers = (c.step false).1.registers
    rw [next]
    rfl
  rw [Executed.line, Executed.line, pc, text, registers]

theorem stepKept_of_alike (alike : c.AlikeButProgram c') (keep : Bool)
    {seen seen' : List Executed} (lines : seen'.map Executed.line = seen.map Executed.line) :
    (stepKept keep c seen).1.AlikeButProgram (stepKept keep c' seen').1 ∧
      (stepKept keep c' seen').2.map Executed.line =
        (stepKept keep c seen).2.map Executed.line := by
  have next := (alike.step false).2
  cases keep with
  | false => exact ⟨next, lines⟩
  | true =>
      refine ⟨next, ?_⟩
      show (Executed.next c' :: seen').map Executed.line =
        (Executed.next c :: seen).map Executed.line
      rw [List.map_cons, List.map_cons, line_next_of_alike alike, lines]

/-- Both runs stop at the same step, and print the same on the way. -/
theorem runToHalt_of_alike (alike : c.AlikeButProgram c') (keep : Bool)
    {seen seen' : List Executed} (lines : seen'.map Executed.line = seen.map Executed.line)
    (limit : Nat) :
    (runToHalt keep c seen limit).AlikeButProgram (runToHalt keep c' seen' limit) := by
  -- The induction carries the lines kept so far along with the computers.
  induction limit generalizing c c' seen seen' with
  | zero => exact ⟨alike, rfl, by simp only [runToHalt, List.map_reverse, lines]⟩
  | succ n ih =>
      rw [runToHalt, runToHalt, isHaltLoop_of_alike alike]
      split
      case isTrue => exact ⟨alike, rfl, by simp only [List.map_reverse, lines]⟩
      case isFalse =>
        obtain ⟨next, kept⟩ := stepKept_of_alike alike keep lines
        exact ih next kept

theorem output_execute_of_alike (alike : c.AlikeButProgram c') (options : RunOptions)
    (keep : Bool) :
    output options (execute options keep c') = output options (execute options keep c) := by
  have starts : (started options c).AlikeButProgram (started options c') := by
    unfold started
    split
    · exact alike
    · exact alike.preload _
  have steps : (started options c').steps = (started options c).steps := by
    obtain ⟨rom, rest⟩ := starts.rest
    rw [rest]
  apply output_of_alike
  show (runToHalt keep (started options c) [] _).AlikeButProgram
    (runToHalt keep (started options c') [] (options.maxCycles - (started options c').steps))
  rw [steps]
  exact runToHalt_of_alike starts keep rfl _

end Command

/-! ## The law of rewritten programs -/

namespace Computer

/-- Two programs act alike on computers with RAM of the kind `ρ` and an instruction store of
the kind `σ`.  Either both are refused as too long, or each makes a computer.  Every history
then puts out the same on both computers, shows the same but for the program, and leaves the
same but for the instruction store; and runs from the command line print the same. -/
def ActAlike (ρ σ : Type) [Bank ρ 14] [Rom σ] (program program' : Array Word) : Prop :=
  (if program.size ≤ Program.limit then
    ∃ c c' : Computer ρ σ, ofProgram? program = .ok c ∧ ofProgram? program' = .ok c' ∧
      Indistinguishable (Sealed.mk c) (Sealed.mk c') ∧
      ∀ events : List Event, ∃ rom : σ,
        Operated.after c' events = { Operated.after c events with rom := rom }
  else
    (ofProgram? program : Except Program.Error (Computer ρ σ)) = .error (.tooLarge program.size) ∧
      (ofProgram? program' : Except Program.Error (Computer ρ σ)) =
        .error (.tooLarge program.size)) ∧
  ∀ (options : Command.RunOptions) (keep : Bool),
    (Command.runOn ρ σ program' options keep).map Prod.fst =
      (Command.runOn ρ σ program options keep).map Prod.fst

theorem actAlike_of_rewritten {ρ σ : Type} [Bank ρ 14] [Rom σ] [KeepsProgram σ]
    {program program' : Array Word} (rewritten : Program.Rewritten program program') :
    ActAlike ρ σ program program' := by
  by_cases fits : program.size ≤ Program.limit
  · have fits' : program'.size ≤ Program.limit := rewritten.size ▸ fits
    have built := ofProgram?_of_le (ρ := ρ) (σ := σ) fits
    have built' := ofProgram?_of_le (ρ := ρ) (σ := σ) fits'
    have same : Rom.ReadAlike (Rom.burn program : σ) (Rom.burn program') := by
      intro a
      rw [KeepsProgram.peek_burn program fits, KeepsProgram.peek_burn program' fits']
      exact rewritten.instruction a
    have alike : AlikeButProgram (assemble (ρ := ρ) {} Memory.blank (Rom.burn program : σ) {})
        (assemble {} Memory.blank (Rom.burn program') {}) := ⟨⟨_, rfl⟩, same⟩
    refine ⟨?_, fun options keep => ?_⟩
    · rw [if_pos fits]
      exact ⟨_, _, built, built', alike.indistinguishable, fun events => (alike.after events).rest⟩
    · rw [Command.runOn, Command.runOn, built, built']
      exact congrArg Except.ok (Command.output_execute_of_alike alike options keep)
  · have long : Program.limit < program.size := Nat.lt_of_not_le fits
    have long' : Program.limit < program'.size := rewritten.size.symm ▸ long
    have refused := ofProgram?_refused (ρ := ρ) (σ := σ) long
    have refused' := ofProgram?_refused (ρ := ρ) (σ := σ) long'
    rw [rewritten.size] at refused'
    refine ⟨?_, fun options keep => ?_⟩
    · rw [if_neg fits]
      exact ⟨refused, refused'⟩
    · rw [Command.runOn, Command.runOn, refused, refused']
      rfl

end Computer

/-- **Instructions and words, and the wires between them that nothing reads.**  An instruction
is written exactly when its fields fit, and comes back from its word; a word comes back from
its instruction with wires 14 and 13 high if it is a compute word, and unchanged otherwise.  And
programs in which any words are replaced in this way act alike on every kind of computer. -/
theorem spare_wires_carry_nothing :
    (∀ i : Instruction,
      (i.Fits → ∃ w, i.toWord? = .ok w ∧ Instruction.ofWord w = i) ∧
        (¬ i.Fits → i.toWord? = .error i.misfit)) ∧
      (∀ w : Word, (Instruction.ofWord w).toWord? =
        .ok (if w.getLsbD 15 then w ||| 0x6000#16 else w)) ∧
      ∀ program program' : Array Word, Program.Rewritten program program' →
        Computer.ActAlike Ram16K GateRom program program' ∧
          Computer.ActAlike Ram16K FlatRom program program' ∧
          Computer.ActAlike (FlatBank 14) GateRom program program' ∧
          Computer.ActAlike (FlatBank 14) FlatRom program program' := by
  refine ⟨fun i => ⟨?_, ?_⟩, Instruction.toWord?_ofWord, fun program program' rewritten => ?_⟩
  · exact Instruction.ofWord_of_fits
  · exact Instruction.toWord?_of_not_fits
  · refine ⟨?_, ?_, ?_, ?_⟩
    · exact Computer.actAlike_of_rewritten rewritten
    · exact Computer.actAlike_of_rewritten rewritten
    · exact Computer.actAlike_of_rewritten rewritten
    · exact Computer.actAlike_of_rewritten rewritten

/-- `@5` and `D=A`, the latter once with wires 14 and 13 low. -/
theorem low_spare_wires_change_nothing :
    (Instruction.address 0x7FFF#16).Fits ∧ ¬ (Instruction.address 0x8000#16).Fits ∧
      (Instruction.address 0x8000#16).toWord? = .error (.constantTooWide 32768) ∧
      Program.Rewritten #[0x0005#16, 0x8C10#16] #[0x0005#16, 0xEC10#16] ∧
      ∃ c c' : GateComputer, Computer.ofProgram? #[0x0005#16, 0x8C10#16] = .ok c ∧
        Computer.ofProgram? #[0x0005#16, 0xEC10#16] = .ok c' ∧
        (c'.run 2).registers = (c.run 2).registers := by
  have rewritten : Program.Rewritten #[0x0005#16, 0x8C10#16] #[0x0005#16, 0xEC10#16] := by
    refine ⟨rfl, fun i h _ => ?_⟩
    obtain rfl | rfl : i = 0 ∨ i = 1 := by
      have bound : i < 2 := h
      omega
    · exact .inl rfl
    · exact .inr (show (Instruction.ofWord 0x8C10#16).toWord? = .ok 0xEC10#16 by decide)
  obtain ⟨codec, -, alike⟩ := spare_wires_carry_nothing
  obtain ⟨⟨⟨c, c', built, built', -, rest⟩, -⟩, -⟩ := alike _ _ rewritten
  refine ⟨by decide, by decide, (codec _).2 (by decide), rewritten, c, c', built, built', ?_⟩
  obtain ⟨rom, after⟩ := rest [.run 2]
  have run : c'.run 2 = { c.run 2 with rom := rom } := after
  rw [run]
  rfl

end NandMachine
