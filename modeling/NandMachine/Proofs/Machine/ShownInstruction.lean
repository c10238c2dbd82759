/-
# NandMachine.Proofs.Machine.ShownInstruction -- the instruction shown is the one executed

A debugging session, an embedded handle and the trace of a run show an instruction for each
step.  None of them looks at what the processor was given: each looks at the store from
outside, at the address that the program counter had, some before the step and some after.

What the processor is given is the word that the store puts out in the fetch of the step
(`Computer.executes`).  A store shows from outside what it puts out, and a fetch changes no
word of it, so it does not matter when one looks (`Computer.peek_executes`,
`Computer.peek_executes_after`), and what is shown is what was executed, at every state.
-/
import NandMachine.Debugger.Session
import NandMachine.Embedded
import NandMachine.Proofs.Command.Run

namespace NandMachine

set_option autoImplicit false

namespace Computer

variable {ρ σ : Type} [Bank ρ 14] [Rom σ]

/-- The word that the store puts out for the next step. -/
def executes (c : Computer ρ σ) : Word := Rom.output c.rom c.pc

/-- It is what the processor executes. -/
theorem cpu_step (c : Computer ρ σ) (reset : Signal) :
    ((c.step reset).1.cpu, (c.step reset).2) = c.cpu.step c.inM c.executes reset := rfl

variable [KeepsProgram σ]

omit [Bank ρ 14] in
theorem peek_executes (c : Computer ρ σ) : Rom.peek c.rom c.pc = c.executes :=
  (KeepsProgram.output_eq_peek c.rom c.pc).symm

theorem peek_executes_after (c : Computer ρ σ) (reset : Signal) :
    Rom.peek (c.step reset).1.rom c.pc = c.executes :=
  (KeepsProgram.peek_fetched c.rom c.pc c.pc).trans c.peek_executes

omit [Bank ρ 14] in
theorem mnemonicAt_pc (c : Computer ρ σ) : c.mnemonicAt c.pc = c.executes.mnemonic := by
  rw [mnemonicAt, peek_executes]

/-- The line of a step in a trace. -/
theorem line_next (c : Computer ρ σ) :
    (Command.Executed.next c).line =
      Text.zeroPadded 5 c.pc.toNat ++ ": " ++ Text.leftColumn 16 c.executes.mnemonic ++ " " ++
        c.next.registers.text := by
  rw [Command.Executed.line, Command.Executed.next, peek_executes]

end Computer

theorem Session.status_step {ρ σ : Type} [Bank ρ 14] [Rom σ] [KeepsProgram σ]
    (s : Session ρ σ) :
    s.step.status =
      "PC=" ++ Text.zeroPadded 5 s.computer.pc.toNat ++ ": " ++ s.computer.executes.mnemonic := by
  have number : s.pc.toNat = s.computer.pc.toNat := by
    rw [Session.pc, Bus.extend, BitVec.toNat_setWidth]
    omega
  rw [Session.step, Computer.mnemonicAt_pc, number]

/-! ## The law of a kind of store -/

/-- Whatever went on before, the instruction that is shown for a step of a computer with a
store of the kind `σ` is the one that its processor executes in the step: when the store is
looked at before the step or after it, in the status of a session, and in the trace of a
run. -/
def ShowsExecuted (σ : Type) [Rom σ] : Prop :=
  ∀ (ρ : Type) [Bank ρ 14],
    (∀ (c : Computer ρ σ) (reset : Signal),
      ((c.step reset).1.cpu, (c.step reset).2) = c.cpu.step c.inM c.executes reset ∧
        Rom.peek c.rom c.pc = c.executes ∧ Rom.peek (c.step reset).1.rom c.pc = c.executes) ∧
      (∀ s : Session ρ σ, s.step.computer = s.computer.next ∧
        s.step.status = "PC=" ++ Text.zeroPadded 5 s.computer.pc.toNat ++ ": " ++
          s.computer.executes.mnemonic) ∧
      ∀ (c : Computer ρ σ) (limit : Nat),
        (Command.runToHalt true c [] limit).executed.map Command.Executed.line =
          (List.range (Command.stepsToStop c limit)).map fun i =>
            Text.zeroPadded 5 (c.run i).pc.toNat ++ ": " ++
              Text.leftColumn 16 (c.run i).executes.mnemonic ++ " " ++
              (c.run i).next.registers.text

theorem showsExecuted {σ : Type} [Rom σ] [KeepsProgram σ] : ShowsExecuted σ := by
  intro ρ _
  refine ⟨fun c reset => ?_, fun s => ?_, fun c limit => ?_⟩
  · exact ⟨c.cpu_step reset, c.peek_executes, c.peek_executes_after reset⟩
  · exact ⟨rfl, s.status_step⟩
  · rw [Command.executed_runToHalt, List.reverse_nil, List.nil_append, List.map_map]
    exact List.map_congr_left fun i _ => (c.run i).line_next

/-- A store of the kind `σ` burned with a program answers it for good. -/
def Rom.Lasts (σ : Type) [Rom σ] (program : Array Word) : Prop :=
  ∃ rom : σ, Rom.ofProgram? program = .ok rom ∧ Rom.size rom = program.size ∧
    ∀ calls : List Rom.Call, Rom.transcript rom calls =
      calls.map fun c => (Program.wordAt program c.address, program.size)

theorem Rom.lasts {σ : Type} [Rom σ] [KeepsProgram σ] {program : Array Word}
    (fits : program.size ≤ Program.limit) : Rom.Lasts σ program := by
  have shows : Rom.Shows (Rom.burn program : σ) program := Rom.shows_burn fits
  exact ⟨Rom.burn program, if_pos fits, shows.size, shows.transcript⟩

/-- **A store is its program, for good.**  A store of gates and a plain one, burned with a
program that fits, answer every list of fetches and looks with the words of the program,
zero beyond its end, and their length stays the program's.  Hence sessions, embedded handles
and traces show the instruction that was executed. -/
theorem instruction_stores_last (program : Array Word) (fits : program.size ≤ Program.limit) :
    Rom.Lasts GateRom program ∧ Rom.Lasts FlatRom program ∧
      ShowsExecuted GateRom ∧ ShowsExecuted FlatRom ∧
      ∀ e : Embedded, e.step.1.computer = e.computer.next ∧
        e.step.2 = e.computer.executes.mnemonic := by
  refine ⟨Rom.lasts fits, Rom.lasts fits, showsExecuted, showsExecuted, fun e => ?_⟩
  exact ⟨rfl, e.computer.mnemonicAt_pc⟩

/-- Two words in a store of gates, looked at and fetched within the program and beyond it. -/
theorem two_words_last :
    #[0x0002#16, 0xEC10#16].size ≤ Program.limit ∧
      ∃ rom : GateRom, Rom.ofProgram? #[0x0002#16, 0xEC10#16] = .ok rom ∧
        Rom.transcript rom [.fetch 1#15, .peek 16385#15, .fetch 20000#15, .peek 0#15] =
          [(0xEC10#16, 2), (0#16, 2), (0#16, 2), (0x0002#16, 2)] := by
  have fits : #[0x0002#16, 0xEC10#16].size ≤ Program.limit := by decide
  obtain ⟨⟨rom, burned, -, answers⟩, -⟩ := instruction_stores_last #[0x0002#16, 0xEC10#16] fits
  refine ⟨fits, rom, burned, ?_⟩
  rw [answers]
  decide

end NandMachine
