/-
# NandMachine.Proofs.Machine.Refinement -- computers implement the instruction set

A computer, whatever its memory and instruction store are made of, implements a
state of the machine of the instruction set when its cells show that state at the
current cycle (`Computer.Implements`): the registers at the processor's clock, the
data words and the last sample of the key at the memory clock (`Memory.Shows`), the
program at the clock of the store, and no write waiting in the display.

One step keeps this relation (`Computer.Implements.step`).  The processor reads the
latched word and answers as the instruction set says; its answer is offered to
memory in the current cycle; and the second access, at the next cycle and with the
load line low, shows the word that the next instruction will compute with while it
drives every cell over the edge.  Every other event keeps the relation too, so no
history tells the computer from the machine (`Computer.Implements.indistinguishable`).

Two results follow.  The gate-level computer is the machine of the instruction set,
and all computers, of gates or of maps, are one machine.
-/
import NandMachine.Proofs.Machine.Architecture
import NandMachine.Proofs.Machine.MemoryMap

namespace NandMachine

set_option autoImplicit false

/-! ## Memory -/

namespace Memory

variable {ρ : Type} [Bank ρ 14]

/-- A memory shows the data words and the key of a state at a cycle. -/
structure Shows (m : Memory ρ) (now : Cycle) (s : Architecture) : Prop where
  data : ∀ a : Address, a.toNat < 24576 → m.peek now a = s.data a
  key : m.key = s.key
  seen : m.sample = s.seen.map fun code => (now, code)
  calm : m.screen.pending = none

namespace Shows

variable {m : Memory ρ} {now : Cycle} {s : Architecture}

/-- Every memory word is shown, the keyboard included. -/
theorem word (shows : m.Shows now s) (a : Address) : m.peek now a = s.word a := by
  rw [Architecture.word]
  by_cases data : a.toNat < 24576
  · rw [if_pos data]
    exact shows.data a data
  · have device : ¬ a.toNat < 16384 := by omega
    rw [if_neg data, peek_eq, if_neg device, if_neg data, sampled, shows.seen, shows.key]
    cases s.seen with
    | none => rfl
    | some code => exact if_pos rfl

/-- The committed words of the display are the data words from 16384 on. -/
theorem screen (shows : m.Shows now s) : m.screen.words = s.observe.screen := by
  apply Vector.ext
  intro i h
  let a : Address := BitVec.ofNat 15 (16384 + i)
  have number : a.toNat = 16384 + i := Nat.mod_eq_of_lt (show 16384 + i < 2 ^ 15 by omega)
  have inner : (Bus.slice a 0 13).toNat = i := by
    rw [Address.toNat_low, number]
    omega
  have shown := shows.data a (by omega)
  rw [peek_eq, if_neg (by omega), if_pos (by omega), Screen.peek_of_calm shows.calm] at shown
  have place : m.screen.committed (Bus.slice a 0 13) = m.screen.words[i] := by
    simp only [Screen.committed, inner]
  rw [← place, shown, Architecture.observe, Vector.getElem_ofFn]

theorem press (shows : m.Shows now s) (code : Word) : (m.press code).Shows now (s.press code) := by
  constructor
  case data =>
    intro a data
    have before := shows.data a data
    rw [peek_eq, if_pos data] at before ⊢
    exact before
  case key => rfl
  case seen => exact shows.seen
  case calm => exact shows.calm

variable [TimedBank ρ]

theorem blank (program : Array Word) : (Memory.blank : Memory ρ).Shows 0 { program } := by
  constructor
  case data =>
    intro a data
    rw [peek_eq]
    by_cases ram : a.toNat < 16384
    · rw [if_pos ram]
      exact TimedBank.peek_blank 0 (Bus.slice a 0 14)
    · rw [if_neg ram, if_pos data, Screen.peek_of_calm rfl]
      exact Vector.getElem_replicate _
  case key => rfl
  case seen => rfl
  case calm => rfl

theorem preset (shows : m.Shows now s) (image : Bank.Image 14) :
    (m.preset now image.words).Shows now (s.preload image.words) := by
  constructor
  case data =>
    intro a data
    rw [peek_preset_now, shows.data a data]
    rfl
  case key => exact shows.key
  case seen => exact shows.seen
  case calm => exact shows.calm

/-- The first access of a step.  At the next cycle memory already shows the state
after the step. -/
theorem peek_written (shows : m.Shows now s) (reset : Signal) (a : Address) :
    (m.drive now (s.step reset).2.outM (s.step reset).2.writeM (s.step reset).2.addressM).peek
        (now + 1) a = (s.step reset).1.word a := by
  rw [peek_drive_next, Architecture.word]
  by_cases data : a.toNat < 24576
  · rw [if_pos data, if_pos data, shows.data a data]
    show _ = if (s.step reset).2.writeM = true ∧ a = (s.step reset).2.addressM ∧
      a.toNat < 24576 then (s.step reset).2.outM else s.data a
    simp only [data, and_true]
  · rw [if_neg data, if_neg data, shows.key]
    rfl

/-- Both accesses of a step. -/
theorem step (shows : m.Shows now s) (reset : Signal) (input : Word) (address : Address) :
    ((m.drive now (s.step reset).2.outM (s.step reset).2.writeM (s.step reset).2.addressM).drive
        (now + 1) input false address).Shows (now + 1) (s.step reset).1 := by
  constructor
  case data =>
    intro a data
    rw [peek_drive_now, shows.peek_written, Architecture.word, if_pos data]
  case key => exact shows.key
  case seen =>
    rw [drive, sampled_drive_next, shows.key]
    rfl
  case calm => exact Screen.pending_drive_low _ _ _ _

end Shows

end Memory

/-! ## Computers -/

namespace Computer

variable {ρ σ : Type} [Bank ρ 14] [Rom σ]

/-- A computer shows a state of the machine of the instruction set. -/
structure Implements (c : Computer ρ σ) (s : Architecture) : Prop where
  registers : c.cpu.values = s.registers
  pc : c.pc = Address.ofWord s.registers.pc
  addressM : c.addressM = Address.ofWord s.registers.a
  operand : c.inM = s.operand
  program : ∀ a, Rom.peek c.rom a = Program.wordAt s.program a
  memory : c.memory.Shows c.clock.now s
  clock : c.clock.now = s.steps
  steps : c.steps = s.steps

/-- A step, with the memory between its two accesses named. -/
theorem step_eq (c : Computer ρ σ) (reset : Signal) :
    c.step reset =
      let next := c.cpu.step c.inM (Rom.output c.rom c.pc) reset
      let written := c.memory.drive c.clock.now next.2.outM next.2.writeM next.2.addressM
      ({ cpu := next.1
         memory := written.drive (c.clock.now + 1) c.inM false next.2.addressM
         rom := Rom.fetched c.rom c.pc
         clock := ⟨c.clock.now + 1⟩
         pc := next.2.pc
         addressM := next.2.addressM
         inM := written.output (c.clock.now + 1) next.2.addressM
         steps := c.steps + 1 },
       next.2) := rfl

namespace Implements

variable {c : Computer ρ σ} {s : Architecture}

theorem peek (shows : c.Implements s) : c.peek = s.peek := by
  funext a
  rw [Computer.peek, Address.slice_eq_ofWord, Architecture.peek]
  exact shows.memory.word (Address.ofWord a)

/-- A computer looks like the state that it implements. -/
theorem observe (shows : c.Implements s) : c.observe = s.observe := by
  have snapshot : c.snapshot = s.observe.snapshot := by
    funext addresses
    rw [Computer.snapshot, now, Computer.registers, shows.steps, shows.clock, shows.registers,
      shows.pc, shows.addressM, shows.peek]
    rfl
  have program : Rom.peek c.rom = Program.wordAt s.program := funext shows.program
  rw [Computer.observe, snapshot, program, shows.memory.screen, shows.peek, now,
    Computer.registers, shows.registers, shows.pc, shows.addressM, shows.steps, shows.clock]
  rfl

theorem press (shows : c.Implements s) (code : Word) : (c.press code).Implements (s.press code) :=
  { shows with memory := shows.memory.press code }

variable [TimedBank ρ] [KeepsProgram σ]

/-- One step keeps the relation, and what leaves the processor in it is what the
instruction set says. -/
theorem step (shows : c.Implements s) (reset : Signal) :
    (c.step reset).2 = (s.step reset).2 ∧ (c.step reset).1.Implements (s.step reset).1 := by
  let out := (s.step reset).2
  let written := c.memory.drive c.clock.now out.outM out.writeM out.addressM
  let next := (c.cpu.step c.inM s.instruction reset).1
  have fetched : Rom.output c.rom c.pc = s.instruction := by
    rw [KeepsProgram.output_eq_peek, shows.program, shows.pc, Architecture.instruction]
  have answers : (c.cpu.step c.inM s.instruction reset).2 = out := by
    rw [Cpu.output_step, shows.registers, shows.operand]
    rfl
  have values : next.values = (s.step reset).1.registers := by
    rw [Cpu.values_step, shows.registers, shows.operand]
    rfl
  have stepped : c.step reset =
      ({ cpu := next
         memory := written.drive (c.clock.now + 1) c.inM false out.addressM
         rom := Rom.fetched c.rom c.pc
         clock := ⟨c.clock.now + 1⟩
         pc := out.pc
         addressM := out.addressM
         inM := written.output (c.clock.now + 1) out.addressM
         steps := c.steps + 1 }, out) := by
    rw [step_eq, fetched]
    simp only [answers]
    rfl
  rw [stepped]
  refine ⟨rfl, ?_⟩
  constructor
  case registers => exact values
  case pc => rfl
  case addressM => rfl
  case operand =>
    show written.output (c.clock.now + 1) out.addressM = _
    rw [Memory.output_eq_peek, shows.memory.peek_written]
    rfl
  case program => exact fun a => (KeepsProgram.peek_fetched c.rom c.pc a).trans (shows.program a)
  case memory => exact shows.memory.step reset c.inM out.addressM
  case clock => exact congrArg (· + 1) shows.clock
  case steps => exact congrArg (· + 1) shows.steps

theorem run (shows : c.Implements s) (steps : Nat) : (c.run steps).Implements (s.run steps) := by
  induction steps generalizing c s with
  | zero => exact shows
  | succ n ih => exact ih (shows.step false).2

omit [KeepsProgram σ] in
/-- A preload sets the same words on both sides, and both latch their memory word
anew. -/
theorem preload (shows : c.Implements s) (image : Bank.Image 14) :
    (c.preload image.words).Implements (s.preload image.words) := by
  have memory := shows.memory.preset image
  have latched : (c.preload image.words).inM = (s.preload image.words).operand := by
    show (c.memory.preset c.clock.now image.words).peek c.clock.now c.addressM = _
    rw [memory.word, shows.addressM]
    rfl
  exact { shows with operand := latched, memory := memory }

/-- Every event keeps the relation and puts out the same. -/
theorem perform (shows : c.Implements s) (e : Event) :
    (c.perform e).2 = (s.perform e).2 ∧ (c.perform e).1.Implements (s.perform e).1 := by
  cases e with
  | step reset =>
      obtain ⟨out, next⟩ := shows.step reset
      exact ⟨congrArg some out, next⟩
  | run steps => exact ⟨rfl, shows.run steps⟩
  | reset =>
      obtain ⟨out, next⟩ := shows.step true
      exact ⟨congrArg some out, next⟩
  | preload image => exact ⟨rfl, shows.preload image⟩
  | press code => exact ⟨rfl, shows.press code⟩
  | release => exact ⟨rfl, shows.press 0#16⟩

/-- A list of events keeps the relation. -/
theorem after (shows : c.Implements s) (events : List Event) :
    (Operated.after c events).Implements (Operated.after s events) := by
  induction events generalizing c s with
  | nil => exact shows
  | cons e rest ih => exact ih (shows.perform e).2

/-- No history tells a computer from the state that it implements. -/
theorem indistinguishable (shows : c.Implements s) : Indistinguishable c s :=
  Indistinguishable.of_simulation Implements (fun _ _ => observe)
    (fun _ _ e shows => shows.perform e) shows

end Implements

/-! ## Fresh computers -/

/-- Parts that show a state before its first step make a computer that implements it. -/
theorem implements_assemble {cpu : Cpu} {memory : Memory ρ} {rom : σ} {clock : Clock}
    {s : Architecture} (values : cpu.values = s.registers)
    (program : ∀ a, Rom.peek rom a = Program.wordAt s.program a) (shows : memory.Shows clock.now s)
    (latched : s.operand = s.word (Address.ofWord s.registers.a)) (now : clock.now = s.steps)
    (unstarted : s.steps = 0) : (assemble cpu memory rom clock).Implements s := by
  have pc : Bus.slice cpu.values.pc 0 15 = Address.ofWord s.registers.pc := by
    rw [values, Address.slice_eq_ofWord]
  have addressM : Bus.slice cpu.values.a 0 15 = Address.ofWord s.registers.a := by
    rw [values, Address.slice_eq_ofWord]
  have operand : memory.peek clock.now (Bus.slice cpu.values.a 0 15) = s.operand := by
    rw [addressM, shows.word, latched]
  exact ⟨values, pc, addressM, operand, program, shows, now, unstarted.symm⟩

theorem ofProgram?_refused {program : Array Word} (long : Program.limit < program.size) :
    (ofProgram? program : Except Program.Error (Computer ρ σ)) =
      .error (.tooLarge program.size) := by
  rw [ofProgram?, Rom.ofProgram?, if_neg (Nat.not_le_of_lt long)]
  rfl

theorem ofProgram?_of_le {program : Array Word} (fits : program.size ≤ Program.limit) :
    (ofProgram? program : Except Program.Error (Computer ρ σ)) =
      .ok (assemble {} Memory.blank (Rom.burn program) {}) := by
  rw [ofProgram?, Rom.ofProgram?, if_pos fits]
  rfl

variable [TimedBank ρ] [KeepsProgram σ]

/-- A fresh computer shows its program, with all registers and words zero. -/
theorem implements_of_ofProgram? {program : Array Word} {c : Computer ρ σ}
    (built : ofProgram? program = .ok c) : c.Implements { program } := by
  by_cases fits : program.size ≤ Program.limit
  · rw [ofProgram?_of_le fits] at built
    obtain rfl := Except.ok.inj built
    have values : ({} : Cpu).values = {} := by
      show RegisterValues.mk (({} : Register).read 0) (({} : Register).read 0)
        (({} : Register).read 0) = _
      rw [Register.read_fresh]
    have burned := KeepsProgram.peek_burn (σ := σ) program fits
    have shows : (Memory.blank : Memory ρ).Shows 0 { program } := Memory.Shows.blank program
    exact implements_assemble values burned shows rfl rfl rfl
  · rw [ofProgram?_refused (Nat.lt_of_not_le fits)] at built
    nomatch built

/-- A computer is built for every program that fits, and it is the machine of the
instruction set with that program. -/
theorem ofProgram?_accepted {program : Array Word} (fits : program.size ≤ Program.limit) :
    ∃ c : Computer ρ σ, ofProgram? program = .ok c ∧
      Indistinguishable c ({ program } : Architecture) :=
  ⟨_, ofProgram?_of_le fits, (implements_of_ofProgram? (ofProgram?_of_le fits)).indistinguishable⟩

end Computer

/-- **The gate-level computer implements the instruction set.**  For every program
that fits, no list of steps, resets, runs, preloads and key events tells it from the
machine of the instruction set. -/
theorem gate_computer_implements_instruction_set (program : Array Word)
    (fits : program.size ≤ Program.limit) :
    ∃ c : GateComputer, Computer.ofProgram? program = .ok c ∧
      Indistinguishable c ({ program } : Architecture) :=
  Computer.ofProgram?_accepted fits

/-- A program that leaves 2 + 3 in the first word of RAM. -/
theorem gate_computer_adds :
    #[0x0002#16, 0xEC10#16, 0x0003#16, 0xE090#16, 0x0000#16, 0xE308#16].size ≤ Program.limit ∧
      ∃ c : GateComputer,
        Computer.ofProgram? #[0x0002#16, 0xEC10#16, 0x0003#16, 0xE090#16, 0x0000#16, 0xE308#16] =
          .ok c ∧ (c.run 6).peek 0#16 = 5#16 := by
  refine ⟨by decide, ?_⟩
  obtain ⟨c, built, alike⟩ := gate_computer_implements_instruction_set
    #[0x0002#16, 0xEC10#16, 0x0003#16, 0xE090#16, 0x0000#16, 0xE308#16] (by decide)
  refine ⟨c, built, ?_⟩
  have seen := congrArg (fun entries => entries.map fun entry => entry.2.memory 0#16)
    (alike.transcript [.run 6])
  exact (List.cons.inj seen).1.trans (by decide)

/-- **Gates and maps make the same machine.**  Whatever RAM and instruction store a
computer is built from, a program beyond the limit is refused with its length; and
the four computers with a program that fits look alike through every history. -/
theorem kinds_of_storage_are_indistinguishable (program : Array Word) :
    (Program.limit < program.size →
      (Computer.ofProgram? program : Except Program.Error (Computer Ram16K GateRom)) =
          .error (.tooLarge program.size) ∧
        (Computer.ofProgram? program : Except Program.Error (Computer Ram16K FlatRom)) =
          .error (.tooLarge program.size) ∧
        (Computer.ofProgram? program : Except Program.Error (Computer (FlatBank 14) GateRom)) =
          .error (.tooLarge program.size) ∧
        (Computer.ofProgram? program : Except Program.Error (Computer (FlatBank 14) FlatRom)) =
          .error (.tooLarge program.size)) ∧
      (program.size ≤ Program.limit →
        ∃ (gates : Computer Ram16K GateRom) (gateRam : Computer Ram16K FlatRom)
          (gateRom : Computer (FlatBank 14) GateRom) (maps : Computer (FlatBank 14) FlatRom),
          Computer.ofProgram? program = .ok gates ∧ Computer.ofProgram? program = .ok gateRam ∧
            Computer.ofProgram? program = .ok gateRom ∧ Computer.ofProgram? program = .ok maps ∧
            Indistinguishable gates gateRam ∧ Indistinguishable gates gateRom ∧
            Indistinguishable gates maps) := by
  refine ⟨fun long => ?_, fun fits => ?_⟩
  · refine ⟨?_, ?_, ?_, ?_⟩
    · exact Computer.ofProgram?_refused long
    · exact Computer.ofProgram?_refused long
    · exact Computer.ofProgram?_refused long
    · exact Computer.ofProgram?_refused long
  · obtain ⟨gates, gatesBuilt, gatesAlike⟩ :=
      Computer.ofProgram?_accepted (ρ := Ram16K) (σ := GateRom) fits
    obtain ⟨gateRam, gateRamBuilt, gateRamAlike⟩ :=
      Computer.ofProgram?_accepted (ρ := Ram16K) (σ := FlatRom) fits
    obtain ⟨gateRom, gateRomBuilt, gateRomAlike⟩ :=
      Computer.ofProgram?_accepted (ρ := FlatBank 14) (σ := GateRom) fits
    obtain ⟨maps, mapsBuilt, mapsAlike⟩ :=
      Computer.ofProgram?_accepted (ρ := FlatBank 14) (σ := FlatRom) fits
    refine ⟨gates, gateRam, gateRom, maps, gatesBuilt, gateRamBuilt, gateRomBuilt, mapsBuilt, ?_⟩
    refine ⟨?_, ?_, ?_⟩
    · exact gatesAlike.trans gateRamAlike.symm
    · exact gatesAlike.trans gateRomAlike.symm
    · exact gatesAlike.trans mapsAlike.symm

end NandMachine
