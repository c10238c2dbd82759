/-
# NandMachine.Proofs.Machine.Laps -- going round a loop of two instructions

An address instruction that loads its own address, followed by a compute instruction
that always jumps, is a loop (`Architecture.OnLoop`).  The machine goes round it two
instructions a lap.  It need not stand still on the way, for nothing was said of what the
second instruction computes or where it stores.

The second instruction runs with A holding the address of the loop, whatever the lap, and
with the memory word there.  The loop *idles* when what it stores is there already
(`Architecture.Idles`): its result is what D holds, if it goes to D, and the word at the
address that it is stored to, if that is in RAM or on the screen.  An idling loop comes
round with the same D and the same words, so each lap is like the first, and a loop that
does not idle has changed one of them after one lap.  D, RAM and screen are therefore kept
for good exactly when the loop idles (`Architecture.sameResults_run_iff`), and a computer
that implements the machine inherits this.
-/
import NandMachine.Proofs.Machine.Refinement

namespace NandMachine

set_option autoImplicit false

/-! ## Laps of the machine of the instruction set -/

namespace Architecture

/-- The word of the instruction after the next one. -/
def following (s : Architecture) : Word :=
  Program.wordAt s.program (Address.ofWord s.registers.pc + 1)

/-- The machine is about to load the address of its own instruction and then to jump
there. -/
structure OnLoop (s : Architecture) : Prop where
  own : s.instruction = Bus.extend (Address.ofWord s.registers.pc) 16
  computes : s.following.getLsbD 15 = true
  jumps : Jump.ofBus (Bus.slice s.following 0 3) = .always

/-- What the second of two steps puts out. -/
def lap (s : Architecture) : CpuOutput := ((s.step false).1.step false).2

/-- The words that a program leaves behind as its results. -/
structure SameResults (s t : Architecture) : Prop where
  d : t.registers.d = s.registers.d
  data : ∀ a : Address, a.toNat < 24576 → t.data a = s.data a

/-- The jump of the loop stores only what is there already. -/
structure Idles (s : Architecture) : Prop where
  d : s.following.getLsbD 4 = true → s.lap.outM = s.registers.d
  data : s.lap.writeM = true → s.lap.addressM.toNat < 24576 → s.data s.lap.addressM = s.lap.outM

theorem SameResults.refl (s : Architecture) : s.SameResults s := ⟨rfl, fun _ _ => rfl⟩

theorem SameResults.trans {s t u : Architecture} (left : s.SameResults t)
    (right : t.SameResults u) : s.SameResults u :=
  ⟨right.d.trans left.d, fun a data => (right.data a data).trans (left.data a data)⟩

namespace OnLoop

variable {s : Architecture}

theorem loads (on : s.OnLoop) : s.instruction.getLsbD 15 = false := by
  rw [on.own, Address.getLsbD_extend]

theorem registers_first (on : s.OnLoop) : (s.step false).1.registers =
    { a := s.instruction, d := s.registers.d, pc := s.registers.pc + 1#16 } := by
  show InstructionSet.execute s.registers s.operand s.instruction false = _
  rw [InstructionSet.execute, on.loads]
  rfl

theorem data_first (on : s.OnLoop) : (s.step false).1.data = s.data := by
  have quiet : (s.step false).2.writeM = false := by
    show (s.instruction.getLsbD 15 && s.instruction.getLsbD 3) = false
    rw [on.loads, Bool.false_and]
  funext a
  show (if (s.step false).2.writeM = true ∧ _ then _ else s.data a) = s.data a
  exact if_neg fun stored => Bool.false_ne_true (quiet.symm.trans stored.1)

theorem sameResults_first (on : s.OnLoop) : s.SameResults (s.step false).1 := by
  constructor
  case d => rw [on.registers_first]
  case data => exact fun a _ => congrFun on.data_first a

/-- The jump computes with the memory word at the address of the loop. -/
theorem operand_first (on : s.OnLoop) : (s.step false).1.operand =
    if (Address.ofWord s.registers.pc).toNat < 24576 then s.data (Address.ofWord s.registers.pc)
    else s.key := by
  show (s.step false).1.word (Address.ofWord (s.step false).1.registers.a) = _
  rw [on.registers_first, on.own, Address.ofWord_extend, word, on.data_first]
  rfl

theorem instruction_first (on : s.OnLoop) : (s.step false).1.instruction = s.following := by
  rw [instruction, on.registers_first, Address.ofWord_add_one]
  rfl

theorem lap_eq (on : s.OnLoop) : s.lap =
    InstructionSet.output (s.step false).1.registers (s.step false).1.operand s.following
      false := by
  rw [← on.instruction_first]
  rfl

theorem registers_second (on : s.OnLoop) : (s.run 2).registers =
    InstructionSet.execute (s.step false).1.registers (s.step false).1.operand s.following
      false := by
  rw [← on.instruction_first]
  rfl

theorem d_second (on : s.OnLoop) : (s.run 2).registers.d =
    if s.following.getLsbD 4 then s.lap.outM else s.registers.d := by
  rw [on.registers_second, InstructionSet.execute_of_always on.computes on.jumps, on.lap_eq,
    on.registers_first]
  rfl

theorem data_second (on : s.OnLoop) (a : Address) : (s.run 2).data a =
    if s.lap.writeM = true ∧ a = s.lap.addressM ∧ a.toNat < 24576 then s.lap.outM
    else s.data a := by
  rw [← on.data_first]
  rfl

/-- After one lap the machine is on the loop again. -/
theorem pc_second (on : s.OnLoop) :
    Address.ofWord (s.run 2).registers.pc = Address.ofWord s.registers.pc := by
  rw [on.registers_second, InstructionSet.execute_of_always on.computes on.jumps,
    on.registers_first, on.own, Address.ofWord_extend]

theorem instruction_second (on : s.OnLoop) : (s.run 2).instruction = s.instruction := by
  rw [instruction, on.pc_second]
  rfl

theorem following_second (on : s.OnLoop) : (s.run 2).following = s.following := by
  rw [following, on.pc_second]
  rfl

theorem second (on : s.OnLoop) : (s.run 2).OnLoop := by
  constructor
  case own => rw [on.instruction_second, on.own, on.pc_second]
  case computes => rw [on.following_second, on.computes]
  case jumps => rw [on.following_second, on.jumps]

/-- Laps that start from the same results put out the same. -/
theorem lap_second (on : s.OnLoop) (same : s.SameResults (s.run 2)) : (s.run 2).lap = s.lap := by
  have operands : ((s.run 2).step false).1.operand = (s.step false).1.operand := by
    rw [on.second.operand_first, on.operand_first, on.pc_second]
    by_cases data : (Address.ofWord s.registers.pc).toNat < 24576
    · rw [if_pos data, if_pos data, same.data _ data]
    · rw [if_neg data, if_neg data]
      rfl
  rw [on.second.lap_eq, on.lap_eq, on.following_second, operands]
  -- the counter need not come back as it was, for a program wraps around at its sixteenth
  -- wire, but an unconditional jump does not look at it
  apply InstructionSet.output_of_always on.computes on.jumps
  · rw [on.second.registers_first, on.registers_first, on.instruction_second]
  · rw [on.second.registers_first, on.registers_first, same.d]

/-- A lap leaves the results as they are exactly when its jump stores what is there. -/
theorem idles_iff (on : s.OnLoop) : s.Idles ↔ s.SameResults (s.run 2) := by
  constructor
  · intro idles
    constructor
    case d =>
      rw [on.d_second]
      by_cases dest : s.following.getLsbD 4 = true
      · rw [if_pos dest, idles.d dest]
      · rw [if_neg dest]
    case data =>
      intro a data
      rw [on.data_second]
      by_cases stored : s.lap.writeM = true ∧ a = s.lap.addressM ∧ a.toNat < 24576
      · obtain ⟨writes, rfl, _⟩ := stored
        rw [if_pos ⟨writes, rfl, data⟩, idles.data writes data]
      · rw [if_neg stored]
  · intro same
    constructor
    case d =>
      intro dest
      have kept := same.d
      rwa [on.d_second, if_pos dest] at kept
    case data =>
      intro writes data
      have kept := same.data _ data
      rw [on.data_second, if_pos ⟨writes, rfl, data⟩] at kept
      exact kept.symm

theorem idles_second (on : s.OnLoop) (idles : s.Idles) : (s.run 2).Idles := by
  have same := on.idles_iff.mp idles
  constructor
  case d =>
    intro dest
    rw [on.following_second] at dest
    rw [on.lap_second same, same.d, idles.d dest]
  case data =>
    rw [on.lap_second same]
    intro writes data
    rw [same.data _ data, idles.data writes data]

end OnLoop

/-- A loop that idles keeps the results through any number of steps, the induction taking
a lap at a time. -/
theorem sameResults_run : ∀ (n : Nat) {s : Architecture}, s.OnLoop → s.Idles →
    s.SameResults (s.run n)
  | 0, s, _, _ => .refl s
  | 1, _, on, _ => on.sameResults_first
  | n + 2, _, on, idles => by
      have lap := on.idles_iff.mp idles
      have rest := sameResults_run n on.second (on.idles_second idles)
      exact lap.trans rest

/-- **Stopping on the loop is unobservable exactly when the loop idles.** -/
theorem sameResults_run_iff {s : Architecture} (on : s.OnLoop) :
    (∀ n, s.SameResults (s.run n)) ↔ s.Idles := by
  constructor
  · intro kept
    exact on.idles_iff.mpr (kept 2)
  · intro idles n
    exact sameResults_run n on idles

end Architecture

/-! ## Laps of a computer -/

namespace Computer

variable {ρ σ : Type} [Bank ρ 14] [Rom σ]

/-- What the second of two steps puts out. -/
def lap (c : Computer ρ σ) : CpuOutput := (c.next.step false).2

/-- Two computers hold the same results: the same D register and the same words in RAM
and on the screen. -/
structure SameResults (c final : Computer ρ σ) : Prop where
  d : final.registers.d = c.registers.d
  data : ∀ a : Word, a.toNat < 24576 → final.peek a = c.peek a
  screen : final.memory.screen.words = c.memory.screen.words

/-- On a loop, the jump stores only what is there already. -/
structure Idles (c : Computer ρ σ) : Prop where
  d : (Control.ofWord (Rom.peek c.rom (c.pc + 1))).destD = true → c.lap.outM = c.registers.d
  data : c.lap.writeM = true → c.lap.addressM.toNat < 24576 →
    c.peek (Bus.extend c.lap.addressM 16) = c.lap.outM

theorem run_add (c : Computer ρ σ) (k n : Nat) : c.run (k + n) = (c.run k).run n := by
  induction k generalizing c with
  | zero => rw [Nat.zero_add, run]
  | succ k ih => rw [Nat.succ_add, run, run, ih]

namespace Implements

variable {c final : Computer ρ σ} {s t : Architecture}

theorem following (shows : c.Implements s) : Rom.peek c.rom (c.pc + 1) = s.following := by
  rw [shows.program, shows.pc, Architecture.following]

/-- A word below the keyboard is a data word. -/
theorem peek_data (shows : c.Implements s) {a : Word} (data : a.toNat < 24576) :
    (Address.ofWord a).toNat < 24576 ∧ c.peek a = s.data (Address.ofWord a) := by
  have number : (Address.ofWord a).toNat = a.toNat := by
    rw [Address.toNat_ofWord]
    omega
  rw [← number] at data
  rw [shows.peek, Architecture.peek, Architecture.word, if_pos data]
  exact ⟨data, rfl⟩

theorem peek_extend (shows : c.Implements s) {a : Address} (data : a.toNat < 24576) :
    c.peek (Bus.extend a 16) = s.data a := by
  rw [shows.peek, Architecture.peek, Address.ofWord_extend, Architecture.word, if_pos data]

theorem sameResults (shows : c.Implements s) (ends : final.Implements t) :
    c.SameResults final ↔ s.SameResults t := by
  have d : final.registers.d = c.registers.d ↔ t.registers.d = s.registers.d := by
    rw [Computer.registers, Computer.registers, shows.registers, ends.registers]
  constructor
  · intro same
    constructor
    case d => exact d.mp same.d
    case data =>
      intro a data
      have word := same.data (Bus.extend a 16) (by
        rw [Bus.extend, BitVec.toNat_setWidth]
        omega)
      rwa [ends.peek_extend data, shows.peek_extend data] at word
  · intro same
    constructor
    case d => exact d.mpr same.d
    case data =>
      intro a data
      obtain ⟨inside, before⟩ := shows.peek_data data
      rw [before, (ends.peek_data data).2, same.data _ inside]
    case screen =>
      rw [shows.memory.screen, ends.memory.screen, Architecture.observe, Architecture.observe]
      apply Vector.ext
      intro i h
      rw [Vector.getElem_ofFn, Vector.getElem_ofFn]
      apply same.data
      rw [BitVec.toNat_ofNat]
      omega

variable [TimedBank ρ] [KeepsProgram σ]

theorem lap (shows : c.Implements s) : c.lap = s.lap :=
  ((shows.step false).2.step false).1

theorem idles (shows : c.Implements s) : c.Idles ↔ s.Idles := by
  have dest : (Control.ofWord (Rom.peek c.rom (c.pc + 1))).destD = s.following.getLsbD 4 := by
    rw [shows.following]
    rfl
  constructor
  · rintro ⟨d, data⟩
    rw [dest, shows.lap, Computer.registers, shows.registers] at d
    rw [shows.lap] at data
    constructor
    case d => exact d
    case data =>
      intro writes inside
      rw [← shows.peek_extend inside, data writes inside]
  · rintro ⟨d, data⟩
    constructor
    case d =>
      rw [dest, shows.lap, Computer.registers, shows.registers]
      exact d
    case data =>
      rw [shows.lap]
      intro writes inside
      rw [shows.peek_extend inside, data writes inside]

/-- Stopping a computer on the loop is unobservable exactly when the loop idles. -/
theorem sameResults_run_iff (shows : c.Implements s) (on : s.OnLoop) :
    (∀ n, c.SameResults (c.run n)) ↔ c.Idles := by
  have turns : ∀ n, c.SameResults (c.run n) ↔ s.SameResults (s.run n) :=
    fun n => shows.sameResults (shows.run n)
  rw [shows.idles, ← Architecture.sameResults_run_iff on]
  exact forall_congr' turns

/-- A jump that stores neither to D nor to memory idles. -/
theorem idles_of_pure_jump (shows : c.Implements s) (on : s.OnLoop)
    (keepsD : (Control.ofWord (Rom.peek c.rom (c.pc + 1))).destD = false)
    (keepsM : (Control.ofWord (Rom.peek c.rom (c.pc + 1))).destM = false) : c.Idles := by
  constructor
  case d =>
    intro dest
    exact absurd (keepsD.symm.trans dest) Bool.false_ne_true
  case data =>
    intro writes
    rw [shows.lap, on.lap_eq] at writes
    have stored : s.following.getLsbD 3 = true := (Bool.and_eq_true_iff.mp writes).2
    rw [shows.following] at keepsM
    exact absurd (keepsM.symm.trans stored) Bool.false_ne_true

end Implements

end Computer

end NandMachine
