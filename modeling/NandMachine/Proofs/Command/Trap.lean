/-
# NandMachine.Proofs.Command.Trap -- no way off the loop that ends a program

The test for the end of a program reads two words: an address instruction with its own
address, and after it any compute instruction that always jumps.  Once a machine stands on the
first of them it executes these two in turn and nothing else, as long as its reset line stays
low, whatever the jump computes and wherever it stores.

The reason is the order of things in a step.  A jump goes to the A of before the step, and that
is the address of the loop, since the instruction before the jump has just loaded it; what the
jump itself stores to A comes too late.  D and memory do not come in at all, so neither does
anything that a host does to memory or to the keyboard between two steps.  The program counter
has one wire more than an address and may stand beyond the program, but that wire reaches no
instruction store.

`Architecture.Caught` is the invariant: after an even number of steps the machine is about to
load, after an odd number it is about to jump with the address of the loop in A.  A step turns
the one into the other (`Caught.step`), and every event that does not reset keeps the count.
-/
import NandMachine.Proofs.Command.HaltLoop
import NandMachine.Proofs.Machine.Coherence

namespace NandMachine

set_option autoImplicit false

/-! ## The loop and the machine on it -/

/-- A loop of two instructions: the address of the first, and the word of the second. -/
structure Trap where
  address : Address
  jump : Word
  computes : jump.getLsbD 15 = true
  jumps : Jump.ofBus (Bus.slice jump 0 3) = .always

namespace Trap

/-- The address of the instruction that comes after a number of steps on the loop. -/
def place (t : Trap) (turns : Nat) : Address :=
  if turns % 2 = 0 then t.address else t.address + 1

/-- The word of that instruction. -/
def word (t : Trap) (turns : Nat) : Word :=
  if turns % 2 = 0 then Bus.extend t.address 16 else t.jump

/-- There is room for the second instruction, so its address is one more. -/
theorem toNat_place (t : Trap) (room : t.address.toNat < 32767) (turns : Nat) :
    (t.place turns).toNat = t.address.toNat + turns % 2 := by
  rw [place]
  rcases Nat.mod_two_eq_zero_or_one turns with even | odd
  · rw [if_pos even, even]
    rfl
  · have next : (t.address + 1).toNat = t.address.toNat + 1 := by
      have one : (1 : Address).toNat = 1 := rfl
      rw [BitVec.toNat_add, one]
      omega
    rw [if_neg (by omega), odd, next]

end Trap

namespace Architecture

/-- The machine is on the loop, and has made a number of steps since it stood on the first
instruction. -/
structure Caught (s : Architecture) (t : Trap) (turns : Nat) : Prop where
  load : Program.wordAt s.program t.address = Bus.extend t.address 16
  jump : Program.wordAt s.program (t.address + 1) = t.jump
  place : Address.ofWord s.registers.pc = t.place turns
  target : turns % 2 = 1 → Address.ofWord s.registers.a = t.address

/-- The loop that a machine is about to enter. -/
def OnLoop.trap {s : Architecture} (on : s.OnLoop) : Trap where
  address := Address.ofWord s.registers.pc
  jump := s.following
  computes := on.computes
  jumps := on.jumps

theorem OnLoop.caught {s : Architecture} (on : s.OnLoop) : s.Caught on.trap 0 where
  load := on.own
  jump := rfl
  place := rfl
  target := fun odd => nomatch odd

namespace Caught

variable {s : Architecture} {t : Trap} {turns : Nat}

/-- The next instruction is one of the two. -/
theorem instruction (caught : s.Caught t turns) : s.instruction = t.word turns := by
  rw [Architecture.instruction, caught.place, Trap.place, Trap.word]
  by_cases even : turns % 2 = 0
  · rw [if_pos even, if_pos even, caught.load]
  · rw [if_neg even, if_neg even, caught.jump]

theorem step (caught : s.Caught t turns) : (s.step false).1.Caught t (turns + 1) := by
  have registers : (s.step false).1.registers =
      InstructionSet.execute s.registers s.operand (t.word turns) false := by
    rw [← caught.instruction]
    rfl
  rcases Nat.mod_two_eq_zero_or_one turns with even | odd
  · -- the machine loads the address of the loop and goes on to the jump
    have word : t.word turns = Bus.extend t.address 16 := if_pos even
    have here : Address.ofWord s.registers.pc = t.address := caught.place.trans (if_pos even)
    have loaded : (s.step false).1.registers =
        { a := Bus.extend t.address 16, d := s.registers.d, pc := s.registers.pc + 1#16 } := by
      rw [registers, word, InstructionSet.execute, Address.getLsbD_extend]
      rfl
    constructor
    case load => exact caught.load
    case jump => exact caught.jump
    case place => rw [loaded, Address.ofWord_add_one, here, Trap.place, if_neg (by omega)]
    case target =>
      intro _
      rw [loaded, Address.ofWord_extend]
  · -- it jumps to the A of before the step, whatever the step stores
    have word : t.word turns = t.jump := if_neg (by omega)
    have jumped : (s.step false).1.registers.pc = s.registers.a := by
      rw [registers, word, InstructionSet.execute_of_always t.computes t.jumps]
    constructor
    case load => exact caught.load
    case jump => exact caught.jump
    case place => rw [jumped, caught.target odd, Trap.place, if_pos (by omega)]
    case target => exact fun odd' => absurd odd' (by omega)

theorem run (caught : s.Caught t turns) (n : Nat) : (s.run n).Caught t (turns + n) := by
  induction n generalizing s turns with
  | zero => exact caught
  | succ n ih =>
      have rest : ((s.step false).1.run n).Caught t (turns + 1 + n) := ih caught.step
      rwa [Nat.add_right_comm, Nat.add_assoc] at rest

end Caught

end Architecture

/-! ## Events on the loop -/

/-- Whether an event executes an instruction with the reset line high. -/
def Event.resets : Event → Bool
  | .step line => line
  | .reset => true
  | _ => false

namespace Architecture.Caught

variable {s : Architecture} {t : Trap} {turns : Nat}

theorem perform (caught : s.Caught t turns) (e : Event) (low : e.resets = false) :
    (s.perform e).1.Caught t (turns + e.steps) := by
  cases e with
  | step reset =>
      obtain rfl : reset = false := low
      exact caught.step
  | run n => exact caught.run n
  | reset => nomatch low
  | preload image => exact ⟨caught.load, caught.jump, caught.place, caught.target⟩
  | press code => exact ⟨caught.load, caught.jump, caught.place, caught.target⟩
  | release => exact ⟨caught.load, caught.jump, caught.place, caught.target⟩

theorem after (caught : s.Caught t turns) (events : List Event)
    (low : ∀ e ∈ events, e.resets = false) :
    (Operated.after s events).Caught t (turns + Event.allSteps events) := by
  induction events generalizing s turns with
  | nil => exact caught
  | cons e rest ih =>
      have first := caught.perform e (low e List.mem_cons_self)
      have later := ih first fun d member => low d (List.mem_cons_of_mem e member)
      rw [Nat.add_assoc] at later
      exact later

end Architecture.Caught

/-! ## Computers -/

/-- A computer that implements a machine on the loop stands on the loop and fetches from it. -/
theorem Computer.Implements.of_caught {ρ σ : Type} [Bank ρ 14] [Rom σ] [KeepsProgram σ]
    {c : Computer ρ σ} {s : Architecture} {t : Trap} {turns : Nat} (shows : c.Implements s)
    (caught : s.Caught t turns) :
    c.pc = t.place turns ∧ Rom.output c.rom c.pc = t.word turns := by
  have pc : c.pc = t.place turns := shows.pc.trans caught.place
  have fetched : Rom.output c.rom c.pc = s.instruction := by
    rw [KeepsProgram.output_eq_peek, shows.program, shows.pc, Architecture.instruction]
  exact ⟨pc, fetched.trans caught.instruction⟩

/-- **The end of a program is a trap.**  At every state that a computer can come to, if the test
for the end of a program accepts the program counter, then any number of further steps leaves the
counter there or one further, by the parity of the number; and through any list of events that
do not reset, whatever they do to memory and keys, each instruction that is fetched is one of
the two that the test looked at. -/
theorem end_of_program_is_a_trap {ρ σ : Type} [Bank ρ 14] [TimedBank ρ] [Rom σ] [KeepsProgram σ]
    {program : Array Word} {start : Computer ρ σ}
    (built : Computer.ofProgram? program = .ok start) (events : List Event) :
    let c := Operated.after start events
    Command.isHaltLoop c.rom c.pc = true →
      (∀ n, (c.run n).pc.toNat = c.pc.toNat + n % 2) ∧
        ∀ later : List Event, (∀ e ∈ later, e.resets = false) →
          let final := Operated.after c later
          final.pc.toNat = c.pc.toNat + Event.allSteps later % 2 ∧
            Rom.output final.rom final.pc =
              Rom.peek c.rom (if Event.allSteps later % 2 = 0 then c.pc else c.pc + 1) := by
  intro c halts
  have shows := (Computer.implements_of_ofProgram? built).after events
  obtain ⟨room, on⟩ := shows.isHaltLoop_iff.mp halts
  have here : c.pc = on.trap.address := shows.pc
  have words (turns : Nat) :
      Rom.peek c.rom (if turns % 2 = 0 then c.pc else c.pc + 1) = on.trap.word turns := by
    rw [Trap.word, here]
    by_cases even : turns % 2 = 0
    · rw [if_pos even, if_pos even, shows.program]
      exact on.caught.load
    · rw [if_neg even, if_neg even, shows.program]
      exact on.caught.jump
  have places (turns : Nat) : (on.trap.place turns).toNat = c.pc.toNat + turns % 2 := by
    rw [here]
    exact on.trap.toNat_place (here ▸ room) turns
  constructor
  · intro n
    have caught := on.caught.run n
    rw [((shows.run n).of_caught caught).1, Nat.zero_add, places]
  · intro later low final
    have caught := on.caught.after later low
    obtain ⟨pc, fetched⟩ := (shows.after later).of_caught caught
    rw [Nat.zero_add] at pc fetched
    exact ⟨by rw [pc, places], by rw [fetched, words]⟩

/-- A jump that stores its result in A, in D and in memory is no way out, and neither is a
preload that comes between two steps. -/
theorem storing_jump_is_no_way_out :
    ∃ start : GateComputer, Computer.ofProgram? #[0x0005#16, 0x0001#16, 0xE7FF#16] = .ok start ∧
      Command.isHaltLoop (start.run 1).rom (start.run 1).pc = true ∧
        ((start.run 1).run 7).pc.toNat = 2 ∧
          (Operated.after (start.run 1)
            [.run 3, .preload ⟨#[9#16], by decide⟩, .press 65#16, .step false]).pc.toNat = 1 := by
  let program := #[0x0005#16, 0x0001#16, 0xE7FF#16]
  have fits : program.size ≤ Program.limit := by decide
  obtain ⟨start, built⟩ : ∃ start : GateComputer, Computer.ofProgram? program = .ok start :=
    ⟨_, Computer.ofProgram?_of_le fits⟩
  have shows := (Computer.implements_of_ofProgram? built).run 1
  have here : (start.run 1).pc = 1 := by
    rw [shows.pc]
    decide
  have on : (({ program } : Architecture).run 1).OnLoop := ⟨by decide, by decide, by decide⟩
  have halts := shows.isHaltLoop_iff.mpr ⟨by rw [here]; decide, on⟩
  obtain ⟨steps, events⟩ := end_of_program_is_a_trap built [.run 1] halts
  have seventh := steps 7
  have last := events [.run 3, .preload ⟨#[9#16], by decide⟩, .press 65#16, .step false]
    (by simp [Event.resets])
  refine ⟨start, built, halts, ?_, ?_⟩
  · exact seventh.trans (congrArg (fun pc : Address => pc.toNat + 1) here)
  · exact last.1.trans (congrArg (fun pc : Address => pc.toNat + 0) here)

end NandMachine
