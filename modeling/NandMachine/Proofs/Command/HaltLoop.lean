/-
# NandMachine.Proofs.Command.HaltLoop -- stopping on the loop that ends a program

A run stops early when the machine sits on an address instruction with its own address
that is followed by an unconditional jump (`Command.isHaltLoop_eq_true_iff`).  From there
on the machine only goes round.  The test looks at the jump bits of the second instruction
and not at what it computes or where it stores, so the loop may still change D and memory;
stopping is unobservable exactly when it idles, as it does when its jump stores neither to
D nor to memory.
-/
import NandMachine.Command.Run
import NandMachine.Proofs.Machine.Laps

namespace NandMachine

set_option autoImplicit false

/-! ## The test for the loop -/

namespace Command

variable {σ : Type} [Rom σ]

/-- What the test for the loop accepts: an instruction that loads its own address, followed
by a compute instruction of any kind that always jumps. -/
theorem isHaltLoop_eq_true_iff (rom : σ) (pc : Address) :
    isHaltLoop rom pc = true ↔
      pc.toNat < 32767 ∧ Rom.peek rom pc = Bus.extend pc 16 ∧
        (Rom.peek rom (pc + 1)).getLsbD 15 = true ∧
        Jump.ofBus (Bus.slice (Rom.peek rom (pc + 1)) 0 3) = .always := by
  have room : 0x7FFF#15 ≤ pc ↔ ¬ pc.toNat < 32767 := by
    rw [BitVec.le_def]
    exact Nat.not_lt.symm
  unfold isHaltLoop
  by_cases last : 0x7FFF#15 ≤ pc
  · simp [last, room.mp last]
  · have inside : pc.toNat < 32767 := Decidable.not_not.mp fun out => last (room.mpr out)
    rw [if_neg last]
    unfold Instruction.ofWord
    cases top : (Rom.peek rom pc).getLsbD 15 with
    | true =>
        -- a compute instruction is no address, whatever the other wires say
        have other : Rom.peek rom pc ≠ Bus.extend pc 16 := by
          intro same
          rw [same, Address.getLsbD_extend] at top
          exact Bool.false_ne_true top
        simp [other]
    | false =>
        cases compute : (Rom.peek rom (pc + 1)).getLsbD 15 with
        | false => simp
        | true =>
            cases jump : Jump.ofBus (Bus.slice (Rom.peek rom (pc + 1)) 0 3) <;>
              simp [Instruction.and_constant_of_low top, inside]

end Command

theorem Computer.Implements.isHaltLoop_iff {ρ σ : Type} [Bank ρ 14] [Rom σ] {c : Computer ρ σ}
    {s : Architecture} (shows : c.Implements s) :
    Command.isHaltLoop c.rom c.pc = true ↔ c.pc.toNat < 32767 ∧ s.OnLoop := by
  rw [Command.isHaltLoop_eq_true_iff, shows.program, shows.program, shows.pc]
  constructor
  · rintro ⟨room, own, computes, jumps⟩
    exact ⟨room, own, computes, jumps⟩
  · rintro ⟨room, own, computes, jumps⟩
    exact ⟨room, own, computes, jumps⟩

/-! ## Runs -/

namespace Command

variable {ρ σ : Type} [Bank ρ 14] [Rom σ]

theorem fst_stepKept (keep : Bool) (c : Computer ρ σ) (seen : List Executed) :
    (stepKept keep c seen).1 = c.next := by
  cases keep <;> rfl

/-- A run that halts has taken some of its steps and sits on a loop. -/
theorem runToHalt_halted (keep : Bool) (c : Computer ρ σ) (seen : List Executed) (limit : Nat)
    (halted : (runToHalt keep c seen limit).halted = true) :
    ∃ k ≤ limit, (runToHalt keep c seen limit).computer = c.run k ∧
      isHaltLoop (c.run k).rom (c.run k).pc = true := by
  induction limit generalizing c seen with
  | zero => nomatch halted
  | succ n ih =>
      rw [runToHalt] at halted ⊢
      by_cases here : isHaltLoop c.rom c.pc = true
      · rw [if_pos here]
        exact ⟨0, Nat.zero_le _, rfl, here⟩
      · rw [if_neg here] at halted ⊢
        have first := fst_stepKept keep c seen
        generalize stepKept keep c seen = executed at halted first ⊢
        obtain ⟨_, kept⟩ := executed
        obtain rfl := first
        obtain ⟨k, inside, ends, there⟩ := ih c.next kept halted
        exact ⟨k + 1, Nat.succ_le_succ inside, ends, there⟩

end Command

/-- **Stopping at the end of a program is unobservable exactly when its loop idles.**  At
every state that a computer can come to, the machine that goes on from a loop keeps D, RAM
and screen for good exactly when the loop idles, as every loop does whose jump stores
neither to D nor to memory; and a run that stops on a loop that idles reports the D, RAM
and screen that running on to the limit would leave. -/
theorem stop_unobservable_iff_loop_idles {ρ σ : Type} [Bank ρ 14] [TimedBank ρ] [Rom σ]
    [KeepsProgram σ] {program : Array Word} {start : Computer ρ σ}
    (built : Computer.ofProgram? program = .ok start) (events : List Event) :
    let c := Operated.after start events
    (Command.isHaltLoop c.rom c.pc = true →
      ((∀ n, c.SameResults (c.run n)) ↔ c.Idles) ∧
        ((Control.ofWord (Rom.peek c.rom (c.pc + 1))).destD = false →
          (Control.ofWord (Rom.peek c.rom (c.pc + 1))).destM = false →
            ∀ n, c.SameResults (c.run n))) ∧
      ∀ keep limit, (Command.runToHalt keep c [] limit).halted = true →
        (Command.runToHalt keep c [] limit).computer.Idles →
          (Command.runToHalt keep c [] limit).computer.SameResults (c.run limit) := by
  intro c
  have shows := (Computer.implements_of_ofProgram? built).after events
  refine ⟨fun halts => ?_, ?_⟩
  · have on := (shows.isHaltLoop_iff.mp halts).2
    refine ⟨shows.sameResults_run_iff on, fun keepsD keepsM => ?_⟩
    exact (shows.sameResults_run_iff on).mpr (shows.idles_of_pure_jump on keepsD keepsM)
  · intro keep limit halted idles
    obtain ⟨k, inside, ends, there⟩ := Command.runToHalt_halted keep c [] limit halted
    rw [ends] at idles ⊢
    have rest : c.run limit = (c.run k).run (limit - k) := by
      rw [← Computer.run_add, Nat.add_sub_cancel' inside]
    have on := ((shows.run k).isHaltLoop_iff.mp there).2
    rw [rest]
    exact ((shows.run k).sameResults_run_iff on).mpr idles (limit - k)

/-- A program that ends with a plain jump to itself. -/
theorem plain_loop_idles :
    ∃ start : GateComputer,
      Computer.ofProgram? #[0x0005#16, 0xEC10#16, 0x0002#16, 0xEA87#16] = .ok start ∧
        Command.isHaltLoop (start.run 2).rom (start.run 2).pc = true ∧ (start.run 2).Idles ∧
          (Command.runToHalt false (start.run 2) [] 9).halted = true ∧
            (Command.runToHalt false (start.run 2) [] 9).computer.SameResults
              ((start.run 2).run 9) := by
  let program := #[0x0005#16, 0xEC10#16, 0x0002#16, 0xEA87#16]
  have fits : program.size ≤ Program.limit := by decide
  obtain ⟨start, built⟩ : ∃ start : GateComputer, Computer.ofProgram? program = .ok start :=
    ⟨_, Computer.ofProgram?_of_le fits⟩
  have shows := (Computer.implements_of_ofProgram? built).run 2
  have here : (({ program } : Architecture).run 2).registers.pc = 2#16 := by decide
  have jump : (({ program } : Architecture).run 2).following = 0xEA87#16 := by decide
  have on : (({ program } : Architecture).run 2).OnLoop := ⟨by decide, by decide, by decide⟩
  have halts := shows.isHaltLoop_iff.mpr ⟨by rw [shows.pc, here]; decide, on⟩
  have keeps : (Control.ofWord (Rom.peek (start.run 2).rom ((start.run 2).pc + 1))).destD = false ∧
      (Control.ofWord (Rom.peek (start.run 2).rom ((start.run 2).pc + 1))).destM = false := by
    rw [shows.following, jump]
    decide
  have stops : Command.runToHalt false (start.run 2) [] 9 = ⟨start.run 2, true, []⟩ := by
    rw [Command.runToHalt, if_pos halts]
    rfl
  have halted : (Command.runToHalt false (start.run 2) [] 9).halted = true := by rw [stops]
  obtain ⟨stop, run⟩ := stop_unobservable_iff_loop_idles built [.run 2]
  have idles : (start.run 2).Idles := (stop halts).1.mp ((stop halts).2 keeps.1 keeps.2)
  have stopped : (Command.runToHalt false (start.run 2) [] 9).computer.Idles := by
    rw [stops]
    exact idles
  exact ⟨start, built, halts, idles, halted, run false 9 halted stopped⟩

/-- A program that counts laps in D is taken to have ended before the first. -/
theorem counting_loop_is_taken_for_the_end :
    ∃ start : FlatComputer, Computer.ofProgram? #[0x0000#16, 0xE7D7#16] = .ok start ∧
      Command.isHaltLoop start.rom start.pc = true ∧
        (Command.runToHalt false start [] 2).computer.registers.d = 0#16 ∧
          (start.run 2).registers.d = 1#16 := by
  let program := #[0x0000#16, 0xE7D7#16]
  have built := Computer.ofProgram?_of_le (ρ := FlatBank 14) (σ := FlatRom)
    (show program.size ≤ Program.limit by decide)
  refine ⟨_, built, ?_⟩
  have shows := Computer.implements_of_ofProgram? built
  have on : ({ program } : Architecture).OnLoop := ⟨by decide, by decide, by decide⟩
  have halts := shows.isHaltLoop_iff.mpr ⟨by rw [shows.pc]; decide, on⟩
  refine ⟨halts, ?_, ?_⟩
  · rw [Command.runToHalt, if_pos halts, Computer.registers, shows.registers]
  · rw [Computer.registers, (shows.run 2).registers]
    decide

end NandMachine
