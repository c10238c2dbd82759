/-
# NandMachine.Proofs.Machine.Coherence -- what a computer remembers agrees with its parts

A computer holds copies of what its parts own: the address of the next instruction
and the memory address, which are in the registers, and the memory word at the latter.
It also counts its steps, while the processor and the memory each run on a clock of
their own.

A computer put together from parts with any history is `Computer.Coherent` from the
start, and every event keeps it so.  The addresses are those in the registers; the two
clocks and the count move together; and the memory word is the one that memory shows at
that address.  This last is the delicate part, because a host can press keys at any
time.  A key changes no word below the keyboard (`Memory.peek_press_of_data`), and once a
step has been made it changes no word at all before the next step, since the step has
sampled the keyboard in the cycle that it leaves behind (`Memory.peek_press_of_sampled`).
Before the first step a key may change the word at a keyboard address, and the copy is
then out of date until the step is made.
-/
import NandMachine.Proofs.Machine.Events
import NandMachine.Proofs.Machine.MemoryMap
import NandMachine.Proofs.Machine.Refinement

namespace NandMachine

set_option autoImplicit false

/-! ## Keys and the words of memory -/

namespace Memory

variable {ρ : Type} [Bank ρ 14]

theorem peek_press_of_data (m : Memory ρ) (code : Word) (t : Cycle) {a : Address}
    (data : a.toNat < 24576) : (m.press code).peek t a = m.peek t a := by
  rw [peek_eq, peek_eq, if_pos data, if_pos data]
  rfl

/-- Once the keyboard has been sampled in a cycle, no key changes a word of that cycle. -/
theorem peek_press_of_sampled {m : Memory ρ} {t : Cycle} {seen : Word}
    (sampled : m.sample = some (t, seen)) (code : Word) (a : Address) :
    (m.press code).peek t a = m.peek t a := by
  have same : (m.press code).sampled t = m.sampled t := by
    have kept : (m.press code).sample = some (t, seen) := sampled
    rw [Memory.sampled, Memory.sampled, kept, sampled]
    simp only [if_pos]
  rw [peek_eq, peek_eq, same]
  rfl

end Memory

/-! ## Counting steps -/

/-- The number of instructions that an event executes. -/
def Event.steps : Event → Nat
  | step _ => 1
  | run steps => steps
  | reset => 1
  | preload _ => 0
  | press _ => 0
  | release => 0

def Event.allSteps (events : List Event) : Nat := events.foldr (fun e n => e.steps + n) 0

namespace Computer

variable {ρ σ : Type} [Bank ρ 14] [Rom σ]

theorem steps_run (c : Computer ρ σ) (n : Nat) : (c.run n).steps = c.steps + n := by
  induction n generalizing c with
  | zero => rfl
  | succ n ih =>
      have first : c.next.steps = c.steps + 1 := rfl
      rw [run, ih, first]
      omega

theorem steps_perform (c : Computer ρ σ) (e : Event) :
    (c.perform e).1.steps = c.steps + e.steps := by
  cases e with
  | run n => exact c.steps_run n
  | _ => rfl

theorem steps_after (c : Computer ρ σ) (events : List Event) :
    (Operated.after c events).steps = c.steps + Event.allSteps events := by
  induction events generalizing c with
  | nil => rfl
  | cons e rest ih =>
      let next := (Operated.perform c e).1
      have split : Operated.after c (e :: rest) = Operated.after next rest := rfl
      have first : next.steps = c.steps + e.steps := c.steps_perform e
      rw [split, ih, first, Nat.add_assoc]
      rfl

/-! ## Coherence -/

/-- The memory word that a step leaves is what its second access shows, and that access does
not disturb the words of its cycle. -/
theorem inM_step [TimedBank ρ] (c : Computer ρ σ) (reset : Signal) :
    (c.step reset).1.inM =
      (c.step reset).1.memory.peek (c.step reset).1.now (c.step reset).1.addressM := by
  let out := (c.cpu.step c.inM (Rom.output c.rom c.pc) reset).2
  let written := c.memory.drive c.clock.now out.outM out.writeM out.addressM
  show written.output (c.clock.now + 1) out.addressM =
    (written.drive (c.clock.now + 1) c.inM false out.addressM).peek (c.clock.now + 1) out.addressM
  rw [Memory.output_eq_peek, Memory.peek_drive_now]

/-- A computer whose memory clock stood at `start` and whose processor clock stood at
`cpuStart` when it was put together agrees with its parts. -/
structure Coherent (start cpuStart : Cycle) (c : Computer ρ σ) : Prop where
  pc : c.pc = Address.ofWord c.registers.pc
  addressM : c.addressM = Address.ofWord c.registers.a
  clock : c.now = start + c.steps
  cpuClock : c.cpu.now = cpuStart + c.steps
  /-- A step leaves the keyboard sampled in the cycle that it opens. -/
  sampled : 0 < c.steps → ∃ code, c.memory.sample = some (c.now, code)
  operand : c.addressM.toNat < 24576 ∨ 0 < c.steps → c.inM = c.memory.peek c.now c.addressM

omit [Rom σ] in
theorem coherent_assemble (cpu : Cpu) (memory : Memory ρ) (rom : σ) (clock : Clock) :
    (assemble cpu memory rom clock).Coherent clock.now cpu.now := by
  constructor
  case pc => exact Address.slice_eq_ofWord cpu.values.pc
  case addressM => exact Address.slice_eq_ofWord cpu.values.a
  case clock => rfl
  case cpuClock => rfl
  case sampled =>
    intro stepped
    exact absurd stepped (Nat.lt_irrefl 0)
  case operand => exact fun _ => rfl

namespace Coherent

variable {start cpuStart : Cycle} {c : Computer ρ σ}

omit [Rom σ] in
theorem press (coherent : c.Coherent start cpuStart) (code : Word) :
    (c.press code).Coherent start cpuStart := by
  have operand : c.addressM.toNat < 24576 ∨ 0 < c.steps →
      c.inM = (c.memory.press code).peek c.now c.addressM := by
    intro known
    have latched := coherent.operand known
    rcases known with data | stepped
    · rw [Memory.peek_press_of_data c.memory code c.now data]
      exact latched
    · obtain ⟨seen, sampled⟩ := coherent.sampled stepped
      rw [Memory.peek_press_of_sampled sampled]
      exact latched
  exact { coherent with operand := operand }

omit [Rom σ] in
/-- A preload looks at memory anew, after the words have been set. -/
theorem preload (coherent : c.Coherent start cpuStart) (image : Array Word) :
    (c.preload image).Coherent start cpuStart :=
  { coherent with operand := fun _ => rfl }

variable [TimedBank ρ]

/-- A step makes both addresses and the memory word anew, so only the clocks depend on
what was before. -/
theorem step (coherent : c.Coherent start cpuStart) (reset : Signal) :
    (c.step reset).1.Coherent start cpuStart := by
  let out := (c.cpu.step c.inM (Rom.output c.rom c.pc) reset).2
  let written := c.memory.drive c.clock.now out.outM out.writeM out.addressM
  have clock : c.clock.now = start + c.steps := coherent.clock
  have cpuClock : c.cpu.clock.now = cpuStart + c.steps := coherent.cpuClock
  constructor
  case pc => exact Address.slice_eq_ofWord (c.step reset).1.registers.pc
  case addressM => exact Address.slice_eq_ofWord (c.step reset).1.registers.a
  case clock =>
    show c.clock.now + 1 = start + (c.steps + 1)
    rw [clock, Nat.add_assoc]
  case cpuClock =>
    show c.cpu.clock.now + 1 = cpuStart + (c.steps + 1)
    rw [cpuClock, Nat.add_assoc]
  case sampled => exact fun _ => ⟨written.sampled (c.clock.now + 1), rfl⟩
  case operand => exact fun _ => c.inM_step reset

theorem run (coherent : c.Coherent start cpuStart) (n : Nat) :
    (c.run n).Coherent start cpuStart := by
  induction n generalizing c with
  | zero => exact coherent
  | succ n ih => exact ih (coherent.step false)

theorem perform (coherent : c.Coherent start cpuStart) (e : Event) :
    (c.perform e).1.Coherent start cpuStart := by
  cases e with
  | step reset => exact coherent.step reset
  | run steps => exact coherent.run steps
  | reset => exact coherent.step true
  | preload image => exact coherent.preload image.words
  | press code => exact coherent.press code
  | release => exact coherent.press 0#16

theorem after (coherent : c.Coherent start cpuStart) (events : List Event) :
    (Operated.after c events).Coherent start cpuStart :=
  Operated.after_induction (Coherent start cpuStart) (fun _ e kept => kept.perform e) coherent
    events

end Coherent

/-- What holds of every computer with RAM of the kind `ρ`, whatever its parts went
through before they were put together and whatever was done to it since.  The addresses
are those in the registers; the steps are those that the events asked for, and both
clocks have moved on by as many; and the memory word is that at the memory address,
unless no step has been made and the address is one of the keyboard. -/
def CoherenceLaw (ρ : Type) [Bank ρ 14] : Prop :=
  ∀ (σ : Type) [Rom σ] (cpu : Cpu) (memory : Memory ρ) (rom : σ) (clock : Clock)
    (events : List Event),
    let c := Operated.after (assemble cpu memory rom clock) events
    c.pc.toNat = c.registers.pc.toNat % 32768 ∧
      c.addressM.toNat = c.registers.a.toNat % 32768 ∧
      c.steps = Event.allSteps events ∧
      c.now = clock.now + c.steps ∧
      c.cpu.now = cpu.now + c.steps ∧
      (c.addressM.toNat < 24576 ∨ 0 < c.steps → c.inM = c.memory.peek c.now c.addressM)

theorem coherenceLaw [TimedBank ρ] : CoherenceLaw ρ := by
  intro σ _ cpu memory rom clock events c
  have coherent : c.Coherent clock.now cpu.now :=
    (coherent_assemble cpu memory rom clock).after events
  have steps : c.steps = 0 + Event.allSteps events := steps_after _ events
  refine ⟨?_, ?_, ?_, ?_, ?_, ?_⟩
  · rw [coherent.pc, Address.toNat_ofWord]
  · rw [coherent.addressM, Address.toNat_ofWord]
  · rw [steps, Nat.zero_add]
  · exact coherent.clock
  · exact coherent.cpuClock
  · exact coherent.operand

end Computer

/-- **A computer agrees with its parts after every history.** -/
theorem computers_agree_with_their_parts :
    Computer.CoherenceLaw Ram16K ∧ Computer.CoherenceLaw (FlatBank 14) := by
  constructor
  · exact Computer.coherenceLaw
  · exact Computer.coherenceLaw

end NandMachine
