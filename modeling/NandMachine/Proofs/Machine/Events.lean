/-
# NandMachine.Proofs.Machine.Events -- histories of a machine

Whoever holds a computer can let it step, run or reset, preload its RAM, and press
or release a key.  An `Event` is one of these, and an `Observation` is all that can
be seen of the computer between two of them: registers, addresses, counters, every
word of memory and of the program, the display, and the snapshot of every stretch
of memory.  The transcript of a list of events holds what each of them put out and
what was seen after it.

Two machines are `Indistinguishable` when they look alike at first and have the same
transcript for every list of events.  They are if some relation between their states
is kept by every event and leaves nothing to tell them apart by
(`Indistinguishable.of_simulation`).
-/
import NandMachine.Machine.Snapshot
import NandMachine.Proofs.Storage.Calls

namespace NandMachine

set_option autoImplicit false

/-- What is done to a machine from outside. -/
inductive Event
  | step (reset : Signal)
  | run (steps : Nat)
  | reset
  | preload (image : Bank.Image 14)
  | press (code : Word)
  | release

/-- What is seen of a machine between two events. -/
structure Observation where
  registers : RegisterValues
  pc : Address
  addressM : Address
  steps : Nat
  now : Cycle
  memory : Word → Word
  program : Address → Word
  screen : Vector Word 8192
  /-- The snapshot of the memory words at some addresses. -/
  snapshot : List Nat → Snapshot

/-- A machine that takes events and can be looked at. -/
class Operated (μ : Type) where
  /-- The machine after an event, with what the processor put out in it. -/
  perform : μ → Event → μ × Option CpuOutput
  observe : μ → Observation

namespace Operated

variable {μ : Type} [Operated μ]

/-- The machine after a list of events. -/
def after (m : μ) (events : List Event) : μ := events.foldl (fun m e => (perform m e).1) m

/-- What one event keeps is kept through every list of events. -/
theorem after_induction (kept : μ → Prop) (step : ∀ m e, kept m → kept (perform m e).1) {m : μ}
    (start : kept m) (events : List Event) : kept (after m events) := by
  induction events generalizing m with
  | nil => exact start
  | cons e rest ih => exact ih (step m e start)

/-- What each event put out, and what was seen after it. -/
def transcript (m : μ) : List Event → List (Option CpuOutput × Observation)
  | [] => []
  | e :: rest =>
      ((perform m e).2, observe (perform m e).1) :: transcript (perform m e).1 rest

end Operated

/-! ## Machines that look alike -/

/-- No list of events tells two machines apart. -/
structure Indistinguishable {μ ν : Type} [Operated μ] [Operated ν] (m : μ) (n : ν) : Prop where
  observe : Operated.observe m = Operated.observe n
  transcript : ∀ events, Operated.transcript m events = Operated.transcript n events

namespace Indistinguishable

variable {κ μ ν : Type} [Operated κ] [Operated μ] [Operated ν]

theorem symm {m : μ} {n : ν} (alike : Indistinguishable m n) : Indistinguishable n m :=
  ⟨alike.observe.symm, fun events => (alike.transcript events).symm⟩

theorem trans {k : κ} {m : μ} {n : ν} (left : Indistinguishable k m)
    (right : Indistinguishable m n) : Indistinguishable k n :=
  ⟨left.observe.trans right.observe, fun events =>
    (left.transcript events).trans (right.transcript events)⟩

/-- Related machines cannot be told apart if related machines look alike and every
event puts out the same and leaves them related. -/
theorem of_simulation (related : μ → ν → Prop)
    (seen : ∀ m n, related m n → Operated.observe m = Operated.observe n)
    (kept : ∀ m n e, related m n →
      (Operated.perform m e).2 = (Operated.perform n e).2 ∧
        related (Operated.perform m e).1 (Operated.perform n e).1)
    {m : μ} {n : ν} (start : related m n) : Indistinguishable m n := by
  refine ⟨seen m n start, fun events => ?_⟩
  induction events generalizing m n with
  | nil => rfl
  | cons e rest ih =>
      obtain ⟨out, next⟩ := kept m n e start
      have shown := seen _ _ next
      rw [Operated.transcript, Operated.transcript, out, shown, ih next]

end Indistinguishable

/-! ## Computers -/

namespace Computer

variable {ρ σ : Type} [Bank ρ 14] [Rom σ]

/-- A computer after an event. -/
def perform (c : Computer ρ σ) : Event → Computer ρ σ × Option CpuOutput
  | .step reset => ((c.step reset).1, some (c.step reset).2)
  | .run steps => (c.run steps, none)
  | .reset => (c.reset.1, some c.reset.2)
  | .preload image => (c.preload image.words, none)
  | .press code => (c.press code, none)
  | .release => (c.release, none)

/-- What is seen of a computer. -/
def observe (c : Computer ρ σ) : Observation where
  registers := c.registers
  pc := c.pc
  addressM := c.addressM
  steps := c.steps
  now := c.now
  memory := c.peek
  program := Rom.peek c.rom
  screen := c.memory.screen.words
  snapshot := c.snapshot

instance : Operated (Computer ρ σ) where
  perform := perform
  observe := observe

end Computer

end NandMachine
