/-
# NandMachine.Proofs.Machine.Staleness -- no cell of a computer goes stale

Every operation of a computer, done on stores that refuse to be used stale.  The
processor, memory and instruction store of a computer have clocks of their own, so
each part is used at the cycle of its clock: the two banks of a store of gates at the
clock that only fetching advances, the registers at that of the processor, and memory
at the machine's, once before it advances and once after.

A computer is `Live` when no register is stale at the processor's clock, no word of RAM
at the machine's, and no instruction at the store's.  A fresh computer is live.  Inside a
step every part is driven before its clock advances, so it is live again at the next
cycle (`Computer.live_step`), and every read and write that a step makes on the way finds
live cells (`Computer.stepLive?_of_live`).  Presets keep a computer live, and keys touch
no cell.  So whatever a host does to a computer, no operation is ever refused
(`Computer.NeverStale`), and cells never fall back to low.
-/
import NandMachine.Proofs.Machine.Refinement
import NandMachine.Proofs.Storage.Staleness

namespace NandMachine

set_option autoImplicit false

/-! ## Memory -/

namespace Memory

variable {ρ : Type} [Bank ρ 14] [WatchedBank ρ]

def outputLive? (m : Memory ρ) (now : Cycle) (address : Address) : Option Word := do
  let word ← WatchedBank.outputLive? m.ram now (Bus.slice address 0 14)
  return Word.mux word
    (Word.mux (m.screen.peek now (Bus.slice address 0 13)) (m.sampled now) (address.getLsbD 13))
    (address.getLsbD 14)

def driveLive? (m : Memory ρ) (now : Cycle) (input : Word) (load : Signal) (address : Address) :
    Option (Memory ρ) := do
  let ram ← WatchedBank.driveLive? m.ram now input (ramLoad load address) (Bus.slice address 0 14)
  return { m with
    ram
    screen := m.screen.drive now input (screenLoad load address) (Bus.slice address 0 13)
    sample := some (now, m.sampled now) }

def peekLive? (m : Memory ρ) (now : Cycle) (address : Address) : Option Word :=
  if address.getLsbD 14 then
    some (if address.getLsbD 13 then m.sampled now
      else m.screen.peek now (Bus.slice address 0 13))
  else WatchedBank.peekLive? m.ram now (Bus.slice address 0 14)

def presetLive? (m : Memory ρ) (now : Cycle) (image : Array Word) : Option (Memory ρ) := do
  return { m with ram := ← WatchedBank.presetLive? m.ram now image }

variable {m : Memory ρ} {now : Cycle}

theorem outputLive?_of_live (live : WatchedBank.Live m.ram now) (address : Address) :
    m.outputLive? now address = some (m.output now address) := by
  rw [outputLive?, WatchedBank.outputLive?_of_live live]
  rfl

theorem driveLive?_of_live (live : WatchedBank.Live m.ram now) (input : Word) (load : Signal)
    (address : Address) :
    m.driveLive? now input load address = some (m.drive now input load address) := by
  rw [driveLive?, WatchedBank.driveLive?_of_live live]
  rfl

theorem peekLive?_of_live (live : WatchedBank.Live m.ram now) (address : Address) :
    m.peekLive? now address = some (m.peek now address) := by
  unfold peekLive? peek
  cases address.getLsbD 14 with
  | false => exact WatchedBank.peekLive?_of_live live _
  | true => rfl

theorem presetLive?_of_live (live : WatchedBank.Live m.ram now) (image : Array Word) :
    m.presetLive? now image = some (m.preset now image) := by
  rw [presetLive?, WatchedBank.presetLive?_of_live live]
  rfl

theorem live_drive (m : Memory ρ) (now : Cycle) (input : Word) (load : Signal)
    (address : Address) : WatchedBank.Live (m.drive now input load address).ram (now + 1) :=
  WatchedBank.live_drive m.ram now input _ _

end Memory

/-! ## Instruction stores -/

/-- An instruction store with operations that refuse where it is stale, and what keeps
them from refusing. -/
class WatchedRom (σ : Type) [Rom σ] where
  outputLive? : σ → Address → Option Word
  fetchedLive? : σ → Address → Option σ
  peekLive? : σ → Address → Option Word
  /-- The store is not stale at its own clock. -/
  Live : σ → Prop
  outputLive?_of_live : ∀ {rom : σ}, Live rom → ∀ a : Address,
    outputLive? rom a = some (Rom.output rom a)
  fetchedLive?_of_live : ∀ {rom : σ}, Live rom → ∀ a : Address,
    fetchedLive? rom a = some (Rom.fetched rom a)
  peekLive?_of_live : ∀ {rom : σ}, Live rom → ∀ a : Address,
    peekLive? rom a = some (Rom.peek rom a)
  live_burn : ∀ program : Array Word, Live (Rom.burn program)
  live_fetched : ∀ (rom : σ) (a : Address), Live (Rom.fetched rom a)

namespace GateRom

def outputLive? (rom : GateRom) (address : Address) : Option Word := do
  let low ← WatchedBank.outputLive? rom.low rom.clock.now (Bus.slice address 0 14)
  let high ← WatchedBank.outputLive? rom.high rom.clock.now (Bus.slice address 0 14)
  return Word.mux low high (address.getLsbD 14)

def fetchedLive? (rom : GateRom) (address : Address) : Option GateRom := do
  let low ← WatchedBank.driveLive? rom.low rom.clock.now 0#16 false (Bus.slice address 0 14)
  let high ← WatchedBank.driveLive? rom.high rom.clock.now 0#16 false (Bus.slice address 0 14)
  return { clock := rom.clock.advance, low, high, size := rom.size }

def peekLive? (rom : GateRom) (address : Address) : Option Word :=
  WatchedBank.peekLive? (if address.getLsbD 14 then rom.high else rom.low) rom.clock.now
    (Bus.slice address 0 14)

structure Live (rom : GateRom) : Prop where
  low : WatchedBank.Live rom.low rom.clock.now
  high : WatchedBank.Live rom.high rom.clock.now

variable {rom : GateRom}

theorem outputLive?_of_live (live : rom.Live) (a : Address) :
    rom.outputLive? a = some (rom.output a) := by
  rw [outputLive?, WatchedBank.outputLive?_of_live live.low,
    WatchedBank.outputLive?_of_live live.high]
  rfl

theorem fetchedLive?_of_live (live : rom.Live) (a : Address) :
    rom.fetchedLive? a = some (rom.fetched a) := by
  rw [fetchedLive?, WatchedBank.driveLive?_of_live live.low,
    WatchedBank.driveLive?_of_live live.high]
  rfl

theorem peekLive?_of_live (live : rom.Live) (a : Address) :
    rom.peekLive? a = some (rom.peek a) := by
  unfold peekLive? peek
  cases a.getLsbD 14 with
  | false => exact WatchedBank.peekLive?_of_live live.low _
  | true => exact WatchedBank.peekLive?_of_live live.high _

theorem live_burn (program : Array Word) : (burn program).Live := by
  constructor
  · exact WatchedBank.live_preset WatchedBank.live_blank _
  · exact WatchedBank.live_preset WatchedBank.live_blank _

/-- A fetch drives both banks, also the one that it does not read. -/
theorem live_fetched (rom : GateRom) (a : Address) : (rom.fetched a).Live := by
  constructor
  · exact WatchedBank.live_drive rom.low rom.clock.now _ _ _
  · exact WatchedBank.live_drive rom.high rom.clock.now _ _ _

end GateRom

instance : WatchedRom GateRom where
  outputLive? := GateRom.outputLive?
  fetchedLive? := GateRom.fetchedLive?
  peekLive? := GateRom.peekLive?
  Live := GateRom.Live
  outputLive?_of_live := GateRom.outputLive?_of_live
  fetchedLive?_of_live := GateRom.fetchedLive?_of_live
  peekLive?_of_live := GateRom.peekLive?_of_live
  live_burn := GateRom.live_burn
  live_fetched := GateRom.live_fetched

instance : WatchedRom FlatRom where
  outputLive? rom a := some (rom.peek a)
  fetchedLive? rom _ := some rom
  peekLive? rom a := some (rom.peek a)
  Live _ := True
  outputLive?_of_live _ _ := rfl
  fetchedLive?_of_live _ _ := rfl
  peekLive?_of_live _ _ := rfl
  live_burn _ := trivial
  live_fetched _ _ := trivial

/-! ## The processor -/

namespace Cpu

def valuesLive? (cpu : Cpu) : Option RegisterValues := do
  return {
    a := ← cpu.a.readLive? cpu.now
    d := ← cpu.d.readLive? cpu.now
    pc := ← cpu.pc.readLive? cpu.now }

/-- One instruction: the probes of A and D, the drives of all three registers, and the
registers shown after the edge. -/
def stepLive? (cpu : Cpu) (inM instruction : Word) (reset : Signal) :
    Option (Cpu × CpuOutput) := do
  let now := cpu.now
  let c := Control.ofWord instruction
  let d ← cpu.d.readLive? now
  let heldD ← cpu.d.driveLive? now false instruction
  let a ← cpu.a.readLive? now
  let heldA ← cpu.a.driveLive? now false instruction
  let result := alu d (Word.mux a inM c.a) c.alu
  let loadA := Gate.or (Gate.not c.i) (Gate.and c.i c.destA)
  let jump := jumpTaken result.zr result.ng c.jump
  let a' ← heldA.driveLive? now loadA (Word.mux instruction result.out c.i)
  let d' ← heldD.driveLive? now (Gate.and c.i c.destD) result.out
  let pc' ← cpu.pc.driveLive? now a (Gate.and c.i jump) (Gate.or (Gate.not c.i) (Gate.not jump))
    reset
  let next : Cpu := { clock := cpu.clock.advance, a := a', d := d', pc := pc' }
  let after ← next.valuesLive?
  return (next,
    { outM := result.out
      writeM := Gate.and c.i c.destM
      addressM := Bus.slice after.a 0 15
      pc := Bus.slice after.pc 0 15 })

/-- No register is stale at the processor's clock. -/
structure Live (cpu : Cpu) : Prop where
  a : cpu.a.Live cpu.now
  d : cpu.d.Live cpu.now
  pc : cpu.pc.register.Live cpu.now

theorem live_blank : ({} : Cpu).Live :=
  ⟨Register.live_blank, Register.live_blank, Register.live_blank⟩

theorem live_step (cpu : Cpu) (inM w : Word) (reset : Signal) :
    (cpu.step inM w reset).1.Live := by
  constructor
  · exact Register.live_drive _ cpu.now _ _
  · exact Register.live_drive _ cpu.now _ _
  · exact Register.live_drive _ cpu.now _ _

theorem valuesLive?_of_live {cpu : Cpu} (live : cpu.Live) :
    cpu.valuesLive? = some cpu.values := by
  rw [valuesLive?, Register.readLive?_of_live live.a, Register.readLive?_of_live live.d,
    Counter.readLive?, Register.readLive?_of_live live.pc]
  rfl

theorem stepLive?_of_live {cpu : Cpu} (live : cpu.Live) (inM w : Word) (reset : Signal) :
    cpu.stepLive? inM w reset = some (cpu.step inM w reset) := by
  -- the probes of A and D leave them live in their own cycle, so that they can be loaded in it
  have heldA : (cpu.a.drive cpu.now false w).Live cpu.now :=
    (cpu.a.live_drive cpu.now false w).before
  have heldD : (cpu.d.drive cpu.now false w).Live cpu.now :=
    (cpu.d.live_drive cpu.now false w).before
  have shown := valuesLive?_of_live (cpu.live_step inM w reset)
  simp only [stepLive?, Register.readLive?_of_live live.d, Register.readLive?_of_live live.a,
    Register.driveLive?_of_live live.d, Register.driveLive?_of_live live.a,
    Register.driveLive?_of_live heldA, Register.driveLive?_of_live heldD,
    Counter.driveLive?_of_live live.pc, Option.bind_eq_bind, Option.bind_some]
  simp only [step] at shown ⊢
  rw [shown]
  rfl

end Cpu

/-! ## Computers -/

namespace Computer

variable {ρ σ : Type} [Bank ρ 14] [WatchedBank ρ] [Rom σ] [WatchedRom σ]

def stepLive? (c : Computer ρ σ) (reset : Signal) : Option (Computer ρ σ × CpuOutput) := do
  let instruction ← WatchedRom.outputLive? c.rom c.pc
  let rom ← WatchedRom.fetchedLive? c.rom c.pc
  let (cpu, out) ← c.cpu.stepLive? c.inM instruction reset
  let written ← c.memory.driveLive? c.clock.now out.outM out.writeM out.addressM
  let clock := c.clock.advance
  let inM ← written.outputLive? clock.now out.addressM
  let memory ← written.driveLive? clock.now c.inM false out.addressM
  return ({ cpu, memory, rom, clock, pc := out.pc, addressM := out.addressM, inM
            steps := c.steps + 1 }, out)

def runLive? (c : Computer ρ σ) : Nat → Option (Computer ρ σ)
  | 0 => some c
  | n + 1 => do
      let (next, _) ← c.stepLive? false
      next.runLive? n

def registersLive? (c : Computer ρ σ) : Option RegisterValues := c.cpu.valuesLive?

def peekLive? (c : Computer ρ σ) (address : Word) : Option Word :=
  c.memory.peekLive? c.now (Bus.slice address 0 15)

/-- Sets the first words of the RAM and looks at the word that the processor sees. -/
def preloadLive? (c : Computer ρ σ) (image : Array Word) : Option (Computer ρ σ) := do
  let memory ← c.memory.presetLive? c.now image
  return { c with memory, inM := ← memory.peekLive? c.now c.addressM }

def performLive? (c : Computer ρ σ) : Event → Option (Computer ρ σ × Option CpuOutput)
  | .step reset => do
      let (next, out) ← c.stepLive? reset
      return (next, some out)
  | .run steps => do return (← c.runLive? steps, none)
  | .reset => do
      let (next, out) ← c.stepLive? true
      return (next, some out)
  | .preload image => do return (← c.preloadLive? image.words, none)
  | .press code => return (c.press code, none)
  | .release => return (c.release, none)

/-- No cell is stale at the clock of its part. -/
structure Live (c : Computer ρ σ) : Prop where
  cpu : c.cpu.Live
  ram : WatchedBank.Live c.memory.ram c.now
  rom : WatchedRom.Live c.rom

theorem live_step (c : Computer ρ σ) (reset : Signal) : (c.step reset).1.Live := by
  constructor
  · exact Cpu.live_step c.cpu c.inM _ reset
  · -- the second access is made at the new cycle, so RAM is live even one cycle longer
    have longer : WatchedBank.Live (c.step reset).1.memory.ram (c.clock.now + 1 + 1) :=
      Memory.live_drive _ (c.clock.now + 1) c.inM false _
    exact WatchedBank.live_before longer
  · exact WatchedRom.live_fetched c.rom c.pc

theorem stepLive?_of_live {c : Computer ρ σ} (live : c.Live) (reset : Signal) :
    c.stepLive? reset = some (c.step reset) := by
  have ram : WatchedBank.Live c.memory.ram c.clock.now := live.ram
  have edge := c.memory.live_drive c.clock.now
  simp only [stepLive?, WatchedRom.outputLive?_of_live live.rom,
    WatchedRom.fetchedLive?_of_live live.rom, Cpu.stepLive?_of_live live.cpu,
    Memory.driveLive?_of_live ram,
    Option.bind_eq_bind, Option.bind_some]
  simp only [Clock.advance, Memory.outputLive?_of_live (edge _ _ _),
    Memory.driveLive?_of_live (edge _ _ _), Option.bind_some]
  rfl

theorem runLive?_of_live {c : Computer ρ σ} (live : c.Live) (steps : Nat) :
    c.runLive? steps = some (c.run steps) ∧ (c.run steps).Live := by
  induction steps generalizing c with
  | zero => exact ⟨rfl, live⟩
  | succ n ih =>
      obtain ⟨made, kept⟩ := ih (c.live_step false)
      rw [runLive?, stepLive?_of_live live]
      exact ⟨made, kept⟩

theorem live_preload {c : Computer ρ σ} (live : c.Live) (image : Array Word) :
    (c.preload image).Live :=
  ⟨live.cpu, WatchedBank.live_preset live.ram image, live.rom⟩

theorem preloadLive?_of_live {c : Computer ρ σ} (live : c.Live) (image : Array Word) :
    c.preloadLive? image = some (c.preload image) := by
  have ram : WatchedBank.Live (c.memory.preset c.now image).ram c.now :=
    WatchedBank.live_preset live.ram image
  rw [preloadLive?, Memory.presetLive?_of_live live.ram]
  simp only [Option.bind_eq_bind, Option.bind_some, Memory.peekLive?_of_live ram]
  rfl

/-- Every event is performed on live cells only, and leaves live cells. -/
theorem performLive?_of_live {c : Computer ρ σ} (live : c.Live) (e : Event) :
    c.performLive? e = some (c.perform e) ∧ (c.perform e).1.Live := by
  cases e with
  | step reset =>
      rw [performLive?, stepLive?_of_live live]
      exact ⟨rfl, c.live_step reset⟩
  | run steps =>
      obtain ⟨made, kept⟩ := runLive?_of_live live steps
      rw [performLive?, made]
      exact ⟨rfl, kept⟩
  | reset =>
      rw [performLive?, stepLive?_of_live live]
      exact ⟨rfl, c.live_step true⟩
  | preload image =>
      rw [performLive?, preloadLive?_of_live live]
      exact ⟨rfl, live_preload live image.words⟩
  | press code => exact ⟨rfl, ⟨live.cpu, live.ram, live.rom⟩⟩
  | release => exact ⟨rfl, ⟨live.cpu, live.ram, live.rom⟩⟩

/-- No cell is stale, and nothing that a host can do next uses a stale one: every event,
and every look at registers, memory and program, goes as it does without the watch. -/
structure NeverStale (c : Computer ρ σ) : Prop where
  cells : c.Live
  perform : ∀ e : Event, c.performLive? e = some (c.perform e)
  registers : c.registersLive? = some c.registers
  peek : ∀ a : Word, c.peekLive? a = some (c.peek a)
  program : ∀ a : Address, WatchedRom.peekLive? c.rom a = some (Rom.peek c.rom a)

theorem Live.neverStale {c : Computer ρ σ} (live : c.Live) : c.NeverStale := by
  constructor
  case cells => exact live
  case perform => exact fun e => (performLive?_of_live live e).1
  case registers => exact Cpu.valuesLive?_of_live live.cpu
  case peek => exact fun a => Memory.peekLive?_of_live live.ram (Bus.slice a 0 15)
  case program => exact fun a => WatchedRom.peekLive?_of_live live.rom a

theorem live_after {c : Computer ρ σ} (live : c.Live) (events : List Event) :
    (Operated.after c events).Live :=
  Operated.after_induction Live (fun _ e live => (performLive?_of_live live e).2) live events

theorem live_ofProgram? {program : Array Word} (fits : program.size ≤ Program.limit) :
    ∃ c : Computer ρ σ, ofProgram? program = .ok c ∧ c.Live := by
  refine ⟨assemble {} Memory.blank (Rom.burn program) {}, ofProgram?_of_le fits, ?_⟩
  exact ⟨Cpu.live_blank, WatchedBank.live_blank, WatchedRom.live_burn program⟩

end Computer

/-- **No cell goes stale inside a computer.**  Whatever was done to a computer with a
program that fits, no cell of its registers, its RAM and its instruction store is read or
written after its edge has passed; and the map-backed RAM is never stale at the machine's
clock. -/
theorem no_cell_goes_stale (program : Array Word) (fits : program.size ≤ Program.limit) :
    (∃ c : GateComputer, Computer.ofProgram? program = .ok c ∧
      ∀ events : List Event, (Operated.after c events).NeverStale) ∧
    (∃ c : FlatComputer, Computer.ofProgram? program = .ok c ∧
      ∀ events : List Event, (Operated.after c events).NeverStale ∧
        (Operated.after c events).memory.ram.stale (Operated.after c events).now = false) := by
  constructor
  · obtain ⟨c, built, live⟩ := Computer.live_ofProgram? (ρ := Ram16K) (σ := GateRom) fits
    exact ⟨c, built, fun events => (Computer.live_after live events).neverStale⟩
  · obtain ⟨c, built, live⟩ := Computer.live_ofProgram? (ρ := FlatBank 14) (σ := FlatRom) fits
    refine ⟨c, built, fun events => ?_⟩
    have kept := Computer.live_after live events
    exact ⟨kept.neverStale, kept.ram⟩

/-- A program that stores a word and loops: a thousand instructions, a preload in their
midst and a key, and the cells of the gates are still live. -/
theorem storing_program_keeps_cells_live :
    #[0x0007#16, 0xEFC8#16, 0x0002#16, 0xEA87#16].size ≤ Program.limit ∧
      ∃ c : GateComputer,
        Computer.ofProgram? #[0x0007#16, 0xEFC8#16, 0x0002#16, 0xEA87#16] = .ok c ∧
          (Operated.after c [.run 500, .preload ⟨#[1#16], by decide⟩, .press 65#16]).performLive?
              (.run 500) =
            some ((Operated.after c
              [.run 500, .preload ⟨#[1#16], by decide⟩, .press 65#16]).perform (.run 500)) := by
  have fits : #[0x0007#16, 0xEFC8#16, 0x0002#16, 0xEA87#16].size ≤ Program.limit := by decide
  obtain ⟨⟨c, built, never⟩, _⟩ :=
    no_cell_goes_stale #[0x0007#16, 0xEFC8#16, 0x0002#16, 0xEA87#16] fits
  exact ⟨fits, c, built, (never _).perform (.run 500)⟩

end NandMachine
