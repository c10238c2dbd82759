/-
# NandMachine.Proofs.Machine.Keys -- a key reaches the program one step late

A host holds handles on keyboards and lets a computer step.  One of the handles is in the
computer, and the code that it shows is what the computer's memory can sample; a host that
has a handle on the same keyboard, made by copying, presses keys on it at any time between
two steps.  A `Console` is the computer together with the keyboards, and an `Action` is what
the host does.

The memory word that a step computes with was latched at the end of the step before, in the
cycle that that step opened, and the keyboard was sampled in that cycle with the key that was
held while that step ran (`Computer.sample_step`).  Between the steps nothing samples it again.
So a program reads the key one step late, what is pressed between two steps does not touch the
second (`Computer.step_press`), and the keyboard addresses show the sample however often keys
change.  Before the first step it is the last look at memory that counts: the one that a
preload makes, or that with which the computer was put together.
-/
import NandMachine.Devices.Keyboard
import NandMachine.Proofs.Machine.Coherence

namespace NandMachine

set_option autoImplicit false

/-! ## Handles -/

namespace Keyboards

/-- What a host does with the handles on keyboards. -/
inductive Act
  | press (handle : Nat) (code : Word)
  | release (handle : Nat)
  | copy (handle : Nat)
  | add

def perform (k : Keyboards) : Act → Keyboards
  | .press handle code => k.press handle code
  | .release handle => k.release handle
  | .copy handle => k.copy handle
  | .add => k.add

/-- Every handle is on a keyboard. -/
structure Sound (k : Keyboards) : Prop where
  some : 0 < k.codes.length
  there : ∀ n ∈ k.handles, n < k.codes.length

namespace Sound

variable {k : Keyboards}

theorem keyboard_lt (sound : k.Sound) (handle : Nat) : k.keyboard handle < k.codes.length := by
  unfold keyboard
  rw [List.getD_eq_getElem?_getD]
  cases found : k.handles[handle]? with
  | none => exact sound.some
  | some n => exact sound.there n (List.mem_of_getElem? found)

theorem press (sound : k.Sound) (handle : Nat) (code : Word) : (k.press handle code).Sound := by
  constructor
  case some => simpa [Keyboards.press] using sound.some
  case there => simpa [Keyboards.press] using sound.there

theorem perform (sound : k.Sound) (act : Act) : (k.perform act).Sound := by
  cases act with
  | press handle code => exact sound.press handle code
  | release handle => exact sound.press handle 0#16
  | copy handle =>
      refine ⟨sound.some, fun n member => ?_⟩
      rcases List.mem_append.mp member with old | new
      · exact sound.there n old
      · exact List.mem_singleton.mp new ▸ sound.keyboard_lt handle
  | add =>
      have more : (k.perform .add).codes.length = k.codes.length + 1 := by
        simp [Keyboards.perform, Keyboards.add]
      refine ⟨by omega, fun n member => ?_⟩
      rcases List.mem_append.mp member with old | new
      · have := sound.there n old
        omega
      · have := List.mem_singleton.mp new
        omega

/-- A press is shown by the handles on the same keyboard, the copies, and by no other. -/
theorem shown_press (sound : k.Sound) (handle other : Nat) (code : Word) :
    (k.press handle code).shown other =
      if k.keyboard other = k.keyboard handle then code else k.shown other := by
  by_cases same : k.keyboard other = k.keyboard handle
  · rw [if_pos same]
    exact Keyboards.shown_press k handle other code (sound.keyboard_lt handle) same
  · rw [if_neg same]
    exact shown_press_of_ne k handle other code same

end Sound

theorem length_handles_perform (k : Keyboards) (act : Act) :
    k.handles.length ≤ (k.perform act).handles.length := by
  cases act with
  | press handle code => exact Nat.le_refl _
  | release handle => exact Nat.le_refl _
  | copy handle => simp [perform, copy]
  | add => simp [perform, add]

/-- A copy is a handle on the same keyboard. -/
theorem keyboard_copy (k : Keyboards) (handle : Nat) :
    (k.copy handle).keyboard k.handles.length = k.keyboard handle := by
  simp [keyboard, copy]

/-- New handles and keyboards leave alone what the old handles show. -/
theorem shown_copy {k : Keyboards} {other : Nat} (held : other < k.handles.length)
    (handle : Nat) : (k.copy handle).shown other = k.shown other := by
  simp [shown, keyboard, copy, List.getElem?_append_left held]

theorem shown_add {k : Keyboards} (sound : k.Sound) {other : Nat}
    (held : other < k.handles.length) : k.add.shown other = k.shown other := by
  have same : k.add.keyboard other = k.keyboard other := by
    simp [keyboard, add, List.getElem?_append_left held]
  rw [shown, same, shown, List.getD_eq_getElem?_getD, List.getD_eq_getElem?_getD]
  show ((k.codes ++ [0#16])[k.keyboard other]?).getD 0#16 = _
  rw [List.getElem?_append_left (sound.keyboard_lt other)]

end Keyboards

/-! ## A look at memory -/

/-- An access in a cycle without a sample sees the key that is held. -/
theorem Memory.sampled_of_unsampled {ρ : Type} {m : Memory ρ} {t : Cycle}
    (unsampled : ∀ code, m.sample ≠ some (t, code)) : m.sampled t = m.key := by
  rw [Memory.sampled]
  cases found : m.sample with
  | none => rfl
  | some last =>
      have other : last.1 ≠ t := fun same => unsampled last.2 (by rw [found, ← same])
      exact if_neg other

theorem Memory.peek_of_keyboard {ρ : Type} [Bank ρ 14] (m : Memory ρ) (t : Cycle) {word : Word}
    (keyboard : 24576 ≤ word.toNat % 32768) : m.peek t (Address.ofWord word) = m.sampled t := by
  have above : 24576 ≤ (Address.ofWord word).toNat := by
    rw [Address.toNat_ofWord]
    exact keyboard
  rw [Memory.peek_eq, if_neg (by omega), if_neg (by omega)]

namespace Computer

variable {ρ σ : Type} [Bank ρ 14]

/-- The memory word that the computer holds is the one that memory shows at the address in
the register. -/
structure Looked (c : Computer ρ σ) : Prop where
  addressM : c.addressM = Address.ofWord c.registers.a
  operand : c.inM = c.memory.peek c.now c.addressM

/-- The keyboard has been sampled in the cycle that stands, and showed the code then. -/
structure Seen (code : Word) (c : Computer ρ σ) : Prop extends c.Looked where
  sample : c.memory.sample = some (c.now, code)

theorem looked_assemble (cpu : Cpu) (memory : Memory ρ) (rom : σ) (clock : Clock) :
    (assemble cpu memory rom clock).Looked :=
  ⟨Address.slice_eq_ofWord cpu.values.a, rfl⟩

namespace Looked

variable {c : Computer ρ σ}

theorem inM_of_keyboard (looked : c.Looked) (keyboard : 24576 ≤ c.registers.a.toNat % 32768) :
    c.inM = c.memory.sampled c.now := by
  rw [looked.operand, looked.addressM, Memory.peek_of_keyboard _ _ keyboard]

end Looked

namespace Seen

variable {code : Word} {c : Computer ρ σ}

theorem sampled (seen : c.Seen code) : c.memory.sampled c.now = code := by
  rw [Memory.sampled, seen.sample]
  simp only [if_pos]

/-- Every address of the keyboard shows the sample. -/
theorem peek (seen : c.Seen code) {address : Word} (keyboard : 24576 ≤ address.toNat % 32768) :
    c.peek address = code := by
  rw [Computer.peek, Address.slice_eq_ofWord, Memory.peek_of_keyboard _ _ keyboard, seen.sampled]

/-- A key pressed after the sample changes neither the sample nor a word of memory. -/
theorem press (seen : c.Seen code) (key : Word) : (c.press key).Seen code where
  addressM := seen.addressM
  operand := by
    show c.inM = (c.memory.press key).peek c.now c.addressM
    rw [Memory.peek_press_of_sampled seen.sample, ← seen.operand]
  sample := seen.sample

theorem preload (seen : c.Seen code) (image : Bank.Image 14) :
    (c.preload image.words).Seen code where
  addressM := seen.addressM
  operand := rfl
  sample := seen.sample

theorem preload_press (seen : c.Seen code) (key : Word) (image : Bank.Image 14) :
    (c.press key).preload image.words = (c.preload image.words).press key := by
  have word := ((seen.preload image).press key).operand
  have again : ((c.press key).preload image.words).inM = (c.preload image.words).inM :=
    word.symm
  calc (c.press key).preload image.words
      = { (c.preload image.words).press key with
          inM := ((c.press key).preload image.words).inM } := rfl
    _ = (c.preload image.words).press key := by
        rw [again]
        rfl

end Seen

/-! ## What a key does to a step -/

/-- The computers differ at most in the key that is held, in its sample, and in the memory
word if that is at an address of the keyboard. -/
structure AlikeButKeys (c d : Computer ρ σ) : Prop where
  cpu : c.cpu = d.cpu
  rom : c.rom = d.rom
  clock : c.clock = d.clock
  pc : c.pc = d.pc
  addressM : c.addressM = d.addressM
  steps : c.steps = d.steps
  ram : c.memory.ram = d.memory.ram
  screen : c.memory.screen = d.memory.screen
  operand : c.addressM.toNat < 24576 → c.inM = d.inM

variable [Rom σ] [TimedBank ρ]

/-- A step samples the keyboard in the cycle that it opens, and so sees the key that is held
while it runs. -/
theorem seen_step (c : Computer ρ σ) (reset : Signal) :
    (c.step reset).1.Seen c.memory.key := by
  let out := (c.cpu.step c.inM (Rom.output c.rom c.pc) reset).2
  let written := c.memory.drive c.clock.now out.outM out.writeM out.addressM
  have held : written.sampled (c.clock.now + 1) = c.memory.key :=
    c.memory.sampled_drive_next c.clock.now out.outM out.writeM out.addressM
  have sample : some (c.clock.now + 1, written.sampled (c.clock.now + 1)) =
      some (c.clock.now + 1, c.memory.key) := by rw [held]
  exact {
    addressM := Address.slice_eq_ofWord (c.step reset).1.registers.a
    operand := c.inM_step reset
    sample := sample }

/-- A key pressed before a step changes nothing in the step but what it samples. -/
theorem step_press (c : Computer ρ σ) (key : Word) (reset : Signal) :
    ((c.press key).step reset).2 = (c.step reset).2 ∧
      ((c.press key).step reset).1.AlikeButKeys (c.step reset).1 := by
  refine ⟨rfl, ?_⟩
  constructor
  case operand =>
    -- both words are what memory shows, and below the keyboard no key shows
    intro data
    have dataToo : (c.step reset).1.addressM.toNat < 24576 := data
    rw [((c.press key).seen_step reset).operand, (c.seen_step reset).operand, Memory.peek_eq,
      Memory.peek_eq, if_pos data, if_pos dataToo]
    rfl
  all_goals rfl

end Computer

/-! ## Consoles -/

/-- A computer with a keyboard, and a host with handles on keyboards. -/
structure Console (ρ σ : Type) where
  computer : Computer ρ σ
  keyboards : Keyboards
  /-- The handle that is in the computer. -/
  own : Nat
  held : own < keyboards.handles.length
  sound : keyboards.Sound
  wired : computer.memory.key = keyboards.shown own

namespace Console

/-- What a host does between two steps. -/
inductive Act
  | preload (image : Bank.Image 14)
  | keys (act : Keyboards.Act)

def Act.isPreload : Act → Bool
  | .preload _ => true
  | .keys _ => false

variable {ρ σ : Type}

/-- The code of the key that is held on the computer's keyboard. -/
def code (c : Console ρ σ) : Word := c.keyboards.shown c.own

def keys (c : Console ρ σ) (act : Keyboards.Act) : Console ρ σ where
  computer := c.computer.press ((c.keyboards.perform act).shown c.own)
  keyboards := c.keyboards.perform act
  own := c.own
  held := Nat.lt_of_lt_of_le c.held (c.keyboards.length_handles_perform act)
  sound := c.sound.perform act
  wired := rfl

theorem code_press (c : Console ρ σ) (handle : Nat) (code : Word) :
    (c.keys (.press handle code)).code =
      if c.keyboards.keyboard c.own = c.keyboards.keyboard handle then code else c.code :=
  c.sound.shown_press handle c.own code

/-- A host that starts with the computer's own handle. -/
def around (computer : Computer ρ σ) : Console ρ σ where
  computer := computer
  keyboards := { codes := [computer.memory.key] }
  own := 0
  held := Nat.one_pos
  sound := ⟨Nat.one_pos, fun _ member => List.mem_singleton.mp member ▸ Nat.one_pos⟩
  wired := rfl

example (computer : Computer ρ σ) :
    (((around computer).keys (.copy 0)).keys (.press 1 65#16)).computer.memory.key = 65#16 := rfl

/-- The computer that finds its own key pressed is the computer that was. -/
theorem press_code (c : Console ρ σ) : c.computer.press c.code = c.computer := by
  rw [code, ← c.wired]
  rfl

variable [Bank ρ 14]

def step [Rom σ] (c : Console ρ σ) (reset : Signal) : Console ρ σ :=
  { c with computer := (c.computer.step reset).1, wired := c.wired }

def preload (c : Console ρ σ) (image : Bank.Image 14) : Console ρ σ :=
  { c with computer := c.computer.preload image.words, wired := c.wired }

def perform (c : Console ρ σ) : Act → Console ρ σ
  | .preload image => c.preload image
  | .keys act => c.keys act

def after (c : Console ρ σ) (acts : List Act) : Console ρ σ := acts.foldl perform c

/-! ## Between two steps -/

/-- Only a step changes registers, moves the clock or samples the keyboard. -/
theorem still_after (c : Console ρ σ) (acts : List Act) :
    (c.after acts).computer.registers = c.computer.registers ∧
      (c.after acts).computer.addressM = c.computer.addressM ∧
      (c.after acts).computer.now = c.computer.now ∧
      (c.after acts).computer.memory.sample = c.computer.memory.sample := by
  induction acts generalizing c with
  | nil => exact ⟨rfl, rfl, rfl, rfl⟩
  | cons act rest ih =>
      cases act with
      | preload image => exact ih (c.preload image)
      | keys act => exact ih (c.keys act)

theorem seen_after {code : Word} {c : Console ρ σ} (seen : c.computer.Seen code)
    (acts : List Act) : (c.after acts).computer.Seen code := by
  induction acts generalizing c with
  | nil => exact seen
  | cons act rest ih =>
      cases act with
      | preload image => exact ih (seen.preload image)
      | keys act => exact ih (seen.press _)

/-- Once the keyboard has been sampled, all that the keys do to the computer until the next step
is to leave another key held. -/
theorem computer_after {code : Word} {c d : Console ρ σ} (seen : d.computer.Seen code)
    (same : c.computer = d.computer.press c.code) (acts : List Act) :
    (c.after acts).computer =
      (d.after (acts.filter Act.isPreload)).computer.press (c.after acts).code := by
  induction acts generalizing c d with
  | nil => exact same
  | cons act rest ih =>
      cases act with
      | keys act =>
          refine ih (c := c.keys act) seen ?_
          show c.computer.press _ = _
          rw [same]
          rfl
      | preload image =>
          refine ih (c := c.preload image) (seen.preload image) ?_
          show c.computer.preload image.words = _
          rw [same, seen.preload_press c.code image]
          rfl

/-- Keys alone leave the computer as it was but for the key that is held, sampled or not. -/
theorem computer_after_keys (c : Console ρ σ) (acts : List Keyboards.Act) :
    (c.after (acts.map .keys)).computer = c.computer.press (c.after (acts.map .keys)).code := by
  induction acts generalizing c with
  | nil => exact c.press_code.symm
  | cons act rest ih => exact ih (c.keys act)

/-- What the last look at memory finds before the first step. -/
theorem looked_at {cpu : Cpu} {memory : Memory ρ} {rom : σ} {clock : Clock}
    {start looked : Console ρ σ} {acts : List Act}
    (built : start.computer = Computer.assemble cpu memory rom clock)
    (look : looked = start ∨ ∃ image, looked = (start.after acts).preload image) :
    looked.computer.Looked ∧ looked.computer.now = clock.now ∧
      looked.computer.memory.sample = memory.sample := by
  have first : start.computer.Looked := built ▸ Computer.looked_assemble cpu memory rom clock
  rcases look with rfl | ⟨image, rfl⟩
  · rw [built] at first ⊢
    exact ⟨first, rfl, rfl⟩
  · obtain ⟨registers, addressM, cycle, sample⟩ := start.still_after acts
    have address : (start.after acts).computer.addressM =
        Address.ofWord (start.after acts).computer.registers.a := by
      rw [addressM, registers, first.addressM]
    rw [built] at cycle sample
    exact ⟨⟨address, rfl⟩, cycle, sample⟩

/-! ## The law -/

/-- How keys reach a program in a computer with RAM of the kind `ρ`.  The console `c` is one in
any state, as a step of the computer finds it; then the host does what it likes, and the next
step is made. -/
structure KeyLaw (ρ : Type) [Bank ρ 14] : Prop where
  /-- A key that is pressed on a handle is held on the keyboard of that handle and no other. -/
  pressed : ∀ {σ : Type} (c : Console ρ σ) (handle : Nat) (code : Word),
    (c.keys (.press handle code)).code =
      if c.keyboards.keyboard c.own = c.keyboards.keyboard handle then code else c.code
  released : ∀ {σ : Type} (c : Console ρ σ) (handle : Nat),
    (c.keys (.release handle)).code =
      if c.keyboards.keyboard c.own = c.keyboards.keyboard handle then 0#16 else c.code
  /-- A copy is one more handle on the keyboard, and making it presses nothing. -/
  copied : ∀ {σ : Type} (c : Console ρ σ) (handle : Nat),
    (c.keys (.copy handle)).keyboards.keyboard c.keyboards.handles.length =
        c.keyboards.keyboard handle ∧
      (c.keys (.copy handle)).code = c.code
  added : ∀ {σ : Type} (c : Console ρ σ), (c.keys .add).code = c.code
  /-- The next step computes with the key that was held when this one ran. -/
  late : ∀ {σ : Type} [Rom σ] (c : Console ρ σ) (reset : Signal) (acts : List Act),
    let now := ((c.step reset).after acts).computer
    24576 ≤ now.registers.a.toNat % 32768 → now.inM = c.code
  /-- Until then every address of the keyboard shows that key. -/
  shown : ∀ {σ : Type} [Rom σ] (c : Console ρ σ) (reset : Signal) (acts : List Act)
    (address : Word), 24576 ≤ address.toNat % 32768 →
      ((c.step reset).after acts).computer.peek address = c.code
  /-- The next step is the one that would have been made had no key been touched since. -/
  unmoved : ∀ {σ : Type} [Rom σ] (c : Console ρ σ) (reset : Signal) (acts : List Act)
    (again : Signal),
    let now := ((c.step reset).after acts).computer
    let quiet := ((c.step reset).after (acts.filter Act.isPreload)).computer
    (now.step again).2 = (quiet.step again).2 ∧
      (now.step again).1.AlikeButKeys (quiet.step again).1
  /-- The first step computes with what the keyboard showed at the last look at memory, that of
  the last preload or of the start; and this is the key that was held then, unless the parts come
  with a sample made in the cycle in which they were put together. -/
  first : ∀ {σ : Type} (cpu : Cpu) (memory : Memory ρ) (rom : σ) (clock : Clock)
    (start looked : Console ρ σ) (acts : List Act) (keys : List Keyboards.Act),
    start.computer = Computer.assemble cpu memory rom clock →
    (looked = start ∨ ∃ image, looked = (start.after acts).preload image) →
      let now := (looked.after (keys.map .keys)).computer
      24576 ≤ now.registers.a.toNat % 32768 →
        now.inM = looked.computer.memory.sampled looked.computer.now ∧
          ((∀ code, memory.sample ≠ some (clock.now, code)) → now.inM = looked.code)

theorem keyLaw [TimedBank ρ] : KeyLaw ρ := by
  constructor
  case pressed => exact code_press
  case released => exact fun c handle => c.code_press handle 0#16
  case copied =>
    intro σ c handle
    exact ⟨c.keyboards.keyboard_copy handle, Keyboards.shown_copy c.held handle⟩
  case added => exact fun c => Keyboards.shown_add c.sound c.held
  case late =>
    intro σ _ c reset acts now keyboard
    have seen : now.Seen c.computer.memory.key := seen_after (c.computer.seen_step reset) acts
    rw [seen.inM_of_keyboard keyboard, seen.sampled, c.wired, code]
  case shown =>
    intro σ _ c reset acts address keyboard
    have seen := seen_after (c := c.step reset) (c.computer.seen_step reset) acts
    rw [seen.peek keyboard, c.wired, code]
  case unmoved =>
    intro σ _ c reset acts again now quiet
    have same : now = quiet.press ((c.step reset).after acts).code :=
      computer_after (c.computer.seen_step reset) (c.step reset).press_code.symm acts
    rw [same]
    exact quiet.step_press _ again
  case first =>
    intro σ cpu memory rom clock start looked acts keys built look now keyboard
    obtain ⟨looks, cycle, sample⟩ := looked_at built look
    have pressed : now = looked.computer.press _ := looked.computer_after_keys keys
    have word : now.inM = looked.computer.memory.sampled looked.computer.now := by
      rw [pressed] at keyboard ⊢
      exact looks.inM_of_keyboard keyboard
    refine ⟨word, fun unsampled => ?_⟩
    rw [word, cycle, Memory.sampled_of_unsampled (sample ▸ unsampled), looked.wired, code]

end Console

/-- **A key reaches the program one step late, and once.**  So it is with RAM of gates and with
RAM kept in a map. -/
theorem keys_arrive_one_step_late : Console.KeyLaw Ram16K ∧ Console.KeyLaw (FlatBank 14) := by
  constructor
  · exact Console.keyLaw
  · exact Console.keyLaw

end NandMachine
