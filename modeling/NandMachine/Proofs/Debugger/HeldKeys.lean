/-
# NandMachine.Proofs.Debugger.HeldKeys -- no key stays down

A terminal reports that a key goes down and not that it comes up, so a session keeps a count of
the ticks for which the key that it forwarded stays down.  The count is the session's and the key
is the machine's, and a reset takes the machine away without touching the count, so the two can
disagree: the count may run on over a keyboard on which nothing is held.  They never disagree in
the other direction.

`Held` is all that matters of a session, the count and the code on the keyboard.  Counting down
takes one off the count (`held_countDown`), and a batch of instructions does nothing to the two
(`keepsKey_advance`), so an act that leaves the key alone counts down if it is a tick, and else
does nothing (`held_perform`).  The induction is on the acts: `held_after` follows a forwarded
key through any order of acts that leave it alone.

The invariant `Sound` says that a count of zero leaves no key down and that a rebuilt machine
has none.  It is kept by all acts (`Sound.perform`), the reset included, which is why a count
that has run out means the same after it.
-/
import NandMachine.Debugger.Session
import NandMachine.Proofs.Machine.Refinement

namespace NandMachine

set_option autoImplicit false

namespace Session

/-! ## What a user does -/

/-- An act of the user, or of the clock. -/
inductive Act
  | step
  | run
  | pause
  | tick
  | toggleBreakpoint
  | reset
  | forwardKey (key : TerminalKey)

namespace Act

/-- Whether an act takes away the key that is held, or puts another in its place. -/
def touchesKey : Act → Bool
  | pause => true
  | reset => true
  | forwardKey key => key.code?.isSome
  | _ => false

/-- Whether an act presses a key. -/
def presses : Act → Bool
  | forwardKey key => key.code?.isSome
  | _ => false

def isTick : Act → Bool
  | tick => true
  | _ => false

/-- The number of ticks among some acts. -/
def ticks (acts : List Act) : Nat := acts.countP isTick

theorem ticks_cons (act : Act) (rest : List Act) :
    ticks (act :: rest) = (if act.isTick then 1 else 0) + ticks rest := by
  rw [ticks, List.countP_cons, Nat.add_comm]
  rfl

end Act

/-! ## The count and the key -/

/-- A count of ticks, and the code that is on the keyboard meanwhile. -/
structure Held where
  count : Nat
  code : Word

namespace Held

/-- A count that has run out leaves no key down. -/
def Released (h : Held) : Prop := h.count = 0 → h.code = 0#16

/-- What a number of ticks makes of a count and a key. -/
def down (h : Held) (ticks : Nat) : Held :=
  if ticks < h.count then { count := h.count - ticks, code := h.code }
  else { count := 0, code := 0#16 }

theorem Released.down_zero {h : Held} (released : h.Released) : h.down 0 = h := by
  obtain ⟨count, code⟩ := h
  cases count with
  | zero =>
      obtain rfl : code = 0#16 := released rfl
      rfl
  | succ n => rfl

theorem released_down (h : Held) (ticks : Nat) : (h.down ticks).Released := by
  intro out
  rw [down] at out ⊢
  by_cases left : ticks < h.count
  · rw [if_pos left] at out
    exact absurd out (Nat.sub_ne_zero_of_lt left)
  · rw [if_neg left]

theorem count_down_le (h : Held) (ticks : Nat) : (h.down ticks).count ≤ h.count - ticks := by
  rw [down]
  by_cases left : ticks < h.count
  · rw [if_pos left]
  · rw [if_neg left]
    exact Nat.zero_le _

theorem down_down (h : Held) (m n : Nat) : (h.down m).down n = h.down (m + n) := by
  simp only [down]
  grind

end Held

variable {ρ σ : Type}

/-- The code on the machine's keyboard. -/
def key (s : Session ρ σ) : Word := s.computer.memory.key

def held (s : Session ρ σ) : Held := ⟨s.hold, s.key⟩

/-- What a session keeps as long as its key is left alone: the count and the key, and what it
would be rebuilt from. -/
structure KeepsKey (s t : Session ρ σ) : Prop where
  held : t.held = s.held
  build : t.build = s.build
  program : t.program = s.program

/-- The invariant of a session: a count that has run out leaves no key down, the count is at
most that of a key just forwarded, and a machine rebuilt from the program has no key down. -/
structure Sound (s : Session ρ σ) : Prop where
  released : s.held.Released
  bounded : s.hold ≤ holdTicks
  rebuilt : ∀ c, s.build s.program = .ok c → c.memory.key = 0#16

/-! ## Acts that execute nothing -/

theorem keepsKey_toggleBreakpoint (s : Session ρ σ) : s.KeepsKey s.toggleBreakpoint := by
  unfold toggleBreakpoint
  cases s.atBreakpoint <;> exact ⟨rfl, rfl, rfl⟩

theorem held_countDown {s : Session ρ σ} (released : s.held.Released) :
    s.countDown.held = s.held.down 1 := by
  unfold countDown
  cases count : s.hold with
  | zero =>
      have none : s.key = 0#16 := released count
      simp only [held, Held.down, count, none, Nat.not_lt_zero, if_false]
  | succ n =>
      cases n with
      | zero =>
          simp only [held, Held.down, count, Nat.lt_irrefl, if_false]
          rfl
      | succ n =>
          have left : 1 < n + 1 + 1 := by omega
          simp only [held, Held.down, count, left, if_true]
          rfl

theorem origin_countDown (s : Session ρ σ) :
    s.countDown.build = s.build ∧ s.countDown.program = s.program := by
  unfold countDown
  split <;> exact ⟨rfl, rfl⟩

theorem held_forwardKey (s : Session ρ σ) {key : TerminalKey} {code : Word}
    (mapped : key.code? = some code) : (s.forwardKey key).held = ⟨holdTicks, code⟩ := by
  rw [forwardKey, mapped]
  rfl

namespace Sound

variable {s t : Session ρ σ}

theorem keeps (sound : s.Sound) (kept : s.KeepsKey t) : t.Sound where
  released := kept.held ▸ sound.released
  bounded := by
    have count : t.hold = s.hold := congrArg Held.count kept.held
    exact count ▸ sound.bounded
  rebuilt := by
    rw [kept.build, kept.program]
    exact sound.rebuilt

theorem countDown (sound : s.Sound) : s.countDown.Sound := by
  have counted := held_countDown sound.released
  obtain ⟨build, program⟩ := s.origin_countDown
  constructor
  case released => exact counted ▸ s.held.released_down 1
  case bounded => calc s.countDown.hold
      _ = (s.held.down 1).count := congrArg Held.count counted
      _ ≤ s.hold - 1 := s.held.count_down_le 1
      _ ≤ s.hold := Nat.sub_le s.hold 1
      _ ≤ holdTicks := sound.bounded
  case rebuilt =>
    rw [build, program]
    exact sound.rebuilt

/-- A rebuilt machine has no key down, whatever the count says; and the count runs on. -/
theorem reset (sound : s.Sound) : s.reset.Sound := by
  unfold Session.reset
  cases built : s.build s.program with
  | error e => exact ⟨sound.released, sound.bounded, sound.rebuilt⟩
  | ok c => exact ⟨fun _ => sound.rebuilt c built, sound.bounded, sound.rebuilt⟩

theorem forwardKey (sound : s.Sound) (key : TerminalKey) : (s.forwardKey key).Sound := by
  unfold Session.forwardKey
  cases key.code? with
  | none => exact sound
  | some code =>
      constructor
      case released => exact fun out => nomatch out
      case bounded => exact Nat.le_refl holdTicks
      case rebuilt => exact sound.rebuilt

end Sound

/-- A session starts over a computer that was built. -/
theorem eq_of_start? {build : Array Word → Except Program.Error (Computer ρ σ)}
    {program : Array Word} {batch : Nat} {s : Session ρ σ}
    (started : start? program build batch = .ok s) :
    ∃ c, build program = .ok c ∧ s = { computer := c, build, program, batch := max batch 1 } := by
  rw [start?] at started
  cases built : build program with
  | error e =>
      rw [built] at started
      nomatch started
  | ok c =>
      rw [built] at started
      exact ⟨c, rfl, (Except.ok.inj started).symm⟩

/-- A session starts with nothing held. -/
theorem sound_of_start? {build : Array Word → Except Program.Error (Computer ρ σ)}
    (quiet : ∀ program c, build program = .ok c → c.memory.key = 0#16) {program : Array Word}
    {batch : Nat} {s : Session ρ σ} (started : start? program build batch = .ok s) : s.Sound := by
  obtain ⟨c, built, rfl⟩ := eq_of_start? started
  exact ⟨fun _ => quiet program c built, Nat.zero_le _, quiet program⟩

/-! ## Acts that execute instructions -/

variable [Bank ρ 14] [Rom σ]

theorem keepsKey_step (s : Session ρ σ) : s.KeepsKey s.step := ⟨rfl, rfl, rfl⟩

theorem keepsKey_run (s : Session ρ σ) : s.KeepsKey s.run := by
  unfold run
  cases s.atBreakpoint <;> exact ⟨rfl, rfl, rfl⟩

/-- A batch of instructions. -/
theorem keepsKey_advance (s : Session ρ σ) (n : Nat) : s.KeepsKey (s.advance n) := by
  induction n generalizing s with
  | zero => exact ⟨rfl, rfl, rfl⟩
  | succ n ih =>
      rw [advance]
      cases s.atBreakpoint with
      | true => exact ⟨rfl, rfl, rfl⟩
      | false =>
          obtain ⟨held, build, program⟩ := ih { s with computer := s.computer.next }
          exact ⟨held, build, program⟩

/-- A tick executes its batch on the session that was counted down. -/
theorem keepsKey_tick (s : Session ρ σ) : s.countDown.KeepsKey s.tick := by
  rw [tick]
  cases s.countDown.running with
  | false => exact ⟨rfl, rfl, rfl⟩
  | true => exact s.countDown.keepsKey_advance s.countDown.batch

/-- A tick that counts to zero lets the key come up before it executes its batch. -/
theorem tick_of_last {s : Session ρ σ} (last : s.hold = 1) :
    s.tick = if s.running then s.releaseKey.advance s.batch else s.releaseKey := by
  have released : s.countDown = s.releaseKey := by
    rw [countDown, last]
    rfl
  rw [tick, released]
  rfl

/-- No instruction of a batch sees a key that came up before it. -/
theorem key_advance_releaseKey (s : Session ρ σ) (n : Nat) :
    (s.releaseKey.advance n).key = 0#16 :=
  congrArg Held.code (s.releaseKey.keepsKey_advance n).held

/-! ## Acts in any order -/

def perform (s : Session ρ σ) : Act → Session ρ σ
  | .step => s.step
  | .run => s.run
  | .pause => s.pause
  | .tick => s.tick
  | .toggleBreakpoint => s.toggleBreakpoint
  | .reset => s.reset
  | .forwardKey key => s.forwardKey key

def after (s : Session ρ σ) (acts : List Act) : Session ρ σ := acts.foldl perform s

namespace Sound

variable {s : Session ρ σ}

theorem perform (sound : s.Sound) (act : Act) : (s.perform act).Sound := by
  cases act with
  | step => exact sound.keeps s.keepsKey_step
  | run => exact sound.keeps s.keepsKey_run
  | pause => exact ⟨fun _ => rfl, Nat.zero_le _, sound.rebuilt⟩
  | tick => exact sound.countDown.keeps s.keepsKey_tick
  | toggleBreakpoint => exact sound.keeps s.keepsKey_toggleBreakpoint
  | reset => exact sound.reset
  | forwardKey key => exact sound.forwardKey key

theorem after (sound : s.Sound) (acts : List Act) : (s.after acts).Sound := by
  induction acts generalizing s with
  | nil => exact sound
  | cons act rest ih => exact ih (sound.perform act)

end Sound

/-- An act that leaves the key alone counts down if it is a tick, and does nothing else to it. -/
theorem held_perform {s : Session ρ σ} (released : s.held.Released) {act : Act}
    (untouched : act.touchesKey = false) :
    (s.perform act).held = s.held.down (if act.isTick then 1 else 0) := by
  cases act with
  | step => exact s.keepsKey_step.held.trans released.down_zero.symm
  | run => exact s.keepsKey_run.held.trans released.down_zero.symm
  | tick => exact s.keepsKey_tick.held.trans (held_countDown released)
  | toggleBreakpoint => exact s.keepsKey_toggleBreakpoint.held.trans released.down_zero.symm
  | pause => nomatch untouched
  | reset => nomatch untouched
  | forwardKey key =>
      have unmapped : key.code? = none := by
        cases mapped : key.code? with
        | none => rfl
        | some code =>
            rw [Act.touchesKey, mapped] at untouched
            nomatch untouched
      have same : s.perform (.forwardKey key) = s := by
        rw [perform, forwardKey, unmapped]
      rw [same]
      exact released.down_zero.symm

theorem held_after {s : Session ρ σ} (released : s.held.Released) {acts : List Act}
    (untouched : ∀ act ∈ acts, act.touchesKey = false) :
    (s.after acts).held = s.held.down (Act.ticks acts) := by
  induction acts generalizing s with
  | nil => exact released.down_zero.symm
  | cons act rest ih =>
      have first := held_perform released (untouched act List.mem_cons_self)
      have later := ih (s := s.perform act) (first ▸ s.held.released_down _) fun a member =>
        untouched a (List.mem_cons_of_mem act member)
      rw [first, Held.down_down] at later
      rw [Act.ticks_cons]
      exact later

/-- Acts of all kinds but presses make a count at least one less with each tick. -/
theorem hold_perform_le {s : Session ρ σ} (released : s.held.Released) {act : Act}
    (silent : act.presses = false) :
    (s.perform act).hold ≤ s.hold - (if act.isTick then 1 else 0) := by
  cases touched : act.touchesKey with
  | false =>
      have counted : (s.perform act).hold = _ := congrArg Held.count (held_perform released touched)
      exact counted ▸ s.held.count_down_le _
  | true =>
      cases act with
      | pause => exact Nat.zero_le _
      | reset =>
          have same : s.reset.hold = s.hold := by
            unfold reset
            cases s.build s.program <;> rfl
          exact Nat.le_of_eq same
      | forwardKey key => exact absurd (silent.symm.trans touched) Bool.false_ne_true
      | _ => nomatch touched

theorem hold_after_le {s : Session ρ σ} (sound : s.Sound) {acts : List Act}
    (silent : ∀ act ∈ acts, act.presses = false) :
    (s.after acts).hold ≤ s.hold - Act.ticks acts := by
  induction acts generalizing s with
  | nil => exact Nat.le_refl s.hold
  | cons act rest ih =>
      have first := hold_perform_le sound.released (silent act List.mem_cons_self)
      have later := ih (sound.perform act) fun a member =>
        silent a (List.mem_cons_of_mem act member)
      rw [Act.ticks_cons, ← Nat.sub_sub]
      exact Nat.le_trans later (Nat.sub_le_sub_right first _)

/-- What holds of the keys of a session that has come as far as this. -/
structure KeysComeUp (s : Session ρ σ) : Prop where
  silent : s.hold = 0 → s.key = 0#16
  /-- A key that the keyboard has and that is forwarded next is down through five ticks, whatever
  else happens that does not take it away by itself. -/
  stays : ∀ {key : TerminalKey} {code : Word}, key.code? = some code →
    ∀ acts : List Act, (∀ act ∈ acts, act.touchesKey = false) → Act.ticks acts ≤ 5 →
      ((s.forwardKey key).after acts).key = code
  /-- It comes up in the sixth, in front of the first instruction of that tick's batch. -/
  sixth : ∀ {key : TerminalKey} {code : Word}, key.code? = some code →
    ∀ acts : List Act, (∀ act ∈ acts, act.touchesKey = false) → Act.ticks acts = 5 →
      let before := (s.forwardKey key).after acts
      before.tick =
          (if before.running then before.releaseKey.advance before.batch else before.releaseKey) ∧
        ∀ n, (before.releaseKey.advance n).key = 0#16
  /-- After six ticks it is up, pauses and resets or not, if no other key was pressed. -/
  gone : ∀ (key : TerminalKey) (acts : List Act), (∀ act ∈ acts, act.presses = false) →
    6 ≤ Act.ticks acts → ((s.forwardKey key).after acts).key = 0#16

theorem Sound.keysComeUp {s : Session ρ σ} (sound : s.Sound) : s.KeysComeUp where
  silent := sound.released
  stays := by
    intro key code mapped acts untouched few
    have counted := held_after (sound.forwardKey key).released untouched
    have left : Act.ticks acts < holdTicks := Nat.lt_succ_of_le few
    rw [held_forwardKey s mapped, Held.down, if_pos left] at counted
    exact congrArg Held.code counted
  sixth := by
    intro key code mapped acts untouched five before
    have counted := held_after (sound.forwardKey key).released untouched
    rw [held_forwardKey s mapped, five] at counted
    have last : before.hold = 1 := congrArg Held.count counted
    exact ⟨tick_of_last last, before.key_advance_releaseKey⟩
  gone := by
    intro key acts silent many
    have forwarded := sound.forwardKey key
    have least : ((s.forwardKey key).after acts).hold ≤ 0 := calc
      ((s.forwardKey key).after acts).hold
      _ ≤ (s.forwardKey key).hold - Act.ticks acts := hold_after_le forwarded silent
      _ ≤ holdTicks - Act.ticks acts := Nat.sub_le_sub_right forwarded.bounded _
      _ = 0 := Nat.sub_eq_zero_of_le many
    exact (forwarded.after acts).released (Nat.le_zero.mp least)

end Session

/-- **No key stays down.**  However a session has been used, over any computers that start with
no key pressed. -/
theorem forwarded_keys_come_up {ρ σ : Type} [Bank ρ 14] [Rom σ]
    {build : Array Word → Except Program.Error (Computer ρ σ)}
    (quiet : ∀ program c, build program = .ok c → c.memory.key = 0#16)
    {program : Array Word} {batch : Nat} {start : Session ρ σ}
    (started : Session.start? program build batch = .ok start) (acts : List Session.Act) :
    (start.after acts).KeysComeUp :=
  ((Session.sound_of_start? quiet started).after acts).keysComeUp

/-- A key forwarded to a machine that loops, with a breakpoint set meanwhile at the instruction
where the session stands. -/
theorem key_comes_up_at_a_breakpoint :
    ∃ start : Session Ram16K GateRom,
      Session.start? #[0x0000#16, 0xEA87#16] Computer.ofProgram? 3 = .ok start ∧
        let acts : List Session.Act :=
          [.run, .tick, .tick, .toggleBreakpoint, .tick, .tick, .step, .tick]
        let before := (start.forwardKey (.char 'k')).after acts
        before.key = 107#16 ∧ before.tick.key = 0#16 := by
  let program := #[0x0000#16, 0xEA87#16]
  have fits : program.size ≤ Program.limit := by decide
  obtain ⟨c, built⟩ : ∃ c : GateComputer, Computer.ofProgram? program = .ok c :=
    ⟨_, Computer.ofProgram?_of_le fits⟩
  obtain ⟨start, started⟩ : ∃ start : Session Ram16K GateRom,
      Session.start? program Computer.ofProgram? 3 = .ok start := by
    rw [Session.start?, built]
    exact ⟨_, rfl⟩
  refine ⟨start, started, ?_⟩
  intro acts before
  have quiet : ∀ words (c : GateComputer), Computer.ofProgram? words = .ok c →
      c.memory.key = 0#16 := fun _ _ made => (Computer.implements_of_ofProgram? made).memory.key
  have law := forwarded_keys_come_up quiet started []
  have mapped : (TerminalKey.char 'k').code? = some 107#16 := by decide
  have untouched : ∀ act ∈ acts, act.touchesKey = false := by decide
  have silent : ∀ act ∈ acts ++ [.tick], act.presses = false := by decide
  have up := law.gone (.char 'k') (acts ++ [.tick]) silent (by decide)
  exact ⟨law.stays mapped acts untouched (by decide), up⟩

end NandMachine
