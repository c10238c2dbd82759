/-
# NandMachine.Proofs.Debugger.CodeWindow -- the code window shows the next instruction

The code window is computed from three numbers that know nothing of each other: the program
counter, which may be far behind the program, the length of the program, and the number of lines
that are asked for, which is any 64-bit number.  A sum of them may leave its counter, and a place
is cut to sixteen wires and is then refused if it needs all of them.

`Session.codeWindow?` takes all of these steps.  None of them is refused
(`Session.codeWindow?_eq`): half of the lines are taken off the program counter before all of them
are added, so the sum is either small or starts at zero; and no place is past both the program and
the program counter (`Session.mem_places`), where a program has at most as many words as there are
addresses.

That the program of a session fits is an invariant, `Session.Housed`.  Each act, each event of the
machine and each setting keeps the length of the store, but for a reset, which burns a program
anew (`Session.Housed.perform`).
-/
import Mathlib.Data.List.Nodup
import NandMachine.Proofs.Debugger.HeldKeys
import NandMachine.Proofs.Traversal

namespace NandMachine

set_option autoImplicit false

/-- A sum, refused if it leaves the 64-bit counters. -/
def counterSum? (m n : Nat) : Except Fault Nat :=
  if m + n < Fault.counterLimit then .ok (m + n) else .error .counterOverflow

theorem counterSum?_of_lt {m n : Nat} (fits : m + n < Fault.counterLimit) :
    counterSum? m n = .ok (m + n) := if_pos fits

namespace Session

variable {ρ σ : Type}

/-! ## The lines of the window -/

section Window

variable [Rom σ] (s : Session ρ σ)

/-- The places that the window shows. -/
def places (lines : Nat) : List Nat :=
  let pc := s.computer.pc.toNat
  let start := pc - lines / 2
  List.range' start (min (start + lines) (max (Rom.size s.computer.rom) (pc + 1)) - start)

/-- The line of a place. -/
def codeLine (place : Nat) : CodeLine :=
  let address : Address := BitVec.ofNat 15 place
  { address, text := s.computer.mnemonicAt address, current := place == s.computer.pc.toNat }

/-- The line of a place that is cut to sixteen wires, refused if it is no address then. -/
def codeLine? (place : Nat) : Except Fault CodeLine := do
  let number := place % 0x10000
  let address ← Bus.ofNat? 15 number
  return { address, text := s.computer.mnemonicAt address
           current := number == s.computer.pc.toNat }

/-- The code window, with every step that may be refused. -/
def codeWindow? (lines : Nat) : Except Fault (List CodeLine) := do
  let pc := s.computer.pc.toNat
  let stop := max (Rom.size s.computer.rom) (← counterSum? pc 1)
  let start := pc - lines / 2
  let behind ← counterSum? start lines
  (List.range' start (min behind stop - start)).mapM s.codeLine?

/-- What the code window shows. -/
structure CodeWindowLaw (lines : Nat) : Prop where
  /-- Nothing is refused on the way. -/
  total : s.codeWindow? lines = .ok (s.codeWindow lines)
  few : (s.codeWindow lines).length ≤ lines
  consecutive : ∃ first, (s.codeWindow lines).map (·.address.toNat) =
    List.range' first (s.codeWindow lines).length
  text : ∀ line ∈ s.codeWindow lines, line.text = (Rom.peek s.computer.rom line.address).mnemonic
  /-- The one line that is marked is that of the next instruction. -/
  current : 1 ≤ lines →
    ((s.codeWindow lines).filter (·.current)).map (·.address) = [s.computer.pc]
  near : ∀ line ∈ s.codeWindow lines,
    line.address.toNat < Rom.size s.computer.rom ∨ line.address.toNat ≤ s.computer.pc.toNat
  /-- No line is left out that is in the program, or before the next instruction. -/
  full : ∀ a : Address,
    s.computer.pc.toNat - lines / 2 ≤ a.toNat →
      a.toNat < s.computer.pc.toNat - lines / 2 + lines →
        (a.toNat < Rom.size s.computer.rom ∨ a.toNat ≤ s.computer.pc.toNat) →
          ∃ line ∈ s.codeWindow lines, line.address = a

theorem codeWindow_eq (lines : Nat) : s.codeWindow lines = (s.places lines).map s.codeLine := rfl

/-- No place is past both the program and the next instruction. -/
theorem mem_places (lines n : Nat) :
    n ∈ s.places lines ↔
      s.computer.pc.toNat - lines / 2 ≤ n ∧ n < s.computer.pc.toNat - lines / 2 + lines ∧
        (n < Rom.size s.computer.rom ∨ n ≤ s.computer.pc.toNat) := by
  simp only [places, List.mem_range'_1]
  omega

variable {s}

theorem lt_of_mem_places (fits : Rom.size s.computer.rom ≤ Program.limit) {lines n : Nat}
    (shown : n ∈ s.places lines) : n < 32768 := by
  have pc := Address.lt s.computer.pc
  have limit : Rom.size s.computer.rom ≤ 32768 := fits
  have bounds := (s.mem_places lines n).mp shown
  omega

theorem toNat_address_codeLine {n : Nat} (small : n < 32768) :
    (s.codeLine n).address.toNat = n := by
  show (BitVec.ofNat 15 n).toNat = n
  rw [BitVec.toNat_ofNat, Nat.mod_eq_of_lt small]

theorem address_codeLine_toNat (a : Address) : (s.codeLine a.toNat).address = a := by
  show BitVec.ofNat 15 a.toNat = a
  rw [BitVec.ofNat_toNat, BitVec.setWidth_eq]

theorem codeLine?_eq {n : Nat} (small : n < 32768) : s.codeLine? n = .ok (s.codeLine n) := by
  have whole : n % 0x10000 = n := Nat.mod_eq_of_lt (by omega)
  have address : Bus.ofNat? 15 n = .ok (BitVec.ofNat 15 n) := by
    rw [Bus.ofNat?, if_neg (by decide), if_pos small]
  rw [codeLine?, whole, address]
  rfl

theorem codeWindow?_eq (fits : Rom.size s.computer.rom ≤ Program.limit) {lines : Nat}
    (counted : lines < Fault.counterLimit) : s.codeWindow? lines = .ok (s.codeWindow lines) := by
  have pc := Address.lt s.computer.pc
  have next : s.computer.pc.toNat + 1 < Fault.counterLimit := by
    rw [Fault.counterLimit]
    omega
  have behind : s.computer.pc.toNat - lines / 2 + lines < Fault.counterLimit := by
    rw [Fault.counterLimit] at counted ⊢
    omega
  have each (n : Nat) (shown : n ∈ s.places lines) : s.codeLine? n = pure (s.codeLine n) :=
    codeLine?_eq (lt_of_mem_places fits shown)
  rw [codeWindow?, counterSum?_of_lt next]
  show (counterSum? _ lines >>= _) = _
  rw [counterSum?_of_lt behind]
  exact Traversal.mapM_eq_pure each

theorem codeWindowLaw (fits : Rom.size s.computer.rom ≤ Program.limit) {lines : Nat}
    (counted : lines < Fault.counterLimit) : s.CodeWindowLaw lines := by
  have small {n : Nat} (shown : n ∈ s.places lines) := lt_of_mem_places fits shown
  constructor
  case total => exact codeWindow?_eq fits counted
  case few =>
    rw [codeWindow_eq, List.length_map, places, List.length_range']
    omega
  case consecutive =>
    have addresses : (s.codeWindow lines).map (·.address.toNat) = s.places lines := by
      rw [codeWindow_eq, List.map_map]
      refine (List.map_congr_left fun n shown => ?_).trans (List.map_id _)
      exact toNat_address_codeLine (small shown)
    rw [addresses, codeWindow_eq, List.length_map, places, List.length_range']
    exact ⟨_, rfl⟩
  case text =>
    intro line member
    obtain ⟨n, -, rfl⟩ := List.mem_map.mp member
    rfl
  case current =>
    intro asked
    have shown : s.computer.pc.toNat ∈ s.places lines := (s.mem_places lines _).mpr (by omega)
    have once : (s.places lines).filter (· == s.computer.pc.toNat) = [s.computer.pc.toNat] := by
      have distinct : (s.places lines).Nodup := List.nodup_range'
      rw [List.filter_beq, List.count_eq_one_of_mem distinct shown]
      rfl
    have marked : (·.current) ∘ s.codeLine = (· == s.computer.pc.toNat) := rfl
    rw [codeWindow_eq, List.filter_map, marked, once]
    exact congrArg (fun a => [a]) (address_codeLine_toNat s.computer.pc)
  case near =>
    intro line member
    rw [codeWindow_eq] at member
    obtain ⟨n, shown, rfl⟩ := List.mem_map.mp member
    rw [toNat_address_codeLine (small shown)]
    exact ((s.mem_places lines n).mp shown).2.2
  case full =>
    intro a start stop inside
    have shown : a.toNat ∈ s.places lines := (s.mem_places lines _).mpr ⟨start, stop, inside⟩
    exact ⟨s.codeLine a.toNat, List.mem_map_of_mem shown, address_codeLine_toNat a⟩

end Window

/-! ## The program fits -/

section Burns

variable [Rom σ]

/-- No program that is built is longer than there are addresses. -/
def Burns (build : Array Word → Except Program.Error (Computer ρ σ)) : Prop :=
  ∀ program c, build program = .ok c → Rom.size c.rom ≤ Program.limit

/-- The invariant of a session: its program fits, and so does that of a reset. -/
structure Housed (s : Session ρ σ) : Prop where
  fits : Rom.size s.computer.rom ≤ Program.limit
  rebuilt : Burns s.build

/-- What a session keeps unless it is reset: the length of its store, and what it would be rebuilt
by. -/
structure KeepsStore (s t : Session ρ σ) : Prop where
  size : Rom.size t.computer.rom = Rom.size s.computer.rom
  build : t.build = s.build

theorem KeepsStore.trans {s t u : Session ρ σ} (first : s.KeepsStore t)
    (second : t.KeepsStore u) : s.KeepsStore u :=
  ⟨second.size.trans first.size, second.build.trans first.build⟩

namespace Housed

variable {s t : Session ρ σ}

theorem keeps (housed : s.Housed) (kept : s.KeepsStore t) : t.Housed :=
  ⟨kept.size ▸ housed.fits, kept.build ▸ housed.rebuilt⟩

theorem reset (housed : s.Housed) : s.reset.Housed := by
  unfold Session.reset
  cases built : s.build s.program with
  | error e => exact ⟨housed.fits, housed.rebuilt⟩
  | ok c => exact ⟨housed.rebuilt s.program c built, housed.rebuilt⟩

end Housed

theorem housed_of_start? {build : Array Word → Except Program.Error (Computer ρ σ)}
    (burns : Burns build) {program : Array Word} {batch : Nat} {s : Session ρ σ}
    (started : start? program build batch = .ok s) : s.Housed := by
  obtain ⟨c, built, rfl⟩ := eq_of_start? started
  exact ⟨burns program c built, burns⟩

/-! ## Acts that execute nothing -/

theorem keepsStore_toggleBreakpoint (s : Session ρ σ) : s.KeepsStore s.toggleBreakpoint := by
  unfold toggleBreakpoint
  cases s.atBreakpoint <;> exact ⟨rfl, rfl⟩

theorem keepsStore_forwardKey (s : Session ρ σ) (key : TerminalKey) :
    s.KeepsStore (s.forwardKey key) := by
  unfold forwardKey
  cases key.code? <;> exact ⟨rfl, rfl⟩

theorem keepsStore_countDown (s : Session ρ σ) : s.KeepsStore s.countDown := by
  unfold countDown
  split <;> exact ⟨rfl, rfl⟩

end Burns

/-- The sessions that one comes to from a start: by acts, by events of the machine, and by
setting anything that is neither the machine nor what builds it. -/
inductive Reached [Bank ρ 14] [Rom σ] (build : Array Word → Except Program.Error (Computer ρ σ)) :
    Session ρ σ → Prop
  | start {program : Array Word} {batch : Nat} {s : Session ρ σ}
      (started : start? program build batch = .ok s) : Reached build s
  | act {s : Session ρ σ} (reached : Reached build s) (act : Act) : Reached build (s.perform act)
  | event {s : Session ρ σ} (reached : Reached build s) (e : Event) :
      Reached build { s with computer := (s.computer.perform e).1 }
  | settings {s t : Session ρ σ} (reached : Reached build s) (computer : t.computer = s.computer)
      (origin : t.build = s.build) : Reached build t

end Session

namespace Computer

variable {ρ σ : Type} [Bank ρ 14] [Rom σ] [KeepsProgram σ]

theorem size_step (c : Computer ρ σ) (reset : Signal) :
    Rom.size (c.step reset).1.rom = Rom.size c.rom := KeepsProgram.size_fetched c.rom c.pc

theorem size_run (c : Computer ρ σ) (steps : Nat) :
    Rom.size (c.run steps).rom = Rom.size c.rom := by
  induction steps generalizing c with
  | zero => rfl
  | succ n ih => exact (ih c.next).trans (c.size_step false)

/-- No event changes the length of the store. -/
theorem size_perform (c : Computer ρ σ) (e : Event) :
    Rom.size (c.perform e).1.rom = Rom.size c.rom := by
  cases e with
  | step reset => exact c.size_step reset
  | run steps => exact c.size_run steps
  | reset => exact c.size_step true
  | _ => rfl

/-- A computer is built for a program that fits, and holds all of it. -/
theorem size_of_ofProgram? {program : Array Word} {c : Computer ρ σ}
    (built : ofProgram? program = .ok c) :
    program.size ≤ Program.limit ∧ Rom.size c.rom = program.size := by
  by_cases fits : program.size ≤ Program.limit
  · rw [ofProgram?_of_le fits] at built
    obtain rfl := Except.ok.inj built
    exact ⟨fits, KeepsProgram.size_burn program⟩
  · rw [ofProgram?_refused (Nat.lt_of_not_le fits)] at built
    nomatch built

theorem burns_ofProgram? : Session.Burns (ofProgram? : _ → Except _ (Computer ρ σ)) := by
  intro program c built
  obtain ⟨fits, size⟩ := size_of_ofProgram? built
  exact size.trans_le fits

end Computer

namespace Session

variable {ρ σ : Type} [Bank ρ 14] [Rom σ] [KeepsProgram σ]

/-! ## Acts that execute instructions -/

theorem keepsStore_step (s : Session ρ σ) : s.KeepsStore s.step :=
  ⟨s.computer.size_step false, rfl⟩

theorem keepsStore_run (s : Session ρ σ) : s.KeepsStore s.run := by
  unfold run
  cases s.atBreakpoint with
  | false => exact ⟨rfl, rfl⟩
  | true => exact ⟨s.computer.size_step false, rfl⟩

/-- A batch of instructions. -/
theorem keepsStore_advance (s : Session ρ σ) (n : Nat) : s.KeepsStore (s.advance n) := by
  induction n generalizing s with
  | zero => exact ⟨rfl, rfl⟩
  | succ n ih =>
      rw [advance]
      cases s.atBreakpoint with
      | true => exact ⟨rfl, rfl⟩
      | false =>
          let next : Session ρ σ := { s with computer := s.computer.next }
          have stepped : s.KeepsStore next := ⟨s.computer.size_step false, rfl⟩
          exact stepped.trans (ih next)

theorem keepsStore_tick (s : Session ρ σ) : s.KeepsStore s.tick := by
  rw [tick]
  cases s.countDown.running with
  | false => exact s.keepsStore_countDown
  | true => exact s.keepsStore_countDown.trans (s.countDown.keepsStore_advance _)

theorem Housed.perform {s : Session ρ σ} (housed : s.Housed) (act : Act) :
    (s.perform act).Housed := by
  cases act with
  | step => exact housed.keeps s.keepsStore_step
  | run => exact housed.keeps s.keepsStore_run
  | pause => exact ⟨housed.fits, housed.rebuilt⟩
  | tick => exact housed.keeps s.keepsStore_tick
  | toggleBreakpoint => exact housed.keeps s.keepsStore_toggleBreakpoint
  | reset => exact housed.reset
  | forwardKey key => exact housed.keeps (s.keepsStore_forwardKey key)

theorem Reached.housed {build : Array Word → Except Program.Error (Computer ρ σ)}
    (burns : Burns build) {s : Session ρ σ} (reached : Reached build s) : s.Housed := by
  induction reached with
  | start started => exact housed_of_start? burns started
  | act _ act housed => exact housed.perform act
  | @event s _ e housed => exact housed.keeps ⟨s.computer.size_perform e, rfl⟩
  | settings _ computer origin housed => exact housed.keeps ⟨by rw [computer], origin⟩

end Session

/-- **The code window is always valid and shows the next instruction.**  Of any session that is
reached, and for any number of lines that is a 64-bit number, the window is computed with nothing
refused; its lines are as many at most, at consecutive addresses, with the instructions of these;
if there are any, one of them is marked, at the program counter; and none is past both the program
and the program counter.  What is asked of the computers that a session builds is that no program
is longer than there are addresses, and it is true of those built from a program. -/
theorem code_window_shows_next_instruction {ρ σ : Type} [Bank ρ 14] [Rom σ] [KeepsProgram σ] :
    Session.Burns (Computer.ofProgram? : _ → Except _ (Computer ρ σ)) ∧
      ∀ build : Array Word → Except Program.Error (Computer ρ σ), Session.Burns build →
        ∀ s, Session.Reached build s → ∀ lines < Fault.counterLimit, s.CodeWindowLaw lines :=
  ⟨Computer.burns_ofProgram?, fun _ burns _ reached _ counted =>
    Session.codeWindowLaw (reached.housed burns).fits counted⟩

/-- A program of two instructions that jumps to the last address, far behind its end. -/
theorem code_window_at_last_address :
    ∃ s : Session Ram16K GateRom,
      Session.Reached Computer.ofProgram? s ∧ s.computer.pc = 0x7FFF#15 ∧
        Rom.size s.computer.rom = 2 ∧
          (s.codeWindow 4).map (·.address) = [0x7FFD#15, 0x7FFE#15, 0x7FFF#15] ∧
            s.CodeWindowLaw 4 ∧ s.CodeWindowLaw (Fault.counterLimit - 1) := by
  let program := #[0x7FFF#16, 0xEA87#16]
  have fits : program.size ≤ Program.limit := by decide
  obtain ⟨c, built⟩ : ∃ c : GateComputer, Computer.ofProgram? program = .ok c :=
    ⟨_, Computer.ofProgram?_of_le fits⟩
  let start : Session Ram16K GateRom :=
    { computer := c, build := Computer.ofProgram?, program, batch := 1 }
  have started : Session.start? program Computer.ofProgram? 1 = .ok start := by
    rw [Session.start?, built]
    rfl
  let s := start.step.step
  have reached : Session.Reached Computer.ofProgram? s :=
    .act (.act (.start started) .step) .step
  have pc : s.computer.pc = 0x7FFF#15 := by
    have shows := (Computer.implements_of_ofProgram? built).run 2
    have there : s.computer.pc = Address.ofWord
        (({ program } : Architecture).run 2).registers.pc := shows.pc
    rw [there]
    decide
  have size : Rom.size s.computer.rom = 2 :=
    (c.size_run 2).trans (Computer.size_of_ofProgram? built).2
  obtain ⟨burns, law⟩ := code_window_shows_next_instruction (ρ := Ram16K) (σ := GateRom)
  refine ⟨s, reached, pc, size, ?_, law _ burns s reached 4 (by decide),
    law _ burns s reached _ (by decide)⟩
  rw [s.codeWindow_eq, List.map_map, Session.places, pc, size]
  rfl

end NandMachine
