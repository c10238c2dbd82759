/-
# NandMachine.Proofs.Debugger.Breakpoints -- batches do not show

A session that runs looks for a breakpoint in front of every instruction of a batch, and it
starts to run with one instruction that it does not look at when it sits on a breakpoint.
How the instructions are cut into batches does not show: the session executes plain steps up
to the first breakpoint that it comes to after at least one of them, or as many as were
asked for.

A batch in which no breakpoint is hit is that many steps (`advance_of_free`), and a batch in
which one is hit ends there and leaves the session paused (`advance_of_hit`).  Both follow from
one equation for the part of a batch in front of the first breakpoint (`advance_add_of_free`).
Ticks inherit this, the induction being on the batches (`ticks_of_free`, `ticks_of_hit`), and
starting to run moves the origin by the one step off a breakpoint (`hits_run`).
-/
import Mathlib.Data.ENat.Lattice
import NandMachine.Debugger.Session
import NandMachine.Proofs.Machine.Laps

namespace NandMachine

set_option autoImplicit false

namespace Session

variable {ρ σ : Type} [Bank ρ 14] [Rom σ]

/-- The instruction that comes after some plain steps has a breakpoint. -/
def Hits (s : Session ρ σ) (steps : Nat) : Prop :=
  Bus.extend (s.computer.run steps).pc 16 ∈ s.breakpoints

/-- The number of plain steps, at least one, to the next breakpoint; infinite if the machine
never comes to one. -/
noncomputable def toBreakpoint (s : Session ρ σ) : ℕ∞ :=
  ⨅ j ∈ {j : Nat | 1 ≤ j ∧ s.Hits j}, (j : ℕ∞)

/-- The steps that starting to run makes by itself: one off a breakpoint. -/
def stepsOff (s : Session ρ σ) : Nat := if s.atBreakpoint then 1 else 0

/-- Ticks with batches of the given sizes. -/
def ticks (s : Session ρ σ) (batches : List Nat) : Session ρ σ :=
  batches.foldl (fun s size => { s with batch := size }.tick) s

theorem atBreakpoint_iff (s : Session ρ σ) : s.atBreakpoint = true ↔ s.Hits 0 :=
  List.contains_iff_mem

/-- After some steps, breakpoints are as far away as they were, less these steps. -/
theorem hits_moved {s t : Session ρ σ} {k : Nat} (breakpoints : t.breakpoints = s.breakpoints)
    (computer : t.computer = s.computer.run k) (j : Nat) : t.Hits j ↔ s.Hits (k + j) := by
  rw [Hits, Hits, breakpoints, computer, Computer.run_add]

/-! ## One batch -/

/-- The part of a batch in front of the first breakpoint is plain steps. -/
theorem advance_add_of_free (s : Session ρ σ) (k n : Nat) (free : ∀ j < k, ¬ s.Hits j) :
    s.advance (k + n) = { s with computer := s.computer.run k }.advance n := by
  induction k generalizing s with
  | zero => rw [Nat.zero_add, Computer.run]
  | succ k ih =>
      let next : Session ρ σ := { s with computer := s.computer.next }
      have clear : ¬ s.atBreakpoint = true := fun here =>
        free 0 (Nat.succ_pos k) (s.atBreakpoint_iff.mp here)
      have later : ∀ j < k, ¬ next.Hits j := by
        intro j inside hit
        have moved := (hits_moved (s := s) (t := next) (k := 1) rfl rfl j).mp hit
        exact free (1 + j) (by omega) moved
      rw [Nat.add_right_comm, advance, if_neg clear, ih next later]
      rfl

theorem advance_of_free (s : Session ρ σ) (n : Nat) (free : ∀ j < n, ¬ s.Hits j) :
    s.advance n = { s with computer := s.computer.run n } := by
  rw [← Nat.add_zero n, advance_add_of_free s n 0 free]
  rfl

/-- A batch ends on the first breakpoint that it comes to. -/
theorem advance_of_hit (s : Session ρ σ) {k n : Nat} (inside : k < n) (hit : s.Hits k)
    (free : ∀ j < k, ¬ s.Hits j) :
    (s.advance n).computer = s.computer.run k ∧ (s.advance n).running = false ∧
      (s.advance n).hold = s.hold := by
  obtain ⟨m, rfl⟩ : ∃ m, n = k + (m + 1) := ⟨n - k - 1, by omega⟩
  let there : Session ρ σ := { s with computer := s.computer.run k }
  have here : there.atBreakpoint = true :=
    there.atBreakpoint_iff.mpr ((hits_moved (s := s) (t := there) rfl rfl 0).mpr hit)
  rw [advance_add_of_free s k (m + 1) free, advance, if_pos here]
  exact ⟨rfl, rfl, rfl⟩

/-! ## Ticks -/

/-- While no key is held, a tick is a batch, or nothing if the session is paused. -/
theorem ticks_cons {s : Session ρ σ} (held : s.hold = 0) (size : Nat) (rest : List Nat) :
    s.ticks (size :: rest) =
      (if s.running then { s with batch := size }.advance size
        else { s with batch := size }).ticks rest := by
  have tick : { s with batch := size }.tick =
      if s.running then { s with batch := size }.advance size else { s with batch := size } := by
    rw [Session.tick, countDown, held]
  rw [← tick]
  rfl

theorem ticks_of_paused (s : Session ρ σ) (paused : s.running = false) (held : s.hold = 0)
    (batches : List Nat) :
    (s.ticks batches).computer = s.computer ∧ (s.ticks batches).running = false := by
  induction batches generalizing s with
  | nil => exact ⟨rfl, paused⟩
  | cons size rest ih =>
      rw [ticks_cons held, if_neg (Bool.eq_false_iff.mp paused)]
      exact ih { s with batch := size } paused held

/-- Batches in which no breakpoint is hit are plain steps. -/
theorem ticks_of_free (s : Session ρ σ) (running : s.running = true) (held : s.hold = 0)
    (batches : List Nat) (free : ∀ j < batches.sum, ¬ s.Hits j) :
    (s.ticks batches).computer = s.computer.run batches.sum ∧
      (s.ticks batches).running = true := by
  induction batches generalizing s with
  | nil => exact ⟨rfl, running⟩
  | cons size rest ih =>
      rw [List.sum_cons] at free ⊢
      let ready : Session ρ σ := { s with batch := size }
      let after : Session ρ σ := { ready with computer := s.computer.run size }
      have later : ∀ j < rest.sum, ¬ after.Hits j := by
        intro j inside hit
        exact free (size + j) (by omega) ((hits_moved (s := s) (t := after) rfl rfl j).mp hit)
      rw [ticks_cons held, if_pos running,
        ready.advance_of_free size fun j inside => free j (by omega), Computer.run_add]
      exact ih after running held later

/-- The first breakpoint that is hit stops the session for good, whichever batch it is in. -/
theorem ticks_of_hit (s : Session ρ σ) (running : s.running = true) (held : s.hold = 0)
    (batches : List Nat) {k : Nat} (inside : k < batches.sum) (hit : s.Hits k)
    (free : ∀ j < k, ¬ s.Hits j) :
    (s.ticks batches).computer = s.computer.run k ∧ (s.ticks batches).running = false := by
  induction batches generalizing s k with
  | nil => simp at inside
  | cons size rest ih =>
      rw [List.sum_cons] at inside
      let ready : Session ρ σ := { s with batch := size }
      rw [ticks_cons held, if_pos running]
      by_cases first : k < size
      · obtain ⟨computer, paused, kept⟩ := ready.advance_of_hit first hit free
        obtain ⟨same, still⟩ := (ready.advance size).ticks_of_paused paused (kept.trans held) rest
        exact ⟨same.trans computer, still⟩
      · let after : Session ρ σ := { ready with computer := s.computer.run size }
        have moved (j : Nat) : after.Hits j ↔ s.Hits (size + j) :=
          hits_moved (s := s) (t := after) rfl rfl j
        have place : size + (k - size) = k := by omega
        rw [ready.advance_of_free size fun j below => free j (by omega)]
        obtain ⟨computer, paused⟩ := ih (k := k - size) after running held (by omega)
          ((moved (k - size)).mpr (place.symm ▸ hit))
          fun j below there => free (size + j) (by omega) ((moved j).mp there)
        refine ⟨?_, paused⟩
        rw [← place, Computer.run_add]
        exact computer

/-! ## Starting to run -/

omit [Bank ρ 14] [Rom σ] in
theorem stepsOff_le_one (s : Session ρ σ) : s.stepsOff ≤ 1 := by
  unfold stepsOff
  split
  · exact Nat.le_refl 1
  · exact Nat.zero_le 1

/-- Starting to run makes the step off a breakpoint and no other. -/
theorem run_spec (s : Session ρ σ) :
    s.run.computer = s.computer.run s.stepsOff ∧ s.run.running = true ∧
      s.run.breakpoints = s.breakpoints ∧ s.run.hold = s.hold := by
  unfold run stepsOff
  cases s.atBreakpoint <;> exact ⟨rfl, rfl, rfl, rfl⟩

theorem hits_run (s : Session ρ σ) (j : Nat) : s.run.Hits j ↔ s.Hits (s.stepsOff + j) :=
  hits_moved s.run_spec.2.2.1 s.run_spec.1 j

/-- A session that sits on no breakpoint has none in front of its first step. -/
theorem pos_of_hits {s : Session ρ σ} {j : Nat} (off : s.stepsOff ≤ j) (hit : s.Hits j) :
    1 ≤ j := by
  cases j with
  | succ j => omega
  | zero =>
      rw [stepsOff, if_pos (s.atBreakpoint_iff.mpr hit)] at off
      exact off

/-- A session that starts to run and finds no breakpoint makes all the steps that were asked
for. -/
theorem run_ticks_of_free (s : Session ρ σ) (held : s.hold = 0) (batches : List Nat)
    (free : ∀ j < s.stepsOff + batches.sum, 1 ≤ j → ¬ s.Hits j) :
    (s.run.ticks batches).computer = s.computer.run (s.stepsOff + batches.sum) ∧
      (s.run.ticks batches).running = true := by
  obtain ⟨origin, running, -, hold⟩ := s.run_spec
  have clear : ∀ j < batches.sum, ¬ s.run.Hits j := by
    intro j inside hit
    have there := (s.hits_run j).mp hit
    exact free (s.stepsOff + j) (by omega) (pos_of_hits (Nat.le_add_right _ _) there) there
  obtain ⟨computer, runs⟩ := s.run.ticks_of_free running (hold.trans held) batches clear
  rw [Computer.run_add, ← origin]
  exact ⟨computer, runs⟩

/-- A session that starts to run stops on the first breakpoint after its first step. -/
theorem run_ticks_of_hit (s : Session ρ σ) (held : s.hold = 0) (batches : List Nat) {k : Nat}
    (positive : 1 ≤ k) (inside : k < s.stepsOff + batches.sum) (hit : s.Hits k)
    (free : ∀ j < k, 1 ≤ j → ¬ s.Hits j) :
    (s.run.ticks batches).computer = s.computer.run k ∧
      (s.run.ticks batches).running = false := by
  obtain ⟨origin, running, -, hold⟩ := s.run_spec
  obtain ⟨d, rfl⟩ : ∃ d, k = s.stepsOff + d :=
    ⟨k - s.stepsOff, by have := s.stepsOff_le_one; omega⟩
  have clear : ∀ j < d, ¬ s.run.Hits j := by
    intro j below hit
    have there := (s.hits_run j).mp hit
    exact free (s.stepsOff + j) (by omega) (pos_of_hits (Nat.le_add_right _ _) there) there
  obtain ⟨computer, paused⟩ := s.run.ticks_of_hit running (hold.trans held) batches
    (by omega) ((s.hits_run d).mpr hit) clear
  rw [Computer.run_add, ← origin]
  exact ⟨computer, paused⟩

/-! ## The next breakpoint -/

theorem le_toBreakpoint {s : Session ρ σ} {n : Nat} (free : ∀ j < n, 1 ≤ j → ¬ s.Hits j) :
    (n : ℕ∞) ≤ s.toBreakpoint := by
  refine le_iInf₂ fun j hit => ?_
  rw [Nat.cast_le]
  by_contra short
  exact free j (Nat.lt_of_not_le short) hit.1 hit.2

theorem toBreakpoint_eq {s : Session ρ σ} {k : Nat} (positive : 1 ≤ k) (hit : s.Hits k)
    (free : ∀ j < k, 1 ≤ j → ¬ s.Hits j) : s.toBreakpoint = k :=
  le_antisymm (iInf₂_le k ⟨positive, hit⟩) (le_toBreakpoint free)

theorem not_hits_of_lt_toBreakpoint {s : Session ρ σ} {j : Nat} (before : j < s.toBreakpoint)
    (positive : 1 ≤ j) : ¬ s.Hits j := by
  intro hit
  have reached : s.toBreakpoint ≤ j := iInf₂_le j ⟨positive, hit⟩
  exact absurd before (not_lt_of_ge reached)

/-- A breakpoint that is near is reached after a number of steps. -/
theorem exists_toBreakpoint_eq {s : Session ρ σ} {n : Nat} (near : s.toBreakpoint < n) :
    ∃ k < n, s.toBreakpoint = k ∧ 1 ≤ k ∧ s.Hits k := by
  have reached : ∃ k, 1 ≤ k ∧ s.Hits k := by
    by_contra never
    have free : ∀ j < n, 1 ≤ j → ¬ s.Hits j := fun j _ positive hit => never ⟨j, positive, hit⟩
    exact absurd near (not_lt_of_ge (le_toBreakpoint free))
  classical
  obtain ⟨positive, hit⟩ := Nat.find_spec reached
  have first : s.toBreakpoint = Nat.find reached :=
    toBreakpoint_eq positive hit fun j before positive hit =>
      Nat.find_min reached before ⟨positive, hit⟩
  exact ⟨Nat.find reached, Nat.cast_lt.mp (first ▸ near), first, positive, hit⟩

end Session

/-- **How instructions are cut into batches does not show.**  A session that starts to run
with no key held, and is then ticked with batches of any sizes, has executed plain steps up
to the next breakpoint, or as many as were asked for if that is sooner; it is paused exactly
when it came to the breakpoint before them; and of the instructions that the ticks executed
none has a breakpoint. -/
theorem breakpoints_ignore_batches {ρ σ : Type} [Bank ρ 14] [Rom σ] (s : Session ρ σ)
    (held : s.hold = 0) (batches : List Nat) :
    let asked : Nat := s.stepsOff + batches.sum
    let made : ℕ∞ := min s.toBreakpoint asked
    (s.run.ticks batches).computer = s.computer.run made.toNat ∧
      ((s.run.ticks batches).running = false ↔ s.toBreakpoint < asked) ∧
      (s.stepsOff : ℕ∞) ≤ made ∧
      ∀ j : Nat, s.stepsOff ≤ j → (j : ℕ∞) < made → ¬ s.Hits j := by
  intro asked made
  have off := s.stepsOff_le_one
  have total : s.stepsOff ≤ asked := Nat.le_add_right s.stepsOff batches.sum
  have ends : (s.run.ticks batches).computer = s.computer.run made.toNat ∧
      ((s.run.ticks batches).running = false ↔ s.toBreakpoint < asked) := by
    by_cases near : s.toBreakpoint < asked
    · obtain ⟨k, inside, first, positive, hit⟩ := Session.exists_toBreakpoint_eq near
      have stop : made = k := (min_eq_left near.le).trans first
      have free : ∀ j < k, 1 ≤ j → ¬ s.Hits j := fun j before =>
        Session.not_hits_of_lt_toBreakpoint (first ▸ Nat.cast_lt.mpr before)
      obtain ⟨computer, paused⟩ := s.run_ticks_of_hit held batches positive inside hit free
      rw [stop, ENat.toNat_natCast, paused]
      exact ⟨computer, iff_of_true rfl near⟩
    · have far : (asked : ℕ∞) ≤ s.toBreakpoint := not_lt.mp near
      have all : made = asked := min_eq_right far
      have free : ∀ j < asked, 1 ≤ j → ¬ s.Hits j := fun j before =>
        Session.not_hits_of_lt_toBreakpoint (lt_of_lt_of_le (Nat.cast_lt.mpr before) far)
      obtain ⟨computer, runs⟩ := s.run_ticks_of_free held batches free
      rw [all, ENat.toNat_natCast, runs]
      exact ⟨computer, iff_of_false Bool.noConfusion near⟩
  refine ⟨ends.1, ends.2, ?_, ?_⟩
  · refine le_min (Session.le_toBreakpoint fun j short positive => ?_) (Nat.cast_le.mpr total)
    omega
  · intro j reached short hit
    have near : (j : ℕ∞) < s.toBreakpoint := (lt_min_iff.mp short).1
    exact Session.not_hits_of_lt_toBreakpoint near (Session.pos_of_hits reached hit) hit

/-- A program of four instructions that loops, with breakpoints at the first and the last.
The second batch would go past the last one. -/
theorem breakpoint_inside_a_batch :
    ∃ c : GateComputer,
      Computer.ofProgram? #[0x0001#16, 0xEC10#16, 0x0000#16, 0xEA87#16] = .ok c ∧
        let s : Session Ram16K GateRom :=
          { computer := c, build := Computer.ofProgram?, batch := 1
            program := #[0x0001#16, 0xEC10#16, 0x0000#16, 0xEA87#16]
            breakpoints := [0#16, 3#16] }
        s.hold = 0 ∧ (s.run.ticks [1, 5]).computer = c.run 3 ∧
          (s.run.ticks [1, 5]).running = false := by
  let program := #[0x0001#16, 0xEC10#16, 0x0000#16, 0xEA87#16]
  have fits : program.size ≤ Program.limit := by decide
  obtain ⟨c, built⟩ : ∃ c : GateComputer, Computer.ofProgram? program = .ok c :=
    ⟨_, Computer.ofProgram?_of_le fits⟩
  refine ⟨c, built, ?_⟩
  intro s
  have shows := Computer.implements_of_ofProgram? built
  have hits (j : Nat) : s.Hits j ↔ Bus.extend (Address.ofWord
      (({ program } : Architecture).run j).registers.pc) 16 ∈ [0#16, 3#16] := by
    rw [Session.Hits, (shows.run j).pc]
  have clear : ∀ j < 3, 1 ≤ j → ¬ s.Hits j := by
    simp only [hits]
    decide
  have next : s.toBreakpoint = (3 : Nat) :=
    Session.toBreakpoint_eq (by decide) ((hits 3).mpr (by decide)) clear
  have off : s.stepsOff = 1 :=
    if_pos (s.atBreakpoint_iff.mpr ((hits 0).mpr (by decide)))
  obtain ⟨computer, paused, -⟩ := breakpoints_ignore_batches s rfl [1, 5]
  rw [off, next] at computer paused
  exact ⟨rfl, computer, paused.mpr (by decide)⟩

end NandMachine
