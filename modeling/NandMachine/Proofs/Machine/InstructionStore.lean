/-
# NandMachine.Proofs.Machine.InstructionStore -- a store is its program

What an instruction store promises, whatever it is made of (`KeepsProgram`): a
fetch shows the word that a look from outside shows, no fetch changes a word or the
length, and a store burned with a program that fits holds that program, followed by
zeros.

A store of gates forgets unless it is driven.  It keeps the program because every
fetch drives both of its banks with the load line low, at a clock that moves by one
cycle for each fetch: what its banks show at the new cycle is then what they showed
at the old one.

Through any list of fetches and looks a store therefore answers its program, and its
length stays that of the program (`Rom.Shows.transcript`).
-/
import NandMachine.Machine.Rom
import NandMachine.Proofs.Logic.Address
import NandMachine.Proofs.Storage.TimedBank

namespace NandMachine

set_option autoImplicit false

/-- The word of a program at an address, zero beyond its end. -/
def Program.wordAt (program : Array Word) (address : Address) : Word :=
  program[address.toNat]?.getD 0#16

/-- A store that keeps the program burned into it. -/
class KeepsProgram (σ : Type) [Rom σ] : Prop where
  output_eq_peek : ∀ (rom : σ) (a : Address), Rom.output rom a = Rom.peek rom a
  peek_fetched : ∀ (rom : σ) (a b : Address), Rom.peek (Rom.fetched rom a) b = Rom.peek rom b
  size_fetched : ∀ (rom : σ) (a : Address), Rom.size (Rom.fetched rom a) = Rom.size rom
  peek_burn : ∀ (program : Array Word), program.size ≤ Program.limit → ∀ a : Address,
    Rom.peek (Rom.burn program : σ) a = Program.wordAt program a
  size_burn : ∀ program : Array Word, Rom.size (Rom.burn program : σ) = program.size

/-! ## The store of gates -/

namespace GateRom

theorem output_eq_peek (rom : GateRom) (a : Address) : rom.output a = rom.peek a := by
  rw [output, peek, Word.mux_eq, TimedBank.output_eq_peek, TimedBank.output_eq_peek]
  cases a.getLsbD 14 <;> rfl

/-- A drive with the load line low carries every word over one edge. -/
theorem peek_held (bank : Ram16K) (now : Cycle) (inner a : Bus 14) :
    Bank.peek (Bank.drive bank now 0#16 false inner) (now + 1) a = Bank.peek bank now a := by
  rw [TimedBank.peek_drive, if_neg (Nat.not_succ_le_self now), if_pos rfl,
    if_neg (fun hit => Bool.false_ne_true hit.1)]

theorem peek_fetched (rom : GateRom) (a b : Address) : (rom.fetched a).peek b = rom.peek b := by
  rw [peek, peek]
  cases b.getLsbD 14 with
  | false => exact peek_held rom.low rom.clock.now (Bus.slice a 0 14) (Bus.slice b 0 14)
  | true => exact peek_held rom.high rom.clock.now (Bus.slice a 0 14) (Bus.slice b 0 14)

/-- A stretch of a program reads like the program inside its bounds, and past its
end when it stops at the end of the program. -/
theorem getElem?_stretch (program : Array Word) (start stop i : Nat)
    (inside : start + i < stop ∨ program.size ≤ stop) :
    (program.extract start stop)[i]? = program[start + i]? := by
  rw [Array.getElem?_extract]
  by_cases early : i < min stop program.size - start
  · rw [if_pos early]
  · have beyond : program.size ≤ start + i := by omega
    rw [if_neg early, Array.getElem?_eq_none beyond]

/-- A fresh bank preset with a stretch of a program shows that stretch. -/
theorem peek_stretch (program : Array Word) (start stop : Nat) (a : Bus 14)
    (fits : stop - start ≤ 16384) (inside : start + a.toNat < stop ∨ program.size ≤ stop) :
    Bank.peek (Bank.preset (Bank.blank : Ram16K) 0 (program.extract start stop)) 0 a =
      program[start + a.toNat]?.getD 0#16 := by
  have short : (program.extract start stop).size ≤ 2 ^ 14 := by
    rw [Array.size_extract]
    omega
  rw [← getElem?_stretch program start stop a.toNat inside,
    ← TimedBank.peek_blank (β := Ram16K) 0 a]
  exact TimedBank.peek_preset_now Bank.blank 0 ⟨program.extract start stop, short⟩ a

theorem peek_burn (program : Array Word) (fits : program.size ≤ Program.limit) (a : Address) :
    (burn program).peek a = Program.wordAt program a := by
  have limit : program.size ≤ 32768 := fits
  have bound : a.toNat < 32768 := Address.lt a
  have inner : (Bus.slice a 0 14).toNat = a.toNat % 16384 := Address.toNat_low a 14
  rw [peek, burn, Address.getLsbD_fourteen, Program.wordAt]
  by_cases high : 16384 ≤ a.toNat
  · have place : 16384 + (Bus.slice a 0 14).toNat = a.toNat := by omega
    rw [if_pos (decide_eq_true high)]
    show Bank.peek (Bank.preset (Bank.blank : Ram16K) 0 _) 0 _ = _
    rw [peek_stretch program 16384 program.size _ (by omega) (.inr (Nat.le_refl _)), place]
  · have place : 0 + (Bus.slice a 0 14).toNat = a.toNat := by omega
    rw [if_neg (by simpa using high)]
    show Bank.peek (Bank.preset (Bank.blank : Ram16K) 0 _) 0 _ = _
    rw [peek_stretch program 0 16384 _ (Nat.le_refl _) (.inl (by omega)), place]

end GateRom

instance : KeepsProgram GateRom where
  output_eq_peek := GateRom.output_eq_peek
  peek_fetched := GateRom.peek_fetched
  size_fetched _ _ := rfl
  peek_burn := GateRom.peek_burn
  size_burn _ := rfl

/-! ## The plain store -/

instance : KeepsProgram FlatRom where
  output_eq_peek _ _ := rfl
  peek_fetched _ _ _ := rfl
  size_fetched _ _ := rfl
  peek_burn _ _ _ := rfl
  size_burn _ := rfl

/-! ## Histories of calls on a store -/

namespace Rom

/-- A call on an instruction store. -/
inductive Call
  | fetch (address : Address)
  | peek (address : Address)

def Call.address : Call → Address
  | fetch a => a
  | peek a => a

variable {σ : Type} [Rom σ]

/-- The word that a call answers, and the store after it. -/
def call (rom : σ) : Call → Word × σ
  | .fetch a => (Rom.output rom a, Rom.fetched rom a)
  | .peek a => (Rom.peek rom a, rom)

/-- What a list of calls answers, each with the length that the store shows after it. -/
def transcript (rom : σ) : List Call → List (Word × Nat)
  | [] => []
  | c :: rest => ((call rom c).1, Rom.size (call rom c).2) :: transcript (call rom c).2 rest

/-- A store shows a program at its clock. -/
structure Shows (rom : σ) (program : Array Word) : Prop where
  words : ∀ a, Rom.peek rom a = Program.wordAt program a
  size : Rom.size rom = program.size

variable [KeepsProgram σ]

theorem shows_burn {program : Array Word} (fits : program.size ≤ Program.limit) :
    Shows (Rom.burn program : σ) program :=
  ⟨KeepsProgram.peek_burn program fits, KeepsProgram.size_burn program⟩

namespace Shows

variable {rom : σ} {program : Array Word}

/-- A call is answered from the program, and leaves a store that shows it. -/
theorem call (shows : Shows rom program) (c : Call) :
    (Rom.call rom c).1 = Program.wordAt program c.address ∧ Shows (Rom.call rom c).2 program := by
  cases c with
  | fetch a =>
      refine ⟨(KeepsProgram.output_eq_peek rom a).trans (shows.words a), ?_, ?_⟩
      · exact fun b => (KeepsProgram.peek_fetched rom a b).trans (shows.words b)
      · exact (KeepsProgram.size_fetched rom a).trans shows.size
  | peek a => exact ⟨shows.words a, shows⟩

theorem transcript (shows : Shows rom program) (calls : List Call) :
    Rom.transcript rom calls =
      calls.map fun c => (Program.wordAt program c.address, program.size) := by
  induction calls generalizing rom with
  | nil => rfl
  | cons c rest ih =>
      obtain ⟨answer, next⟩ := shows.call c
      rw [Rom.transcript, List.map_cons, answer, next.size, ih next]

end Shows

end Rom

end NandMachine
