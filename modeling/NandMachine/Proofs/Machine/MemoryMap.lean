/-
# NandMachine.Proofs.Machine.MemoryMap -- the memory map as one store

The load lines of RAM and screen follow the number that the wires of an address
stand for (`Memory.ramLoad_eq`, `Memory.screenLoad_eq`), and inside each of the two
the low wires tell all addresses apart.

So data memory behaves as one store of 24576 words with the keyboard above it.  An
access at `now` shows what a look from outside shows (`Memory.output_eq_peek`),
does not disturb the words of `now` (`Memory.peek_drive_now`), and at the next cycle
leaves exactly one word changed, and that only below the keyboard
(`Memory.peek_drive_next`); the keyboard addresses then show the key that is held.
Above the keyboard's first address no load line is raised (`Memory.drive_keyboard`), so
an access there leaves the memory that reading leaves.
-/
import NandMachine.Machine.Memory
import NandMachine.Proofs.Logic.Address
import NandMachine.Proofs.Devices.Screen
import NandMachine.Proofs.Storage.TimedBank

namespace NandMachine

set_option autoImplicit false

namespace Memory

theorem ramLoad_eq (load : Signal) (a : Address) :
    ramLoad load a = (load && decide (a.toNat < 16384)) := by
  rw [ramLoad, Gate.and_eq, Gate.not_eq, Address.getLsbD_fourteen, ← decide_not]
  simp only [Nat.not_le]

theorem screenLoad_eq (load : Signal) (a : Address) :
    screenLoad load a = (load && decide (16384 ≤ a.toNat ∧ a.toNat < 24576)) := by
  have bound := Address.lt a
  have top : (Bus.slice a 12 3).toNat = a.toNat / 4096 := by
    rw [Bus.slice, BitVec.extractLsb'_toNat, Nat.shiftRight_eq_div_pow]
    omega
  have lines : (decide ((4 : Fin (2 ^ 3)) = (Bus.slice a 12 3).toFin) ||
      decide ((5 : Fin (2 ^ 3)) = (Bus.slice a 12 3).toFin)) =
        decide (16384 ≤ a.toNat ∧ a.toNat < 24576) := by
    rw [← Bool.decide_or, decide_eq_decide, Fin.ext_iff, Fin.ext_iff,
      BitVec.val_toFin (Bus.slice a 12 3), top]
    show 4 = a.toNat / 4096 ∨ 5 = a.toNat / 4096 ↔ _
    omega
  rw [screenLoad, Gate.and_eq, Gate.or_eq, Gate.route_eq, Gate.route_eq, ← Bool.and_or_distrib_left,
    lines, ← Bool.and_assoc, Bool.and_self]

/-! ## What an access shows and leaves -/

variable {ρ : Type} [Bank ρ 14]

/-- A look at memory, region by region. -/
theorem peek_eq (m : Memory ρ) (t : Cycle) (a : Address) :
    m.peek t a =
      if a.toNat < 16384 then Bank.peek m.ram t (Bus.slice a 0 14)
      else if a.toNat < 24576 then m.screen.peek t (Bus.slice a 0 13)
      else m.sampled t := by
  rw [peek, Address.getLsbD_fourteen]
  by_cases ram : a.toNat < 16384
  · rw [if_pos ram, if_neg (by simpa using ram)]
  · have device : 16384 ≤ a.toNat := Nat.le_of_not_lt ram
    rw [if_neg ram, if_pos (decide_eq_true device), Address.getLsbD_thirteen device]
    by_cases screen : a.toNat < 24576
    · rw [if_pos screen, if_neg (by simpa using screen)]
    · rw [if_neg screen, if_pos (by simpa using screen)]

/-- After an access the key of its cycle has been sampled. -/
theorem sampled_drive_now (m : Memory ρ) (now : Cycle) (input : Word) (load : Signal)
    (address : Address) : (m.drive now input load address).sampled now = m.sampled now := by
  simp [drive, sampled]

/-- In another cycle than that of the last access the key itself is seen. -/
theorem sampled_drive_next (m : Memory ρ) (now : Cycle) (input : Word) (load : Signal)
    (address : Address) : (m.drive now input load address).sampled (now + 1) = m.key := by
  simp [drive, sampled]

/-- No device stores at the addresses of the keyboard. -/
theorem drive_keyboard (m : Memory ρ) (now : Cycle) (input : Word) (load : Signal)
    {address : Address} (keyboard : 24576 ≤ address.toNat) :
    m.drive now input load address = m.drive now input false address := by
  have ram : ramLoad load address = false := by
    have above : ¬ address.toNat < 16384 := by omega
    rw [ramLoad_eq, decide_eq_false above, Bool.and_false]
  have screen : screenLoad load address = false := by
    have above : ¬ (16384 ≤ address.toNat ∧ address.toNat < 24576) := by omega
    rw [screenLoad_eq, decide_eq_false above, Bool.and_false]
  have ramLow : ramLoad false address = false := ramLoad_eq false address
  have screenLow : screenLoad false address = false := screenLoad_eq false address
  simp only [drive, ram, screen, ramLow, screenLow]

/-- Before the last cycle no access is refused. -/
theorem drive?_of_lt (m : Memory ρ) {now : Cycle} (early : now < Cycle.last) (input : Word)
    (load : Signal) (address : Address) :
    m.drive? now input load address = .ok (m.drive now input load address) :=
  Cycle.driven?_of_lt early _

variable [TimedBank ρ]

/-- The two multiplexers show what a look from outside shows. -/
theorem output_eq_peek (m : Memory ρ) (now : Cycle) (a : Address) :
    m.output now a = m.peek now a := by
  rw [output, peek, Word.mux_eq, Word.mux_eq, TimedBank.output_eq_peek]

/-- An access does not disturb the words of its own cycle. -/
theorem peek_drive_now (m : Memory ρ) (now : Cycle) (input : Word) (load : Signal)
    (address b : Address) : (m.drive now input load address).peek now b = m.peek now b := by
  rw [peek_eq, peek_eq, sampled_drive_now]
  have ram (a : Bus 14) : Bank.peek (m.drive now input load address).ram now a =
      Bank.peek m.ram now a := by
    rw [drive, TimedBank.peek_drive, if_pos (Nat.le_refl now)]
  have screen (a : Bus 13) : (m.drive now input load address).screen.peek now a =
      m.screen.peek now a := by
    rw [drive, Screen.peek_drive, if_neg (fun due => Nat.lt_irrefl now due.1)]
  rw [ram, screen]

/-- **Memory is one store.**  An access with the load line high stores its word at
its address below the keyboard; all other words below the keyboard are kept, and
the keyboard shows the key that is held. -/
theorem peek_drive_next (m : Memory ρ) (now : Cycle) (input : Word) (load : Signal)
    (address b : Address) :
    (m.drive now input load address).peek (now + 1) b =
      if b.toNat < 24576 then (if load = true ∧ b = address then input else m.peek now b)
      else m.key := by
  rw [peek_eq, peek_eq, sampled_drive_next]
  have edge : now < now + 1 := Nat.lt_succ_self now
  by_cases ram : b.toNat < 16384
  · -- in RAM the load line is that of the RAM, and the address is in RAM too if it is hit
    have hit : (ramLoad load address = true ∧ Bus.slice b 0 14 = Bus.slice address 0 14) ↔
        (load = true ∧ b = address) := by
      rw [ramLoad_eq, Bool.and_eq_true, decide_eq_true_eq, and_assoc]
      refine and_congr_right fun _ => ⟨fun ⟨inRam, same⟩ => ?_, fun same => ?_⟩
      · exact (Address.eq_iff_of_ram ram inRam).mp same
      · exact ⟨same ▸ ram, congrArg _ same⟩
    rw [if_pos ram, if_pos (show b.toNat < 24576 by omega), if_pos ram, drive,
      TimedBank.peek_drive, if_neg (Nat.not_le_of_lt edge), if_pos rfl]
    simp only [hit]
  · rw [if_neg ram, if_neg ram]
    by_cases screen : b.toNat < 24576
    · have range : 16384 ≤ b.toNat ∧ b.toNat < 24576 := ⟨Nat.le_of_not_lt ram, screen⟩
      have hit : (now < now + 1 ∧ screenLoad load address = true ∧
          Bus.slice b 0 13 = Bus.slice address 0 13) ↔ (load = true ∧ b = address) := by
        rw [screenLoad_eq, Bool.and_eq_true, decide_eq_true_eq, and_assoc]
        refine ⟨fun ⟨_, high, inScreen, same⟩ => ⟨high, ?_⟩, fun ⟨high, same⟩ => ?_⟩
        · exact (Address.eq_iff_of_screen range inScreen).mp same
        · exact ⟨edge, high, same ▸ range, congrArg _ same⟩
      rw [if_pos screen, if_pos screen, if_pos screen, drive, Screen.peek_drive]
      simp only [hit]
    · rw [if_neg screen, if_neg screen]

/-- A preset of RAM sets the first words of memory and no other. -/
theorem peek_preset_now (m : Memory ρ) (now : Cycle) (image : Bank.Image 14) (b : Address) :
    (m.preset now image.words).peek now b = image.words[b.toNat]?.getD (m.peek now b) := by
  rw [peek_eq, peek_eq]
  by_cases ram : b.toNat < 16384
  · have inner : (Bus.slice b 0 14).toNat = b.toNat := by
      rw [Address.toNat_low]
      exact Nat.mod_eq_of_lt ram
    rw [if_pos ram, if_pos ram, preset, TimedBank.peek_preset_now, inner]
  · have beyond : image.words.size ≤ b.toNat :=
      Nat.le_trans image.fits (Nat.le_of_not_lt ram)
    rw [if_neg ram, if_neg ram, Array.getElem?_eq_none beyond]
    rfl

/-! ## The frame of an access -/

/-- What an access may do to a memory, whatever happened to it before.  Before the last
cycle every access is made: it answers the word that its address showed; from the next
cycle on that address shows the input if the load line was high, and every other word
of RAM and screen is what it was; and at an address of the keyboard the load line
makes no difference to the memory left behind. -/
def FrameLaw (ρ : Type) [Bank ρ 14] : Prop :=
  ∀ (m : Memory ρ) (now : Cycle) (input : Word) (load : Signal) (address : Address),
    now < Cycle.last →
      ∃ after : Memory ρ, m.drive? now input load address = .ok after ∧
        m.output now address = m.peek now address ∧
        (∀ b : Address, b.toNat < 24576 →
          after.peek (now + 1) b =
            if load = true ∧ b = address ∧ address.toNat < 24576 then input
            else m.peek now b) ∧
        (24576 ≤ address.toNat → m.drive? now input false address = .ok after)

theorem frameLaw : FrameLaw ρ := by
  intro m now input load address early
  refine ⟨m.drive now input load address, ?_, ?_, ?_, ?_⟩
  · exact m.drive?_of_lt early input load address
  · exact m.output_eq_peek now address
  · intro b data
    have reached : (load = true ∧ b = address ∧ address.toNat < 24576) ↔
        (load = true ∧ b = address) := by
      constructor
      · rintro ⟨high, hit, _⟩
        exact ⟨high, hit⟩
      · rintro ⟨high, rfl⟩
        exact ⟨high, rfl, data⟩
    rw [peek_drive_next, if_pos data]
    simp only [reached]
  · intro keyboard
    rw [m.drive?_of_lt early, ← m.drive_keyboard now input load keyboard]

end Memory

/-- **An access of memory changes one word at most, and none of the keyboard.**  RAM of
gates and RAM kept in a map obey the same law, in every state. -/
theorem memory_accesses_are_framed : Memory.FrameLaw Ram16K ∧ Memory.FrameLaw (FlatBank 14) := by
  constructor
  · exact Memory.frameLaw
  · exact Memory.frameLaw

end NandMachine
