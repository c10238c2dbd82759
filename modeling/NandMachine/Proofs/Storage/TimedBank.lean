/-
# NandMachine.Proofs.Storage.TimedBank -- the timing contract of memory banks

What a bank promises about time, whatever it is made of (`TimedBank`):

* a fresh bank is all zeros, and a drive shows what a look from outside shows;
* a drive at `now` settles every cycle: up to `now` each word is the word of
  `now`, in the next cycle the addressed word is the input if the load line was
  high and every other word is kept, and from then on all words are zero;
* after a preset at `now` the words of the image read back at `now`, and the
  others read as before.

Every register tree keeps the contract, because its registers do.  The map-backed
bank keeps it too: `FlatBank.getD_settle` says that settling a bank at `now` makes
its map the words that it shows at `now`, and the three laws read off that.

Nothing is promised about later cycles after a preset: there the two kinds of bank
may differ until the next drive.
-/
import NandMachine.Proofs.Storage.RegisterArray
import NandMachine.Storage.FlatBank

namespace NandMachine

set_option autoImplicit false

/-- A bank that keeps the timing contract. -/
class TimedBank (β : Type) {w : Nat} [Bank β w] : Prop where
  output_eq_peek : ∀ (bank : β) (now : Cycle) (address : Bus w),
    Bank.output bank now address = Bank.peek bank now address
  peek_blank : ∀ (t : Cycle) (address : Bus w), Bank.peek (Bank.blank : β) t address = 0#16
  peek_drive : ∀ (bank : β) (now t : Cycle) (input : Word) (load : Signal) (address a : Bus w),
    Bank.peek (Bank.drive bank now input load address) t a =
      if t ≤ now then Bank.peek bank now a
      else if t = now + 1 then
        (if load = true ∧ a = address then input else Bank.peek bank now a)
      else 0#16
  peek_preset_now : ∀ (bank : β) (now : Cycle) (image : Bank.Image w) (a : Bus w),
    Bank.peek (Bank.preset bank now image.words) now a =
      image.words[a.toNat]?.getD (Bank.peek bank now a)

/-! ## Register trees -/

namespace RegisterTree

variable {β : Type} {w : Nat} [Bank β w] [RegisterTree β]

/-- A look at a register tree reads one register. -/
theorem peek_eq_read (bank : β) (t : Cycle) (a : Bus w) :
    Bank.peek bank t a = ((registers bank).register a.toFin).read t := by
  rw [peek_registers]
  rfl

/-- A preset tree at every cycle: the words of the image are there up to `now` and
gone afterwards, and the others are not touched. -/
theorem peek_preset (bank : β) (now t : Cycle) (image : Array Word) (a : Bus w) :
    Bank.peek (Bank.preset bank now image) t a =
      match image[a.toNat]? with
      | some word => if t ≤ now then word else 0#16
      | none => Bank.peek bank t a := by
  rw [peek_eq_read, registers_preset, peek_eq_read]
  simp only [Bank.preset, RegisterArray.preset, BitVec.val_toFin]
  cases image[a.toNat]? with
  | none => rfl
  | some word => exact Register.read_preset_at now t word

instance timedBank : TimedBank β where
  output_eq_peek bank now address := by
    rw [output_registers, peek_registers]
    rfl
  peek_blank t address := by
    rw [peek_eq_read, registers_blank]
    exact Register.read_fresh t
  peek_drive bank now t input load address a := by
    rw [peek_eq_read, registers_drive, peek_eq_read]
    simp only [Bank.drive, RegisterArray.drive, Register.read_drive, Bool.and_eq_true,
      decide_eq_true_eq, BitVec.toFin_inj]
  peek_preset_now bank now image a := by
    rw [peek_preset]
    cases image.words[a.toNat]? with
    | none => rfl
    | some word => exact if_pos (Nat.le_refl now)

end RegisterTree

/-! ## The map-backed bank -/

namespace FlatBank

variable {w : Nat}

/-- An image laid over a map from the address `first` on. -/
theorem getD_overlayFrom (image : List Word) (first : Nat) (fits : first + image.length ≤ 2 ^ w)
    (words : Std.HashMap (Bus w) Word) (a : Bus w) :
    ((image.zipIdx first).foldl (fun words (word, i) => words.insert (BitVec.ofNat w i) word)
        words).getD a 0#16 =
      if first ≤ a.toNat then image[a.toNat - first]?.getD (words.getD a 0#16)
      else words.getD a 0#16 := by
  induction image generalizing first words with
  | nil => simp
  | cons word rest ih =>
      have room : first + 1 + rest.length ≤ 2 ^ w := by
        rw [List.length_cons] at fits
        omega
      have here : (BitVec.ofNat w first).toNat = first := by
        rw [BitVec.toNat_ofNat, Nat.mod_eq_of_lt (by omega)]
      rw [List.zipIdx_cons, List.foldl_cons, ih (first + 1) room, Std.HashMap.getD_insert]
      by_cases hit : a.toNat = first
      · have same : BitVec.ofNat w first = a := BitVec.eq_of_toNat_eq (here.trans hit.symm)
        simp [same, hit]
      · have other : ¬ BitVec.ofNat w first = a := fun same => hit (same ▸ here)
        simp only [beq_iff_eq, other, if_false]
        by_cases above : first + 1 ≤ a.toNat
        · have shift : a.toNat - first = a.toNat - (first + 1) + 1 := by omega
          rw [if_pos above, if_pos (by omega), shift, List.getElem?_cons_succ]
        · rw [if_neg above, if_neg (by omega)]

theorem getD_overlay (image : Bank.Image w) (words : Std.HashMap (Bus w) Word) (a : Bus w) :
    (overlay words image.words).getD a 0#16 = image.words[a.toNat]?.getD (words.getD a 0#16) := by
  have fits : 0 + image.words.toList.length ≤ 2 ^ w := by simpa using image.fits
  rw [overlay, getD_overlayFrom _ 0 fits]
  simp

theorem live_commit (bank : FlatBank w) (now : Cycle) : (bank.commit now).live = bank.live := by
  unfold commit
  cases bank.pending with
  | none => rfl
  | some p => by_cases due : p.cycle < now <;> simp [due]

/-- Committing a bank puts the pending word into its map once its edge has passed. -/
theorem getD_commit (bank : FlatBank w) (now : Cycle) (a : Bus w) :
    (bank.commit now).words.getD a 0#16 =
      match bank.pending with
      | some p => if p.cycle < now ∧ p.address = a then p.word else bank.words.getD a 0#16
      | none => bank.words.getD a 0#16 := by
  unfold commit
  cases bank.pending with
  | none => rfl
  | some p =>
      by_cases due : p.cycle < now
      · simp [due, Std.HashMap.getD_insert]
      · simp [due]

/-- Settling a bank at `now` makes its map the words that it shows at `now`. -/
theorem getD_settle (bank : FlatBank w) (now : Cycle) (a : Bus w) :
    (bank.settle now).words.getD a 0#16 = bank.peek now a := by
  unfold settle peek
  simp only [stale, live_commit]
  by_cases gone : bank.live.any (· < now) = true
  · simp [gone]
  · simp only [gone]
    exact getD_commit bank now a

/-- A settled bank has no write left whose edge has passed. -/
theorem le_of_pending_settle (bank : FlatBank w) (now : Cycle) (p : PendingWrite w)
    (waits : (bank.settle now).pending = some p) : now ≤ p.cycle := by
  have waiting : (bank.commit now).pending = some p := by
    unfold settle at waits
    by_cases gone : (bank.commit now).stale now = true
    · simpa [gone] using waits
    · simpa [gone] using waits
  unfold commit at waiting
  cases before : bank.pending with
  | none => simp [before] at waiting
  | some q =>
      by_cases due : q.cycle < now
      · simp [before, due] at waiting
      · simp only [before, due, if_false, Option.some.injEq] at waiting
        exact waiting ▸ Nat.le_of_not_lt due

/-- A bank that is live at `t` and has no write due by `t` shows its map. -/
theorem peek_eq_getD (bank : FlatBank w) (t : Cycle) (a : Bus w) (live : bank.stale t = false)
    (calm : ∀ p, bank.pending = some p → t ≤ p.cycle) :
    bank.peek t a = bank.words.getD a 0#16 := by
  unfold peek
  rw [live]
  cases waits : bank.pending with
  | none => rfl
  | some p =>
      have notDue : ¬ p.cycle < t := Nat.not_lt.mpr (calm p waits)
      simp [notDue]

theorem stale_of_live {bank : FlatBank w} {last : Cycle} (live : bank.live = some last)
    (t : Cycle) : bank.stale t = decide (last < t) := by
  rw [stale, live]
  rfl

theorem peek_drive (bank : FlatBank w) (now t : Cycle) (input : Word) (load : Signal)
    (address a : Bus w) :
    (bank.drive now input load address).peek t a =
      if t ≤ now then bank.peek now a
      else if t = now + 1 then (if load = true ∧ a = address then input else bank.peek now a)
      else 0#16 := by
  have map : (bank.drive now input load address).words.getD a 0#16 = bank.peek now a :=
    getD_settle bank now a
  have mark : (bank.drive now input load address).live = some (now + 1) := rfl
  have stays := stale_of_live mark t
  by_cases past : t ≤ now
  · -- up to `now` the new write is not due, so the map shows
    have live : ¬ now + 1 < t := by grind
    rw [if_pos past, ← map]
    apply peek_eq_getD
    · simpa [live] using stays
    · intro p waits
      cases load with
      | false => simp [drive] at waits
      | true =>
          simp only [drive, if_true, Option.some.injEq] at waits
          exact waits ▸ past
  · by_cases next : t = now + 1
    · subst next
      rw [if_neg past, if_pos rfl, ← map, peek, stays]
      cases load with
      | false => simp [drive]
      | true => simp [drive, eq_comm]
    · have faded : now + 1 < t := by grind
      rw [if_neg past, if_neg next, peek, stays]
      simp [faded]

theorem stale_preset (bank : FlatBank w) (now : Cycle) (image : Array Word) :
    (bank.preset now image).stale now = false := by
  rw [stale_of_live rfl, decide_eq_false_iff_not, Nat.not_lt]
  cases (bank.settle now).live with
  | none => exact Nat.le_refl now
  | some t => exact Nat.le_max_right t now

theorem peek_preset_now (bank : FlatBank w) (now : Cycle) (image : Bank.Image w) (a : Bus w) :
    (bank.preset now image.words).peek now a = image.words[a.toNat]?.getD (bank.peek now a) := by
  have map : (bank.preset now image.words).words.getD a 0#16 =
      image.words[a.toNat]?.getD (bank.peek now a) := by
    rw [← getD_settle]
    exact getD_overlay image (bank.settle now).words a
  rw [← map]
  apply peek_eq_getD
  · exact stale_preset bank now image.words
  · intro p waits
    have before : (bank.settle now).pending = some p := (Option.filter_eq_some_iff.mp waits).1
    exact le_of_pending_settle bank now p before

end FlatBank

instance {w : Nat} : TimedBank (FlatBank w) where
  output_eq_peek _ _ _ := rfl
  peek_blank t address := by
    show ({} : FlatBank w).peek t address = 0#16
    simp [FlatBank.peek, FlatBank.stale]
  peek_drive := FlatBank.peek_drive
  peek_preset_now := FlatBank.peek_preset_now

end NandMachine
