/-
# NandMachine.Proofs.Storage.MapBacked -- the map-backed bank against the banks of gates

A history of calls is made on a fresh bank of gates and on a fresh map-backed bank.
The two cannot be told apart by the answers or by what they show afterwards

* at any cycle, past or future, when the history has no presets; cycles may
  repeat, skip ahead and go back (`TimedBank.agree_of_drives`);
* at any cycle not before the history's last, when cycles never go back and no
  preset comes in a cycle in which the bank was already driven
  (`agree_of_orderly`).

The beginning of such a history is such a history, so this holds after every call.

The first needs the timing contract alone: a drive at `now` turns agreement at `now`
into agreement at every cycle (`TimedBank.peek_drive_congr`).  The second is an
induction on the history with agreement from the current cycle on as the invariant.
A preset is the delicate step.  The words outside the image keep the edges they
had, while the map-backed bank has one mark for all of them; the two come out alike
because the map-backed bank is `Spent` at a cycle in which it was not driven: its
mark does not lie ahead, so it shows nothing afterwards, and neither do the gates.
-/
import NandMachine.Proofs.Storage.TimedBank

namespace NandMachine

set_option autoImplicit false

/-! ## Agreement through drives -/

namespace TimedBank

variable {β γ : Type} {w : Nat} [Bank β w] [TimedBank β] [Bank γ w] [TimedBank γ]

/-- Banks that agree in one cycle agree at every cycle once they are driven alike
in it. -/
theorem peek_drive_congr {bank : β} {other : γ} {now : Cycle}
    (agree : ∀ a : Bus w, Bank.peek bank now a = Bank.peek other now a)
    (input : Word) (load : Signal) (address : Bus w) (t : Cycle) (a : Bus w) :
    Bank.peek (Bank.drive bank now input load address) t a =
      Bank.peek (Bank.drive other now input load address) t a := by
  rw [peek_drive, peek_drive, agree]

theorem peek_preset_congr {bank : β} {other : γ} {now : Cycle}
    (agree : ∀ a : Bus w, Bank.peek bank now a = Bank.peek other now a)
    (image : Bank.Image w) (a : Bus w) :
    Bank.peek (Bank.preset bank now image.words) now a =
      Bank.peek (Bank.preset other now image.words) now a := by
  rw [peek_preset_now, peek_preset_now, agree]

/-- Banks that agree in the cycle of a call answer it alike. -/
theorem answer_congr {bank : β} {other : γ} (c : Bank.Call w)
    (agree : ∀ a : Bus w, Bank.peek bank c.cycle a = Bank.peek other c.cycle a) :
    Bank.answer bank c = Bank.answer other c := by
  cases c with
  | drive now input load address =>
      rw [Bank.answer, Bank.answer, output_eq_peek, output_eq_peek]
      exact congrArg some (agree address)
  | peek now address => exact congrArg some (agree address)
  | preset now image => rfl

/-- Without presets, banks that agree at every cycle go on doing so. -/
theorem agree_of_drives (calls : List (Bank.Call w)) (driven : ∀ c ∈ calls, c.isPreset = false)
    (bank : β) (other : γ)
    (agree : ∀ (t : Cycle) (a : Bus w), Bank.peek bank t a = Bank.peek other t a) :
    Bank.answers bank calls = Bank.answers other calls ∧
      ∀ (t : Cycle) (a : Bus w),
        Bank.peek (calls.foldl Bank.after bank) t a =
          Bank.peek (calls.foldl Bank.after other) t a := by
  induction calls generalizing bank other with
  | nil => exact ⟨rfl, agree⟩
  | cons c rest ih =>
      have head : Bank.answer bank c = Bank.answer other c := answer_congr c (agree c.cycle)
      have kept : ∀ (t : Cycle) (a : Bus w),
          Bank.peek (Bank.after bank c) t a = Bank.peek (Bank.after other c) t a := by
        intro t a
        cases c with
        | drive now input load address =>
            exact peek_drive_congr (agree now) input load address t a
        | peek now address => exact agree t a
        | preset now image =>
            exact absurd (driven _ List.mem_cons_self) (by simp [Bank.Call.isPreset])
      obtain ⟨answered, shown⟩ :=
        ih (fun d member => driven d (List.mem_cons_of_mem c member)) _ _ kept
      exact ⟨congrArg₂ List.cons head answered, shown⟩

end TimedBank

/-! ## A map-backed bank that shows nothing from a cycle on -/

namespace FlatBank

variable {w : Nat}

/-- The mark of the bank does not lie after `t`, and a bank without a mark is all
zeros. -/
structure Spent (bank : FlatBank w) (t : Cycle) : Prop where
  mark : ∀ last, bank.live = some last → last ≤ t
  blank : bank.live = none → ∀ (s : Cycle) (a : Bus w), bank.peek s a = 0#16

namespace Spent

variable {bank : FlatBank w} {t : Cycle}

theorem mono (spent : bank.Spent t) {s : Cycle} (later : t ≤ s) : bank.Spent s :=
  ⟨fun last live => Nat.le_trans (spent.mark last live) later, spent.blank⟩

theorem peek_eq_zero (spent : bank.Spent t) {s : Cycle} (later : t < s) (a : Bus w) :
    bank.peek s a = 0#16 := by
  cases live : bank.live with
  | none => exact spent.blank live s a
  | some last =>
      have faded : last < s := Nat.lt_of_le_of_lt (spent.mark last live) later
      rw [FlatBank.peek, stale_of_live live]
      simp [faded]

theorem fresh (t : Cycle) : ({} : FlatBank w).Spent t :=
  ⟨fun _ live => by simp at live, fun _ s a => TimedBank.peek_blank (β := FlatBank w) s a⟩

theorem drive (bank : FlatBank w) (now : Cycle) (input : Word) (load : Signal)
    (address : Bus w) : (bank.drive now input load address).Spent (now + 1) :=
  ⟨fun last live => by
      have same : some (now + 1) = some last := live
      exact Nat.le_of_eq (Option.some.inj same).symm,
    fun live => by simp [FlatBank.drive] at live⟩

theorem live_settle (bank : FlatBank w) (now last : Cycle)
    (live : (bank.settle now).live = some last) : bank.live = some last := by
  unfold settle at live
  by_cases gone : (bank.commit now).stale now = true
  · simp [gone] at live
  · simp only [gone] at live
    exact (live_commit bank now) ▸ live

theorem preset {bank : FlatBank w} {now : Cycle} (spent : bank.Spent now) (image : Array Word) :
    (bank.preset now image).Spent now := by
  refine ⟨fun last live => ?_, fun live => by simp [FlatBank.preset] at live⟩
  have mark := Option.some.inj live
  rw [← mark]
  cases before : (bank.settle now).live with
  | none => exact Nat.le_refl now
  | some t => exact Nat.max_le.mpr ⟨spent.mark t (live_settle bank now t before), Nat.le_refl now⟩

end Spent

end FlatBank

/-! ## Orderly histories -/

namespace Bank

variable {w : Nat}

/-- Cycles never go back, and no preset comes in a cycle in which the bank was
already driven. -/
def Orderly (calls : List (Call w)) : Prop :=
  calls.Pairwise fun c d =>
    c.cycle ≤ d.cycle ∧ (c.isDrive = true → d.isPreset = true → c.cycle ≠ d.cycle)

end Bank

section Orderly

variable {β : Type} {w : Nat} [Bank β w] [RegisterTree β]

/-- A preset of spent banks that agree from its cycle on. -/
theorem agree_preset {bank : β} {flat : FlatBank w} {now : Cycle} (image : Bank.Image w)
    (spent : flat.Spent now)
    (agree : ∀ t, now ≤ t → ∀ a : Bus w, Bank.peek bank t a = Bank.peek flat t a) :
    ∀ t, now ≤ t → ∀ a : Bus w,
      Bank.peek (Bank.preset bank now image.words) t a =
        Bank.peek (Bank.preset flat now image.words) t a := by
  intro t reached a
  by_cases here : t = now
  · subst here
    exact TimedBank.peek_preset_congr (agree t (Nat.le_refl t)) image a
  · have later : now < t := Nat.lt_of_le_of_ne reached (Ne.symm here)
    have faded : Bank.peek bank t a = 0#16 :=
      (agree t reached a).trans (spent.peek_eq_zero later a)
    have flatFaded : Bank.peek (Bank.preset flat now image.words) t a = 0#16 :=
      (spent.preset image.words).peek_eq_zero later a
    rw [flatFaded, RegisterTree.peek_preset]
    cases image.words[a.toNat]? with
    | none => exact faded
    | some word => exact if_neg (Nat.not_le_of_lt later)

/-- Through an orderly history, agreement from the current cycle on is kept. -/
theorem agree_of_orderly (calls : List (Bank.Call w)) (orderly : Bank.Orderly calls)
    (bank : β) (flat : FlatBank w) (start : Cycle)
    (ahead : ∀ c ∈ calls, start ≤ c.cycle)
    (spent : ∀ c ∈ calls, c.isPreset = true → flat.Spent c.cycle)
    (agree : ∀ t, start ≤ t → ∀ a : Bus w, Bank.peek bank t a = Bank.peek flat t a) :
    Bank.answers bank calls = Bank.answers flat calls ∧
      ∀ t, start ≤ t → (∀ c ∈ calls, c.cycle ≤ t) → ∀ a : Bus w,
        Bank.peek (calls.foldl Bank.after bank) t a =
          Bank.peek (calls.foldl Bank.after flat) t a := by
  induction calls generalizing bank flat start with
  | nil => exact ⟨rfl, fun t reached _ => agree t reached⟩
  | cons c rest ih =>
      obtain ⟨before, tail⟩ := List.pairwise_cons.mp orderly
      have here : start ≤ c.cycle := ahead c List.mem_cons_self
      have head : Bank.answer bank c = Bank.answer flat c :=
        TimedBank.answer_congr c (agree c.cycle here)
      -- the rest of the history starts in the cycle of `c`
      suffices next :
          (∀ d ∈ rest, d.isPreset = true → (Bank.after flat c).Spent d.cycle) ∧
            ∀ t, c.cycle ≤ t → ∀ a : Bus w,
              Bank.peek (Bank.after bank c) t a = Bank.peek (Bank.after flat c) t a by
        obtain ⟨answered, shown⟩ :=
          ih tail _ _ c.cycle (fun d member => (before d member).1) next.1 next.2
        refine ⟨congrArg₂ List.cons head answered, fun t _ past => ?_⟩
        exact shown t (past c List.mem_cons_self) fun d member =>
          past d (List.mem_cons_of_mem c member)
      have spentLater : ∀ d ∈ rest, d.isPreset = true → flat.Spent d.cycle :=
        fun d member => spent d (List.mem_cons_of_mem c member)
      cases c with
      | drive now input load address =>
          refine ⟨fun d member presets => ?_, fun t _ a => ?_⟩
          · have apart : now < d.cycle :=
              Nat.lt_of_le_of_ne (before d member).1 ((before d member).2 rfl presets)
            exact (FlatBank.Spent.drive flat now input load address).mono apart
          · exact TimedBank.peek_drive_congr (agree now here) input load address t a
      | peek now address =>
          exact ⟨spentLater, fun t past => agree t (Nat.le_trans here past)⟩
      | preset now image =>
          have spentHere : flat.Spent now := spent _ List.mem_cons_self rfl
          refine ⟨fun d member _ => ?_, ?_⟩
          · exact (spentHere.preset image.words).mono (before d member).1
          · exact agree_preset image spentHere fun t past => agree t (Nat.le_trans here past)

end Orderly

/-! ## Histories from a fresh start -/

/-- A history made on a fresh bank and on a fresh map-backed one is accepted by
both with the same answers, and both then show the same words at the cycles of
`seen`. -/
def AgreeAfter (β : Type) {w : Nat} [Bank β w] (calls : List (Bank.Call w))
    (seen : Cycle → Prop) : Prop :=
  ∃ (bank : β) (flat : FlatBank w) (answers : List (Option Word)),
    Bank.calls? (Bank.blank : β) calls = .ok (bank, answers) ∧
      Bank.calls? (Bank.blank : FlatBank w) calls = .ok (flat, answers) ∧
      ∀ t, seen t → ∀ a : Bus w, Bank.peek bank t a = Bank.peek flat t a

/-- The map-backed bank keeps the timing of a bank: through drives at any cycles
the two agree at every cycle, and through orderly histories with presets they agree
from the last call on. -/
structure StandsInFor (β : Type) (w : Nat) [Bank β w] : Prop where
  drives : ∀ calls : List (Bank.Call w), Bank.InTime calls → (∀ c ∈ calls, c.isPreset = false) →
    AgreeAfter β calls fun _ => True
  orderly : ∀ calls : List (Bank.Call w), Bank.InTime calls → Bank.Orderly calls →
    AgreeAfter β calls fun t => ∀ c ∈ calls, c.cycle ≤ t

theorem RegisterTree.standsInFor {β : Type} {w : Nat} [Bank β w] [RegisterTree β] :
    StandsInFor β w := by
  have fresh : ∀ (t : Cycle) (a : Bus w),
      Bank.peek (Bank.blank : β) t a = Bank.peek (Bank.blank : FlatBank w) t a := fun t a =>
    (TimedBank.peek_blank t a).trans (TimedBank.peek_blank t a).symm
  refine ⟨fun calls timely driven => ?_, fun calls timely orderly => ?_⟩
  · obtain ⟨answered, shown⟩ := TimedBank.agree_of_drives calls driven _ _ fresh
    refine ⟨_, _, _, Bank.calls?_of_inTime _ calls timely, ?_, fun t _ => shown t⟩
    rw [answered]
    exact Bank.calls?_of_inTime _ calls timely
  · obtain ⟨answered, shown⟩ := agree_of_orderly calls orderly (Bank.blank : β)
      (Bank.blank : FlatBank w) 0 (fun c _ => Nat.zero_le c.cycle)
      (fun c _ _ => FlatBank.Spent.fresh c.cycle) (fun t _ => fresh t)
    refine ⟨_, _, _, Bank.calls?_of_inTime _ calls timely, ?_, fun t => shown t (Nat.zero_le t)⟩
    rw [answered]
    exact Bank.calls?_of_inTime _ calls timely

/-- **The map-backed bank stands in for every bank of gates.** -/
theorem map_backed_bank_keeps_timing :
    StandsInFor Ram8 3 ∧ StandsInFor Ram64 6 ∧ StandsInFor Ram512 9 ∧ StandsInFor Ram4K 12 ∧
      StandsInFor Ram16K 14 := by
  refine ⟨?_, ?_, ?_, ?_, ?_⟩
  · exact RegisterTree.standsInFor
  · exact RegisterTree.standsInFor
  · exact RegisterTree.standsInFor
  · exact RegisterTree.standsInFor
  · exact RegisterTree.standsInFor

end NandMachine
