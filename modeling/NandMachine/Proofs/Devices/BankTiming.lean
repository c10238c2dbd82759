/-
# NandMachine.Proofs.Devices.BankTiming -- the display beside a bank of as many words

The display and a bank of 8192 words take the same drives and keep them differently: a
bank forgets everything once it has gone more than one edge without a drive, the display
never does.  As long as no cycle is skipped the difference has no chance to show.

If the two show the same words at `now`, then after the same drive at `now` they show the
same up to the next edge (`Screen.peek_drive_congr`).  In a steady history every drive comes
at most one cycle after the drive before it, so it comes where the two already agree,
however often cycles repeat or go back (`Screen.peek_after`).  The induction is on the
history from its end, and the drive before the last is what hands the agreement on.

This holds beside every bank that keeps the timing contract; the bank kept in a map is the
one that comes in the size of the display.
-/
import Mathlib.Data.List.Chain
import NandMachine.Proofs.Storage.History

namespace NandMachine

set_option autoImplicit false

/-- A history in which every drive comes at most one cycle after the drive before it. -/
def Drive.Steady {ι : Type} (drives : List (Drive ι)) : Prop :=
  drives.IsChain fun c d => d.cycle ≤ c.cycle + 1

namespace Screen

variable {β : Type} [Bank β 13] [TimedBank β]

/-- A display and a bank that agree at `now` agree up to the next edge once they are driven
alike. -/
theorem peek_drive_congr {screen : Screen} {bank : β} {now t : Cycle}
    (agree : ∀ a, screen.peek now a = Bank.peek bank now a) (lines : Bank.Lines 13)
    (reached : t ≤ now + 1) (a : Bus 13) :
    (Screen.clocked.drive screen now lines).peek t a =
      Bank.peek ((Bank.clocked β).drive bank now lines) t a := by
  have display : (Screen.clocked.drive screen now lines).peek t a =
      if now < t ∧ lines.load = true ∧ a = lines.address then lines.input
      else screen.peek now a :=
    screen.peek_drive now t lines.input lines.load lines.address a
  have store : Bank.peek ((Bank.clocked β).drive bank now lines) t a =
      if t ≤ now then Bank.peek bank now a
      else if t = now + 1 then
        (if lines.load = true ∧ a = lines.address then lines.input else Bank.peek bank now a)
      else 0#16 :=
    TimedBank.peek_drive bank now t lines.input lines.load lines.address a
  rw [display, store, agree]
  rcases Nat.lt_or_eq_of_le reached with early | edge
  · have past : t ≤ now := Nat.le_of_lt_succ early
    rw [if_pos past, if_neg fun due => Nat.not_lt_of_le past due.1]
  · have due : now < t := edge ▸ Nat.lt_succ_self now
    rw [if_neg (Nat.not_le_of_lt due), if_pos edge]
    simp only [due, true_and]

/-- After a steady history the display and the bank agree up to the edge after its last
drive. -/
theorem peek_after (earlier : List (Drive (Bank.Lines 13))) (d : Drive (Bank.Lines 13))
    (steady : Drive.Steady (earlier ++ [d])) {t : Cycle} (reached : t ≤ d.cycle + 1)
    (a : Bus 13) :
    (Screen.clocked.after Screen.blank (earlier ++ [d])).peek t a =
      Bank.peek ((Bank.clocked β).after Bank.blank (earlier ++ [d])) t a := by
  induction earlier using List.reverseRecOn generalizing d t a with
  | nil =>
      have fresh : ∀ b, Screen.blank.peek d.cycle b = Bank.peek (Bank.blank : β) d.cycle b := by
        intro b
        rw [TimedBank.peek_blank, peek_of_calm rfl]
        exact Vector.getElem_replicate _
      exact peek_drive_congr fresh d.lines reached a
  | append_singleton before c ih =>
      have next : d.cycle ≤ c.cycle + 1 := by
        have joint : Drive.Steady (before ++ c :: [d]) := by simpa using steady
        exact (List.isChain_append_cons_cons.mp joint).2.1
      have agree := fun b => ih c steady.left_of_append next b
      rw [Screen.clocked.after_concat _ (before ++ [c]),
        (Bank.clocked β).after_concat _ (before ++ [c])]
      exact peek_drive_congr agree d.lines reached a

/-- Every drive of a steady history is answered alike. -/
theorem answers_eq (drives : List (Drive (Bank.Lines 13))) (steady : Drive.Steady drives) :
    Screen.clocked.answers Screen.blank drives =
      (Bank.clocked β).answers (Bank.blank : β) drives := by
  induction drives using List.reverseRecOn with
  | nil => rfl
  | append_singleton earlier d ih =>
      -- a drive answers what its cycle shows before it, and the drive itself leaves that alone
      have answer : Screen.clocked.answer (Screen.clocked.after Screen.blank earlier) d.cycle
            d.lines =
          (Bank.clocked β).answer ((Bank.clocked β).after Bank.blank earlier) d.cycle
            d.lines := by
        have shown := peek_after (β := β) earlier d steady (Nat.le_succ d.cycle) d.lines.address
        have display := Screen.laws.read_drive_now (Screen.clocked.after Screen.blank earlier)
          d.cycle d.lines d.lines.address
        have store := TimedBank.peek_drive ((Bank.clocked β).after Bank.blank earlier) d.cycle
          d.cycle d.lines.input d.lines.load d.lines.address d.lines.address
        rw [Clocked.after_concat, Clocked.after_concat] at shown
        rw [if_pos (Nat.le_refl d.cycle)] at store
        exact display.symm.trans (shown.trans (store.trans
          (TimedBank.output_eq_peek _ d.cycle d.lines.address).symm))
      rw [Clocked.answers_concat, Clocked.answers_concat, ih steady.left_of_append, answer]

end Screen

/-- **The display keeps the timing of a memory bank.**  Through every steady history the
display and a map-backed bank of its size answer every drive alike, and after every drive
they show the same words at every cycle up to the next edge.  Before the last cycle the bank
refuses none of the drives. -/
theorem display_keeps_bank_timing (drives : List (Drive (Bank.Lines 13)))
    (steady : Drive.Steady drives) :
    Screen.clocked.answers Screen.blank drives =
        (Bank.clocked (FlatBank 13)).answers Bank.blank drives ∧
      (∀ (earlier : List (Drive (Bank.Lines 13))) (d : Drive (Bank.Lines 13))
          (later : List (Drive (Bank.Lines 13))), drives = earlier ++ d :: later →
        ∀ t, t ≤ d.cycle + 1 → ∀ a : Bus 13,
          (Screen.clocked.after Screen.blank (earlier ++ [d])).peek t a =
            ((Bank.clocked (FlatBank 13)).after Bank.blank (earlier ++ [d])).peek t a) ∧
      ((∀ d ∈ drives, d.cycle < Cycle.last) →
        (Bank.clocked (FlatBank 13)).history? Bank.blank drives =
          .ok ((Bank.clocked (FlatBank 13)).after Bank.blank drives,
            Screen.clocked.answers Screen.blank drives)) := by
  have answered := Screen.answers_eq (β := FlatBank 13) drives steady
  refine ⟨answered, ?_, ?_⟩
  · intro earlier d later split t reached a
    have whole : Drive.Steady ((earlier ++ [d]) ++ later) := by
      rw [List.append_assoc]
      exact split ▸ steady
    exact Screen.peek_after (β := FlatBank 13) earlier d whole.left_of_append reached a
  · intro inTime
    rw [answered]
    exact Clocked.history?_of_inTime _ _ drives inTime

/-- A store that the next drive of its cycle cancels, one that stands, and two looks at it,
the second from an earlier cycle. -/
def Screen.cancelledStore : List (Drive (Bank.Lines 13)) :=
  [⟨4, ⟨7#16, true, 3#13⟩⟩, ⟨4, ⟨0#16, false, 1#13⟩⟩, ⟨5, ⟨9#16, true, 3#13⟩⟩,
    ⟨6, ⟨0#16, false, 3#13⟩⟩, ⟨2, ⟨0#16, false, 3#13⟩⟩]

/-- The bank accepts that history and answers it as the display does. -/
theorem bank_and_display_cancel_alike :
    Drive.Steady Screen.cancelledStore ∧
      ((Bank.clocked (FlatBank 13)).history? Bank.blank Screen.cancelledStore).map Prod.snd =
        .ok [0#16, 0#16, 0#16, 9#16, 9#16] := by
  have steady : Drive.Steady Screen.cancelledStore := by
    simp [Drive.Steady, Screen.cancelledStore]
  obtain ⟨_, _, accepted⟩ := display_keeps_bank_timing Screen.cancelledStore steady
  refine ⟨steady, ?_⟩
  rw [accepted (by decide)]
  decide

end NandMachine
