/-
# NandMachine.Proofs.Storage.FullImage -- a full image in a cycle that was already driven

A bank is driven for a while and then preset with an image that has a word for every address.
Of what it held nothing is left, so one would expect a bank of gates and a map-backed bank
with the same past to show the same from then on.  They do, except in one cycle.

A preset moves the edge of every cell of the gates to its own cycle: they show the image up to
that cycle, and then nothing (`RegisterTree.peek_filled`).  The map-backed bank never moves its
one mark back.  If it was driven in the cycle of the preset, the mark already stands at the next
cycle and stays there, and the image shows for one cycle longer (`FlatBank.peek_filled`); the
last drive alone decides this, since cycles do not go back (`FlatBank.live_driven`).

What this means for later drives is settled by the first of them.  Where it finds the two in
agreement they agree for good (`TimedBank.agree_of_first`), and where it comes in that one cycle
it is answered differently.  A machine never notices, because each of its steps drives the
memory in the cycle in which a preload may have preset it.
-/
import NandMachine.Proofs.Storage.History
import NandMachine.Proofs.Storage.MapBacked

namespace NandMachine

set_option autoImplicit false

namespace Bank

variable {w : Nat}

/-- The call that makes a drive. -/
def Call.ofDrive (d : Drive (Lines w)) : Call w :=
  .drive d.cycle d.lines.input d.lines.load d.lines.address

/-- Drives in cycles that never go back, and at their end a preset with a word for every
address. -/
structure Filling (width : Nat) where
  drives : List (Drive (Lines width))
  now : Cycle
  words : Vector Word (2 ^ width)
  sorted : drives.Pairwise fun c d => c.cycle ≤ d.cycle
  reached : ∀ d ∈ drives, d.cycle ≤ now
  early : now < Cycle.last

namespace Filling

def image (f : Filling w) : Image w := ⟨f.words.toArray, Nat.le_of_eq f.words.size_toArray⟩

def word (f : Filling w) (a : Bus w) : Word := f.words[a.toFin]

def calls (f : Filling w) : List (Call w) := f.drives.map Call.ofDrive ++ [.preset f.now f.image]

/-- The bank was driven in the cycle of the preset. -/
def Driven (f : Filling w) : Prop := ∃ d ∈ f.drives, d.cycle = f.now

instance (f : Filling w) : Decidable f.Driven :=
  inferInstanceAs (Decidable (∃ d ∈ f.drives, d.cycle = f.now))

/-- The last cycle in which a map-backed bank shows the image. -/
def mark (f : Filling w) : Cycle := if f.Driven then f.now + 1 else f.now

/-- A bank of a kind after the drives. -/
def driven (β : Type) [Bank β w] (f : Filling w) : β :=
  (f.drives.map Call.ofDrive).foldl Bank.after Bank.blank

/-- A bank of a kind after the preset. -/
def filled (β : Type) [Bank β w] (f : Filling w) : β :=
  Bank.preset (f.driven β) f.now f.image.words

theorem getElem?_image (f : Filling w) (a : Bus w) : f.image.words[a.toNat]? = some (f.word a) := by
  have inside : a.toNat < f.words.toArray.size := by
    rw [f.words.size_toArray]
    exact a.isLt
  exact Array.getElem?_eq_getElem inside

theorem foldl_calls (β : Type) [Bank β w] (f : Filling w) :
    f.calls.foldl Bank.after (Bank.blank : β) = f.filled β := by
  rw [calls, List.foldl_append]
  rfl

theorem inTime (f : Filling w) : InTime f.calls := by
  intro c member
  rcases List.mem_append.mp member with drive | preset
  · obtain ⟨d, there, rfl⟩ := List.mem_map.mp drive
    exact Nat.lt_of_le_of_lt (f.reached d there) f.early
  · obtain rfl := List.mem_singleton.mp preset
    exact f.early

/-- Cycles never go back, so the last drive is in the cycle of the preset if any is. -/
theorem driven_iff_last (f : Filling w) {earlier : List (Drive (Lines w))} {d : Drive (Lines w)}
    (split : f.drives = earlier ++ [d]) : f.Driven ↔ d.cycle = f.now := by
  have there : d ∈ f.drives := by
    rw [split]
    exact List.mem_append_right earlier (List.mem_singleton_self d)
  constructor
  · rintro ⟨c, member, now⟩
    have before : c.cycle ≤ d.cycle := by
      have sorted := f.sorted
      rw [split] at sorted member
      rcases List.mem_append.mp member with old | same
      · exact (List.pairwise_append.mp sorted).2.2 c old d (List.mem_singleton_self d)
      · rw [List.mem_singleton.mp same]
    exact Nat.le_antisymm (f.reached d there) (now ▸ before)
  · intro here
    exact ⟨d, there, here⟩

theorem driven_concat (β : Type) [Bank β w] (f : Filling w) {earlier : List (Drive (Lines w))}
    {d : Drive (Lines w)} (split : f.drives = earlier ++ [d]) :
    f.driven β =
      Bank.after ((earlier.map Call.ofDrive).foldl Bank.after Bank.blank) (Call.ofDrive d) := by
  rw [driven, split, List.map_append, List.foldl_append]
  rfl

end Filling

theorem answers_append {β : Type} [Bank β w] (bank : β) (first rest : List (Call w)) :
    answers bank (first ++ rest) = answers bank first ++ answers (first.foldl after bank) rest := by
  induction first generalizing bank with
  | nil => rfl
  | cons c later ih =>
      rw [List.cons_append, answers, ih]
      rfl

theorem isPreset_ofDrive {drives : List (Drive (Lines w))} :
    ∀ c ∈ drives.map Call.ofDrive, c.isPreset = false := by
  intro c member
  obtain ⟨d, -, rfl⟩ := List.mem_map.mp member
  rfl

end Bank

/-! ## The banks of gates -/

/-- A full image leaves no cell of the gates as it was. -/
theorem RegisterTree.peek_filled {β : Type} {w : Nat} [Bank β w] [RegisterTree β]
    (f : Bank.Filling w) (t : Cycle) (a : Bus w) :
    Bank.peek (f.filled β) t a = if t ≤ f.now then f.word a else 0#16 := by
  rw [Bank.Filling.filled, peek_preset, f.getElem?_image]

/-! ## The map-backed bank -/

namespace FlatBank

variable {w : Nat}

theorem stale_of_le {bank : FlatBank w} {now t : Cycle} (live : bank.stale now = false)
    (before : t ≤ now) : bank.stale t = false := by
  cases mark : bank.live with
  | none =>
      rw [stale, mark]
      rfl
  | some last =>
      rw [stale_of_live mark, decide_eq_false_iff_not] at live ⊢
      exact fun gone => live (Nat.lt_of_lt_of_le gone before)

/-- A full image replaces every word and drops the write that waits. -/
theorem peek_preset_full (bank : FlatBank w) (now t : Cycle) {image : Bank.Image w}
    (full : image.words.size = 2 ^ w) (a : Bus w) :
    (bank.preset now image.words).peek t a =
      if (bank.preset now image.words).stale t then 0#16
      else image.words[a.toNat]?.getD 0#16 := by
  by_cases gone : (bank.preset now image.words).stale t = true
  · rw [if_pos gone, peek, if_pos gone]
  · have live : (bank.preset now image.words).stale t = false := Bool.eq_false_iff.mpr gone
    have calm : ∀ p, (bank.preset now image.words).pending = some p → t ≤ p.cycle := by
      intro p waits
      have outside : decide (image.words.size ≤ p.address.toNat) = true :=
        (Option.filter_eq_some_iff.mp waits).2
      exact absurd (of_decide_eq_true outside) (by rw [full]; exact Nat.not_le_of_lt p.address.isLt)
    have inside : a.toNat < image.words.size := full ▸ a.isLt
    have shown : (bank.preset now image.words).words.getD a 0#16 =
        image.words[a.toNat]?.getD ((bank.settle now).words.getD a 0#16) :=
      getD_overlay image (bank.settle now).words a
    rw [if_neg gone, peek_eq_getD _ t a live calm, shown, Array.getElem?_eq_getElem inside]
    rfl

/-- A preset does not move the mark back. -/
theorem live_preset_of_ahead {bank : FlatBank w} {now : Cycle} (ahead : bank.live = some (now + 1))
    (image : Array Word) : (bank.preset now image).live = some (now + 1) := by
  have mark : (bank.commit now).live = some (now + 1) := (live_commit bank now).trans ahead
  have fresh : (bank.commit now).stale now = false := by
    rw [stale_of_live mark]
    exact decide_eq_false (Nat.not_lt_of_le (Nat.le_succ now))
  have settled : (bank.settle now).live = some (now + 1) := by
    rw [settle, fresh]
    exact mark
  have later : max (now + 1) now = now + 1 := Nat.max_eq_left (Nat.le_succ now)
  simp only [preset, settled, later]

/-- The last drive settles where the mark stands: ahead of the preset if it was made in its
cycle, and else not. -/
theorem live_driven (f : Bank.Filling w) :
    (f.Driven → (f.driven (FlatBank w)).live = some (f.now + 1)) ∧
      (¬ f.Driven → (f.driven (FlatBank w)).Spent f.now) := by
  rcases List.eq_nil_or_concat f.drives with none | ⟨earlier, d, split⟩
  · constructor
    · rintro ⟨d, member, -⟩
      rw [none] at member
      nomatch member
    · intro _
      rw [Bank.Filling.driven, none]
      exact Spent.fresh f.now
  · rw [List.concat_eq_append] at split
    have reached : d.cycle ≤ f.now :=
      f.reached d (split ▸ List.mem_append_right earlier (List.mem_singleton_self d))
    rw [f.driven_iff_last split, f.driven_concat (FlatBank w) split]
    constructor
    · intro here
      rw [← here]
      rfl
    · intro apart
      have behind : d.cycle < f.now := Nat.lt_of_le_of_ne reached apart
      exact (Spent.drive _ d.cycle _ _ _).mono behind

/-- A full image shows in the map-backed bank up to the mark. -/
theorem peek_filled (f : Bank.Filling w) (t : Cycle) (a : Bus w) :
    Bank.peek (f.filled (FlatBank w)) t a = if t ≤ f.mark then f.word a else 0#16 := by
  have full : f.image.words.size = 2 ^ w := f.words.size_toArray
  have shown := peek_preset_full (f.driven (FlatBank w)) f.now t full a
  have word : f.image.words[a.toNat]?.getD 0#16 = f.word a := by rw [f.getElem?_image]; rfl
  rw [word] at shown
  obtain ⟨ahead, spent⟩ := live_driven f
  by_cases driven : f.Driven
  · have mark := live_preset_of_ahead (ahead driven) f.image.words
    have last : f.mark = f.now + 1 := if_pos driven
    show ((f.driven (FlatBank w)).preset f.now f.image.words).peek t a = _
    rw [shown, stale_of_live mark, last]
    by_cases inside : t ≤ f.now + 1
    · rw [if_pos inside, if_neg (by simpa using inside)]
    · rw [if_neg inside, if_pos (by simpa using inside)]
  · have last : f.mark = f.now := if_neg driven
    show ((f.driven (FlatBank w)).preset f.now f.image.words).peek t a = _
    rw [last]
    by_cases inside : t ≤ f.now
    · have live := stale_of_le ((f.driven (FlatBank w)).stale_preset f.now f.image.words) inside
      rw [if_pos inside, shown, live]
      rfl
    · rw [if_neg inside]
      exact ((spent driven).preset f.image.words).peek_eq_zero (Nat.lt_of_not_le inside) a

end FlatBank

/-! ## The two beside each other -/

namespace TimedBank

variable {β γ : Type} {w : Nat} [Bank β w] [TimedBank β] [Bank γ w] [TimedBank γ]

/-- Banks that agree in the cycle of a drive answer it and all later drives alike, and agree at
every cycle afterwards. -/
theorem agree_of_first (bank : β) (other : γ) (d : Drive (Bank.Lines w))
    (rest : List (Drive (Bank.Lines w)))
    (agree : ∀ a : Bus w, Bank.peek bank d.cycle a = Bank.peek other d.cycle a) :
    Bank.answers bank ((d :: rest).map Bank.Call.ofDrive) =
        Bank.answers other ((d :: rest).map Bank.Call.ofDrive) ∧
      ∀ (t : Cycle) (a : Bus w),
        Bank.peek (((d :: rest).map Bank.Call.ofDrive).foldl Bank.after bank) t a =
          Bank.peek (((d :: rest).map Bank.Call.ofDrive).foldl Bank.after other) t a := by
  have first : Bank.answer bank (Bank.Call.ofDrive d) = Bank.answer other (Bank.Call.ofDrive d) :=
    answer_congr (Bank.Call.ofDrive d) agree
  obtain ⟨answered, shown⟩ := agree_of_drives (rest.map Bank.Call.ofDrive) Bank.isPreset_ofDrive
    (Bank.after bank (Bank.Call.ofDrive d)) (Bank.after other (Bank.Call.ofDrive d))
    fun t a => peek_drive_congr agree d.lines.input d.lines.load d.lines.address t a
  exact ⟨congrArg₂ List.cons first answered, shown⟩

/-- The drives before a full image are answered alike, and the preset answers nothing. -/
theorem answers_filling (f : Bank.Filling w) :
    Bank.answers (Bank.blank : β) f.calls = Bank.answers (Bank.blank : γ) f.calls := by
  obtain ⟨answered, -⟩ := agree_of_drives (f.drives.map Bank.Call.ofDrive) Bank.isPreset_ofDrive
    (Bank.blank : β) (Bank.blank : γ) fun t a =>
      (peek_blank t a).trans (peek_blank t a).symm
  rw [Bank.Filling.calls, Bank.answers_append, Bank.answers_append, answered]
  rfl

end TimedBank

/-- A history in time that is answered alike and leaves the same visible. -/
theorem agreeAfter_of_inTime {β : Type} {w : Nat} [Bank β w] {calls : List (Bank.Call w)}
    {seen : Cycle → Prop} (timely : Bank.InTime calls)
    (answered : Bank.answers (Bank.blank : β) calls = Bank.answers (Bank.blank : FlatBank w) calls)
    (shown : ∀ t, seen t → ∀ a : Bus w,
      Bank.peek (calls.foldl Bank.after (Bank.blank : β)) t a =
        Bank.peek (calls.foldl Bank.after (Bank.blank : FlatBank w)) t a) :
    AgreeAfter β calls seen := by
  have gates := Bank.calls?_of_inTime (Bank.blank : β) calls timely
  have map := Bank.calls?_of_inTime (Bank.blank : FlatBank w) calls timely
  rw [← answered] at map
  exact ⟨_, _, _, gates, map, shown⟩

/-- A bank and a map-backed bank cannot be told apart after the image, by looks from its cycle on
or by drives. -/
structure Bank.Filling.Alike {w : Nat} (β : Type) [Bank β w] (f : Bank.Filling w) : Prop where
  peeks : ∀ t, f.now ≤ t → ∀ a : Bus w,
    Bank.peek (f.filled β) t a = Bank.peek (f.filled (FlatBank w)) t a
  drives : ∀ later : List (Drive (Bank.Lines w)), (∀ d ∈ later, d.cycle < Cycle.last) →
    AgreeAfter β (f.calls ++ later.map Bank.Call.ofDrive) fun t => f.now ≤ t

/-- What a full image makes of a bank of gates and of a map-backed bank that were driven alike
before it. -/
structure FillingLaw {w : Nat} (β : Type) [Bank β w] (f : Bank.Filling w) : Prop where
  /-- Both take the drives and the preset, and answer alike. -/
  accepted : ∃ answers : List (Option Word),
    Bank.calls? (Bank.blank : β) f.calls = .ok (f.filled β, answers) ∧
      Bank.calls? (Bank.blank : FlatBank w) f.calls = .ok (f.filled (FlatBank w), answers)
  gates : ∀ (t : Cycle) (a : Bus w),
    Bank.peek (f.filled β) t a = if t ≤ f.now then f.word a else 0#16
  map : ∀ (t : Cycle) (a : Bus w),
    Bank.peek (f.filled (FlatBank w)) t a = if t ≤ f.mark then f.word a else 0#16
  /-- They are alike exactly when the bank was not driven in the cycle of the preset, or the
  image is all zeros. -/
  alike_iff : f.Alike β ↔ (f.Driven → ∀ a, f.word a = 0#16)
  /-- If they are not, later drives bring them together for good, unless the first of them comes
  in the cycle after the preset. -/
  later : ∀ (d : Drive (Bank.Lines w)) (rest : List (Drive (Bank.Lines w))),
    (∀ c ∈ d :: rest, c.cycle < Cycle.last) → (f.Driven → d.cycle ≠ f.now + 1) →
      AgreeAfter β (f.calls ++ (d :: rest).map Bank.Call.ofDrive) fun _ => True
  /-- A drive that does come in that cycle is answered with a zero by the one, and with the word
  of the image by the other. -/
  apart : f.Driven → ∀ a : Bus w,
    Bank.output (f.filled β) (f.now + 1) a = 0#16 ∧
      Bank.output (f.filled (FlatBank w)) (f.now + 1) a = f.word a

namespace RegisterTree

variable {β : Type} {w : Nat} [Bank β w] [RegisterTree β]

theorem calls?_filling (f : Bank.Filling w) : ∃ answers : List (Option Word),
    Bank.calls? (Bank.blank : β) f.calls = .ok (f.filled β, answers) ∧
      Bank.calls? (Bank.blank : FlatBank w) f.calls = .ok (f.filled (FlatBank w), answers) := by
  refine ⟨Bank.answers (Bank.blank : β) f.calls, ?_, ?_⟩
  · rw [Bank.calls?_of_inTime _ _ f.inTime, f.foldl_calls β]
  · rw [Bank.calls?_of_inTime _ _ f.inTime, f.foldl_calls (FlatBank w),
      TimedBank.answers_filling (β := β) (γ := FlatBank w)]

/-- In every cycle but one the two show the same. -/
theorem peek_filled_congr (f : Bank.Filling w) {t : Cycle} (other : f.Driven → t ≠ f.now + 1)
    (a : Bus w) : Bank.peek (f.filled β) t a = Bank.peek (f.filled (FlatBank w)) t a := by
  rw [peek_filled, FlatBank.peek_filled, Bank.Filling.mark]
  by_cases driven : f.Driven
  · have same : t ≤ f.now ↔ t ≤ f.now + 1 :=
      ⟨fun before => Nat.le_succ_of_le before, fun before =>
        Nat.le_of_lt_succ (Nat.lt_of_le_of_ne before (other driven))⟩
    rw [if_pos driven]
    simp only [same]
  · rw [if_neg driven]

/-- In the cycle after a preset into a bank that was driven in its cycle, they do not. -/
theorem peek_filled_apart (f : Bank.Filling w) (driven : f.Driven) (a : Bus w) :
    Bank.peek (f.filled β) (f.now + 1) a = 0#16 ∧
      Bank.peek (f.filled (FlatBank w)) (f.now + 1) a = f.word a := by
  constructor
  · rw [peek_filled, if_neg (Nat.not_succ_le_self f.now)]
  · rw [FlatBank.peek_filled, Bank.Filling.mark, if_pos driven, if_pos (Nat.le_refl _)]

/-- An image of zeros leaves nothing to tell them apart by. -/
theorem peek_filled_of_zeros (f : Bank.Filling w) (zeros : f.Driven → ∀ a, f.word a = 0#16)
    (t : Cycle) (a : Bus w) :
    Bank.peek (f.filled β) t a = Bank.peek (f.filled (FlatBank w)) t a := by
  by_cases gap : f.Driven ∧ t = f.now + 1
  · obtain ⟨driven, rfl⟩ := gap
    obtain ⟨gates, map⟩ := peek_filled_apart (β := β) f driven a
    rw [gates, map, zeros driven a]
  · exact peek_filled_congr f (fun driven next => gap ⟨driven, next⟩) a

/-- Drives that the two answer alike after the image, and that leave the same visible. -/
theorem agreeAfter_filled (f : Bank.Filling w) {drives : List (Drive (Bank.Lines w))}
    (early : ∀ d ∈ drives, d.cycle < Cycle.last)
    (alike : Bank.answers (f.filled β) (drives.map Bank.Call.ofDrive) =
        Bank.answers (f.filled (FlatBank w)) (drives.map Bank.Call.ofDrive) ∧
      ∀ (t : Cycle) (a : Bus w),
        Bank.peek ((drives.map Bank.Call.ofDrive).foldl Bank.after (f.filled β)) t a =
          Bank.peek ((drives.map Bank.Call.ofDrive).foldl Bank.after (f.filled (FlatBank w))) t a) :
    AgreeAfter β (f.calls ++ drives.map Bank.Call.ofDrive) fun _ => True := by
  obtain ⟨answered, shown⟩ := alike
  have timely : Bank.InTime (f.calls ++ drives.map Bank.Call.ofDrive) := by
    intro c member
    rcases List.mem_append.mp member with filling | later
    · exact f.inTime c filling
    · obtain ⟨d, there, rfl⟩ := List.mem_map.mp later
      exact early d there
  apply agreeAfter_of_inTime timely
  · rw [Bank.answers_append, Bank.answers_append, f.foldl_calls β, f.foldl_calls (FlatBank w),
      answered, TimedBank.answers_filling (β := β) (γ := FlatBank w)]
  · intro t _ a
    rw [List.foldl_append, List.foldl_append, f.foldl_calls β, f.foldl_calls (FlatBank w)]
    exact shown t a

theorem alike_iff (f : Bank.Filling w) : f.Alike β ↔ (f.Driven → ∀ a, f.word a = 0#16) := by
  constructor
  · intro alike driven a
    obtain ⟨gates, map⟩ := peek_filled_apart (β := β) f driven a
    rw [← map, ← alike.peeks (f.now + 1) (Nat.le_succ f.now), gates]
  · intro zeros
    have same := peek_filled_of_zeros (β := β) f zeros
    constructor
    case peeks => exact fun t _ => same t
    case drives =>
      intro later early
      have agree := TimedBank.agree_of_drives (later.map Bank.Call.ofDrive) Bank.isPreset_ofDrive
        (f.filled β) (f.filled (FlatBank w)) same
      obtain ⟨bank, flat, answers, gates, map, shown⟩ := agreeAfter_filled f early agree
      exact ⟨bank, flat, answers, gates, map, fun t _ => shown t trivial⟩

end RegisterTree

/-- **A full image keeps a driven map-backed bank awake for one cycle more than the gates.**  In
no other cycle do the two differ. -/
theorem full_images_outlive_gates_by_one_cycle {β : Type} {w : Nat} [Bank β w] [RegisterTree β]
    (f : Bank.Filling w) : FillingLaw β f where
  accepted := RegisterTree.calls?_filling f
  gates := RegisterTree.peek_filled f
  map := FlatBank.peek_filled f
  alike_iff := RegisterTree.alike_iff f
  later := by
    intro d rest early other
    exact RegisterTree.agreeAfter_filled f early
      (TimedBank.agree_of_first _ _ d rest (RegisterTree.peek_filled_congr f other))
  apart := by
    intro driven a
    rw [TimedBank.output_eq_peek, TimedBank.output_eq_peek]
    exact RegisterTree.peek_filled_apart f driven a

/-- So it is for every size of bank. -/
theorem full_images_in_every_bank :
    (∀ f : Bank.Filling 3, FillingLaw Ram8 f) ∧ (∀ f : Bank.Filling 6, FillingLaw Ram64 f) ∧
      (∀ f : Bank.Filling 9, FillingLaw Ram512 f) ∧ (∀ f : Bank.Filling 12, FillingLaw Ram4K f) ∧
      (∀ f : Bank.Filling 14, FillingLaw Ram16K f) := by
  refine ⟨?_, ?_, ?_, ?_, ?_⟩
  · exact full_images_outlive_gates_by_one_cycle
  · exact full_images_outlive_gates_by_one_cycle
  · exact full_images_outlive_gates_by_one_cycle
  · exact full_images_outlive_gates_by_one_cycle
  · exact full_images_outlive_gates_by_one_cycle

/-- Eight words driven in cycle 0 and preset to ones in it: in cycle 1 the gates show zeros and
the map-backed bank shows ones. -/
theorem full_image_after_drive_tells_banks_apart :
    let image : Bank.Image 3 := ⟨Array.replicate 8 1#16, Nat.le_refl 8⟩
    let calls : List (Bank.Call 3) := [.drive 0 0#16 false 0#3, .preset 0 image]
    image.words.size = 8 ∧
      ∃ (bank : Ram8) (flat : FlatBank 3) (answers : List (Option Word)),
        Bank.calls? (Bank.blank : Ram8) calls = .ok (bank, answers) ∧
          Bank.calls? (Bank.blank : FlatBank 3) calls = .ok (flat, answers) ∧
          Bank.peek bank 1 0#3 = 0#16 ∧ Bank.peek flat 1 0#3 = 1#16 := by
  let f : Bank.Filling 3 :=
    { drives := [⟨0, ⟨0#16, false, 0#3⟩⟩]
      now := 0
      words := Vector.replicate 8 1#16
      sorted := List.pairwise_singleton _ _
      reached := by
        intro d member
        rw [List.mem_singleton.mp member]
      early := by decide }
  have driven : f.Driven := ⟨_, List.mem_singleton_self _, rfl⟩
  obtain ⟨answers, gates, map⟩ := RegisterTree.calls?_filling (β := Ram8) f
  obtain ⟨zero, one⟩ := RegisterTree.peek_filled_apart (β := Ram8) f driven 0#3
  exact ⟨rfl, _, _, answers, gates, map, zero, one⟩

end NandMachine
