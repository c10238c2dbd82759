/-
# NandMachine.Proofs.Machine.Picture -- the display shows what memory holds

Words, pixels and braille are taken from the committed words of the display, but a store
waits beside them for its edge.  What keeps the picture up to date is the second access of
every step: it is made in the cycle that the step opens and never stores, so wherever it goes
it commits what the first access stored and leaves nothing waiting (`Computer.calm_step`).
No other event touches the display, so between two events it is always calm.

A calm display holds exactly the words that memory shows from 16384 on
(`Computer.words_of_calm`), so it is the picture of memory (`Computer.screen_eq_picture`): each
pixel, and each dot of the braille text, is a wire of a word in memory.  Hence a word stored by a
step is in the picture as soon as the step is made (`Computer.words_step`).
-/
import NandMachine.Proofs.Devices.Braille
import NandMachine.Proofs.Machine.Coherence

namespace NandMachine

set_option autoImplicit false

namespace Computer

variable {ρ σ : Type} [Bank ρ 14] [Rom σ]

/-- The place of a display word in data memory. -/
def screenAddress (i : Nat) : Word := BitVec.ofNat 16 (Memory.screenStart + i)

theorem toNat_screenAddress {i : Nat} (h : i < 8192) :
    (Bus.slice (screenAddress i) 0 15).toNat = 16384 + i := by
  rw [Address.slice_eq_ofWord, Address.toNat_ofWord, screenAddress, BitVec.toNat_ofNat,
    Memory.screenStart]
  omega

/-- A display that holds the words of memory from 16384 on. -/
def picture (c : Computer ρ σ) : Screen where
  words := Vector.ofFn fun i => c.peek (screenAddress i)

/-! ## The display between two events -/

omit [Rom σ] in
/-- A calm display holds the words that memory shows. -/
theorem words_of_calm {c : Computer ρ σ} (calm : c.memory.screen.pending = none) {i : Nat}
    (h : i < 8192) : c.memory.screen.words[i] = c.peek (screenAddress i) := by
  let a : Address := Bus.slice (screenAddress i) 0 15
  have number : a.toNat = 16384 + i := toNat_screenAddress h
  have inner : (Bus.slice a 0 13).toNat = i := by
    rw [Address.toNat_low, number]
    omega
  show _ = c.memory.peek c.now a
  rw [Memory.peek_eq, if_neg (by omega), if_pos (by omega), Screen.peek_of_calm calm]
  simp only [Screen.committed, inner]

omit [Rom σ] in
/-- So it is the picture of memory. -/
theorem screen_eq_picture {c : Computer ρ σ} (calm : c.memory.screen.pending = none) :
    c.memory.screen = c.picture := by
  have words : c.memory.screen.words = c.picture.words := by
    apply Vector.ext
    intro i h
    rw [words_of_calm calm h, picture, Vector.getElem_ofFn]
  calc c.memory.screen = ⟨c.memory.screen.words, c.memory.screen.pending⟩ := rfl
    _ = c.picture := by rw [words, calm]; rfl

/-- The second access of a step leaves nothing waiting, whatever the state before. -/
theorem calm_step (c : Computer ρ σ) (reset : Signal) :
    (c.step reset).1.memory.screen.pending = none :=
  Screen.pending_drive_low _ _ _ _

theorem calm_run {c : Computer ρ σ} (calm : c.memory.screen.pending = none) (n : Nat) :
    (c.run n).memory.screen.pending = none := by
  induction n generalizing c with
  | zero => exact calm
  | succ n ih => exact ih (c.calm_step false)

theorem calm_perform {c : Computer ρ σ} (calm : c.memory.screen.pending = none) (e : Event) :
    (c.perform e).1.memory.screen.pending = none := by
  cases e with
  | step reset => exact c.calm_step reset
  | run steps => exact calm_run calm steps
  | reset => exact c.calm_step true
  | preload image => exact calm
  | press code => exact calm
  | release => exact calm

theorem calm_after {c : Computer ρ σ} (calm : c.memory.screen.pending = none)
    (events : List Event) : (Operated.after c events).memory.screen.pending = none :=
  Operated.after_induction (fun c : Computer ρ σ => c.memory.screen.pending = none)
    (fun _ e calm => calm_perform calm e) calm events

/-- What a step stores in the display is in its words when the step is made, and no other
word has changed. -/
theorem words_step [TimedBank ρ] {c : Computer ρ σ} (calm : c.memory.screen.pending = none)
    (reset : Signal) {i : Nat} (h : i < 8192) :
    (c.step reset).1.memory.screen.words[i] =
      if (c.step reset).2.writeM = true ∧ (c.step reset).2.addressM.toNat = 16384 + i then
        (c.step reset).2.outM
      else c.memory.screen.words[i] := by
  let out := (c.step reset).2
  let written := c.memory.drive c.now out.outM out.writeM out.addressM
  let a : Address := Bus.slice (screenAddress i) 0 15
  have number : a.toNat = 16384 + i := toNat_screenAddress h
  have hit : a = out.addressM ↔ out.addressM.toNat = 16384 + i := by
    rw [← BitVec.toNat_inj, number, eq_comm]
  have second : (c.step reset).1.peek (screenAddress i) = written.peek (c.now + 1) a :=
    written.peek_drive_now (c.now + 1) c.inM false out.addressM a
  rw [words_of_calm (c.calm_step reset) h, words_of_calm calm h, second,
    Memory.peek_drive_next, if_pos (show a.toNat < 24576 by omega)]
  simp only [hit]
  rfl

/-- The picture of a computer keeps up with its memory: no store is left waiting, the words
of the display are those of memory, every pixel is the wire of its word in memory, and so is
every dot of the braille text; and the store that the next step makes shows at once. -/
structure KeepsPicture (c : Computer ρ σ) : Prop where
  calm : c.memory.screen.pending = none
  words : ∀ (i : Nat) (h : i < 8192), c.memory.screen.words[i] = c.peek (screenAddress i)
  pixel : ∀ x y, x < Screen.columns → y < Screen.rows →
    c.memory.screen.pixel x y = (c.peek (screenAddress (32 * y + x / 16))).getLsbD (x % 16)
  display : c.memory.screen = c.picture
  braille : c.memory.screen.ShowsInBraille
  dots : ∀ x y, x < Screen.columns → y < Screen.rows →
    ∃ cell, Braille.cellAt? c.memory.screen.braille x y = some cell ∧
      (Braille.Raised cell (Braille.dotAt (x % 2) (y % 4)) ↔
        (c.peek (screenAddress (32 * y + x / 16))).getLsbD (x % 16) = true)
  stores : ∀ (reset : Signal) (i : Nat) (h : i < 8192),
    (c.step reset).1.memory.screen.words[i] =
      if (c.step reset).2.writeM = true ∧ (c.step reset).2.addressM.toNat = 16384 + i then
        (c.step reset).2.outM
      else c.memory.screen.words[i]

theorem keepsPicture_of_calm [TimedBank ρ] {c : Computer ρ σ}
    (calm : c.memory.screen.pending = none) : c.KeepsPicture := by
  constructor
  case calm => exact calm
  case words => exact fun i h => words_of_calm calm h
  case pixel =>
    intro x y column row
    obtain ⟨inside, pixel⟩ := c.memory.screen.pixel_eq column row
    rw [pixel, words_of_calm calm inside]
  case display => exact screen_eq_picture calm
  case braille => exact c.memory.screen.showsInBraille
  case dots =>
    intro x y column row
    obtain ⟨inside, -⟩ := c.memory.screen.pixel_eq column row
    obtain ⟨cell, found, raised⟩ := c.memory.screen.showsInBraille.dots x y column row
    rw [words_of_calm calm inside] at raised
    exact ⟨cell, found, raised⟩
  case stores => exact fun reset i h => words_step calm reset h

/-- Every program that fits makes a computer whose picture keeps up with its memory, whatever
is done to it. -/
def PictureLaw (ρ σ : Type) [Bank ρ 14] [Rom σ] : Prop :=
  ∀ program : Array Word, program.size ≤ Program.limit →
    ∃ c : Computer ρ σ, ofProgram? program = .ok c ∧
      ∀ events : List Event, (Operated.after c events).KeepsPicture

theorem pictureLaw [TimedBank ρ] : PictureLaw ρ σ := by
  intro program fits
  refine ⟨_, ofProgram?_of_le fits, fun events => keepsPicture_of_calm (calm_after ?_ events)⟩
  rfl

end Computer

/-- **The picture is never behind memory.**  Between any two events the display of a computer
of gates, and of one of maps, shows every store that the program has made. -/
theorem picture_is_never_behind_memory :
    Computer.PictureLaw Ram16K GateRom ∧ Computer.PictureLaw (FlatBank 14) FlatRom := by
  constructor
  · exact Computer.pictureLaw
  · exact Computer.pictureLaw

end NandMachine
