/-
# NandMachine.Proofs.Storage.Calls -- histories of calls on a bank

A bank is called in three ways: it is driven, it is looked at, and it is preset
with an image.  A `Call` is one of them with its cycle, and `Bank.calls?` makes a
list of calls on a bank, one after the other, and collects their answers.  Cycles
are free: a call may repeat the cycle of the one before, skip ahead or go back.

An image carries the proof that it fits, so a list of calls is refused only for a
drive after the last cycle.  Calls before that cycle are all accepted
(`Bank.calls?_of_inTime`).

Two banks are compared through a view of one as the other: when every call
commutes with the view, so does every list of calls (`Bank.calls?_view`).
-/
import NandMachine.Storage.Bank

namespace NandMachine

set_option autoImplicit false

namespace Bank

/-- A memory image that fits a bank of `2 ^ width` words. -/
structure Image (width : Nat) where
  words : Array Word
  fits : words.size ≤ 2 ^ width

/-- One call on a bank. -/
inductive Call (width : Nat)
  | drive (now : Cycle) (input : Word) (load : Signal) (address : Bus width)
  | peek (now : Cycle) (address : Bus width)
  | preset (now : Cycle) (image : Image width)

namespace Call

variable {w : Nat}

/-- The cycle in which a call is made. -/
def cycle : Call w → Cycle
  | drive now _ _ _ => now
  | peek now _ => now
  | preset now _ => now

def isDrive : Call w → Bool
  | drive .. => true
  | _ => false

def isPreset : Call w → Bool
  | preset .. => true
  | _ => false

end Call

variable {β γ : Type} {w : Nat} [Bank β w] [Bank γ w]

def after (bank : β) : Call w → β
  | .drive now input load address => drive bank now input load address
  | .peek _ _ => bank
  | .preset now image => preset bank now image.words

/-- The word that a call answers; presetting answers none. -/
def answer (bank : β) : Call w → Option Word
  | .drive now _ _ address => some (output bank now address)
  | .peek now address => some (peek bank now address)
  | .preset .. => none

/-- Makes a call, unless the bank refuses it. -/
def call? (bank : β) : Call w → Except Fault (β × Option Word)
  | .drive now input load address => do
      return (← drive? bank now input load address, some (output bank now address))
  | .peek now address => return (bank, some (peek bank now address))
  | .preset now image => do return (← preset? bank now image.words, none)

/-- Makes calls in order and collects their answers. -/
def calls? (bank : β) : List (Call w) → Except Fault (β × List (Option Word))
  | [] => return (bank, [])
  | c :: rest => do
      let (bank, given) ← call? bank c
      let (bank, answers) ← calls? bank rest
      return (bank, given :: answers)

/-- The answers of calls that are all accepted. -/
def answers (bank : β) : List (Call w) → List (Option Word)
  | [] => []
  | c :: rest => answer bank c :: answers (after bank c) rest

/-- Every call of a list is made before the last cycle. -/
def InTime (calls : List (Call w)) : Prop := ∀ c ∈ calls, c.cycle < Cycle.last

theorem InTime.tail {c : Call w} {rest : List (Call w)} (timely : InTime (c :: rest)) :
    InTime rest :=
  fun d member => timely d (List.mem_cons_of_mem c member)

theorem preset?_image (bank : β) (now : Cycle) (image : Image w) :
    preset? bank now image.words = .ok (preset bank now image.words) := by
  rw [preset?, if_pos image.fits]

theorem drive?_of_lt (bank : β) {now : Cycle} (early : now < Cycle.last) (input : Word)
    (load : Signal) (address : Bus w) :
    drive? bank now input load address = .ok (drive bank now input load address) :=
  Cycle.driven?_of_lt early _

theorem call?_of_lt (bank : β) (c : Call w) (early : c.cycle < Cycle.last) :
    call? bank c = .ok (after bank c, answer bank c) := by
  cases c with
  | drive now input load address =>
      have early : now < Cycle.last := early
      rw [call?, drive?_of_lt bank early]
      rfl
  | peek now address => rfl
  | preset now image =>
      rw [call?, preset?_image]
      rfl

/-- Calls before the last cycle are all accepted. -/
theorem calls?_of_inTime (bank : β) (calls : List (Call w)) (timely : InTime calls) :
    calls? bank calls = .ok (calls.foldl after bank, answers bank calls) := by
  induction calls generalizing bank with
  | nil => rfl
  | cons c rest ih =>
      have head := call?_of_lt bank c (timely c List.mem_cons_self)
      have tail := ih (after bank c) timely.tail
      rw [calls?, head]
      simp only [bind, Except.bind, tail]
      rfl

/-- If a view of one bank as another commutes with every call, it commutes with
every list of calls, refusals included. -/
theorem calls?_view (view : β → γ)
    (commutes : ∀ (bank : β) (c : Call w),
      call? (view bank) c = (call? bank c).map (Prod.map view id))
    (bank : β) (calls : List (Call w)) :
    calls? (view bank) calls = (calls? bank calls).map (Prod.map view id) := by
  induction calls generalizing bank with
  | nil => rfl
  | cons c rest ih =>
      rw [calls?, calls?, commutes]
      cases call? bank c with
      | error fault => rfl
      | ok made =>
          simp only [Except.map, bind, Except.bind, Prod.map_fst, Prod.map_snd, id, ih]
          cases calls? made.1 rest <;> rfl

end Bank

end NandMachine
