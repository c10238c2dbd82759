/-
# NandMachine.Proofs.Storage.Staleness -- stores that refuse to be used stale

A cell that has gone more than one edge without a drive is stale: it reads low, and a
drive starts it from low.  Here every store gets a second set of operations, the same
as its own except that a stale cell refuses to be read or written where it would be
taken as low (`Cell.readLive?`, `Cell.writeLive?`).  A register, a bank and a fan of
banks refuse when one of the cells that they use refuses; the map-backed bank refuses
where it would forget its words.

A refusal can then be ruled out.  `WatchedBank` holds the operations of a bank together
with a predicate `Live`, and says what keeps a bank in use: a bank that is live in a
cycle refuses nothing in it and does what it does without the watch; a drive makes it
live in the next cycle, whatever it was before; and a preset keeps it live.

Every cell is driven in every drive of a bank of gates, so `Live` there asks of each
cell that its edge does not lie before the cycle.
-/
import NandMachine.Proofs.Storage.TimedBank
import NandMachine.Proofs.Traversal
import NandMachine.Storage.Counter

namespace NandMachine

set_option autoImplicit false

/-! ## Cells and latches -/

namespace Cell

/-- Reads a cell; a stale one refuses. -/
def readLive? (c : Cell) (now : Cycle) : Option Signal :=
  if now = c.edge then some c.next
  else if now < c.edge then some c.cur
  else none

def writeLive? (c : Cell) (now : Cycle) (level : Signal) : Option Cell :=
  if c.edge = now then some { cur := c.next, next := level, edge := now + 1 }
  else if c.edge < now then none
  else some { cur := c.cur, next := level, edge := now + 1 }

/-- Drives the cell for one cycle, which reads and writes it. -/
def driveLive? (c : Cell) (now : Cycle) (load level : Signal) : Option Cell := do
  let cur ← c.readLive? now
  c.writeLive? now (Gate.mux cur level load)

/-- A cell refuses to be read exactly when its edge has passed by. -/
theorem readLive?_eq (c : Cell) (now : Cycle) :
    c.readLive? now = if now ≤ c.edge then some (c.read now) else none := by
  unfold readLive? read
  rcases Nat.lt_trichotomy now c.edge with before | here | after
  · have apart : now ≠ c.edge := Nat.ne_of_lt before
    simp [apart, before, Nat.le_of_lt before]
  · simp [here]
  · have apart : now ≠ c.edge := Nat.ne_of_gt after
    simp [apart, Nat.not_lt_of_lt after, Nat.not_le_of_lt after]

theorem writeLive?_eq (c : Cell) (now : Cycle) (level : Signal) :
    c.writeLive? now level = if now ≤ c.edge then some (c.write now level) else none := by
  unfold writeLive? write
  rcases Nat.lt_trichotomy now c.edge with before | here | after
  · have apart : c.edge ≠ now := Nat.ne_of_gt before
    simp [apart, Nat.not_lt_of_lt before, Nat.le_of_lt before]
  · simp [here]
  · have apart : c.edge ≠ now := Nat.ne_of_lt after
    simp [apart, after, Nat.not_le_of_lt after]

theorem driveLive?_of_le {c : Cell} {now : Cycle} (live : now ≤ c.edge) (load level : Signal) :
    c.driveLive? now load level = some (c.drive now load level) := by
  rw [driveLive?, readLive?_eq, if_pos live]
  show c.writeLive? now (Gate.mux (c.read now) level load) = _
  rw [writeLive?_eq, if_pos live]
  rfl

/-- A cell that nothing drove refuses one cycle after its edge. -/
example : ({} : Cell).readLive? 0 = some false ∧ ({} : Cell).readLive? 1 = none := ⟨rfl, rfl⟩

end Cell

namespace Latch

def readLive? (l : Latch) (now : Cycle) : Option Signal := l.cell.readLive? now

def driveLive? (l : Latch) (now : Cycle) (load level : Signal) : Option Latch := do
  return ⟨← l.cell.driveLive? now load level⟩

def Live (l : Latch) (now : Cycle) : Prop := now ≤ l.cell.edge

theorem readLive?_of_live {l : Latch} {now : Cycle} (live : l.Live now) :
    l.readLive? now = some (l.read now) := by
  rw [readLive?, Cell.readLive?_eq]
  exact if_pos live

theorem driveLive?_of_live {l : Latch} {now : Cycle} (live : l.Live now) (load level : Signal) :
    l.driveLive? now load level = some (l.drive now load level) := by
  rw [driveLive?, Cell.driveLive?_of_le live]
  rfl

end Latch

/-! ## Registers and the counter -/

namespace Register

def readLive? (r : Register) (now : Cycle) : Option Word := do
  let levels ← Vector.ofFnM fun i : Fin 16 => r.latches[i].readLive? now
  return Bus.gather id levels

def driveLive? (r : Register) (now : Cycle) (load : Signal) (input : Word) : Option Register := do
  return ⟨← Vector.ofFnM fun i : Fin 16 => r.latches[i].driveLive? now load (input.getLsbD i)⟩

def Live (r : Register) (now : Cycle) : Prop := ∀ i : Fin 16, r.latches[i].Live now

theorem getElem_latches_drive (r : Register) (now : Cycle) (load : Signal) (input : Word)
    (i : Fin 16) :
    (r.drive now load input).latches[i] = r.latches[i].drive now load (input.getLsbD i) := by
  simp [drive]

theorem readLive?_of_live {r : Register} {now : Cycle} (live : r.Live now) :
    r.readLive? now = some (r.read now) := by
  have levels : (Vector.ofFnM fun i : Fin 16 => r.latches[i].readLive? now) =
      some (r.latches.map (·.read now)) := by
    apply Traversal.ofFnM_eq_pure
    intro i
    rw [Latch.readLive?_of_live (live i)]
    simp
  have word : Bus.gather id (r.latches.map (·.read now)) = r.read now := by
    rw [read, Bus.gather_eq_ofSignals, Bus.gather_eq_ofSignals, Vector.toList_map, List.map_id]
  rw [readLive?, levels, ← word]
  rfl

theorem driveLive?_of_live {r : Register} {now : Cycle} (live : r.Live now) (load : Signal)
    (input : Word) : r.driveLive? now load input = some (r.drive now load input) := by
  have latches : (Vector.ofFnM fun i : Fin 16 =>
      r.latches[i].driveLive? now load (input.getLsbD i)) =
        some (r.drive now load input).latches := by
    apply Traversal.ofFnM_eq_pure
    intro i
    rw [getElem_latches_drive]
    exact Latch.driveLive?_of_live (live i) load _
  rw [driveLive?, latches]
  rfl

theorem live_blank : ({} : Register).Live 0 := by
  intro i
  exact Nat.zero_le _

/-- A drive reaches every cell, so all edges lie one cycle ahead of it. -/
theorem live_drive (r : Register) (now : Cycle) (load : Signal) (input : Word) :
    (r.drive now load input).Live (now + 1) := by
  intro i
  rw [getElem_latches_drive]
  exact Nat.le_refl (now + 1)

theorem live_preset (now : Cycle) (word : Word) : (preset now word).Live now := by
  intro i
  have latch : (preset now word).latches[i] = Latch.preset now (word.getLsbD i) := by
    simp [preset]
  rw [latch]
  exact Nat.le_refl now

theorem Live.before {r : Register} {now : Cycle} (live : r.Live (now + 1)) : r.Live now :=
  fun i => Nat.le_of_succ_le (live i)

end Register

namespace Counter

def readLive? (c : Counter) (now : Cycle) : Option Word := c.register.readLive? now

def driveLive? (c : Counter) (now : Cycle) (input : Word) (load inc reset : Signal) :
    Option Counter := do
  let count ← c.readLive? now
  return ⟨← c.register.driveLive? now true (chosen count input load inc reset)⟩

theorem driveLive?_of_live {c : Counter} {now : Cycle} (live : c.register.Live now) (input : Word)
    (load inc reset : Signal) :
    c.driveLive? now input load inc reset = some (c.drive now input load inc reset) := by
  rw [driveLive?, readLive?, Register.readLive?_of_live live]
  show (do return ⟨← c.register.driveLive? now true
    (chosen (c.read now) input load inc reset)⟩ : Option Counter) = _
  rw [Register.driveLive?_of_live live]
  rfl

end Counter

/-! ## Banks -/

/-- A bank with operations that refuse where it is stale, and what keeps them from
refusing. -/
class WatchedBank (β : Type) {w : outParam Nat} [Bank β w] where
  outputLive? : β → Cycle → Bus w → Option Word
  driveLive? : β → Cycle → Word → Signal → Bus w → Option β
  peekLive? : β → Cycle → Bus w → Option Word
  presetLive? : β → Cycle → Array Word → Option β
  /-- The bank is not stale in a cycle. -/
  Live : β → Cycle → Prop
  outputLive?_of_live : ∀ {bank : β} {now : Cycle}, Live bank now → ∀ address : Bus w,
    outputLive? bank now address = some (Bank.output bank now address)
  driveLive?_of_live : ∀ {bank : β} {now : Cycle}, Live bank now →
    ∀ (input : Word) (load : Signal) (address : Bus w),
      driveLive? bank now input load address = some (Bank.drive bank now input load address)
  peekLive?_of_live : ∀ {bank : β} {now : Cycle}, Live bank now → ∀ address : Bus w,
    peekLive? bank now address = some (Bank.peek bank now address)
  presetLive?_of_live : ∀ {bank : β} {now : Cycle}, Live bank now → ∀ image : Array Word,
    presetLive? bank now image = some (Bank.preset bank now image)
  live_blank : Live Bank.blank 0
  live_drive : ∀ (bank : β) (now : Cycle) (input : Word) (load : Signal) (address : Bus w),
    Live (Bank.drive bank now input load address) (now + 1)
  live_preset : ∀ {bank : β} {now : Cycle}, Live bank now → ∀ image : Array Word,
    Live (Bank.preset bank now image) now
  live_before : ∀ {bank : β} {now : Cycle}, Live bank (now + 1) → Live bank now

/-- A preset asks nothing of the cells that it replaces. -/
instance : WatchedBank Register where
  outputLive? r now _ := r.readLive? now
  driveLive? r now input load _ := r.driveLive? now load input
  peekLive? r now _ := r.readLive? now
  presetLive? r now image := some (Bank.preset r now image)
  Live := Register.Live
  outputLive?_of_live live _ := Register.readLive?_of_live live
  driveLive?_of_live live input load _ := Register.driveLive?_of_live live load input
  peekLive?_of_live live _ := Register.readLive?_of_live live
  presetLive?_of_live _ _ := rfl
  live_blank := Register.live_blank
  live_drive r now input load _ := r.live_drive now load input
  live_preset := by
    intro r now live image
    show Register.Live (match image[0]? with | some word => Register.preset now word | none => r) now
    cases image[0]? with
    | none => exact live
    | some word => exact Register.live_preset now word
  live_before := Register.Live.before

namespace Fan

variable {k w : Nat} {β : Type} [Bank β w] [WatchedBank β]

/-- Every child shows its word, and the selection tree picks one. -/
def outputLive? (bank : Fan k β) (now : Cycle) (address : Bus (w + k)) : Option Word := do
  let words ← Vector.ofFnM fun i : Fin (2 ^ k) =>
    WatchedBank.outputLive? (bank.child i) now (Bus.slice address 0 w)
  return Gate.select words.get (Bus.slice address w k)

def driveLive? (bank : Fan k β) (now : Cycle) (input : Word) (load : Signal)
    (address : Bus (w + k)) : Option (Fan k β) := do
  return ⟨← Vector.ofFnM fun i : Fin (2 ^ k) =>
    WatchedBank.driveLive? (bank.child i) now input
      (Gate.route load (Bus.slice address w k) i) (Bus.slice address 0 w)⟩

def peekLive? (bank : Fan k β) (now : Cycle) (address : Bus (w + k)) : Option Word :=
  WatchedBank.peekLive? (bank.child (Bus.slice address w k).toFin) now (Bus.slice address 0 w)

def presetLive? (bank : Fan k β) (now : Cycle) (image : Array Word) : Option (Fan k β) := do
  return ⟨← Vector.ofFnM fun i : Fin (2 ^ k) =>
    WatchedBank.presetLive? (bank.child i) now
      (image.extract (i.val * 2 ^ w) ((i.val + 1) * 2 ^ w))⟩

def Live (bank : Fan k β) (now : Cycle) : Prop :=
  ∀ i : Fin (2 ^ k), WatchedBank.Live (bank.child i) now

theorem outputLive?_of_live {bank : Fan k β} {now : Cycle} (live : bank.Live now)
    (address : Bus (w + k)) : bank.outputLive? now address = some (bank.output now address) := by
  have words : (Vector.ofFnM fun i : Fin (2 ^ k) =>
      WatchedBank.outputLive? (bank.child i) now (Bus.slice address 0 w)) =
        some (Vector.ofFn fun i : Fin (2 ^ k) =>
          Bank.output (bank.child i) now (Bus.slice address 0 w)) := by
    apply Traversal.ofFnM_eq_pure
    intro i
    rw [WatchedBank.outputLive?_of_live (live i)]
    simp
  have shown : (Vector.ofFn fun i : Fin (2 ^ k) =>
      Bank.output (bank.child i) now (Bus.slice address 0 w)).get =
        fun i => Bank.output (bank.child i) now (Bus.slice address 0 w) := by
    funext i
    exact Vector.getElem_ofFn i.isLt
  rw [outputLive?, words]
  exact congrArg (fun f => some (Gate.select f (Bus.slice address w k))) shown

theorem driveLive?_of_live {bank : Fan k β} {now : Cycle} (live : bank.Live now) (input : Word)
    (load : Signal) (address : Bus (w + k)) :
    bank.driveLive? now input load address = some (bank.drive now input load address) := by
  have children : (Vector.ofFnM fun i : Fin (2 ^ k) =>
      WatchedBank.driveLive? (bank.child i) now input
        (Gate.route load (Bus.slice address w k) i) (Bus.slice address 0 w)) =
        some (bank.drive now input load address).children := by
    apply Traversal.ofFnM_eq_pure
    intro i
    show _ = some ((bank.drive now input load address).child i)
    rw [child_drive]
    exact WatchedBank.driveLive?_of_live (live i) input _ _
  rw [driveLive?, children]
  rfl

theorem peekLive?_of_live {bank : Fan k β} {now : Cycle} (live : bank.Live now)
    (address : Bus (w + k)) : bank.peekLive? now address = some (bank.peek now address) :=
  WatchedBank.peekLive?_of_live (live _) _

theorem presetLive?_of_live {bank : Fan k β} {now : Cycle} (live : bank.Live now)
    (image : Array Word) : bank.presetLive? now image = some (bank.preset now image) := by
  have children : (Vector.ofFnM fun i : Fin (2 ^ k) =>
      WatchedBank.presetLive? (bank.child i) now
        (image.extract (i.val * 2 ^ w) ((i.val + 1) * 2 ^ w))) =
        some (bank.preset now image).children := by
    apply Traversal.ofFnM_eq_pure
    intro i
    show _ = some ((bank.preset now image).child i)
    rw [child_preset]
    exact WatchedBank.presetLive?_of_live (live i) _
  rw [presetLive?, children]
  rfl

theorem live_blank : (blank : Fan k β).Live 0 := by
  intro i
  have child : (blank : Fan k β).child i = Bank.blank := by simp [child_eq, blank]
  rw [child]
  exact WatchedBank.live_blank

theorem live_drive (bank : Fan k β) (now : Cycle) (input : Word) (load : Signal)
    (address : Bus (w + k)) : (bank.drive now input load address).Live (now + 1) := by
  intro i
  rw [child_drive]
  exact WatchedBank.live_drive _ now input _ _

theorem live_preset {bank : Fan k β} {now : Cycle} (live : bank.Live now) (image : Array Word) :
    (bank.preset now image).Live now := by
  intro i
  rw [child_preset]
  exact WatchedBank.live_preset (live i) _

theorem Live.before {bank : Fan k β} {now : Cycle} (live : bank.Live (now + 1)) :
    bank.Live now :=
  fun i => WatchedBank.live_before (live i)

@[reducible] def watched (label : String) : @WatchedBank (Fan k β) (w + k) (Fan.bank label) :=
  @WatchedBank.mk _ _ (Fan.bank label) outputLive? driveLive? peekLive? presetLive? Live
    outputLive?_of_live driveLive?_of_live peekLive?_of_live presetLive?_of_live live_blank
    live_drive live_preset Live.before

end Fan

instance : WatchedBank Ram8 := Fan.watched (w := 0) (k := 3) "Ram8"

instance : WatchedBank Ram64 := Fan.watched (w := 3) (k := 3) "Ram64"

instance : WatchedBank Ram512 := Fan.watched (w := 6) (k := 3) "Ram512"

instance : WatchedBank Ram4K := Fan.watched (w := 9) (k := 3) "Ram4K"

instance : WatchedBank Ram16K := Fan.watched (w := 12) (k := 2) "Ram16K"

/-! ## The map-backed bank -/

namespace FlatBank

variable {w : Nat}

/-- Commits the pending write, and refuses where the bank would forget everything. -/
def settleLive? (bank : FlatBank w) (now : Cycle) : Option (FlatBank w) :=
  let bank := bank.commit now
  if bank.stale now then none else some bank

def peekLive? (bank : FlatBank w) (now : Cycle) (address : Bus w) : Option Word :=
  if bank.stale now then none else some (bank.peek now address)

def outputLive? (bank : FlatBank w) (now : Cycle) (address : Bus w) : Option Word := do
  (← bank.settleLive? now).peekLive? now address

def driveLive? (bank : FlatBank w) (now : Cycle) (input : Word) (load : Signal) (address : Bus w) :
    Option (FlatBank w) := do
  return { ← bank.settleLive? now with
    pending := if load then some ⟨now, address, input⟩ else none
    live := some (now + 1) }

def presetLive? (bank : FlatBank w) (now : Cycle) (image : Array Word) :
    Option (FlatBank w) := do
  let bank ← bank.settleLive? now
  return {
    words := overlay bank.words image
    pending := bank.pending.filter fun p => image.size ≤ p.address.toNat
    live := some (match bank.live with | some t => max t now | none => now) }

theorem settleLive?_of_live {bank : FlatBank w} {now : Cycle} (live : bank.stale now = false) :
    bank.settleLive? now = some (bank.settle now) := by
  have kept : (bank.commit now).stale now = false := by
    rw [stale, live_commit]
    exact live
  simp [settleLive?, settle, kept]

theorem peekLive?_of_live {bank : FlatBank w} {now : Cycle} (live : bank.stale now = false)
    (a : Bus w) : bank.peekLive? now a = some (bank.peek now a) := by
  simp [peekLive?, live]

theorem stale_settle (bank : FlatBank w) (now : Cycle) : (bank.settle now).stale now = false := by
  unfold settle
  by_cases gone : (bank.commit now).stale now = true
  · simp only [gone, if_true]
    rfl
  · simp [gone]

theorem peek_settle (bank : FlatBank w) (now : Cycle) (a : Bus w) :
    (bank.settle now).peek now a = bank.peek now a := by
  rw [← getD_settle bank now a]
  exact peek_eq_getD _ now a (stale_settle bank now) fun p => le_of_pending_settle bank now p

theorem outputLive?_of_live {bank : FlatBank w} {now : Cycle} (live : bank.stale now = false)
    (a : Bus w) : bank.outputLive? now a = some (bank.peek now a) := by
  rw [outputLive?, settleLive?_of_live live, ← peek_settle]
  exact peekLive?_of_live (stale_settle bank now) a

theorem driveLive?_of_live {bank : FlatBank w} {now : Cycle} (live : bank.stale now = false)
    (input : Word) (load : Signal) (address : Bus w) :
    bank.driveLive? now input load address = some (bank.drive now input load address) := by
  rw [driveLive?, settleLive?_of_live live]
  rfl

theorem presetLive?_of_live {bank : FlatBank w} {now : Cycle} (live : bank.stale now = false)
    (image : Array Word) : bank.presetLive? now image = some (bank.preset now image) := by
  rw [presetLive?, settleLive?_of_live live]
  rfl

theorem stale_drive (bank : FlatBank w) (now : Cycle) (input : Word) (load : Signal)
    (address : Bus w) : (bank.drive now input load address).stale (now + 1) = false := by
  have mark : (bank.drive now input load address).live = some (now + 1) := rfl
  rw [stale_of_live mark]
  exact decide_eq_false (Nat.lt_irrefl (now + 1))

theorem stale_before {bank : FlatBank w} {now : Cycle} (live : bank.stale (now + 1) = false) :
    bank.stale now = false := by
  cases mark : bank.live with
  | none => rw [stale, mark]; rfl
  | some last =>
      rw [stale_of_live mark, decide_eq_false_iff_not] at live ⊢
      intro gone
      exact live (Nat.lt_succ_of_lt gone)

end FlatBank

/-- The mark of the bank as a whole takes the place of the edges of its cells. -/
instance {w : Nat} : WatchedBank (FlatBank w) where
  outputLive? := FlatBank.outputLive?
  driveLive? := FlatBank.driveLive?
  peekLive? := FlatBank.peekLive?
  presetLive? := FlatBank.presetLive?
  Live bank now := bank.stale now = false
  outputLive?_of_live := FlatBank.outputLive?_of_live
  driveLive?_of_live := FlatBank.driveLive?_of_live
  peekLive?_of_live := FlatBank.peekLive?_of_live
  presetLive?_of_live := FlatBank.presetLive?_of_live
  live_blank := rfl
  live_drive := FlatBank.stale_drive
  live_preset := fun {bank} {now} _ image => bank.stale_preset now image
  live_before := FlatBank.stale_before

end NandMachine
