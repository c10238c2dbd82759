/-
# NandMachine.Proofs.Machine.EdgeDiscipline -- nothing shows before the edge

A clocked part may be driven any number of times in one cycle, with any signals on
its lines.  `Clocked` says what such a part is: how it is driven, what a drive
answers, what reading a place shows, and what a place shows in the next cycle once
the part was driven with given lines.  `Clocked.driveAll?` makes a list of drives,
all in one cycle, and keeps what each of them answered together with what every
place read after it.

The discipline of the edge (`Clocked.EdgeDiscipline`) is one equation on such a
list.  Every drive answers what its address read before the first; no drive changes
what any place reads; and the part is left as by the last drive alone, which settles
what the next cycle shows.  So neither the order nor the number of the drives in a
cycle can be told from inside it, and only the last one counts after it.

Four laws of a single drive carry the induction (`Clocked.Laws`): it answers what is
read, it leaves the reads of its cycle alone, it loads, and a second drive in the same
cycle undoes it.  Each part keeps them in every state, whatever cycle it was last
driven in.
-/
import NandMachine.Proofs.Machine.MemoryMap
import NandMachine.Proofs.Processor.InstructionSet

namespace NandMachine

set_option autoImplicit false

/-- A clocked part with states `σ`, driven by signals `ι` on its lines, that shows
values `υ` at places `α`. -/
structure Clocked (σ ι α υ : Type) where
  drive : σ → Cycle → ι → σ
  /-- What a drive answers. -/
  answer : σ → Cycle → ι → υ
  /-- The place that the lines address. -/
  addressed : ι → α
  /-- What a place shows, seen from outside. -/
  read : σ → Cycle → α → υ
  /-- What a place shows one cycle after a drive. -/
  loaded : σ → Cycle → ι → α → υ

namespace Clocked

variable {σ ι α υ : Type} (part : Clocked σ ι α υ)

/-- Makes drives one after the other in one cycle, and keeps what each answered and
what every place read after it. -/
def driveAll? (state : σ) (now : Cycle) : List ι → Except Fault (σ × List (υ × (α → υ)))
  | [] => return (state, [])
  | lines :: rest => do
      let next ← Cycle.driven? now (part.drive state now lines)
      let (final, seen) ← driveAll? next now rest
      return (final, (part.answer state now lines, part.read next now) :: seen)

/-- All drives of a cycle answer and leave visible what was there before the first,
and the last alone decides the state and what the next cycle shows. -/
def EdgeDiscipline : Prop :=
  ∀ (state : σ) (now : Cycle), now < Cycle.last → ∀ (earlier : List ι) (last : ι),
    part.driveAll? state now (earlier ++ [last]) =
        .ok (part.drive state now last,
          (earlier ++ [last]).map fun lines =>
            (part.read state now (part.addressed lines), part.read state now)) ∧
      part.read (part.drive state now last) (now + 1) = part.loaded state now last

/-- What one drive does, and what a second one in the same cycle leaves of it. -/
structure Laws : Prop where
  answer_eq_read : ∀ (state : σ) (now : Cycle) (lines : ι),
    part.answer state now lines = part.read state now (part.addressed lines)
  read_drive_now : ∀ (state : σ) (now : Cycle) (lines : ι) (place : α),
    part.read (part.drive state now lines) now place = part.read state now place
  read_drive_next : ∀ (state : σ) (now : Cycle) (lines : ι) (place : α),
    part.read (part.drive state now lines) (now + 1) place = part.loaded state now lines place
  drive_drive : ∀ (state : σ) (now : Cycle) (first second : ι),
    part.drive (part.drive state now first) now second = part.drive state now second

variable {part}

theorem driveAll?_cons (state : σ) {now : Cycle} (early : now < Cycle.last) (lines : ι)
    (rest : List ι) :
    part.driveAll? state now (lines :: rest) =
      (part.driveAll? (part.drive state now lines) now rest).map fun made =>
        (made.1, (part.answer state now lines,
          part.read (part.drive state now lines) now) :: made.2) := by
  rw [driveAll?, Cycle.driven?_of_lt early]
  simp only [bind, Except.bind]
  cases part.driveAll? (part.drive state now lines) now rest with
  | error fault => rfl
  | ok made => rfl

namespace Laws

/-- The induction is on the drives before the last.  Each of them is undone by the next
and leaves what the induction hypothesis reads in the cycle. -/
theorem driveAll?_eq (laws : part.Laws) (state : σ) {now : Cycle} (early : now < Cycle.last)
    (earlier : List ι) (last : ι) :
    part.driveAll? state now (earlier ++ [last]) =
      .ok (part.drive state now last,
        (earlier ++ [last]).map fun lines =>
          (part.read state now (part.addressed lines), part.read state now)) := by
  induction earlier generalizing state with
  | nil =>
      have kept : part.read (part.drive state now last) now = part.read state now := by
        funext place
        exact laws.read_drive_now state now last place
      rw [List.nil_append, driveAll?_cons state early, laws.answer_eq_read, kept]
      rfl
  | cons lines rest ih =>
      have kept : part.read (part.drive state now lines) now = part.read state now := by
        funext place
        exact laws.read_drive_now state now lines place
      have undone : part.drive (part.drive state now lines) now last =
          part.drive state now last := laws.drive_drive state now lines last
      rw [List.cons_append, driveAll?_cons state early, ih, laws.answer_eq_read, kept, undone]
      rfl

theorem edgeDiscipline (laws : part.Laws) : part.EdgeDiscipline := by
  intro state now early earlier last
  refine ⟨laws.driveAll?_eq state early earlier last, ?_⟩
  funext place
  exact laws.read_drive_next state now last place

end Laws

end Clocked

/-! ## Cells, latches, registers and the counter -/

/-- The lines of a cell: a level, stored if the load line is high. -/
structure Cell.Lines where
  load : Signal
  level : Signal

structure Register.Lines where
  load : Signal
  input : Word

structure Counter.Lines where
  input : Word
  load : Signal
  inc : Signal
  reset : Signal

def Cell.clocked : Clocked Cell Cell.Lines Unit Signal where
  drive c now lines := c.drive now lines.load lines.level
  answer c now _ := c.read now
  addressed _ := ()
  read c now _ := c.read now
  loaded c now lines _ := if lines.load then lines.level else c.read now

def Latch.clocked : Clocked Latch Cell.Lines Unit Signal where
  drive l now lines := l.drive now lines.load lines.level
  answer l now _ := l.read now
  addressed _ := ()
  read l now _ := l.read now
  loaded l now lines _ := if lines.load then lines.level else l.read now

def Register.clocked : Clocked Register Register.Lines Unit Word where
  drive r now lines := r.drive now lines.load lines.input
  answer r now _ := r.read now
  addressed _ := ()
  read r now _ := r.read now
  loaded r now lines _ := if lines.load then lines.input else r.read now

def Counter.clocked : Clocked Counter Counter.Lines Unit Word where
  drive c now lines := c.drive now lines.input lines.load lines.inc lines.reset
  answer c now _ := c.read now
  addressed _ := ()
  read c now _ := c.read now
  loaded c now lines _ :=
    if lines.reset then 0#16
    else if lines.load then lines.input
    else if lines.inc then c.read now + 1#16
    else c.read now

theorem Cell.laws : Cell.clocked.Laws := by
  constructor
  · intro c now lines
    rfl
  · intro c now lines _
    exact c.read_drive_now now lines.load lines.level
  · intro c now lines _
    exact c.read_drive_next now lines.load lines.level
  · intro c now first second
    exact c.drive_drive now first.load second.load first.level second.level

theorem Latch.laws : Latch.clocked.Laws := by
  constructor
  · intro l now lines
    rfl
  · intro l now lines place
    exact Cell.laws.read_drive_now l.cell now lines place
  · intro l now lines place
    exact Cell.laws.read_drive_next l.cell now lines place
  · intro l now first second
    exact congrArg Latch.mk (Cell.laws.drive_drive l.cell now first second)

theorem Register.laws : Register.clocked.Laws := by
  constructor
  · intro r now lines
    rfl
  · intro r now lines _
    exact r.read_drive_now now lines.load lines.input
  · intro r now lines _
    exact r.read_drive_next now lines.load lines.input
  · intro r now first second
    exact r.drive_drive now first.load second.load first.input second.input

/-- The counter loads what it chooses from its count, and the count of a cycle is the
same before and after a drive. -/
theorem Counter.laws : Counter.clocked.Laws := by
  have count (c : Counter) (now : Cycle) (lines : Counter.Lines) :
      (Counter.clocked.drive c now lines).read now = c.read now :=
    c.register.read_drive_now now true _
  constructor
  · intro c now lines
    rfl
  · intro c now lines _
    exact count c now lines
  · intro c now lines _
    exact (c.read_drive_next now _ _ _ _).trans (Counter.chosen_eq _ _ _ _ _)
  · intro c now first second
    have chosen := count c now first
    show Counter.mk ((Counter.clocked.drive c now first).register.drive now true
      (Counter.chosen ((Counter.clocked.drive c now first).read now) second.input second.load
        second.inc second.reset)) = _
    rw [chosen]
    exact congrArg Counter.mk (c.register.drive_drive now true true _ _)

/-! ## Banks -/

/-- The lines of a bank, a screen or a memory with `width` address wires. -/
structure Bank.Lines (width : Nat) where
  input : Word
  load : Signal
  address : Bus width

/-- A bank, whose word at an address is loaded by a drive there with the load line high. -/
def Bank.clocked (β : Type) {w : Nat} [Bank β w] : Clocked β (Bank.Lines w) (Bus w) Word where
  drive bank now lines := Bank.drive bank now lines.input lines.load lines.address
  answer bank now lines := Bank.output bank now lines.address
  addressed lines := lines.address
  read := Bank.peek
  loaded bank now lines a :=
    if lines.load = true ∧ a = lines.address then lines.input else Bank.peek bank now a

/-- Timing is most of the discipline; what is left is that a second drive in a cycle
undoes the first. -/
theorem TimedBank.laws {β : Type} {w : Nat} [Bank β w] [TimedBank β]
    (undone : ∀ (bank : β) (now : Cycle) (first second : Bank.Lines w),
      Bank.drive (Bank.drive bank now first.input first.load first.address) now second.input
          second.load second.address =
        Bank.drive bank now second.input second.load second.address) :
    (Bank.clocked β).Laws := by
  constructor
  · intro bank now lines
    exact TimedBank.output_eq_peek bank now lines.address
  · intro bank now lines a
    exact (TimedBank.peek_drive bank now now _ _ _ a).trans (if_pos (Nat.le_refl now))
  · intro bank now lines a
    have edge : ¬ now + 1 ≤ now := Nat.not_succ_le_self now
    exact (TimedBank.peek_drive bank now (now + 1) _ _ _ a).trans
      ((if_neg edge).trans (if_pos rfl))
  · exact undone

/-- Every register of a tree is driven in every drive, so each of them forgets the first. -/
theorem RegisterTree.laws {β : Type} {w : Nat} [Bank β w] [RegisterTree β] :
    (Bank.clocked β).Laws := by
  apply TimedBank.laws
  intro bank now first second
  apply (RegisterTree.registers : β ≃ RegisterArray w).injective
  simp only [RegisterTree.registers_drive]
  apply RegisterArray.ext
  funext i
  exact Register.drive_drive _ now _ _ first.input second.input

namespace FlatBank

variable {w : Nat}

/-- A bank that was driven in a cycle has nothing left to settle in it: its write waits for
the edge, and its mark lies beyond. -/
theorem settle_drive (bank : FlatBank w) (now : Cycle) (input : Word) (load : Signal)
    (address : Bus w) :
    (bank.drive now input load address).settle now = bank.drive now input load address := by
  have waits : (bank.drive now input load address).commit now =
      bank.drive now input load address := by
    cases load with
    | false => rfl
    | true =>
        simp [commit, drive]
  have live : (bank.drive now input load address).stale now = false := by
    have mark : (bank.drive now input load address).live = some (now + 1) := rfl
    rw [stale_of_live mark]
    exact decide_eq_false (Nat.not_lt.mpr (Nat.le_succ now))
  rw [settle, waits, live]
  rfl

theorem laws : (Bank.clocked (FlatBank w)).Laws := by
  apply TimedBank.laws
  intro bank now first second
  show (bank.drive now first.input first.load first.address).drive now second.input second.load
    second.address = bank.drive now second.input second.load second.address
  rw [drive, settle_drive]
  rfl

end FlatBank

/-! ## The display and data memory -/

namespace Screen

def clocked : Clocked Screen (Bank.Lines 13) (Bus 13) Word where
  drive screen now lines := screen.drive now lines.input lines.load lines.address
  answer screen now lines := screen.peek now lines.address
  addressed lines := lines.address
  read := Screen.peek
  loaded screen now lines a :=
    if lines.load = true ∧ a = lines.address then lines.input else screen.peek now a

theorem settle_drive (screen : Screen) (now : Cycle) (input : Word) (load : Signal)
    (address : Bus 13) :
    (screen.drive now input load address).settle now = screen.drive now input load address := by
  cases load with
  | false => rfl
  | true =>
      simp [settle, drive]

theorem drive_drive (screen : Screen) (now : Cycle) (first second : Bank.Lines 13) :
    (screen.drive now first.input first.load first.address).drive now second.input second.load
        second.address =
      screen.drive now second.input second.load second.address := by
  rw [drive, settle_drive]
  rfl

theorem laws : Screen.clocked.Laws := by
  constructor
  · intro screen now lines
    rfl
  · intro screen now lines a
    have early : ¬ (now < now ∧ lines.load = true ∧ a = lines.address) := by
      rintro ⟨due, _⟩
      exact Nat.lt_irrefl now due
    exact (screen.peek_drive now now _ _ _ a).trans (if_neg early)
  · intro screen now lines a
    have edge : now < now + 1 := Nat.lt_succ_self now
    have next := screen.peek_drive now (now + 1) lines.input lines.load lines.address a
    simp only [edge, true_and] at next
    exact next
  · exact drive_drive

end Screen

namespace Memory

/-- Data memory, while no key is pressed or released. -/
def clocked (ρ : Type) [Bank ρ 14] : Clocked (Memory ρ) (Bank.Lines 15) Address Word where
  drive m now lines := m.drive now lines.input lines.load lines.address
  answer m now lines := m.output now lines.address
  addressed lines := lines.address
  read := Memory.peek
  loaded m now lines b :=
    if b.toNat < 24576 then
      (if lines.load = true ∧ b = lines.address then lines.input else m.peek now b)
    else m.key

variable {ρ : Type} [Bank ρ 14]

/-- RAM and screen forget the first access of a cycle, and the second takes its sample of
the key. -/
theorem drive_drive (ram : (Bank.clocked ρ).Laws) (m : Memory ρ) (now : Cycle)
    (first second : Bank.Lines 15) :
    (m.drive now first.input first.load first.address).drive now second.input second.load
        second.address =
      m.drive now second.input second.load second.address := by
  have words := ram.drive_drive m.ram now
    ⟨first.input, ramLoad first.load first.address, Bus.slice first.address 0 14⟩
    ⟨second.input, ramLoad second.load second.address, Bus.slice second.address 0 14⟩
  have display := Screen.drive_drive m.screen now
    ⟨first.input, screenLoad first.load first.address, Bus.slice first.address 0 13⟩
    ⟨second.input, screenLoad second.load second.address, Bus.slice second.address 0 13⟩
  have key := m.sampled_drive_now now first.input first.load first.address
  rw [drive, key]
  exact congrArg₂ (fun ram screen => Memory.mk ram screen m.key (some (now, m.sampled now)))
    words display

theorem laws [TimedBank ρ] (ram : (Bank.clocked ρ).Laws) : (Memory.clocked ρ).Laws := by
  constructor
  · intro m now lines
    exact m.output_eq_peek now lines.address
  · intro m now lines b
    exact m.peek_drive_now now lines.input lines.load lines.address b
  · intro m now lines b
    exact m.peek_drive_next now lines.input lines.load lines.address b
  · exact drive_drive ram

end Memory

/-- **Before the edge nothing shows, and after it only the last drive counts.**  This holds
of every clocked part in every state: of cells, latches, registers and the counter, of the
banks of gates and of those kept in a map, of the display, and of data memory while the
key that is held stays the same. -/
theorem clocked_parts_keep_edge_discipline :
    Cell.clocked.EdgeDiscipline ∧ Latch.clocked.EdgeDiscipline ∧
      Register.clocked.EdgeDiscipline ∧ Counter.clocked.EdgeDiscipline ∧
      (Bank.clocked Ram8).EdgeDiscipline ∧ (Bank.clocked Ram64).EdgeDiscipline ∧
      (Bank.clocked Ram512).EdgeDiscipline ∧ (Bank.clocked Ram4K).EdgeDiscipline ∧
      (Bank.clocked Ram16K).EdgeDiscipline ∧
      (∀ width : Nat, (Bank.clocked (FlatBank width)).EdgeDiscipline) ∧
      Screen.clocked.EdgeDiscipline ∧ (Memory.clocked Ram16K).EdgeDiscipline ∧
      (Memory.clocked (FlatBank 14)).EdgeDiscipline := by
  refine ⟨?_, ?_, ?_, ?_, ?_, ?_, ?_, ?_, ?_, ?_, ?_, ?_, ?_⟩
  · exact Cell.laws.edgeDiscipline
  · exact Latch.laws.edgeDiscipline
  · exact Register.laws.edgeDiscipline
  · exact Counter.laws.edgeDiscipline
  · exact RegisterTree.laws.edgeDiscipline
  · exact RegisterTree.laws.edgeDiscipline
  · exact RegisterTree.laws.edgeDiscipline
  · exact RegisterTree.laws.edgeDiscipline
  · exact RegisterTree.laws.edgeDiscipline
  · intro width
    exact FlatBank.laws.edgeDiscipline
  · exact Screen.laws.edgeDiscipline
  · exact (Memory.laws RegisterTree.laws).edgeDiscipline
  · exact (Memory.laws FlatBank.laws).edgeDiscipline

end NandMachine
