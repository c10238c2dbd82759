/-
# NandMachine.Proofs.Codec.RoundTrip -- machine state comes back from JSON

Every exchanged type has one law here: the JSON value that a typed one is
exchanged as stands for it (`Json.Encodes`).  A record uses the laws of its
fields, in the order of its decoder, and a change to one record touches its own
law only.

A bus says more, since its reader is written by hand and has two bounds to keep
(`fromJson_bus_eq_ok_iff`): sixteen bits for the number and its own width for the
value.  For the widths that can be exchanged the second bound is the narrower one,
so a bus is read from the plain literals that fit it and nothing is cut off.

Counters and edges are exchanged as numbers of 64 bits, which is what the laws of
`Snapshot`, `Clock` and `Cell` ask for.
-/
import NandMachine.Codec.Machine
import NandMachine.Proofs.Json.Decoding

namespace NandMachine

set_option autoImplicit false

open Json (Encodes)
open Json.Fields (Holds)

/-! ## Levels, buses and numbers -/

theorem encodes_level (s : Signal) : Encodes s.toJson (⟨s⟩ : Level) where
  whole := .string s.name
  reads := by cases s <;> rfl

/-- A bus is read in two steps, the number and its width. -/
theorem fromJson_bus {n : Nat} (j : Json) : (Json.fromJson j : Json.Decoded (Bus n)) =
    (Json.natOf 16 j).bind fun value =>
      if value < 2 ^ n then .ok (BitVec.ofNat n value) else .error (.tooWide value n) := rfl

/-- A bus that can be exchanged is read from the literal of its number only. -/
theorem fromJson_bus_eq_ok_iff {n : Nat} (narrow : n ≤ 16) (j : Json) (b : Bus n) :
    Json.fromJson j = .ok b ↔ j = .integer b.toNat := by
  have narrower : 2 ^ n ≤ 2 ^ 16 := Nat.pow_le_pow_right (by decide) narrow
  rw [fromJson_bus]
  constructor
  · intro reads
    cases number : Json.natOf 16 j with
    | error e => rw [number] at reads; cases reads
    | ok value =>
      rw [number, Except.bind] at reads
      split at reads
      next fits =>
        obtain rfl := Except.ok.inj reads
        rw [BitVec.toNat_ofNat, Nat.mod_eq_of_lt fits]
        exact ((Json.natOf_eq_ok_iff 16 j value).mp number).1
      next => cases reads
  · rintro rfl
    have number := (Json.natOf_eq_ok_iff 16 (.integer b.toNat) b.toNat).mpr
      ⟨rfl, Nat.lt_of_lt_of_le b.isLt narrower⟩
    rw [number, Except.bind, if_pos b.isLt, BitVec.ofNat_toNat, BitVec.setWidth_eq]

/-- The same of a text, which may have blanks around the literal. -/
theorem read?_bus_eq_some_iff {n : Nat} (narrow : n ≤ 16) (text : String) (b : Bus n) :
    Json.read? (Bus n) text = some b ↔ Json.Spells text b.toNat := by
  rw [Json.read?_eq_some_iff, ← Json.parse?_eq_nat_iff]
  simp only [fromJson_bus_eq_ok_iff narrow, exists_eq_right]

theorem encodes_bus {n : Nat} (narrow : n ≤ 16) (b : Bus n) : Encodes (Json.toJson b) b where
  whole := .integer b.toNat
  reads := (fromJson_bus_eq_ok_iff narrow _ b).mpr rfl

theorem encodes_count {n : Nat} (fits : n < Fault.counterLimit) : Encodes (.nat n) (⟨n⟩ : Count) where
  whole := .integer n
  reads := by
    have reads := (Json.natOf_eq_ok_iff 64 (.integer n) n).mpr ⟨rfl, fits⟩
    change Count.mk <$> Json.natOf 64 (.integer n) = .ok ⟨n⟩
    rw [reads]; rfl

theorem encodes_controlField (bits : Bus 8) :
    Encodes (Json.toJson bits) (⟨bits⟩ : ControlField) where
  whole := .integer bits.toNat
  reads := by
    have reads := (Json.natOf_eq_ok_iff 8 (.integer bits.toNat) bits.toNat).mpr ⟨rfl, bits.isLt⟩
    change (fun n => ControlField.mk (BitVec.ofNat 8 n)) <$> Json.natOf 8 (.integer bits.toNat) =
      .ok ⟨bits⟩
    rw [reads]
    simp

theorem encodes_signedWord (w : Word) : Encodes (.integer w.signed) (⟨w⟩ : SignedWord) where
  whole := .integer w.signed
  reads := by
    have low : -32768 ≤ w.signed := BitVec.le_toInt w
    have high : w.signed ≤ 32767 := Int.le_of_lt_add_one (BitVec.toInt_lt (x := w))
    change (fun i => SignedWord.mk (Word.ofInt i)) <$>
      Json.intIn (-32768) 32767 (.integer w.signed) = .ok ⟨w⟩
    rw [Json.intIn, if_pos ⟨low, high⟩]
    exact congrArg (fun word => Except.ok (SignedWord.mk word)) (BitVec.ofInt_toInt (x := w))

/-! ## Records -/

theorem encodes_aluControl (c : AluControl) : Encodes (Json.toJson c) c :=
  ((((((Holds.done AluControl.ofLevels).field "zx" (encodes_level c.zx)).field
    "nx" (encodes_level c.nx)).field "zy" (encodes_level c.zy)).field
    "ny" (encodes_level c.ny)).field "f" (encodes_level c.f)).field
    "no" (encodes_level c.no) |>.encodes (by decide) rfl

theorem encodes_clock (c : Clock) (fits : c.now < Fault.counterLimit) : Encodes (Json.toJson c) c :=
  (Holds.done fun (now : Count) => Clock.mk now.value).field "now" (encodes_count fits)
    |>.encodes (by decide) rfl

theorem encodes_cell (c : Cell) (fits : c.edge < Fault.counterLimit) : Encodes (Json.toJson c) c :=
  (((Holds.done Cell.ofParts).field "cur" (encodes_level c.cur)).field
    "next" (encodes_level c.next)).field "next_time" (encodes_count fits)
    |>.encodes (by decide) rfl

theorem encodes_dest (d : Dest) : Encodes (Json.toJson d) d :=
  (((Holds.done Dest.mk).field "a" (Json.encodes_bool d.a)).field
    "d" (Json.encodes_bool d.d)).field "m" (Json.encodes_bool d.m) |>.encodes (by decide) rfl

theorem encodes_jump (j : Jump) : Encodes (Json.toJson j) j where
  whole := .string j.name
  reads := by cases j <;> rfl

theorem encodes_control (c : Control) : Encodes (Json.toJson c) c :=
  (((((((Holds.done Control.ofParts).field "i" (encodes_level c.i)).field
    "a" (encodes_level c.a)).field "alu" (encodes_aluControl c.alu)).field
    "dest_a" (encodes_level c.destA)).field "dest_d" (encodes_level c.destD)).field
    "dest_m" (encodes_level c.destM)).field "jump" (encodes_bus (by decide) c.jump)
    |>.encodes (by decide) rfl

theorem encodes_registerValues (v : RegisterValues) : Encodes (Json.toJson v) v :=
  (((Holds.done RegisterValues.mk).field "a" (encodes_bus (by decide) v.a)).field
    "d" (encodes_bus (by decide) v.d)).field "pc" (encodes_bus (by decide) v.pc)
    |>.encodes (by decide) rfl

theorem encodes_cpuOutput (o : CpuOutput) : Encodes (Json.toJson o) o :=
  ((((Holds.done CpuOutput.ofParts).field "out_m" (encodes_bus (by decide) o.outM)).field
    "write_m" (encodes_level o.writeM)).field
    "address_m" (encodes_bus (by decide) o.addressM)).field
    "pc" (encodes_bus (by decide) o.pc) |>.encodes (by decide) rfl

theorem encodes_memoryCell (c : MemoryCell) : Encodes (Json.toJson c) c :=
  ((Holds.done MemoryCell.ofParts).field "address" (encodes_bus (by decide) c.address)).field
    "value" (encodes_signedWord c.value) |>.encodes (by decide) rfl

theorem encodes_snapshot (s : Snapshot) (steps : s.steps < Fault.counterLimit) (cycle : s.cycle < Fault.counterLimit) :
    Encodes (Json.toJson s) s :=
  ((((((Holds.done Snapshot.ofParts).field "steps" (encodes_count steps)).field
    "cycle" (encodes_count cycle)).field "registers" (encodes_registerValues s.registers)).field
    "pc" (encodes_bus (by decide) s.pc)).field
    "address_m" (encodes_bus (by decide) s.addressM)).field
    "ram" (Json.encodes_list fun c _ => encodes_memoryCell c) |>.encodes (by decide) rfl

/-- An instruction is an object with one entry, named after its kind. -/
theorem encodes_instruction (i : Instruction) : Encodes (Json.toJson i) i := by
  cases i with
  | address constant =>
    have inner := encodes_bus (by decide) constant
    exact ⟨.object (by simpa using inner.whole), congrArg (Instruction.address <$> ·) inner.reads⟩
  | compute fromMemory control dest jump =>
    have holds := ((((Holds.done Instruction.ofParts).field "a"
      (Json.encodes_bool fromMemory)).field "comp" (encodes_controlField control)).field
      "dest" (encodes_dest dest)).field "jump" (encodes_jump jump)
    exact ⟨.object (by simpa using Json.Whole.object holds.whole), holds.ofEntries (by decide)⟩

/-! ## Round trips -/

/-- Every value that fits comes back from its JSON value, and from both written
forms of it. -/
def RoundTrips (α : Type) [Json.ToJson α] [Json.FromJson α] (fits : α → Prop) : Prop :=
  ∀ a : α, fits a → Json.fromJson (Json.toJson a) = .ok a ∧
    Json.read? α (Json.toJson a).compact = some a ∧ Json.read? α (Json.toJson a).pretty = some a

theorem roundTrips_of_encodes {α : Type} [Json.ToJson α] [Json.FromJson α] {fits : α → Prop}
    (encodes : ∀ a, fits a → Encodes (Json.toJson a) a) : RoundTrips α fits := fun a fit =>
  have encoded := encodes a fit
  ⟨encoded.reads, encoded.read?_compact, encoded.read?_pretty⟩

/-- A reader of buses takes the literals of the numbers that fit and nothing else,
and answers the bus with that number.  `literal` says which number an input is
the literal of. -/
structure ReadsPlainNumbers {ι : Type} (n : Nat) (reads : ι → Bus n → Prop)
    (literal : ι → Nat → Prop) : Prop where
  succeeds : ∀ input, (∃ b, reads input b) ↔ ∃ v ≤ 2 ^ n - 1, literal input v
  value : ∀ input b v, reads input b → literal input v → b.toNat = v

theorem readsPlainNumbers_of_iff {ι : Type} {n : Nat} {reads : ι → Bus n → Prop}
    {literal : ι → Nat → Prop} (reads_iff : ∀ input b, reads input b ↔ literal input b.toNat)
    (unique : ∀ input v w, literal input v → literal input w → v = w) :
    ReadsPlainNumbers n reads literal where
  succeeds input := by
    constructor
    · rintro ⟨b, answer⟩
      exact ⟨b.toNat, Nat.le_sub_one_of_lt b.isLt, (reads_iff input b).mp answer⟩
    · rintro ⟨v, fits, spelled⟩
      have number : (BitVec.ofNat n v).toNat = v := by
        rw [BitVec.toNat_ofNat, Nat.mod_eq_of_lt]
        have := Nat.two_pow_pos n
        omega
      exact ⟨BitVec.ofNat n v, (reads_iff input _).mpr (by rwa [number])⟩
  value input b v answer spelled := unique input _ _ ((reads_iff input b).mp answer) spelled

theorem bus_readsPlainNumbers {n : Nat} (narrow : n ≤ 16) :
    ReadsPlainNumbers n (fun (j : Json) b => Json.fromJson j = .ok b) (fun j v => j = .integer v) :=
  readsPlainNumbers_of_iff (fromJson_bus_eq_ok_iff narrow) fun j v w one other => by
    rw [one] at other
    exact Int.ofNat_inj.mp (Json.integer.inj other)

theorem busText_readsPlainNumbers {n : Nat} (narrow : n ≤ 16) :
    ReadsPlainNumbers n (fun text b => Json.read? (Bus n) text = some b) Json.Spells :=
  readsPlainNumbers_of_iff (read?_bus_eq_some_iff narrow) fun text v w one other => by
    have parsed := (Json.parse?_eq_nat_iff text v).mpr one
    rw [(Json.parse?_eq_nat_iff text w).mpr other, Option.some.injEq, Json.integer.injEq] at parsed
    exact (Int.ofNat_inj.mp parsed).symm

/-- **Machine state comes back from its exchange form.**  What is exchanged as JSON is
read back equal, from the value and from both written forms; and a bus of at most
sixteen wires is read from the plain whole numbers that fit it, as values or as texts,
and never from anything else. -/
theorem exchanged_state_returns :
    RoundTrips Snapshot (fun s => s.steps < Fault.counterLimit ∧ s.cycle < Fault.counterLimit) ∧
    RoundTrips CpuOutput (fun _ => True) ∧
    RoundTrips RegisterValues (fun _ => True) ∧
    RoundTrips Control (fun _ => True) ∧
    RoundTrips AluControl (fun _ => True) ∧
    RoundTrips Cell (fun c => c.edge < Fault.counterLimit) ∧
    RoundTrips Clock (fun c => c.now < Fault.counterLimit) ∧
    RoundTrips Instruction (fun _ => True) ∧
    ∀ n ≤ 16, (∀ b : Bus n, b.toJson? = .ok (Json.toJson b)) ∧
      RoundTrips (Bus n) (fun _ => True) ∧
      ReadsPlainNumbers n (fun (j : Json) b => Json.fromJson j = .ok b)
        (fun j v => j = .integer v) ∧
      ReadsPlainNumbers n (fun text b => Json.read? (Bus n) text = some b) Json.Spells := by
  refine ⟨roundTrips_of_encodes fun s ⟨steps, cycle⟩ => encodes_snapshot s steps cycle,
    roundTrips_of_encodes fun o _ => encodes_cpuOutput o,
    roundTrips_of_encodes fun v _ => encodes_registerValues v,
    roundTrips_of_encodes fun c _ => encodes_control c,
    roundTrips_of_encodes fun c _ => encodes_aluControl c,
    roundTrips_of_encodes encodes_cell,
    roundTrips_of_encodes encodes_clock,
    roundTrips_of_encodes fun i _ => encodes_instruction i, fun n narrow => ⟨fun b => ?_,
    roundTrips_of_encodes fun b _ => encodes_bus narrow b,
    bus_readsPlainNumbers narrow, busText_readsPlainNumbers narrow⟩⟩
  rw [Bus.toJson?, Bus.toNat?, if_pos narrow]
  rfl

example : Json.read? (Bus 3) " 7\n" = some 7 ∧ Json.read? (Bus 3) "8" = none ∧
    Json.read? (Bus 3) "-0" = none ∧ Json.read? (Bus 3) "1e0" = none := by
  decide

end NandMachine
