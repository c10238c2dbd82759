/-
# NandMachine.Proofs.Command.Report -- the lines that a run prints

A run prints its trace and then a report: an empty line and a title, the number of steps, the
registers, the address that memory is driven with, the memory words that were asked for, and in
the last line why the run stopped.

No line of these is broken by a line end of its own (`Command.unbroken_traced`,
`Command.unbroken_report`).  So what is printed is cut into exactly these lines again, and each of
them stands in its place (`Command.tells_lines`).
-/
import NandMachine.Command.Run
import NandMachine.Proofs.Assembly.Listing

namespace NandMachine

set_option autoImplicit false

theorem RegisterValues.unbroken_text (v : RegisterValues) : Text.Unbroken v.text := by
  have column (w : Word) : Text.Unbroken (Text.leftColumn 6 (toString w.signed)) :=
    (Text.solid_toString_int w.signed).unbroken.leftColumn 6
  have counter : Text.Unbroken (toString v.pc.toNat) := (Text.solid_toString v.pc.toNat).unbroken
  have a : Text.Unbroken "A=" := by decide
  exact ((((a.append (column v.a)).append (by decide)).append (column v.d)).append
    (by decide)).append counter

namespace Command

variable {ρ σ : Type} [Bank ρ 14] [Rom σ]

/-! ## What is printed -/

/-- The snapshot that a run reports. -/
def reported (options : RunOptions) (final : RunEnd ρ σ) : Snapshot :=
  final.computer.snapshot (Snapshot.addresses options.dump.start options.dump.count)

/-- The lines that a run prints of its trace. -/
def traced (options : RunOptions) (final : RunEnd ρ σ) : List String :=
  if options.trace then "" :: "━━━ Execution ━━━" :: final.executed.map Executed.line else []

theorem output_eq (options : RunOptions) (final : RunEnd ρ σ) :
    output options final =
      if options.json then (Json.toJson (reported options final)).pretty ++ "\n"
      else Outcome.lines (traced options final ++
        report options final (reported options final)) := rfl

/-! ## No line is broken -/

theorem Executed.unbroken_line (e : Executed) : Text.Unbroken e.line := by
  have number := (Text.solid_zeroPadded 5 e.pc.toNat).unbroken
  have mnemonic := (Assembly.solid_mnemonic e.instruction).unbroken
  exact (((number.append (by decide)).append (mnemonic.leftColumn 16)).append
    (by decide)).append e.registers.unbroken_text

omit [Bank ρ 14] [Rom σ] in
theorem unbroken_traced (options : RunOptions) (final : RunEnd ρ σ) :
    ∀ s ∈ traced options final, Text.Unbroken s := by
  intro s member
  unfold traced at member
  split at member
  case isTrue =>
    rcases List.mem_cons.mp member with rfl | member
    · decide
    rcases List.mem_cons.mp member with rfl | member
    · decide
    obtain ⟨e, -, rfl⟩ := List.mem_map.mp member
    exact e.unbroken_line
  case isFalse => nomatch member

omit [Bank ρ 14] [Rom σ] in
theorem unbroken_report (options : RunOptions) (final : RunEnd ρ σ) (snapshot : Snapshot) :
    ∀ s ∈ report options final snapshot, Text.Unbroken s := by
  have number (n : Nat) : Text.Unbroken (toString n) := (Text.solid_toString n).unbroken
  have whole (n : Int) : Text.Unbroken (toString n) := (Text.solid_toString_int n).unbroken
  rw [report, List.forall_mem_append, List.forall_mem_append]
  refine ⟨⟨?front, ?cells⟩, ?verdict⟩
  case front =>
    simp only [List.forall_mem_cons]
    refine ⟨by decide, by decide, ?_, ?_, ?_, List.forall_mem_nil _⟩
    · exact .append (by decide) (number snapshot.steps)
    · exact .append (by decide) snapshot.registers.unbroken_text
    · exact .append (by decide) (number snapshot.addressM.toNat)
  case cells =>
    split
    case isTrue => exact List.forall_mem_nil _
    case isFalse =>
      rw [List.forall_mem_cons, List.forall_mem_map]
      refine ⟨by decide, fun cell _ => ?_⟩
      have address := (Text.solid_zeroPadded 5 cell.address.toNat).unbroken
      exact .append (.append (.append (by decide) address) (by decide)) (whole cell.value.signed)
  case verdict =>
    simp only [List.forall_mem_cons]
    refine ⟨by decide, ?_, List.forall_mem_nil _⟩
    split
    · exact .append (by decide) (number final.computer.pc.toNat)
    · exact .append (.append (by decide) (number options.maxCycles)) (by decide)

/-! ## What the lines tell -/

/-- The last line of a run: the address of the loop that it reached, or that it reached none. -/
def verdict (limit : Nat) : Option Address → String
  | some pc => "✓ Reached the end-of-program loop at PC=" ++ toString pc.toNat
  | none => "⚠️  Reached max cycles limit (" ++ toString limit ++ "). Use --max-cycles to increase."

/-- A text tells a snapshot behind the lines of a trace.  An empty line and a title come first,
then the steps, the registers and the address that memory is driven with, and behind another empty
line each memory word that was asked for.  The verdict is the last line. -/
structure Tells (text : String) (earlier : List String) (s : Snapshot) (verdict : String) :
    Prop where
  traced : ∀ i (_ : i < earlier.length), Text.lineAt? text i = some earlier[i]
  steps : Text.lineAt? text (earlier.length + 2) = some ("Steps: " ++ toString s.steps)
  registers : Text.lineAt? text (earlier.length + 3) =
    some ("Registers: A=" ++ Text.leftColumn 6 (toString s.registers.a.toInt) ++
      " D=" ++ Text.leftColumn 6 (toString s.registers.d.toInt) ++
      " PC=" ++ toString s.registers.pc.toNat)
  addressM : Text.lineAt? text (earlier.length + 4) =
    some ("addressM: " ++ toString s.addressM.toNat)
  cells : ∀ i (_ : i < s.ram.length), Text.lineAt? text (earlier.length + (6 + i)) =
    some ("RAM[" ++ Text.zeroPadded 5 s.ram[i].address.toNat ++ "] = " ++
      toString s.ram[i].value.toInt)
  /-- Without memory words, the empty line in front of them is missing too. -/
  count : (Text.lines text.toList).length =
    earlier.length + if s.ram = [] then 7 else 8 + s.ram.length
  last : (Text.lines text.toList).getLast?.map String.ofList = some verdict

omit [Bank ρ 14] [Rom σ] in
theorem getElem?_report_cell (options : RunOptions) (final : RunEnd ρ σ) (s : Snapshot) {i : Nat}
    (inside : i < s.ram.length) : (report options final s)[6 + i]? =
      some ("RAM[" ++ Text.zeroPadded 5 s.ram[i].address.toNat ++ "] = " ++
        toString s.ram[i].value.toInt) := by
  have more : ¬ s.ram.isEmpty = true := by
    rw [List.isEmpty_iff]
    exact List.ne_nil_of_length_pos (by omega)
  -- behind the five lines in front and the empty one
  have place : 6 + i = i + 1 + 1 + 1 + 1 + 1 + 1 := by omega
  rw [report, if_neg more, place]
  simp only [List.cons_append, List.nil_append, List.getElem?_cons_succ]
  rw [List.getElem?_append_left (by simpa using inside), List.getElem?_map,
    List.getElem?_eq_getElem inside]
  rfl

omit [Bank ρ 14] [Rom σ] in
theorem length_report (options : RunOptions) (final : RunEnd ρ σ) (s : Snapshot) :
    (report options final s).length = if s.ram = [] then 7 else 8 + s.ram.length := by
  by_cases none : s.ram = []
  · simp [report, none]
  · rw [if_neg none]
    simp only [report, List.isEmpty_iff, if_neg none, List.length_append, List.length_cons,
      List.length_map, List.length_nil]
    omega

omit [Bank ρ 14] [Rom σ] in
/-- Lines that are printed behind others, followed by the report of a snapshot. -/
theorem tells_lines (options : RunOptions) (final : RunEnd ρ σ) (s : Snapshot)
    {earlier : List String} (whole : ∀ line ∈ earlier, Text.Unbroken line) :
    Tells (Outcome.lines (earlier ++ report options final s)) earlier s
      (verdict options.maxCycles (if final.halted then some final.computer.pc else none)) := by
  have unbroken : ∀ line ∈ earlier ++ report options final s, Text.Unbroken line :=
    List.forall_mem_append.mpr ⟨whole, unbroken_report options final s⟩
  have cut : Text.lines (Outcome.lines (earlier ++ report options final s)).toList =
      (earlier ++ report options final s).map String.toList := Text.lines_join unbroken
  have line (i : Nat) : Text.lineAt? (Outcome.lines (earlier ++ report options final s)) i =
      (earlier ++ report options final s)[i]? := Text.lineAt?_join unbroken i
  have behind (i : Nat) : Text.lineAt? (Outcome.lines (earlier ++ report options final s))
      (earlier.length + i) = (report options final s)[i]? := by
    rw [line, List.getElem?_append_right (Nat.le_add_right _ _), Nat.add_sub_cancel_left]
  constructor
  case traced =>
    intro i inside
    rw [line, List.getElem?_append_left inside, List.getElem?_eq_getElem inside]
  case steps => exact behind 2
  case registers =>
    refine (behind 3).trans (congrArg some ?_)
    have label : "Registers: A=" = "Registers: " ++ "A=" := rfl
    simp only [RegisterValues.text, label, String.append_assoc]
    rfl
  case addressM => exact behind 4
  case cells =>
    intro i inside
    rw [behind, getElem?_report_cell options final s inside]
  case count => rw [cut, List.length_map, List.length_append, length_report]
  case last =>
    rw [cut, List.getLast?_map, Option.map_map, report, List.append_cons, ← List.append_assoc,
      List.getLast?_concat]
    simp only [Option.map_some, Function.comp_apply, String.ofList_toList, Option.some.injEq]
    split
    · rfl
    · rfl

end Command

end NandMachine
