/-
# NandMachine.Proofs.Command.Run -- a run executes exactly a prefix

A run sets the assigned words of RAM, executes instructions until the machine sits on the
loop that ends its program or the limit is reached, and reports a snapshot of where it is.

* The assignments are laid over an image of zeros as long as the highest address needs, so
  each word is the last one assigned to it (`getD_ramImage`), and the machine that starts is
  the fresh one with these words in RAM (`Computer.Implements.started`).
* From there the loop of the run is nothing but plain steps.  It makes as many as lead to
  the first state on a loop, and never more than the limit (`computer_runToHalt`); keeping a
  trace of them changes nothing but the trace (`executed_runToHalt`).
* Looking ahead for the loop only looks at the program and the program counter, so computers
  that implement one state of the machine of the instruction set stop after equally many
  steps (`stepsToStop_congr`), and report one snapshot (`reported_congr`).
* The limit counts the steps of the computer.  It is the number of steps that a run may make,
  because the computer of a run is a fresh one (`execute_eq`).
-/
import NandMachine.Proofs.Command.HaltLoop
import NandMachine.Proofs.Command.Report

namespace NandMachine

set_option autoImplicit false

namespace Command

/-! ## The RAM image -/

/-- The value that the last assignment to an address gives it, if there is one. -/
def lastAssignment? (assignments : List Assignment) (address : Nat) : Option Word :=
  (assignments.reverse.find? fun a => a.address.toNat == address).map (·.value)

/-- The value that an address has after a list of assignments to words that are zero. -/
def assigned (assignments : List Assignment) (address : Nat) : Word :=
  (lastAssignment? assignments address).getD 0#16

theorem lastAssignment?_cons (a : Assignment) (rest : List Assignment) (address : Nat) :
    lastAssignment? (a :: rest) address =
      (lastAssignment? rest address).or
        (if a.address.toNat = address then some a.value else none) := by
  rw [lastAssignment?, List.reverse_cons, List.find?_append, Option.map_or]
  by_cases here : a.address.toNat = address <;> simp [here, lastAssignment?]

/-- Assignments laid over an image with room for all of them. -/
theorem getElem?_foldl_assignments (assignments : List Assignment) (image : Array Word)
    (room : ∀ a ∈ assignments, a.address.toNat < image.size) (i : Nat) :
    (assignments.foldl (fun image a => image.setIfInBounds a.address.toNat a.value) image)[i]? =
      (lastAssignment? assignments i).or image[i]? := by
  induction assignments generalizing image with
  | nil => rfl
  | cons a rest ih =>
      have inside : a.address.toNat < image.size := room a List.mem_cons_self
      have later : ∀ b ∈ rest,
          b.address.toNat < (image.setIfInBounds a.address.toNat a.value).size := by
        intro b member
        rw [Array.size_setIfInBounds]
        exact room b (List.mem_cons_of_mem a member)
      rw [List.foldl_cons, ih _ later, lastAssignment?_cons, Option.or_assoc,
        Array.getElem?_setIfInBounds]
      by_cases here : a.address.toNat = i
      · subst here
        simp [inside]
      · simp [here]

/-- The length that an image needs reaches past every address, and is no longer than that. -/
theorem imageSize_spec (assignments : List Assignment) (least : Nat) :
    let size := assignments.foldl (fun top a => max top (a.address.toNat + 1)) least
    least ≤ size ∧ (∀ a ∈ assignments, a.address.toNat < size) ∧
      ∀ bound, least ≤ bound → (∀ a ∈ assignments, a.address.toNat < bound) → size ≤ bound := by
  induction assignments generalizing least with
  | nil => simp
  | cons a rest ih =>
      obtain ⟨below, reached, short⟩ := ih (max least (a.address.toNat + 1))
      simp only [List.foldl_cons, List.mem_cons, forall_eq_or_imp]
      refine ⟨by omega, ⟨by omega, reached⟩, ?_⟩
      intro bound above inside
      exact short bound (by omega) inside.2

/-- Each word of the image is the last one assigned to it. -/
theorem getD_ramImage (assignments : List Assignment) (i : Nat) :
    (ramImage assignments)[i]?.getD 0#16 = assigned assignments i := by
  obtain ⟨-, reached, -⟩ := imageSize_spec assignments 0
  have zeros (n : Nat) : (Array.replicate n 0#16)[i]?.getD 0#16 = 0#16 := by
    rw [Array.getElem?_replicate]
    by_cases inside : i < n <;> simp [inside]
  rw [ramImage, getElem?_foldl_assignments _ _ (by simpa using reached), assigned]
  cases lastAssignment? assignments i with
  | none => exact zeros _
  | some value => rfl

theorem size_foldl_assignments (assignments : List Assignment) (image : Array Word) :
    (assignments.foldl (fun image a => image.setIfInBounds a.address.toNat a.value) image).size =
      image.size := by
  induction assignments generalizing image with
  | nil => rfl
  | cons a rest ih => rw [List.foldl_cons, ih, Array.size_setIfInBounds]

theorem size_ramImage_le {assignments : List Assignment}
    (inRam : ∀ a ∈ assignments, a.address.toNat < 16384) :
    (ramImage assignments).size ≤ 16384 := by
  rw [ramImage, size_foldl_assignments, Array.size_replicate]
  exact (imageSize_spec assignments 0).2.2 16384 (Nat.zero_le _) inRam

/-- An assignment that is read from a command line is to a word of RAM. -/
theorem address_lt_of_readAssignment {text : String} {a : Assignment}
    (read : readAssignment text = .ok a) : a.address.toNat < 16384 := by
  unfold readAssignment at read
  cases cut : cutAt? '=' text.toList with
  | none => simp [cut] at read
  | some parts =>
      rw [cut] at read
      cases number : readPart "address" (unsigned? 65535) parts.1 with
      | error reason => simp [number, bind, Except.bind] at read
      | ok n =>
          by_cases outside : Memory.screenStart ≤ n
          · simp [number, bind, Except.bind, outside] at read
          · cases value : readPart "value" (signed? 32768 32767) parts.2 with
            | error reason => simp [number, value, bind, Except.bind, outside] at read
            | ok v =>
                have inside : n < 16384 := Nat.lt_of_not_le outside
                simp only [number, value, bind, Except.bind, if_neg outside] at read
                obtain rfl := Except.ok.inj read
                rw [BitVec.toNat_ofNat]
                omega

/-- The assignments of a command line are all to words of RAM. -/
theorem inRam_ofMatches (m : Matches) :
    ∀ a ∈ (RunOptions.ofMatches m).ram, a.address.toNat < 16384 := by
  intro a member
  obtain ⟨text, -, found⟩ := List.mem_filterMap.mp member
  cases read : readAssignment text with
  | error reason => simp [read, Except.toOption] at found
  | ok b =>
      obtain rfl : b = a := by simpa [read, Except.toOption] using found
      exact address_lt_of_readAssignment read

end Command

/-! ## The machine that starts -/

/-- The machine of the instruction set before its first step, with assigned words in RAM. -/
def Architecture.loaded (program : Array Word) (assignments : List Command.Assignment) :
    Architecture :=
  ({ program, data := fun a => Command.assigned assignments a.toNat } : Architecture).latch

namespace Command

variable {ρ σ : Type} [Bank ρ 14] [Rom σ]

/-- The computer whose steps a run executes. -/
def started (options : RunOptions) (c : Computer ρ σ) : Computer ρ σ :=
  if options.ram.isEmpty then c else c.preload (ramImage options.ram)

omit [Rom σ] in
theorem steps_started (options : RunOptions) (c : Computer ρ σ) :
    (started options c).steps = c.steps := by
  unfold started
  split <;> rfl

/-- The limit counts the steps of the computer, and a fresh one has made none. -/
theorem execute_eq (options : RunOptions) (keep : Bool) {c : Computer ρ σ} (fresh : c.steps = 0) :
    execute options keep c = runToHalt keep (started options c) [] options.maxCycles := by
  have counted : execute options keep c =
      runToHalt keep (started options c) [] (options.maxCycles - (started options c).steps) := rfl
  rw [counted, steps_started, fresh, Nat.sub_zero]

end Command

namespace Computer.Implements

variable {ρ σ : Type} [Bank ρ 14] [TimedBank ρ] [Rom σ] {c : Computer ρ σ}

/-- A fresh computer starts a run with the assigned words in RAM, and is otherwise as fresh
as before. -/
theorem started {program : Array Word} (shows : c.Implements { program })
    (options : Command.RunOptions) (inRam : ∀ a ∈ options.ram, a.address.toNat < 16384) :
    (Command.started options c).Implements (.loaded program options.ram) := by
  unfold Command.started
  by_cases none : options.ram.isEmpty = true
  · have empty : options.ram = [] := List.isEmpty_iff.mp none
    rw [if_pos none, empty]
    exact shows
  · rw [if_neg none]
    have preloaded := shows.preload ⟨Command.ramImage options.ram, Command.size_ramImage_le inRam⟩
    have words : (fun a : Address => (Command.ramImage options.ram)[a.toNat]?.getD 0#16) =
        fun a => Command.assigned options.ram a.toNat :=
      funext fun a => Command.getD_ramImage options.ram a.toNat
    rw [Architecture.preload, words] at preloaded
    exact preloaded

end Computer.Implements

/-! ## The loop of a run -/

namespace Command

variable {ρ σ : Type} [Bank ρ 14] [Rom σ]

/-- The number of steps that a run makes: the least below the limit that leads to the loop
that ends the program, and the limit if there is none. -/
def stepsToStop (c : Computer ρ σ) (limit : Nat) : Nat :=
  ((List.range limit).find? fun i => isHaltLoop (c.run i).rom (c.run i).pc).getD limit

theorem stepsToStop_succ (c : Computer ρ σ) (limit : Nat) :
    stepsToStop c (limit + 1) =
      if isHaltLoop c.rom c.pc then 0 else stepsToStop c.next limit + 1 := by
  rw [stepsToStop, List.range_succ_eq_map, List.find?_cons]
  by_cases here : isHaltLoop c.rom c.pc = true
  · rw [if_pos here]
    simp [Computer.run, here]
  · rw [if_neg here, List.find?_map, stepsToStop]
    simp only [Computer.run, here]
    -- the run of the next state is the run of this one, a step later
    show (Option.map Nat.succ ((List.range limit).find? fun i =>
      isHaltLoop (c.next.run i).rom (c.next.run i).pc)).getD (limit + 1) = _
    cases (List.range limit).find? fun i => isHaltLoop (c.next.run i).rom (c.next.run i).pc with
    | none => rfl
    | some i => rfl

/-- The loop of a run is that many plain steps. -/
theorem computer_runToHalt (keep : Bool) (c : Computer ρ σ) (seen : List Executed)
    (limit : Nat) :
    (runToHalt keep c seen limit).computer = c.run (stepsToStop c limit) := by
  induction limit generalizing c seen with
  | zero => rfl
  | succ n ih =>
      rw [runToHalt, stepsToStop_succ]
      by_cases here : isHaltLoop c.rom c.pc = true
      · rw [if_pos here, if_pos here]
        rfl
      · rw [if_neg here, if_neg here]
        show (runToHalt keep (stepKept keep c seen).1 (stepKept keep c seen).2 n).computer = _
        rw [ih, fst_stepKept]
        rfl

/-- A run halts when it stops short of its limit. -/
theorem halted_runToHalt (keep : Bool) (c : Computer ρ σ) (seen : List Executed) (limit : Nat) :
    (runToHalt keep c seen limit).halted = true ↔ stepsToStop c limit < limit := by
  induction limit generalizing c seen with
  | zero => simp [runToHalt]
  | succ n ih =>
      rw [runToHalt, stepsToStop_succ]
      by_cases here : isHaltLoop c.rom c.pc = true
      · simp [here]
      · rw [if_neg here, if_neg here]
        show (runToHalt keep (stepKept keep c seen).1 (stepKept keep c seen).2 n).halted = true ↔ _
        rw [ih, fst_stepKept]
        omega

/-- The next instruction of a computer, as a trace keeps it. -/
def Executed.next (c : Computer ρ σ) : Executed where
  pc := c.pc
  instruction := Rom.peek c.rom c.pc
  out := (c.step false).2
  registers := c.next.registers

/-- The trace of a run holds its steps in order. -/
theorem executed_runToHalt (c : Computer ρ σ) (seen : List Executed) (limit : Nat) :
    (runToHalt true c seen limit).executed =
      seen.reverse ++ (List.range (stepsToStop c limit)).map fun i => Executed.next (c.run i) := by
  induction limit generalizing c seen with
  | zero => simp [runToHalt, stepsToStop]
  | succ n ih =>
      rw [runToHalt, stepsToStop_succ]
      by_cases here : isHaltLoop c.rom c.pc = true
      · simp [here]
      · rw [if_neg here, if_neg here]
        show (runToHalt true c.next (Executed.next c :: seen) n).executed = _
        rw [ih, List.range_succ_eq_map, List.map_cons, List.map_map, List.reverse_cons,
          List.append_assoc]
        rfl

end Command

namespace Snapshot

variable {ρ σ : Type} [Bank ρ 14] [Rom σ]

/-- A snapshot shows a computer, with its memory words from an address up to another. -/
structure Depicts (s : Snapshot) (c : Computer ρ σ) (start stop : Nat) : Prop where
  steps : s.steps = c.steps
  cycle : s.cycle = c.now
  registers : s.registers = c.registers
  pc : s.pc = c.pc
  addressM : s.addressM = c.addressM
  addresses : s.ram.map (fun cell => cell.address.toNat) = List.range' start (stop - start)
  words : ∀ cell ∈ s.ram, cell.value = c.peek cell.address

theorem addresses_eq (start count : Nat) :
    addresses start count = List.range' start (min (start + count) 32768 - start) := by
  have stop : min (min (start + count) 65535) Memory.size = min (start + count) 32768 := by
    show min (min (start + count) 65535) 32768 = _
    omega
  rw [addresses, stop]

theorem depicts_snapshot (c : Computer ρ σ) (start count : Nat) :
    (c.snapshot (addresses start count)).Depicts c start (min (start + count) 32768) := by
  constructor
  case addresses =>
    rw [addresses_eq, Computer.snapshot, List.map_map]
    refine (List.map_congr_left fun n member => ?_).trans (List.map_id _)
    have inside : n < 65536 := by
      have place := List.mem_range'_1.mp member
      omega
    simp [Nat.mod_eq_of_lt inside]
  case words =>
    intro cell member
    obtain ⟨n, -, rfl⟩ := List.mem_map.mp member
    rfl
  all_goals rfl

end Snapshot

namespace Command

variable {ρ σ : Type} [Bank ρ 14] [Rom σ] {ρ' σ' : Type} [Bank ρ' 14] [Rom σ']
variable {c : Computer ρ σ} {c' : Computer ρ' σ'} {s : Architecture}

/-- The test for the loop does not tell apart two computers that implement one state. -/
theorem isHaltLoop_congr (shows : c.Implements s) (shows' : c'.Implements s) :
    isHaltLoop c.rom c.pc = isHaltLoop c'.rom c'.pc := by
  rw [Bool.eq_iff_iff, shows.isHaltLoop_iff, shows'.isHaltLoop_iff, shows.pc, shows'.pc]

variable [TimedBank ρ] [KeepsProgram σ] [TimedBank ρ'] [KeepsProgram σ']

theorem stepsToStop_congr (shows : c.Implements s) (shows' : c'.Implements s) (limit : Nat) :
    stepsToStop c limit = stepsToStop c' limit := by
  have same : (fun i => isHaltLoop (c.run i).rom (c.run i).pc) =
      fun i => isHaltLoop (c'.run i).rom (c'.run i).pc :=
    funext fun i => isHaltLoop_congr (shows.run i) (shows'.run i)
  rw [stepsToStop, stepsToStop, same]

/-- Runs that start from one state of the machine of the instruction set end in one. -/
theorem snapshot_run_congr (shows : c.Implements s) (shows' : c'.Implements s) (limit : Nat) :
    (c.run (stepsToStop c limit)).snapshot = (c'.run (stepsToStop c' limit)).snapshot := by
  rw [stepsToStop_congr shows shows' limit]
  have ends := (shows.run (stepsToStop c' limit)).observe
  have ends' := (shows'.run (stepsToStop c' limit)).observe
  exact congrArg Observation.snapshot (ends.trans ends'.symm)

/-! ## The law of a run -/

/-- What a run of a program does on a computer with RAM of the kind `ρ` and an instruction
store of the kind `σ`, however its flags are set.  It starts from the fresh computer with
the last value assigned to each word of RAM; it executes plain steps, up to the first state
below the limit that sits on the loop that ends the program; and what it reports is one
snapshot of the state it stops in, with the stretch of memory that was asked for.  As JSON it
prints this snapshot and nothing else; as text, the lines that tell it behind those of its
trace. -/
def RunLaw (ρ σ : Type) [Bank ρ 14] [Rom σ] (program : Array Word) (options : RunOptions)
    (shown : Snapshot) : Prop :=
  ∃ fresh : Computer ρ σ, Computer.ofProgram? program = .ok fresh ∧
    let start := started options fresh
    let stop := start.run (stepsToStop start options.maxCycles)
    Indistinguishable start (Architecture.loaded program options.ram) ∧
      (∀ a : Word, a.toNat < 16384 → start.peek a = assigned options.ram a.toNat) ∧
      shown.Depicts stop options.dump.start
        (min (options.dump.start + options.dump.count) 32768) ∧
      ∀ flat trace json keep : Bool,
        let asked := { options with flat, trace, json }
        let final := execute asked keep fresh
        final.computer = stop ∧
          (final.halted = true ↔ stepsToStop start options.maxCycles < options.maxCycles) ∧
          reported asked final = shown ∧
          (output asked final =
            if json then (Json.toJson shown).pretty ++ "\n"
            else Outcome.lines (traced asked final ++ report asked final shown)) ∧
          (json = false → Tells (output asked final) (traced asked final) shown
            (verdict options.maxCycles (if final.halted then some stop.pc else none)))

theorem runLaw {program : Array Word} {options : RunOptions}
    {fresh : Computer ρ σ} (built : Computer.ofProgram? program = .ok fresh)
    (inRam : ∀ a ∈ options.ram, a.address.toNat < 16384) {shown : Snapshot}
    (shows : shown = reported options (execute options false fresh)) :
    RunLaw ρ σ program options shown := by
  have first := Computer.implements_of_ofProgram? built
  have start := first.started options inRam
  have runs (asked : RunOptions) (keep : Bool) :
      execute asked keep fresh = runToHalt keep (started asked fresh) [] asked.maxCycles :=
    execute_eq asked keep first.steps
  refine ⟨fresh, built, start.indistinguishable, ?_, ?_, ?_⟩
  · intro a inside
    have place : (Address.ofWord a).toNat = a.toNat := by
      rw [Address.toNat_ofWord]
      omega
    rw [(start.peek_data (by omega : a.toNat < 24576)).2, ← place]
    rfl
  · rw [shows, reported, runs, computer_runToHalt]
    exact Snapshot.depicts_snapshot _ _ _
  · intro flat trace json keep asked final
    have stops : final.computer =
        (started options fresh).run (stepsToStop (started options fresh) options.maxCycles) := by
      rw [show final = _ from runs asked keep]
      exact computer_runToHalt keep _ [] options.maxCycles
    have halts : final.halted = true ↔
        stepsToStop (started options fresh) options.maxCycles < options.maxCycles := by
      rw [show final = _ from runs asked keep]
      exact halted_runToHalt keep _ [] options.maxCycles
    have same : reported asked final = shown := by
      rw [shows, reported, reported, stops, runs options, computer_runToHalt]
    have printed : output asked final =
        if json then (Json.toJson shown).pretty ++ "\n"
        else Outcome.lines (traced asked final ++ report asked final shown) := by
      rw [output_eq, same]
    refine ⟨stops, halts, same, printed, fun text => ?_⟩
    rw [printed, text, ← stops]
    exact tells_lines asked final shown (unbroken_traced asked final)

/-- Computers of any kind report the same of a run. -/
theorem reported_congr {program : Array Word} {options : RunOptions}
    {fresh : Computer ρ σ} (built : Computer.ofProgram? program = .ok fresh)
    {fresh' : Computer ρ' σ'} (built' : Computer.ofProgram? program = .ok fresh')
    (inRam : ∀ a ∈ options.ram, a.address.toNat < 16384) (keep keep' : Bool) :
    reported options (execute options keep fresh) =
      reported options (execute options keep' fresh') := by
  have first := Computer.implements_of_ofProgram? built
  have first' := Computer.implements_of_ofProgram? built'
  have start := first.started options inRam
  have start' := first'.started options inRam
  rw [reported, reported, execute_eq options keep first.steps,
    execute_eq options keep' first'.steps, computer_runToHalt, computer_runToHalt,
    snapshot_run_congr start start']

omit [TimedBank ρ] [KeepsProgram σ] in
/-- Asked for JSON, the program prints the snapshot and nothing else. -/
theorem runOn_json {program : Array Word} {options : RunOptions} {shown : Snapshot}
    (law : RunLaw ρ σ program options shown) (flat trace keep : Bool) :
    ∃ events, runOn ρ σ program { options with flat, trace, json := true } keep =
      .ok ((Json.toJson shown).pretty ++ "\n", events) := by
  obtain ⟨fresh, built, -, -, -, runs⟩ := law
  obtain ⟨-, -, -, printed, -⟩ := runs flat trace true keep
  let asked : RunOptions := { options with flat, trace, json := true }
  refine ⟨runEvents program asked (execute asked keep fresh), ?_⟩
  rw [runOn, built]
  exact congrArg (fun text => Except.ok (text, _)) printed

end Command

/-- **A run executes exactly a prefix of the program's run**, and reports the same on every
kind of RAM and instruction store, with a trace or without, as text or as JSON. -/
theorem runs_execute_exact_prefixes (program : Array Word) (options : Command.RunOptions)
    (fits : program.size ≤ Program.limit)
    (inRam : ∀ a ∈ options.ram, a.address.toNat < 16384) :
    ∃ shown : Snapshot,
      Command.RunLaw Ram16K GateRom program options shown ∧
        Command.RunLaw Ram16K FlatRom program options shown ∧
        Command.RunLaw (FlatBank 14) GateRom program options shown ∧
        Command.RunLaw (FlatBank 14) FlatRom program options shown ∧
        ∀ flat trace logged : Bool, ∃ events,
          Command.runProgram program { options with flat, trace, json := true } logged =
            .ok ((Json.toJson shown).pretty ++ "\n", events) := by
  have gates := Computer.ofProgram?_of_le (ρ := Ram16K) (σ := GateRom) fits
  have gateRam := Computer.ofProgram?_of_le (ρ := Ram16K) (σ := FlatRom) fits
  have gateRom := Computer.ofProgram?_of_le (ρ := FlatBank 14) (σ := GateRom) fits
  have maps := Computer.ofProgram?_of_le (ρ := FlatBank 14) (σ := FlatRom) fits
  have gatesLaw := Command.runLaw gates inRam rfl
  have mapsLaw := Command.runLaw maps inRam (Command.reported_congr gates maps inRam false false)
  refine ⟨_, gatesLaw, ?_, ?_, mapsLaw, ?_⟩
  · exact Command.runLaw gateRam inRam (Command.reported_congr gates gateRam inRam false false)
  · exact Command.runLaw gateRom inRam (Command.reported_congr gates gateRom inRam false false)
  · intro flat trace logged
    rw [Command.runProgram]
    cases flat with
    | true => exact Command.runOn_json mapsLaw true trace _
    | false => exact Command.runOn_json gatesLaw false trace _

/-- A program that copies the first word of RAM to the second, run with two values for the
first. -/
theorem later_assignment_counts :
    let program := #[0x0000#16, 0xFC10#16, 0x0001#16, 0xE308#16, 0x0004#16, 0xEA87#16]
    let options : Command.RunOptions :=
      { program := "copy.hack", ram := [⟨0#16, 5#16⟩, ⟨0#16, 7#16⟩], dump := ⟨0, 2⟩ }
    program.size ≤ Program.limit ∧ (∀ a ∈ options.ram, a.address.toNat < 16384) ∧
      ∃ fresh : GateComputer, Computer.ofProgram? program = .ok fresh ∧
        (Command.started options fresh).peek 0#16 = 7#16 ∧
          ∀ keep, ((Command.reported options (Command.execute options keep fresh)).ram.map
            fun cell => cell.address.toNat) = [0, 1] := by
  intro program options
  have fits : program.size ≤ Program.limit := by decide
  have inRam : ∀ a ∈ options.ram, a.address.toNat < 16384 := by decide
  obtain ⟨shown, ⟨fresh, built, -, words, depicts, runs⟩, -⟩ :=
    runs_execute_exact_prefixes program options fits inRam
  refine ⟨fits, inRam, fresh, built, words 0#16 (by decide), fun keep => ?_⟩
  obtain ⟨-, -, same, -⟩ := runs false false false keep
  rw [same]
  exact depicts.addresses

end NandMachine
