/-
# NandMachine.Proofs.Storage.History -- what a part shows after a history of drives

A history is a list of drives, each in a cycle of its own choice.  `Clocked.history?`
makes them one after the other and collects what they answer.  It refuses only a drive in
the last cycle, so histories that end before it are made in full
(`Clocked.history?_of_inTime`).

A part that fades (`Clocked.Fades`) keeps nothing by itself.  Driven at `now`, it shows in
the next cycle what its lines chose from what it showed, and from then on its value of rest.
So when cycles never go back, what it shows at a cycle is settled by the cycle before: by
the last drive made in it, or, if there was none, by the start of the history, which counts
in its own cycle and no longer.  `Drive.recorded` says this as a recursion on the cycle that
mentions no state of any part, and `Clocked.Fades.read_after` says that a part shows it.

Cells fade, and so does the program counter, as one word.  Its lines choose from the count that
it shows, which all drives of a cycle find unchanged; so a history in which several drives of a
cycle ask for an increment counts once for them.

The induction is on the history from its end.  What carries it is that a drive leaves its
own cycle alone and fixes every later one, and that the record of a cycle does not depend on
drives made in it or afterwards (`Drive.recorded_append`).
-/
import Mathlib.Data.List.Induction
import NandMachine.Proofs.Machine.EdgeDiscipline
import NandMachine.Proofs.Storage.Timing

namespace NandMachine

set_option autoImplicit false

/-- A drive of a part: its cycle and the signals on the lines. -/
structure Drive (ι : Type) where
  cycle : Cycle
  lines : ι

/-! ## Making a history -/

namespace Clocked

variable {σ ι α υ : Type} (part : Clocked σ ι α υ)

/-- The part after a history. -/
def after (state : σ) (drives : List (Drive ι)) : σ :=
  drives.foldl (fun state d => part.drive state d.cycle d.lines) state

/-- What the drives of a history answer. -/
def answers (state : σ) : List (Drive ι) → List υ
  | [] => []
  | d :: rest =>
      part.answer state d.cycle d.lines :: answers (part.drive state d.cycle d.lines) rest

/-- Makes the drives of a history in order, each unless it is refused. -/
def history? (state : σ) : List (Drive ι) → Except Fault (σ × List υ)
  | [] => return (state, [])
  | d :: rest => do
      let next ← Cycle.driven? d.cycle (part.drive state d.cycle d.lines)
      let (final, given) ← history? next rest
      return (final, part.answer state d.cycle d.lines :: given)

theorem after_concat (state : σ) (past : List (Drive ι)) (d : Drive ι) :
    part.after state (past ++ [d]) = part.drive (part.after state past) d.cycle d.lines := by
  rw [after, List.foldl_append]
  rfl

theorem answers_concat (state : σ) (past : List (Drive ι)) (d : Drive ι) :
    part.answers state (past ++ [d]) =
      part.answers state past ++ [part.answer (part.after state past) d.cycle d.lines] := by
  induction past generalizing state with
  | nil => rfl
  | cons c rest ih =>
      rw [List.cons_append, answers, ih]
      rfl

/-- Before the last cycle no drive is refused. -/
theorem history?_of_inTime (state : σ) (drives : List (Drive ι))
    (inTime : ∀ d ∈ drives, d.cycle < Cycle.last) :
    part.history? state drives = .ok (part.after state drives, part.answers state drives) := by
  induction drives generalizing state with
  | nil => rfl
  | cons d rest ih =>
      have early : d.cycle < Cycle.last := inTime d List.mem_cons_self
      have tail := ih (part.drive state d.cycle d.lines) fun c member =>
        inTime c (List.mem_cons_of_mem d member)
      rw [history?, Cycle.driven?_of_lt early]
      simp only [bind, Except.bind, tail]
      rfl

end Clocked

/-! ## The record of a history -/

namespace Drive

variable {ι υ : Type}

/-- The lines of the last drive that a history makes in a cycle. -/
def last? (drives : List (Drive ι)) (now : Cycle) : Option ι :=
  (drives.reverse.find? (·.cycle = now)).map lines

/-- A history from `start` on and before the last cycle, in which cycles never go back. -/
structure Orderly (start : Cycle) (drives : List (Drive ι)) : Prop where
  sorted : drives.Pairwise fun c d => c.cycle ≤ d.cycle
  since : ∀ d ∈ drives, start ≤ d.cycle
  inTime : ∀ d ∈ drives, d.cycle < Cycle.last

/-- What a history records for a cycle: what the last drive of the cycle before chose from
the record of that cycle.  Without such a drive it is `initial` in the cycle `start`, and
`rest` in any other. -/
def recorded (chosen : ι → υ → υ) (start : Cycle) (initial rest : υ) (drives : List (Drive ι)) :
    Cycle → υ
  | 0 => if start = 0 then initial else rest
  | t + 1 =>
      match last? drives t with
      | some lines => chosen lines (recorded chosen start initial rest drives t)
      | none => if start = t + 1 then initial else rest

theorem last?_append {past later : List (Drive ι)} {t : Cycle}
    (apart : ∀ d ∈ later, d.cycle ≠ t) : last? (past ++ later) t = last? past t := by
  have none_later : later.reverse.find? (·.cycle = t) = none := by
    rw [List.find?_eq_none]
    intro d member
    simpa using apart d (List.mem_reverse.mp member)
  rw [last?, List.reverse_append, List.find?_append, none_later, Option.none_or, last?]

theorem last?_eq_none {drives : List (Drive ι)} {t : Cycle}
    (apart : ∀ d ∈ drives, d.cycle ≠ t) : last? drives t = none :=
  @last?_append ι [] drives t apart

theorem last?_concat (past : List (Drive ι)) (d : Drive ι) :
    last? (past ++ [d]) d.cycle = some d.lines := by
  simp [last?]

variable {chosen : ι → υ → υ} {start : Cycle} {initial rest : υ}

/-- The record of a cycle is not touched by drives made in it or afterwards. -/
theorem recorded_append {past later : List (Drive ι)} {t : Cycle}
    (ahead : ∀ d ∈ later, t ≤ d.cycle) :
    recorded chosen start initial rest (past ++ later) t =
      recorded chosen start initial rest past t := by
  induction t with
  | zero => rfl
  | succ t ih =>
      have apart : ∀ d ∈ later, d.cycle ≠ t := fun d member =>
        Nat.ne_of_gt (ahead d member)
      have before := ih fun d member => Nat.le_of_succ_le (ahead d member)
      rw [recorded, recorded, last?_append apart, before]

/-- The last drive of a history decides the record of the next cycle. -/
theorem recorded_next (past : List (Drive ι)) (d : Drive ι) :
    recorded chosen start initial rest (past ++ [d]) (d.cycle + 1) =
      chosen d.lines (recorded chosen start initial rest past d.cycle) := by
  have here : ∀ c ∈ [d], d.cycle ≤ c.cycle := by
    intro c member
    rw [List.mem_singleton.mp member]
  rw [recorded, last?_concat, recorded_append here]

/-- More than one cycle after the last drive nothing is recorded any more. -/
theorem recorded_gone {drives : List (Drive ι)} {t : Cycle}
    (past : ∀ d ∈ drives, d.cycle < t) (begun : start ≤ t) :
    recorded chosen start initial rest drives (t + 1) = rest := by
  have none_there : last? drives t = none :=
    last?_eq_none fun d member => Nat.ne_of_lt (past d member)
  rw [recorded, none_there]
  exact if_neg (Nat.ne_of_lt (Nat.lt_succ_of_le begun))

theorem Orderly.of_append {past later : List (Drive ι)} (orderly : Orderly start (past ++ later)) :
    Orderly start past where
  sorted := (List.pairwise_append.mp orderly.sorted).1
  since d member := orderly.since d (List.mem_append_left later member)
  inTime d member := orderly.inTime d (List.mem_append_left later member)

theorem Orderly.le_last {past : List (Drive ι)} {d : Drive ι}
    (orderly : Orderly start (past ++ [d])) : ∀ c ∈ past, c.cycle ≤ d.cycle := by
  intro c member
  exact (List.pairwise_append.mp orderly.sorted).2.2 c member d (List.mem_singleton_self d)

end Drive

/-! ## Parts that fade -/

namespace Clocked

variable {σ ι υ : Type}

/-- A part of one place that shows, driven at `now`, what it showed until then, in the next
cycle what its lines chose from it, and `rest` afterwards. -/
structure Fades (part : Clocked σ ι Unit υ) (chosen : ι → υ → υ) (rest : υ) : Prop where
  answer_eq_read : ∀ (state : σ) (now : Cycle) (lines : ι),
    part.answer state now lines = part.read state now ()
  read_drive : ∀ (state : σ) (now t : Cycle) (lines : ι),
    part.read (part.drive state now lines) t () =
      if t ≤ now then part.read state now ()
      else if t = now + 1 then chosen lines (part.read state now ())
      else rest

/-- From the cycle `start` on, what every orderly history of drives on `state` answers and
leaves visible is its record. -/
def ShowsRecord (part : Clocked σ ι Unit υ) (chosen : ι → υ → υ) (rest : υ) (state : σ)
    (start : Cycle) (initial : υ) : Prop :=
  ∀ drives : List (Drive ι), Drive.Orderly start drives →
    ∃ final : σ,
      part.history? state drives =
          .ok (final, drives.map fun d =>
            Drive.recorded chosen start initial rest drives d.cycle) ∧
        ∀ t, start ≤ t → (∀ d ∈ drives, d.cycle ≤ t) →
          part.read final t () = Drive.recorded chosen start initial rest drives t

namespace Fades

variable {part : Clocked σ ι Unit υ} {chosen : ι → υ → υ} {rest initial : υ} {start : Cycle}
  {state : σ}

theorem read_after (fades : part.Fades chosen rest)
    (fresh : ∀ t, start ≤ t → part.read state t () = if t = start then initial else rest)
    (drives : List (Drive ι)) (orderly : Drive.Orderly start drives) (t : Cycle)
    (begun : start ≤ t) (past : ∀ d ∈ drives, d.cycle ≤ t) :
    part.read (part.after state drives) t () =
      Drive.recorded chosen start initial rest drives t := by
  induction drives using List.reverseRecOn generalizing t with
  | nil =>
      have shown : part.read (part.after state []) t () = if t = start then initial else rest :=
        fresh t begun
      rw [shown]
      cases t with
      | zero => simp only [Drive.recorded, eq_comm]
      | succ t => simp only [Drive.recorded, Drive.last?_eq_none (List.forall_mem_nil _), eq_comm]
  | append_singleton earlier d ih =>
      have since : start ≤ d.cycle := orderly.since d (by simp)
      have reached : d.cycle ≤ t := past d (by simp)
      have now := ih orderly.of_append d.cycle since orderly.le_last
      rw [part.after_concat, fades.read_drive, now]
      rcases Nat.lt_or_eq_of_le reached with later | here
      · rw [if_neg (Nat.not_le_of_lt later)]
        by_cases next : t = d.cycle + 1
        · rw [if_pos next, next, Drive.recorded_next]
        · have beyond : d.cycle + 1 < t := Nat.lt_of_le_of_ne later (Ne.symm next)
          cases t with
          | zero => exact absurd beyond (Nat.not_lt_zero _)
          | succ s =>
              have missed : d.cycle < s := Nat.lt_of_succ_lt_succ beyond
              have gone : ∀ c ∈ earlier ++ [d], c.cycle < s := by
                intro c member
                rcases List.mem_append.mp member with before | last
                · exact Nat.lt_of_le_of_lt (orderly.le_last c before) missed
                · rw [List.mem_singleton.mp last]
                  exact missed
              rw [if_neg next, Drive.recorded_gone gone (Nat.le_trans since (Nat.le_of_lt missed))]
      · subst here
        rw [if_pos (Nat.le_refl d.cycle), Drive.recorded_append (by simp)]

theorem answers_eq (fades : part.Fades chosen rest)
    (fresh : ∀ t, start ≤ t → part.read state t () = if t = start then initial else rest)
    (drives : List (Drive ι)) (orderly : Drive.Orderly start drives) :
    part.answers state drives =
      drives.map fun d => Drive.recorded chosen start initial rest drives d.cycle := by
  induction drives using List.reverseRecOn with
  | nil => rfl
  | append_singleton earlier d ih =>
      have since : start ≤ d.cycle := orderly.since d (by simp)
      -- what the earlier drives answered is not touched by the last one
      have kept : ∀ c ∈ earlier,
          Drive.recorded chosen start initial rest (earlier ++ [d]) c.cycle =
            Drive.recorded chosen start initial rest earlier c.cycle := by
        intro c member
        exact Drive.recorded_append (by simpa using orderly.le_last c member)
      have last : part.answer (part.after state earlier) d.cycle d.lines =
          Drive.recorded chosen start initial rest (earlier ++ [d]) d.cycle := by
        rw [fades.answer_eq_read,
          fades.read_after fresh earlier orderly.of_append d.cycle since orderly.le_last,
          Drive.recorded_append (by simp)]
      rw [part.answers_concat, ih orderly.of_append, last, List.map_append,
        List.map_congr_left kept]
      rfl

theorem showsRecord (fades : part.Fades chosen rest)
    (fresh : ∀ t, start ≤ t → part.read state t () = if t = start then initial else rest) :
    part.ShowsRecord chosen rest state start initial := by
  intro drives orderly
  refine ⟨part.after state drives, ?_, fades.read_after fresh drives orderly⟩
  rw [part.history?_of_inTime state drives orderly.inTime, fades.answers_eq fresh drives orderly]

end Fades

end Clocked

/-! ## Cells -/

namespace Cell

/-- What a drive chooses from the level that a cell shows: the level on its line if the load
line is high, and else the level shown. -/
def Lines.chosen (lines : Lines) (shown : Signal) : Signal :=
  if lines.load then lines.level else shown

theorem fades : Cell.clocked.Fades Lines.chosen false := by
  constructor
  · intro c now lines
    rfl
  · intro c now t lines
    exact c.read_drive now t lines.load lines.level

theorem read_preset_since (start : Cycle) (level : Signal) (t : Cycle) (begun : start ≤ t) :
    (preset start level).read t = if t = start then level else false := by
  rw [read_preset_at]
  by_cases here : t = start
  · rw [if_pos (Nat.le_of_eq here), if_pos here]
  · have later : start < t := Nat.lt_of_le_of_ne begun (Ne.symm here)
    rw [if_neg (Nat.not_le_of_lt later), if_neg here]

end Cell

/-- **A cell shows what the last drive of the cycle before chose.**  Without such a drive it
shows the level that it was preset to, in the cycle of the preset, and is low in any other;
and every drive answers what the cell shows in its cycle.  A new cell is one that starts at
cycle 0 with a low level. -/
theorem cells_show_their_last_drive :
    Cell.clocked.ShowsRecord Cell.Lines.chosen false ({} : Cell) 0 false ∧
      ∀ (start : Cycle) (level : Signal),
        Cell.clocked.ShowsRecord Cell.Lines.chosen false (Cell.preset start level) start level := by
  constructor
  · apply Cell.fades.showsRecord
    intro t begun
    exact Cell.read_preset_since 0 false t begun
  · intro start level
    apply Cell.fades.showsRecord
    intro t begun
    exact Cell.read_preset_since start level t begun

/-- Preset in cycle 3, held in cycles 3 and 4 and left alone afterwards. -/
example :
    let holds : List (Drive Cell.Lines) :=
      [⟨3, { level := false, load := false }⟩, ⟨4, { level := false, load := false }⟩]
    [3, 4, 5, 6].map (Drive.recorded Cell.Lines.chosen 3 true false holds) =
      [true, true, true, false] := by
  decide

/-! ## The program counter -/

namespace Counter

/-- What a drive chooses from the count that a counter shows.  A reset comes before a load, a
load before an increment, which is modulo `2 ^ 16`, and without any of them the count stays. -/
def Lines.chosen (lines : Lines) (count : Word) : Word :=
  if lines.reset then 0#16
  else if lines.load then lines.input
  else if lines.inc then count + 1#16
  else count

/-- The register is loaded in every drive, with the word that the lines choose. -/
theorem fades : Counter.clocked.Fades Lines.chosen 0#16 := by
  constructor
  · intro c now lines
    rfl
  · intro c now t lines
    have loaded : chosen (c.read now) lines.input lines.load lines.inc lines.reset =
        lines.chosen (c.read now) := chosen_eq _ _ _ _ _
    show (c.register.drive now true _).read t = _
    rw [Register.read_drive, if_pos rfl, loaded]
    rfl

end Counter

/-- **A counter shows the count that the last drive of the cycle before chose**, and zero
without such a drive; and every drive answers the count of its own cycle. -/
theorem counters_show_their_last_drive :
    Counter.clocked.ShowsRecord Counter.Lines.chosen 0#16 ({} : Counter) 0 0#16 := by
  apply Counter.fades.showsRecord
  intro t _
  rw [ite_self]
  exact Register.read_fresh t

/-- Loaded with the largest count, incremented by two drives of one cycle, left alone for a
cycle, and incremented again. -/
example :
    let stepped : Counter.Lines := { input := 7#16, load := false, inc := true, reset := false }
    let drives : List (Drive Counter.Lines) :=
      [⟨0, { stepped with input := 0xFFFF#16, load := true }⟩, ⟨1, stepped⟩, ⟨1, stepped⟩,
        ⟨2, stepped⟩, ⟨4, stepped⟩]
    [0, 1, 2, 3, 4, 5].map (Drive.recorded Counter.Lines.chosen 0 0#16 0#16 drives) =
      [0#16, 0xFFFF#16, 0#16, 1#16, 0#16, 1#16] := by
  decide

end NandMachine
