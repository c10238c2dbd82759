/-
# NandMachine.Logic.WordGates -- gates on whole words, and selection trees

Sixteen gates of one kind side by side make a gate on words.  `Word.nand` is the
row of sixteen NAND gates (complementing a word is an exclusive or with sixteen
high wires); the other word gates are wired from it exactly as the single gates
are wired from `Gate.nand`, and `getLsbD_nand` and its companions say that each
of them is the single gate on every wire.

Wide selection is a tree.  `Gate.select` picks one of `2 ^ k` words by `k`
selector wires, the highest wire deciding at the root; `Gate.route` sends a level
to one of `2 ^ k` lines, and `Gate.any` collects `2 ^ k` lines into one.  No tree
looks at the number that its selector stands for; that the selected line is the
line of that number is the content of `select_eq`, `route_eq` and `any_eq_true`.
-/
import NandMachine.Logic.Bus

namespace NandMachine

set_option autoImplicit false

/-! ## Rows of sixteen gates -/

namespace Word

/-- Sixteen NAND gates. -/
@[inline] def nand (a b : Word) : Word := (a &&& b) ^^^ 0xFFFF#16

@[inline] def not (a : Word) : Word := nand a a

@[inline] def and (a b : Word) : Word := not (nand a b)

@[inline] def or (a b : Word) : Word := nand (not a) (not b)

/-- One wire connected to sixteen inputs. -/
@[inline] def fan (s : Signal) : Word := if s then 0xFFFF#16 else 0#16

/-- Selects the word `a` when `sel` is low and `b` when it is high. -/
@[inline] def mux (a b : Word) (sel : Signal) : Word :=
  nand (nand a (fan (Gate.not sel))) (nand b (fan sel))

theorem nand_eq (a b : Word) : nand a b = ~~~(a &&& b) := by
  rw [nand, show (0xFFFF#16 : Word) = BitVec.allOnes 16 from rfl, BitVec.xor_allOnes]

theorem not_eq (a : Word) : not a = ~~~a := by rw [not, nand_eq, BitVec.and_self]

theorem and_eq (a b : Word) : and a b = a &&& b := by
  rw [and, not_eq, nand_eq, BitVec.not_not]

theorem or_eq (a b : Word) : or a b = a ||| b := by
  rw [or, nand_eq, not_eq, not_eq, BitVec.not_and, BitVec.not_not, BitVec.not_not]

theorem mux_eq (a b : Word) (sel : Signal) : mux a b sel = if sel then b else a := by
  have high (w : Word) : w &&& (0xFFFF#16 : Word) = w := BitVec.and_allOnes
  have low (w : Word) : w &&& (0#16 : Word) = 0#16 := BitVec.and_zero
  have top (w : Word) : ~~~(0#16 : Word) &&& w = w := BitVec.allOnes_and
  have top' (w : Word) : w &&& ~~~(0#16 : Word) = w := BitVec.and_allOnes
  cases sel
  · simp only [mux, fan, Gate.not_eq, nand_eq, Bool.not_false, if_true, Bool.false_eq_true,
      if_false, high, low, top', BitVec.not_not]
  · simp only [mux, fan, Gate.not_eq, nand_eq, Bool.not_true, if_true, Bool.false_eq_true,
      if_false, high, low, top, BitVec.not_not]

theorem getLsbD_nand (a b : Word) (i : Nat) (h : i < 16) :
    (nand a b).getLsbD i = Gate.nand (a.getLsbD i) (b.getLsbD i) := by
  simp [nand_eq, Gate.nand_eq, h]

theorem getLsbD_not (a : Word) (i : Nat) (h : i < 16) :
    (not a).getLsbD i = Gate.not (a.getLsbD i) := by
  simp [not_eq, Gate.not_eq, h]

theorem getLsbD_and (a b : Word) (i : Nat) :
    (and a b).getLsbD i = Gate.and (a.getLsbD i) (b.getLsbD i) := by
  simp [and_eq, Gate.and_eq]

theorem getLsbD_or (a b : Word) (i : Nat) :
    (or a b).getLsbD i = Gate.or (a.getLsbD i) (b.getLsbD i) := by
  simp [or_eq, Gate.or_eq]

theorem getLsbD_mux (a b : Word) (sel : Signal) (i : Nat) :
    (mux a b sel).getLsbD i = Gate.mux (a.getLsbD i) (b.getLsbD i) sel := by
  cases sel <;> simp [mux_eq, Gate.mux_eq]

end Word

/-! ## Trees -/

/-- A line of the lower half of `2 ^ (k + 1)` lines. -/
def Half.low {k : Nat} (i : Fin (2 ^ k)) : Fin (2 ^ (k + 1)) :=
  ⟨i.val, by have := i.isLt; omega⟩

/-- A line of the upper half of `2 ^ (k + 1)` lines. -/
def Half.high {k : Nat} (i : Fin (2 ^ k)) : Fin (2 ^ (k + 1)) :=
  ⟨1 <<< k + i.val, by have := i.isLt; rw [Nat.one_shiftLeft]; omega⟩

namespace Gate

variable {n : Nat}

/-- A subtree of a selection tree: the lowest `k` wires of the selector pick one
of the `2 ^ k` words from `first` on. -/
@[specialize] def selectStages (words : Fin (2 ^ n) → Word) (sel : Bus n) :
    (k first : Nat) → first + 2 ^ k ≤ 2 ^ n → Word
  | 0, first, h => words ⟨first, by omega⟩
  | k + 1, first, h =>
      Word.mux (selectStages words sel k first (by have := Nat.two_pow_pos k; omega))
        (selectStages words sel k (first + 1 <<< k) (by rw [Nat.one_shiftLeft]; omega))
        (sel.getLsbD k)

/-- The word of the selected line: a tree of word multiplexers. -/
@[inline] def select (words : Fin (2 ^ n) → Word) (sel : Bus n) : Word :=
  selectStages words sel n 0 (by omega)

/-- The lowest `k` stages of a routing tree, seen from one line: each stage sends
its input down the half in which the line lies. -/
def routeStages (sel : Bus n) (line : Nat) : Nat → Signal → Signal
  | 0, input => input
  | k + 1, input =>
      let halves := demux input (sel.getLsbD k)
      routeStages sel line k (if line.testBit k then halves.2 else halves.1)

/-- The lines of a tree of demultiplexers: the selected line carries the input
and all others are low. -/
def route (input : Signal) (sel : Bus n) (line : Fin (2 ^ n)) : Signal :=
  routeStages sel line.val n input

/-- High when some line is high: a tree of OR gates. -/
def any : (k : Nat) → (Fin (2 ^ k) → Signal) → Signal
  | 0, lines => lines ⟨0, by decide⟩
  | k + 1, lines => or (any k fun i => lines (Half.low i)) (any k fun i => lines (Half.high i))

/-- High when some wire of the eight is high. -/
def any8 (b : Bus 8) : Signal := any 3 fun i => b.getLsbD i.val

/-- High when some wire of a word is high. -/
def any16 (w : Word) : Signal := any 4 fun i => w.getLsbD i.val

/-- The lowest `k + 1` wires of a number, split at the highest of them. -/
theorem mod_two_pow_add_one (x k : Nat) :
    x % 2 ^ (k + 1) = x % 2 ^ k + 2 ^ k * (x.testBit k).toNat := by
  rw [Nat.pow_succ, Nat.mod_mul, Nat.toNat_testBit]

/-- A subtree of a selection tree picks the line that its wires number, counted
from its first. -/
theorem selectStages_eq (words : Fin (2 ^ n) → Word) (sel : Bus n) (k first : Nat)
    (h : first + 2 ^ k ≤ 2 ^ n) :
    selectStages words sel k first h =
      words ⟨first + sel.toNat % 2 ^ k, by have := Nat.mod_lt sel.toNat (Nat.two_pow_pos k); omega⟩ := by
  induction k generalizing first with
  | zero => simp only [selectStages]; congr 1; apply Fin.ext; simp [Nat.mod_one]
  | succ k ih =>
      simp only [selectStages, Word.mux_eq, ih]
      have split : sel.toNat % 2 ^ (k + 1) = _ := mod_two_pow_add_one _ _
      cases hs : sel.getLsbD k <;> rw [BitVec.getLsbD] at hs <;>
        simp only [hs, Bool.toNat_true, Bool.toNat_false, if_true, Bool.false_eq_true, if_false]
          at split ⊢ <;>
        congr 1 <;> apply Fin.ext <;> simp only [Nat.one_shiftLeft] <;> omega

/-- A selection tree picks the line that its selector numbers. -/
theorem select_eq (words : Fin (2 ^ n) → Word) (sel : Bus n) :
    select words sel = words sel.toFin := by
  rw [select, selectStages_eq]
  congr 1
  apply Fin.ext
  simp [Nat.mod_eq_of_lt sel.isLt]

/-- The stages of a routing tree carry the input on the line numbered by their
wires. -/
theorem routeStages_eq (sel : Bus n) (line k : Nat) (input : Signal) :
    routeStages sel line k input = (input && decide (line % 2 ^ k = sel.toNat % 2 ^ k)) := by
  induction k generalizing input with
  | zero => simp [routeStages, Nat.mod_one]
  | succ k ih =>
      have splitLine : line % 2 ^ (k + 1) = _ := mod_two_pow_add_one _ _
      have splitSel : sel.toNat % 2 ^ (k + 1) = _ := mod_two_pow_add_one _ _
      have lineLt := Nat.mod_lt line (Nat.two_pow_pos k)
      have selLt := Nat.mod_lt sel.toNat (Nat.two_pow_pos k)
      rw [routeStages, demux_eq, ih, splitLine, splitSel]
      cases hs : sel.getLsbD k <;> rw [BitVec.getLsbD] at hs <;> cases hl : line.testBit k <;>
        cases input <;> simp [hs] <;> omega

/-- A routing tree raises the line that its selector numbers and no other. -/
theorem route_eq (input : Signal) (sel : Bus n) (line : Fin (2 ^ n)) :
    route input sel line = (input && decide (line = sel.toFin)) := by
  simp [route, routeStages_eq, Nat.mod_eq_of_lt sel.isLt, Nat.mod_eq_of_lt line.isLt, Fin.ext_iff]

/-- An OR tree is high exactly when some line is. -/
theorem any_eq_true (k : Nat) (lines : Fin (2 ^ k) → Signal) :
    any k lines = true ↔ ∃ i, lines i = true := by
  induction k with
  | zero =>
      simp only [any]
      exact ⟨fun h => ⟨_, h⟩, fun ⟨i, h⟩ => by
        have : i = ⟨0, by decide⟩ := Fin.ext (by have := i.isLt; simp at *)
        rwa [this] at h⟩
  | succ k ih =>
      simp only [any, or_eq, Bool.or_eq_true, ih]
      constructor
      · rintro (⟨i, h⟩ | ⟨i, h⟩)
        · exact ⟨_, h⟩
        · exact ⟨_, h⟩
      · rintro ⟨i, h⟩
        by_cases low : i.val < 2 ^ k
        · exact .inl ⟨⟨i.val, low⟩, h⟩
        · refine .inr ⟨⟨i.val - 2 ^ k, by have := i.isLt; omega⟩, ?_⟩
          have : Half.high ⟨i.val - 2 ^ k, by have := i.isLt; omega⟩ = i :=
            Fin.ext (by simp only [Half.high, Nat.one_shiftLeft]; omega)
          rwa [this]

end Gate

end NandMachine
