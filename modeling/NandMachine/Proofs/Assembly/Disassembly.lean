/-
# NandMachine.Proofs.Assembly.Disassembly -- the assembly text tells what the processor does

The assembly text of an instruction word comes from a table of eighteen control fields,
with `M` written for `A` where the operand is the memory word.  The processor knows
nothing of it: it zeroes, complements and adds under single wires.  For every word with a
text of its own (`Instruction.Named`) the two agree.  Read as a statement of the assembly
language, the text says which registers are loaded and with what, what is stored in
memory, and where the program goes on (`Assembly.Statement.Predicts`).

The table is gone through once, in `Assembly.read?_compText`: each expression is read, and
its value is what the arithmetic unit computes under the wires of the field.  Around it
stand the letters of the destinations and of the condition, which are told apart from the
expression by the marks between them.

Two words with one text differ at most in wires that the processor does not use: 14 and
13, and the choice of the operand where the expression has none.  They do the same to
every processor, down to its cells.
-/
import NandMachine.Assembly.Mnemonic
import NandMachine.Proofs.Assembly.Statement
import NandMachine.Proofs.Processor.InstructionSet

namespace NandMachine

set_option autoImplicit false

/-! ## Sums and conjunctions under complements -/

namespace Arithmetic

theorem and_ones (x : Word) : x &&& 0xFFFF#16 = x := BitVec.and_allOnes

theorem ones_and (x : Word) : 0xFFFF#16 &&& x = x := BitVec.allOnes_and

theorem add_ones (x : Word) : x + 0xFFFF#16 = x - 1#16 := by bv_omega

theorem ones_add (x : Word) : 0xFFFF#16 + x = x - 1#16 := by bv_omega

theorem not_sub_one (x : Word) : ~~~(x - 1#16) = -x := by bv_omega

theorem neg_not (x : Word) : -~~~x = x + 1#16 := by bv_omega

theorem not_not_add (x y : Word) : ~~~(~~~x + y) = x - y := by bv_omega

theorem not_add_not (x y : Word) : ~~~(x + ~~~y) = y - x := by bv_omega

theorem not_and_not (x y : Word) : ~~~(~~~x &&& ~~~y) = x ||| y := by simp [BitVec.not_and]

end Arithmetic

/-- Whether an instruction has a text of its own: it loads a constant, or its control
field is one of the table. -/
def Instruction.Named : Instruction → Prop
  | address _ => True
  | compute _ control _ _ => (compExpression control).isSome = true

instance (i : Instruction) : Decidable i.Named :=
  match i with
  | .address _ => .isTrue trivial
  | .compute _ control _ _ => inferInstanceAs (Decidable ((compExpression control).isSome = true))

namespace Assembly

/-! ## Reading the parts of a text -/

/-- None of the marks between the parts stands in a text. -/
def Unmarked (cs : List Char) : Prop := '@' ∉ cs ∧ '=' ∉ cs ∧ ';' ∉ cs

instance (cs : List Char) : Decidable (Unmarked cs) :=
  inferInstanceAs (Decidable ('@' ∉ cs ∧ '=' ∉ cs ∧ ';' ∉ cs))

theorem toList_compText {control : Bus 8} {text : String}
    (named : compExpression control = some text) (fromMemory : Bool) :
    (compText fromMemory control).toList =
      if fromMemory then text.toList.map fun c => if c = 'A' then 'M' else c
      else text.toList := by
  rw [compText, named]
  cases fromMemory with
  | false => rfl
  | true => exact String.toList_map

/-- **Every expression of the table is what the arithmetic unit computes** under the wires
of its field, on D and on A or the memory word. -/
theorem read?_compText {control : Bus 8} (named : (compExpression control).isSome = true)
    (fromMemory : Bool) :
    ∃ expression,
      Expression.read? (compText fromMemory control).toList = some expression ∧
        Unmarked (compText fromMemory control).toList ∧
        ∀ v inM, expression.value v inM =
          Arithmetic.result v.d (if fromMemory then inM else v.a)
            (AluControl.ofBus (control.setWidth 6)) := by
  obtain ⟨text, found⟩ := Option.isSome_iff_exists.mp named
  rw [toList_compText found]
  have self : control = BitVec.ofNat 8 control.toNat := by simp
  unfold compExpression at found
  split at found
  case h_19 => nomatch found
  -- a goal for each row of the table, and two of each for the two operands
  all_goals
    rename_i code
    rw [code] at self
    subst self
    obtain rfl := Option.some.inj found
    cases fromMemory
    all_goals
      refine ⟨_, rfl, by decide, fun v inM => ?_⟩
      simp [Expression.value, Operand.value, Arithmetic.result, Arithmetic.operand,
        AluControl.ofBus, Arithmetic.and_ones, Arithmetic.ones_and, Arithmetic.add_ones,
        Arithmetic.ones_add, Arithmetic.not_sub_one, Arithmetic.neg_not, Arithmetic.not_not_add,
        Arithmetic.not_add_not, Arithmetic.not_and_not]

/-- The letters of a condition, behind their mark. -/
def jumpPart (jump : Jump) : List Char :=
  if jump.mnemonic.isEmpty then [] else ';' :: jump.mnemonic.toList

/-- The letters of the destinations, before their mark. -/
def destPart (dest : Dest) : List Char :=
  if dest.mnemonic.isEmpty then [] else dest.mnemonic.toList ++ ['=']

theorem toList_mnemonic_compute (fromMemory : Bool) (control : Bus 8) (dest : Dest) (jump : Jump) :
    (Instruction.compute fromMemory control dest jump).mnemonic.toList =
      destPart dest ++ ((compText fromMemory control).toList ++ jumpPart jump) := by
  have letters : (if dest.mnemonic.isEmpty then "" else dest.mnemonic ++ "=").toList =
      destPart dest := by
    rw [destPart]
    split
    · rfl
    · exact String.toList_append
  have condition : (if jump.mnemonic.isEmpty then "" else ";" ++ jump.mnemonic).toList =
      jumpPart jump := by
    rw [jumpPart]
    split
    · rfl
    · exact String.toList_append
  rw [Instruction.mnemonic, String.toList_append, String.toList_append, letters, condition,
    List.append_assoc]

theorem unmarked_jump (jump : Jump) : Unmarked jump.mnemonic.toList := by
  cases jump <;> decide

theorem unmarked_dest (dest : Dest) : Unmarked dest.mnemonic.toList := by
  obtain ⟨a, d, m⟩ := dest
  cases a <;> cases d <;> cases m <;> decide

theorem readJump?_mnemonic {jump : Jump} (jumps : jump ≠ .never) :
    readJump? jump.mnemonic.toList = some jump := by
  cases jump with
  | never => exact absurd rfl jumps
  | _ => rfl

theorem readDest?_mnemonic {dest : Dest} (stores : dest ≠ {}) :
    readDest? dest.mnemonic.toList = some dest := by
  obtain ⟨a, d, m⟩ := dest
  revert a d m
  decide

theorem jumpPart_of_ne {jump : Jump} (jumps : jump ≠ .never) :
    jumpPart jump = ';' :: jump.mnemonic.toList := by
  cases jump with
  | never => exact absurd rfl jumps
  | _ => rfl

theorem destPart_of_ne {dest : Dest} (stores : dest ≠ {}) :
    destPart dest = dest.mnemonic.toList ++ ['='] := by
  obtain ⟨a, d, m⟩ := dest
  revert a d m
  decide

/-- The expression and the condition are told apart by the semicolon between them. -/
theorem readComputation?_jumpPart (dest : Dest) (jump : Jump) {cs : List Char}
    (unmarked : Unmarked cs) :
    Statement.readComputation? dest (cs ++ jumpPart jump) =
      (Expression.read? cs).map (Statement.compute dest · jump) := by
  obtain ⟨_, _, plain⟩ := unmarked
  by_cases jumps : jump = .never
  · subst jumps
    have nothing : jumpPart .never = [] := rfl
    rw [nothing, List.append_nil, Statement.readComputation?, List.splitOn_eq_singleton plain]
    show (do return Statement.compute dest (← Expression.read? cs) .never) = _
    cases Expression.read? cs <;> rfl
  · have condition := readJump?_mnemonic jumps
    rw [jumpPart_of_ne jumps, Statement.readComputation?,
      List.splitOn_append_cons_self_of_not_mem plain,
      List.splitOn_eq_singleton (unmarked_jump jump).2.2]
    show (do
      return Statement.compute dest (← Expression.read? cs)
        (← readJump? jump.mnemonic.toList)) = _
    rw [condition]
    cases Expression.read? cs <;> rfl

theorem unmarked_computation (jump : Jump) {cs : List Char} (unmarked : Unmarked cs) :
    '@' ∉ cs ++ jumpPart jump ∧ '=' ∉ cs ++ jumpPart jump := by
  have condition : '@' ∉ jumpPart jump ∧ '=' ∉ jumpPart jump := by cases jump <;> decide
  obtain ⟨at_, equals, _⟩ := unmarked
  simp [at_, equals, condition]

theorem read?_of_compute {cs : List Char} (compute : '@' ∉ cs) :
    Statement.read? cs =
      match cs.splitOn '=' with
      | [computation] => Statement.readComputation? {} computation
      | [letters, computation] => do
          Statement.readComputation? (← readDest? letters) computation
      | _ => none := by
  unfold Statement.read?
  split
  · exact absurd List.mem_cons_self compute
  · rfl

/-- The destinations are told apart from what follows by the equality sign. -/
theorem read?_destPart (dest : Dest) (jump : Jump) {cs : List Char} (unmarked : Unmarked cs) :
    Statement.read? (destPart dest ++ (cs ++ jumpPart jump)) =
      Statement.readComputation? dest (cs ++ jumpPart jump) := by
  obtain ⟨compute, plain⟩ := unmarked_computation jump unmarked
  by_cases stores : dest = {}
  · subst stores
    have nothing : destPart {} = [] := rfl
    rw [nothing, List.nil_append, read?_of_compute compute, List.splitOn_eq_singleton plain]
  · have letters := readDest?_mnemonic stores
    obtain ⟨unmarkedAt, unmarkedEquals, _⟩ := unmarked_dest dest
    have whole : '@' ∉ dest.mnemonic.toList ++ '=' :: (cs ++ jumpPart jump) := by
      intro member
      rcases List.mem_append.mp member with letter | behind
      · exact unmarkedAt letter
      · rcases List.mem_cons.mp behind with mark | rest
        · exact absurd mark (by decide)
        · exact compute rest
    rw [destPart_of_ne stores, List.append_assoc, List.singleton_append, read?_of_compute whole,
      List.splitOn_append_cons_self_of_not_mem unmarkedEquals, List.splitOn_eq_singleton plain]
    show (do
      Statement.readComputation? (← readDest? dest.mnemonic.toList) (cs ++ jumpPart jump)) = _
    rw [letters]
    rfl

theorem readAddress?_toString (a : Address) :
    readAddress? (toString a.toNat).toList = some a := by
  have digits : (toString a.toNat).toList = Nat.toDigits 10 a.toNat := Nat.toList_repr
  have all : (Nat.toDigits 10 a.toNat).all Char.isDigit = true :=
    List.all_eq_true.mpr fun c member =>
      Nat.isDigit_of_mem_toDigits (by decide) (by decide) member
  rw [digits, readAddress?, if_pos ⟨Nat.toDigits_ne_nil, all⟩]
  simp only [Nat.ofDigitChars_ten_toDigits]
  rw [if_pos a.isLt, BitVec.ofNat_toNat, BitVec.setWidth_eq]

/-- The text of a named compute instruction is read as a statement with its destinations
and its condition, and with an expression for what the arithmetic unit computes. -/
theorem read?_compute (fromMemory : Bool) {control : Bus 8} (dest : Dest) (jump : Jump)
    (named : (compExpression control).isSome = true) :
    ∃ expression,
      Statement.read? (Instruction.compute fromMemory control dest jump).mnemonic.toList =
          some (.compute dest expression jump) ∧
        ∀ v inM, expression.value v inM =
          Arithmetic.result v.d (if fromMemory then inM else v.a)
            (AluControl.ofBus (control.setWidth 6)) := by
  obtain ⟨expression, read, unmarked, computes⟩ := read?_compText named fromMemory
  refine ⟨expression, ?_, computes⟩
  rw [toList_mnemonic_compute, read?_destPart dest jump unmarked,
    readComputation?_jumpPart dest jump unmarked, read]
  rfl

theorem read?_address (a : Address) :
    Statement.read? (Instruction.address (Bus.extend a 16)).mnemonic.toList =
      some (.address a) := by
  have number : (Bus.extend a 16).toNat = a.toNat := by
    rw [Bus.extend, BitVec.toNat_setWidth, Nat.mod_eq_of_lt (by have := a.isLt; omega)]
  rw [Instruction.mnemonic, String.toList_append, number]
  show Statement.address <$> readAddress? (toString a.toNat).toList = _
  rw [readAddress?_toString]
  rfl

/-! ## What the processor does -/

/-- Whether the flags meet the condition of a word is whether its result does. -/
theorem holds_eq_meets (w out : Word) :
    (Jump.ofBus (Bus.slice w 0 3)).holds out = InstructionSet.meets w out := by
  have codes : ∀ jump : Jump, jump.holds out =
      ((jump.toBus.getLsbD 2 && decide (out.toInt < 0)) ||
        (jump.toBus.getLsbD 1 && decide (out.toInt = 0)) ||
          (jump.toBus.getLsbD 0 && decide (0 < out.toInt))) := by
    intro jump
    rw [Bool.eq_iff_iff]
    cases jump <;> simp [Jump.holds, Jump.toBus] <;> omega
  rw [codes, Jump.toBus_ofBus, Bus.getLsbD_slice_zero w (by decide : 2 < 3),
    Bus.getLsbD_slice_zero w (by decide : 1 < 3), Bus.getLsbD_slice_zero w (by decide : 0 < 3),
    InstructionSet.meets]

/-- The result of an instruction is that of the arithmetic unit under its control field. -/
theorem result_eq (v : RegisterValues) (inM w : Word) :
    InstructionSet.result v inM w =
      Arithmetic.result v.d (if w.getLsbD 12 then inM else v.a)
        (AluControl.ofBus (((Bus.slice w 6 6).setWidth 8).setWidth 6)) := by
  have field : ((Bus.slice w 6 6).setWidth 8).setWidth 6 = Bus.slice w 6 6 := by simp
  have control : AluControl.ofBus (Bus.slice w 6 6) = _ := Control.alu_ofWord w
  rw [field, control, InstructionSet.result]

/-- The statement that a compute word makes with an expression. -/
def computation (w : Word) (expression : Expression) : Statement :=
  .compute { a := w.getLsbD 5, d := w.getLsbD 4, m := w.getLsbD 3 } expression
    (Jump.ofBus (Bus.slice w 0 3))

theorem read?_of_low {w : Word} (low : w.getLsbD 15 = false) :
    Statement.read? w.mnemonic.toList = some (.address (Address.ofWord w)) := by
  have instruction : Instruction.ofWord w = .address (Bus.extend (Address.ofWord w) 16) := by
    rw [Instruction.ofWord, low, Instruction.and_constant_of_low low, Address.extend_ofWord low]
    rfl
  rw [Word.mnemonic, instruction, read?_address]

theorem read?_of_high {w : Word} (high : w.getLsbD 15 = true)
    (named : (Instruction.ofWord w).Named) :
    ∃ expression, Statement.read? w.mnemonic.toList = some (computation w expression) ∧
      ∀ v inM, expression.value v inM = InstructionSet.result v inM w := by
  have instruction : Instruction.ofWord w = .compute (w.getLsbD 12) ((Bus.slice w 6 6).setWidth 8)
      { a := w.getLsbD 5, d := w.getLsbD 4, m := w.getLsbD 3 } (Jump.ofBus (Bus.slice w 0 3)) := by
    rw [Instruction.ofWord, high]
    rfl
  rw [instruction] at named
  obtain ⟨expression, read, computes⟩ := read?_compute (w.getLsbD 12)
    { a := w.getLsbD 5, d := w.getLsbD 4, m := w.getLsbD 3 } (Jump.ofBus (Bus.slice w 0 3)) named
  refine ⟨expression, ?_, fun v inM => ?_⟩
  · rw [Word.mnemonic, instruction, read, computation]
  · rw [computes, result_eq]

theorem execute_of_low {w : Word} (low : w.getLsbD 15 = false) (v : RegisterValues) (inM : Word)
    (reset : Bool) :
    InstructionSet.execute v inM w reset =
      (Statement.address (Address.ofWord w)).execute v inM reset := by
  rw [InstructionSet.execute, low, Statement.execute, Address.extend_ofWord low]
  rfl

theorem execute_of_high {w : Word} (high : w.getLsbD 15 = true) {expression : Expression}
    (computes : ∀ v inM, expression.value v inM = InstructionSet.result v inM w)
    (v : RegisterValues) (inM : Word) (reset : Bool) :
    InstructionSet.execute v inM w reset = (computation w expression).execute v inM reset := by
  rw [InstructionSet.execute, high, computation, Statement.execute]
  simp only [computes, holds_eq_meets, Bool.true_and, if_true]

/-! ## What leaves the processor -/

end Assembly

/-- The word that leaves the processor for memory, if one does. -/
def CpuOutput.stored? (out : CpuOutput) : Option Word :=
  if out.writeM then some out.outM else none

namespace Assembly

/-- What a statement says of the step that a processor makes with an instruction word:
the registers after it, the word that goes to memory, and the two addresses that leave
the processor. -/
structure Statement.Predicts (s : Statement) (cpu : Cpu) (inM w : Word) (reset : Signal) :
    Prop where
  registers : (cpu.step inM w reset).1.values = s.execute cpu.values inM reset
  stored : (cpu.step inM w reset).2.stored? = s.stored? cpu.values inM
  addressM : (cpu.step inM w reset).2.addressM =
    Address.ofWord (s.execute cpu.values inM reset).a
  pc : (cpu.step inM w reset).2.pc = Address.ofWord (s.execute cpu.values inM reset).pc

/-- A statement predicts the step when it does what the instruction set says. -/
theorem Statement.predicts_of_execute {s : Statement} {cpu : Cpu} {inM w : Word} {reset : Signal}
    (registers : InstructionSet.execute cpu.values inM w reset = s.execute cpu.values inM reset)
    (stored : (InstructionSet.output cpu.values inM w reset).stored? = s.stored? cpu.values inM) :
    s.Predicts cpu inM w reset := by
  constructor
  case registers => rw [Cpu.values_step, registers]
  case stored => rw [Cpu.output_step, stored]
  case addressM => rw [Cpu.output_step, ← registers, InstructionSet.output]
  case pc => rw [Cpu.output_step, ← registers, InstructionSet.output]

theorem predicts_of_low {w : Word} (low : w.getLsbD 15 = false) (cpu : Cpu) (inM : Word)
    (reset : Signal) : (Statement.address (Address.ofWord w)).Predicts cpu inM w reset := by
  apply Statement.predicts_of_execute
  · exact execute_of_low low cpu.values inM reset
  · rw [CpuOutput.stored?, InstructionSet.output, InstructionSet.stores, low]
    rfl

theorem predicts_of_high {w : Word} (high : w.getLsbD 15 = true) {expression : Expression}
    (computes : ∀ v inM, expression.value v inM = InstructionSet.result v inM w) (cpu : Cpu)
    (inM : Word) (reset : Signal) : (computation w expression).Predicts cpu inM w reset := by
  apply Statement.predicts_of_execute
  · exact execute_of_high high computes cpu.values inM reset
  · rw [CpuOutput.stored?, InstructionSet.output, InstructionSet.stores, high, ← computes]
    rfl

/-! ## Words with one text -/

/-- Two compute words with one text have one statement, and so one result, one condition
and the same destinations. -/
theorem step_eq_of_high {w w' : Word} (high : w.getLsbD 15 = true) (high' : w'.getLsbD 15 = true)
    (named : (Instruction.ofWord w).Named) (named' : (Instruction.ofWord w').Named)
    (text : w.mnemonic = w'.mnemonic) (cpu : Cpu) (inM : Word) (reset : Signal) :
    cpu.step inM w reset = cpu.step inM w' reset := by
  obtain ⟨expression, read, computes⟩ := read?_of_high high named
  obtain ⟨expression', read', computes'⟩ := read?_of_high high' named'
  have same : computation w expression = computation w' expression' := by
    rw [text, read'] at read
    exact (Option.some.inj read).symm
  have values : InstructionSet.execute cpu.values inM w reset =
      InstructionSet.execute cpu.values inM w' reset := by
    rw [execute_of_high high computes, execute_of_high high' computes', same]
  rw [computation, computation, Statement.compute.injEq, Dest.mk.injEq] at same
  obtain ⟨⟨_, _, destM⟩, rfl, _⟩ := same
  have out : InstructionSet.output cpu.values inM w reset =
      InstructionSet.output cpu.values inM w' reset := by
    rw [InstructionSet.output, InstructionSet.output, values, ← computes, ← computes',
      InstructionSet.stores, InstructionSet.stores, high, high', destM]
  exact cpu.step_congr inM reset values out

/-- A constant is written in full, so two address words with one text are one word. -/
theorem eq_of_low {w w' : Word} (low : w.getLsbD 15 = false) (low' : w'.getLsbD 15 = false)
    (text : w.mnemonic = w'.mnemonic) : w = w' := by
  have read := read?_of_low low
  rw [text, read?_of_low low'] at read
  have same : Address.ofWord w' = Address.ofWord w :=
    Statement.address.inj (Option.some.inj read)
  rw [← Address.extend_ofWord low, ← Address.extend_ofWord low', same]

theorem step_eq_of_mnemonic_eq {w w' : Word} (named : (Instruction.ofWord w).Named)
    (named' : (Instruction.ofWord w').Named) (text : w.mnemonic = w'.mnemonic) (cpu : Cpu)
    (inM : Word) (reset : Signal) : cpu.step inM w reset = cpu.step inM w' reset := by
  cases top : w.getLsbD 15 <;> cases top' : w'.getLsbD 15
  case false.false => rw [eq_of_low top top' text]
  case true.true => exact step_eq_of_high top top' named named' text cpu inM reset
  -- one text cannot be read both as an address statement and as a computation
  case false.true =>
    obtain ⟨expression, read, _⟩ := read?_of_high top' named'
    rw [← text, read?_of_low top] at read
    nomatch read
  case true.false =>
    obtain ⟨expression, read, _⟩ := read?_of_high top named
    rw [text, read?_of_low top'] at read
    nomatch read

end Assembly

/-- **The assembly text of an instruction says what the processor does with it.**  For
every word with a text of its own, that text is a statement of the assembly language; the
statement predicts the step of every processor, with every memory word and reset line; and
every other such word with the same text does the same to every processor. -/
theorem assembly_text_predicts_execution (w : Word) (named : (Instruction.ofWord w).Named) :
    (∃ s : Assembly.Statement, Assembly.Statement.read? w.mnemonic.toList = some s ∧
      ∀ (cpu : Cpu) (inM : Word) (reset : Signal), s.Predicts cpu inM w reset) ∧
    ∀ w' : Word, (Instruction.ofWord w').Named → w.mnemonic = w'.mnemonic →
      ∀ (cpu : Cpu) (inM : Word) (reset : Signal),
        cpu.step inM w reset = cpu.step inM w' reset := by
  constructor
  · cases top : w.getLsbD 15 with
    | false =>
        exact ⟨_, Assembly.read?_of_low top, Assembly.predicts_of_low top⟩
    | true =>
        obtain ⟨expression, read, computes⟩ := Assembly.read?_of_high top named
        exact ⟨_, read, Assembly.predicts_of_high top computes⟩
  · intro w' named' text cpu inM reset
    exact Assembly.step_eq_of_mnemonic_eq named named' text cpu inM reset

/-- `D=D+1;JLT` is the text of a word and of the word that differs from it in wires 14, 13
and 12. -/
theorem unused_wires_have_no_text :
    (Instruction.ofWord 0xE7D4#16).Named ∧ (Instruction.ofWord 0x97D4#16).Named ∧
      ∀ (cpu : Cpu) (inM : Word) (reset : Signal),
        cpu.step inM 0xE7D4#16 reset = cpu.step inM 0x97D4#16 reset := by
  have named : (Instruction.ofWord 0xE7D4#16).Named := by decide
  have named' : (Instruction.ofWord 0x97D4#16).Named := by decide
  exact ⟨named, named', (assembly_text_predicts_execution _ named).2 _ named' (by decide +kernel)⟩

end NandMachine
