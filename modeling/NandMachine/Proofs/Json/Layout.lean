/-
# NandMachine.Proofs.Json.Layout -- the two written forms as one writer

The compact and the pretty form of a value differ only in the blanks between its
parts.  A `Layout` says what those blanks are, and `Layout.chars` writes a value
in any layout; `compactChars_eq` and `prettyChars_eq` say that both printers are
this writer, so a fact about reading is proved once and holds for both.

The writer follows the reader and not the printers: `items` and `entries` write
what stands after an opening bracket up to the bracket that closes it.
-/
import NandMachine.Json.Printer
import NandMachine.Proofs.Json.Numeral

namespace NandMachine.Json

set_option autoImplicit false

/-- The blanks of a written value: before each part at a level, and between a key
and its value. -/
structure Layout where
  line : Nat → List Char
  gap : List Char
  blank_line : ∀ level, Blank (line level)
  blank_gap : Blank gap

namespace Layout

mutual

/-- A value in a layout, inside a given level. -/
def chars (l : Layout) (level : Nat) : Json → List Char
  | null => "null".toList
  | bool b => if b then "true".toList else "false".toList
  | integer i => (toString i).toList
  | decimal literal => literal.toList
  | string s => quoted s
  | array items => '[' :: l.items level items
  | object entries => '\x7b' :: l.entries level entries

/-- The items of an array and its closing bracket. -/
def items (l : Layout) (level : Nat) : List Json → List Char
  | [] => [']']
  | [item] => l.line (level + 1) ++ (l.chars (level + 1) item ++ (l.line level ++ [']']))
  | item :: next :: rest =>
      l.line (level + 1) ++ (l.chars (level + 1) item ++ ',' :: l.items level (next :: rest))

/-- The entries of an object and its closing brace. -/
def entries (l : Layout) (level : Nat) : List (String × Json) → List Char
  | [] => ['\x7d']
  | [(key, value)] => l.line (level + 1) ++ (quoted key ++ ':' :: (l.gap ++
      (l.chars (level + 1) value ++ (l.line level ++ ['\x7d']))))
  | (key, value) :: next :: rest => l.line (level + 1) ++ (quoted key ++ ':' :: (l.gap ++
      (l.chars (level + 1) value ++ ',' :: l.entries level (next :: rest))))

end

/-- No blanks at all. -/
def compact : Layout where
  line _ := []
  gap := []
  blank_line _ := by simp [Blank]
  blank_gap := by simp [Blank]

/-- A line for each part, indented by its level. -/
def pretty : Layout where
  line := newLine
  gap := [' ']
  blank_line level c member := by
    rcases List.mem_cons.mp member with rfl | indent
    · decide
    · rw [List.eq_of_mem_replicate indent]; decide
  blank_gap := by simp [Blank, isBlank]

end Layout

/-! ## The compact form -/

mutual

theorem compactChars_eq (level : Nat) : ∀ j, compactChars j = Layout.compact.chars level j
  | null | bool _ | integer _ | decimal _ | string _ => rfl
  | array items => by
      rw [compactChars, Layout.chars, List.cons_append, compactItems_eq level items]
  | object entries => by
      rw [compactChars, Layout.chars, List.cons_append, compactEntries_eq level entries]

theorem compactItems_eq (level : Nat) :
    ∀ items, compactItems items ++ [']'] = Layout.compact.items level items
  | [] => rfl
  | [item] => by
      rw [compactItems, Layout.items, compactChars_eq (level + 1) item]
      simp [Layout.compact]
  | item :: next :: rest => by
      rw [compactItems, Layout.items, ← compactItems_eq level (next :: rest),
        compactChars_eq (level + 1) item]
      · simp [Layout.compact]
      · simp

theorem compactEntries_eq (level : Nat) :
    ∀ entries, compactEntries entries ++ ['\x7d'] = Layout.compact.entries level entries
  | [] => rfl
  | [(key, value)] => by
      rw [compactEntries, Layout.entries, compactChars_eq (level + 1) value]
      simp [Layout.compact]
  | (key, value) :: next :: rest => by
      rw [compactEntries, Layout.entries, ← compactEntries_eq level (next :: rest),
        compactChars_eq (level + 1) value]
      · simp [Layout.compact]
      · simp

end

/-! ## The pretty form -/

mutual

theorem prettyChars_eq (level : Nat) : ∀ j, prettyChars level j = Layout.pretty.chars level j
  | null | bool _ | integer _ | decimal _ | string _ | array [] | object [] => rfl
  | array (item :: rest) => by
      rw [prettyChars, Layout.chars, List.cons_append, List.cons_append, List.append_assoc,
        prettyItems_eq level (item :: rest) (by simp)]
      simp
  | object (entry :: rest) => by
      rw [prettyChars, Layout.chars, List.cons_append, List.cons_append, List.append_assoc,
        prettyEntries_eq level (entry :: rest) (by simp)]
      simp

theorem prettyItems_eq (level : Nat) : ∀ items, items ≠ [] →
    prettyItems (level + 1) items ++ (newLine level ++ [']']) = Layout.pretty.items level items
  | [], nonempty => absurd rfl nonempty
  | [item], _ => by
      rw [prettyItems, Layout.items, prettyChars_eq (level + 1) item]
      simp [Layout.pretty]
  | item :: next :: rest, _ => by
      rw [prettyItems, Layout.items, ← prettyItems_eq level (next :: rest) (by simp),
        prettyChars_eq (level + 1) item]
      · simp [Layout.pretty]
      · simp

theorem prettyEntries_eq (level : Nat) : ∀ entries, entries ≠ [] →
    prettyEntries (level + 1) entries ++ (newLine level ++ ['\x7d']) =
      Layout.pretty.entries level entries
  | [], nonempty => absurd rfl nonempty
  | [(key, value)], _ => by
      rw [prettyEntries, Layout.entries, prettyChars_eq (level + 1) value]
      simp [Layout.pretty]
  | (key, value) :: next :: rest, _ => by
      rw [prettyEntries, Layout.entries, ← prettyEntries_eq level (next :: rest) (by simp),
        prettyChars_eq (level + 1) value]
      · simp [Layout.pretty]
      · simp

end

end NandMachine.Json
