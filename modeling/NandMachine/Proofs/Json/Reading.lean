/-
# NandMachine.Proofs.Json.Reading -- what is written is read back

A value whose numbers are all whole (`Whole`) is read back from its text in any
layout, and so from both printed forms (`parse?_compact`, `parse?_pretty`).

The induction is on the value, one case for each kind, with arrays and objects up
to their closing bracket.  Two things carry it.  What follows a value must not
extend it, which only a number could let happen (`EndsNumber`).  And the budget
of the reader covers the text: each nested value and each further item is shorter
by at least one bracket or comma, so the length of the text is enough
(`value?_chars`).
-/
import NandMachine.Proofs.Json.Layout

namespace NandMachine.Json

set_option autoImplicit false

/-! ## Strings -/

theorem hex4?_escapeDigits {c : Char} (control : c.toNat < 0x20) (cs : List Char) :
    hex4? (escapeDigits c ++ cs) = some (c.toNat, cs) := by
  have each : ∀ n < 0x20, Text.padLeft 4 '0' (Nat.toDigits 16 n) =
      ['0', '0', Nat.digitChar (n / 16), Nat.digitChar (n % 16)] := by decide
  have digit : ∀ k < 16, hexDigit? (Nat.digitChar k) = some k := by decide
  have zero : hexDigit? '0' = some 0 := by decide
  rw [escapeDigits, each _ control]
  simp only [List.cons_append, List.nil_append, hex4?, zero, digit (c.toNat / 16) (by omega),
    digit (c.toNat % 16) (by omega)]
  simp only [Option.bind_eq_bind, Option.bind_some, Option.pure_def, Option.some.injEq,
    Prod.mk.injEq, and_true]
  omega

theorem escape?_unicode {c : Char} (control : c.toNat < 0x20) (cs : List Char) :
    escape? ('u' :: (escapeDigits c ++ cs)) = some (c, cs) := by
  have low : c.toNat < 0xD800 ∨ 0xDFFF < c.toNat := by omega
  simp [escape?, unicodeEscape?, hex4?_escapeDigits control, low, Char.ofNat_toNat]

/-- A written character is read as itself. -/
theorem stringChars?_escaped (budget : Nat) (seen : List Char) (c : Char) (cs : List Char) :
    stringChars? (budget + 1) seen (escaped c ++ cs) = stringChars? budget (c :: seen) cs := by
  unfold escaped
  split
  case h_8 quote backslash _ _ _ _ _ =>
    split
    next control =>
      simp [stringChars?, escape?_unicode control]
    next plain =>
      simp [stringChars?, plain]
  all_goals simp [stringChars?, escape?]

/-- A written string is read up to its closing quote. -/
theorem stringChars?_flatMap (budget : Nat) (seen s rest : List Char)
    (enough : s.length ≤ budget) :
    stringChars? budget seen (s.flatMap escaped ++ '"' :: rest) =
      some (s.reverse ++ seen, rest) := by
  induction s generalizing budget seen with
  | nil => simp [stringChars?]
  | cons c s ih =>
    cases budget with
    | zero => simp at enough
    | succ budget =>
      rw [List.flatMap_cons, List.append_assoc, stringChars?_escaped,
        ih budget (c :: seen) (by simpa using enough)]
      simp

theorem length_le_length_flatMap_escaped (s : List Char) :
    s.length ≤ (s.flatMap escaped).length := by
  induction s with
  | nil => simp
  | cons c s ih =>
    have one : 0 < (escaped c).length := by
      unfold escaped
      split
      case h_8 => split <;> simp
      all_goals simp
    rw [List.flatMap_cons, List.length_append, List.length_cons]
    omega

theorem stringBody?_flatMap (s : String) (rest : List Char) :
    stringBody? (s.toList.flatMap escaped ++ '"' :: rest) = some (s, rest) := by
  have enough := length_le_length_flatMap_escaped s.toList
  rw [stringBody?, stringChars?_flatMap _ _ _ _ (by rw [List.length_append]; omega)]
  simp

theorem quoted_append (s : String) (rest : List Char) :
    quoted s ++ rest = '"' :: (s.toList.flatMap escaped ++ '"' :: rest) := by
  simp [quoted]

theorem skipBlanks_quoted (s : String) (rest : List Char) :
    skipBlanks (quoted s ++ rest) = quoted s ++ rest := by
  rw [quoted_append, skipBlanks_cons (by decide)]

/-! ## One step of the reader -/

section Steps

variable {budget : Nat} {cs cs' after rest : List Char} {key : String} {item value : Json}
  {items : List Json} {entries : List (String × Json)}

theorem items?_congr (same : skipBlanks cs = skipBlanks cs') :
    items? budget cs = items? budget cs' := by
  cases budget with
  | zero => rfl
  | succ budget => rw [items?, items?, value?_congr same]

theorem entries?_congr (same : skipBlanks cs = skipBlanks cs') :
    entries? budget cs = entries? budget cs' := by
  cases budget with
  | zero => rfl
  | succ budget => rw [entries?, entries?, same]

theorem value?_quoted (s : String) (rest : List Char) :
    value? (budget + 1) (quoted s ++ rest) = some (string s, rest) := by
  rw [quoted_append, value?, skipBlanks_cons (by decide)]
  simp only [stringBody?_flatMap, Option.map_some]

/-- No value begins with a closing bracket. -/
theorem value?_of_close (close : skipBlanks cs = ']' :: rest) : value? budget cs = none := by
  cases budget with
  | zero => rfl
  | succ budget =>
    rw [value?, close]
    simp [unsigned?, digits]

/-- An array whose items are read is read. -/
theorem value?_array (reads : items? budget cs = some (items, rest)) :
    value? (budget + 1) ('[' :: cs) = some (array items, rest) := by
  rw [value?, skipBlanks_cons (by decide)]
  simp only
  split
  next close =>
    cases budget with
    | zero => cases reads
    | succ budget => simp [items?, value?_of_close close] at reads
  next => rw [items?_congr (skipBlanks_skipBlanks cs), reads, Option.map_some]

/-- An object whose entries are read is read. -/
theorem value?_object (reads : entries? budget cs = some (entries, rest)) :
    value? (budget + 1) ('\x7b' :: cs) = some (object entries, rest) := by
  rw [value?, skipBlanks_cons (by decide)]
  simp only
  split
  next close =>
    cases budget with
    | zero => cases reads
    | succ budget => simp [entries?, close] at reads
  next => rw [entries?_congr (skipBlanks_skipBlanks cs), reads, Option.map_some]

theorem items?_last (reads : value? budget cs = some (item, after))
    (close : skipBlanks after = ']' :: rest) : items? (budget + 1) cs = some ([item], rest) := by
  simp [items?, reads, close]

theorem items?_more (reads : value? budget cs = some (item, after))
    (comma : skipBlanks after = ',' :: cs') (more : items? budget cs' = some (items, rest)) :
    items? (budget + 1) cs = some (item :: items, rest) := by
  simp [items?, reads, comma, more]

theorem entries?_last (named : skipBlanks cs = quoted key ++ ':' :: cs')
    (reads : value? budget cs' = some (value, after))
    (close : skipBlanks after = '\x7d' :: rest) :
    entries? (budget + 1) cs = some ([(key, value)], rest) := by
  have colon : isBlank ':' = false := by decide
  rw [entries?, named, quoted_append]
  simp [stringBody?_flatMap, skipBlanks_cons colon, reads, close]

theorem entries?_more {cs'' : List Char} (named : skipBlanks cs = quoted key ++ ':' :: cs')
    (reads : value? budget cs' = some (value, after))
    (comma : skipBlanks after = ',' :: cs'') (more : entries? budget cs'' = some (entries, rest)) :
    entries? (budget + 1) cs = some ((key, value) :: entries, rest) := by
  have colon : isBlank ':' = false := by decide
  rw [entries?, named, quoted_append]
  simp [stringBody?_flatMap, skipBlanks_cons colon, reads, comma, more]

end Steps

/-! ## Values -/

/-- Every number in a value is a whole one. -/
inductive Whole : Json → Prop
  | null : Whole .null
  | bool (b : Bool) : Whole (.bool b)
  | integer (i : Int) : Whole (.integer i)
  | string (s : String) : Whole (.string s)
  | array {items : List Json} (each : ∀ item ∈ items, Whole item) : Whole (.array items)
  | object {entries : List (String × Json)} (each : ∀ entry ∈ entries, Whole entry.2) :
      Whole (.object entries)

namespace Layout

variable (l : Layout)

/-- The blanks of a layout may be skipped. -/
@[simp] theorem skipBlanks_line (level : Nat) (cs : List Char) :
    skipBlanks (l.line level ++ cs) = skipBlanks cs :=
  skipBlanks_append (l.blank_line level) cs

@[simp] theorem value?_line (budget level : Nat) (cs : List Char) :
    value? budget (l.line level ++ cs) = value? budget cs :=
  value?_congr (l.skipBlanks_line level cs) budget

@[simp] theorem value?_gap (budget : Nat) (cs : List Char) :
    value? budget (l.gap ++ cs) = value? budget cs :=
  value?_congr (skipBlanks_append l.blank_gap cs) budget

mutual

/-- A written value is read back, when what follows does not extend it. -/
theorem value?_chars : ∀ (j : Json) (budget level : Nat) (rest : List Char), j.Whole →
    EndsNumber rest → (l.chars level j).length < budget →
    value? budget (l.chars level j ++ rest) = some (j, rest)
  | _, 0, _, _, _, _, enough => absurd enough (Nat.not_lt_zero _)
  | .null, budget + 1, level, rest, _, _, _ => rfl
  | .bool false, budget + 1, level, rest, _, _, _ => rfl
  | .bool true, budget + 1, level, rest, _, _, _ => rfl
  | .integer i, budget + 1, level, rest, _, ends, _ => by
      rw [chars]; exact value?_toString budget i ends
  | .string s, budget + 1, level, rest, _, _, _ => by
      rw [chars]; exact value?_quoted s rest
  | .array [], budget + 1, level, rest, _, _, _ => rfl
  | .array (item :: items), budget + 1, level, rest, .array each, _, enough => by
      rw [chars, List.length_cons] at enough
      rw [chars, List.cons_append]
      exact value?_array (items?_items (item :: items) budget level rest (by simp) each (by omega))
  | .object [], budget + 1, level, rest, _, _, _ => rfl
  | .object (entry :: entries), budget + 1, level, rest, .object each, _, enough => by
      rw [chars, List.length_cons] at enough
      rw [chars, List.cons_append]
      exact value?_object
        (entries?_entries (entry :: entries) budget level rest (by simp) each (by omega))

/-- The written items of an array are read back. -/
theorem items?_items : ∀ (items : List Json) (budget level : Nat) (rest : List Char), items ≠ [] →
    (∀ item ∈ items, Whole item) → (l.items level items).length < budget →
    items? budget (l.items level items ++ rest) = some (items, rest)
  | [], _, _, _, nonempty, _, _ => absurd rfl nonempty
  | _ :: _, 0, _, _, _, _, enough => absurd enough (Nat.not_lt_zero _)
  | [item], budget + 1, level, rest, _, each, enough => by
      simp only [items, List.length_append, List.length_singleton] at enough
      have ends : EndsNumber (l.line level ++ ']' :: rest) :=
        endsNumber_append (l.blank_line level) (endsNumber_cons (by decide) rest)
      have reads : value? budget (l.items level [item] ++ rest) =
          some (item, l.line level ++ ']' :: rest) := by
        simpa [items] using
          value?_chars item budget (level + 1) _ (each item (by simp)) ends (by omega)
      exact items?_last reads (by rw [skipBlanks_line, skipBlanks_cons (by decide)])
  | item :: next :: others, budget + 1, level, rest, _, each, enough => by
      simp only [items, List.length_append, List.length_cons] at enough
      have ends : EndsNumber (',' :: (l.items level (next :: others) ++ rest)) :=
        endsNumber_cons (by decide) _
      have reads : value? budget (l.items level (item :: next :: others) ++ rest) =
          some (item, ',' :: (l.items level (next :: others) ++ rest)) := by
        simpa [items] using
          value?_chars item budget (level + 1) _ (each item (by simp)) ends (by omega)
      have more := items?_items (next :: others) budget level rest (by simp)
        (fun item member => each item (List.mem_cons_of_mem _ member)) (by omega)
      exact items?_more reads (skipBlanks_cons (by decide) _) more

/-- The written entries of an object are read back. -/
theorem entries?_entries : ∀ (entries : List (String × Json)) (budget level : Nat)
    (rest : List Char), entries ≠ [] → (∀ entry ∈ entries, Whole entry.2) →
    (l.entries level entries).length < budget →
    entries? budget (l.entries level entries ++ rest) = some (entries, rest)
  | [], _, _, _, nonempty, _, _ => absurd rfl nonempty
  | _ :: _, 0, _, _, _, _, enough => absurd enough (Nat.not_lt_zero _)
  | [(key, value)], budget + 1, level, rest, _, each, enough => by
      simp only [entries, List.length_append, List.length_cons] at enough
      have ends : EndsNumber (l.line level ++ '\x7d' :: rest) :=
        endsNumber_append (l.blank_line level) (endsNumber_cons (by decide) rest)
      have named : skipBlanks (l.entries level [(key, value)] ++ rest) = quoted key ++ ':' ::
          (l.gap ++ (l.chars (level + 1) value ++ (l.line level ++ '\x7d' :: rest))) := by
        simp [entries, skipBlanks_quoted]
      have reads := value?_chars value budget (level + 1) _ (each (key, value) (by simp)) ends
        (by omega)
      exact entries?_last named ((l.value?_gap _ _).trans reads)
        (by rw [skipBlanks_line, skipBlanks_cons (by decide)])
  | (key, value) :: next :: others, budget + 1, level, rest, _, each, enough => by
      simp only [entries, List.length_append, List.length_cons] at enough
      have ends : EndsNumber (',' :: (l.entries level (next :: others) ++ rest)) :=
        endsNumber_cons (by decide) _
      have named : skipBlanks (l.entries level ((key, value) :: next :: others) ++ rest) =
          quoted key ++ ':' :: (l.gap ++ (l.chars (level + 1) value ++
            ',' :: (l.entries level (next :: others) ++ rest))) := by
        simp [entries, skipBlanks_quoted]
      have reads := value?_chars value budget (level + 1) _ (each (key, value) (by simp)) ends
        (by omega)
      have more := entries?_entries (next :: others) budget level rest (by simp)
        (fun entry member => each entry (List.mem_cons_of_mem _ member)) (by omega)
      exact entries?_more named ((l.value?_gap _ _).trans reads)
        (skipBlanks_cons (by decide) _) more

end

/-- A text in a layout is the value it was written from. -/
theorem parse?_chars {j : Json} (whole : j.Whole) :
    parse? (String.ofList (l.chars 0 j)) = some j := by
  have reads := l.value?_chars j ((l.chars 0 j).length + 1) 0 [] whole endsNumber_nil
    (Nat.lt_succ_self _)
  rw [List.append_nil] at reads
  rw [parse?, String.toList_ofList, reads]
  rfl

end Layout

/-- The compact form of a value is read back. -/
theorem parse?_compact {j : Json} (whole : j.Whole) : parse? j.compact = some j := by
  rw [compact, compactChars_eq 0]
  exact Layout.compact.parse?_chars whole

/-- The pretty form of a value is read back. -/
theorem parse?_pretty {j : Json} (whole : j.Whole) : parse? j.pretty = some j := by
  rw [pretty, prettyChars_eq]
  exact Layout.pretty.parse?_chars whole

end NandMachine.Json
