/-
# NandMachine.Proofs.Text.Lines -- the lines of a text and the blanks around them

Reading goes through a text once and keeps the start of the line that it is in.  The
lines that it finds are those that one gets by cutting the text at all of its line feeds:
of each piece that a line feed ended, one carriage return at the end is dropped, and what
follows the last line feed is a line unless it is empty (`Text.lines_eq_cutLines`).
Lines that hold no line feed are the pieces of the text that ends each of them by a line feed
(`Text.splitOn_flatMap`); if none ends in a carriage return either, they are its lines
(`Text.lines_flatMap`).

Trimming leaves what stands between the blanks at both ends (`Text.trim_append`), and the text is
that with blanks around it (`Text.exists_blanks_append_trim`).
-/
import NandMachine.Text.Blank
import NandMachine.Text.Lines

namespace NandMachine.Text

set_option autoImplicit false

/-- A line without one carriage return at its end. -/
def dropReturn (cs : List Char) : List Char :=
  if cs.getLast? = some '\r' then cs.dropLast else cs

/-- The lines of a text, from its pieces between line feeds. -/
def cutLines (cs : List Char) : List (List Char) :=
  let pieces := cs.splitOn '\n'
  pieces.dropLast.map dropReturn ++ (pieces.getLast?.filter (· ≠ [])).toList

theorem closeLine_eq (start : List Char) : closeLine start = dropReturn start.reverse := by
  rw [dropReturn, List.getLast?_reverse, List.dropLast_reverse]
  cases start with
  | nil => rfl
  | cons c rest =>
      by_cases ret : c = '\r'
      · subst ret
        rfl
      · simp [closeLine, ret]

/-! ## Cutting a text line by line -/

/-- What no line feed ends is one line, or none when it is empty. -/
theorem cutLines_of_not_mem {line : List Char} (whole : '\n' ∉ line) :
    cutLines line = if line = [] then [] else [line] := by
  rw [cutLines, List.splitOn_eq_singleton whole]
  split <;> simp [*]

theorem cutLines_append {line : List Char} (whole : '\n' ∉ line) (rest : List Char) :
    cutLines (line ++ '\n' :: rest) = dropReturn line :: cutLines rest := by
  have more : rest.splitOn '\n' ≠ [] := List.splitOn_ne_nil _ _
  simp only [cutLines, List.splitOn_append_cons_self_of_not_mem whole,
    List.dropLast_cons_of_ne_nil more, List.getLast?_cons_of_ne_nil more, List.map_cons,
    List.cons_append]

theorem linesFrom_eq_cutLines {start : List Char} (whole : '\n' ∉ start) (cs : List Char) :
    linesFrom start [] cs = cutLines (start.reverse ++ cs) := by
  induction cs generalizing start with
  | nil =>
      have whole : '\n' ∉ start.reverse := by simpa using whole
      rw [List.append_nil, cutLines_of_not_mem whole]
      cases start with
      | nil => rfl
      | cons c rest => simp [linesFrom]
  | cons c rest ih =>
      rw [linesFrom]
      split
      case isTrue feed =>
        have whole : '\n' ∉ start.reverse := by simpa using whole
        rw [linesFrom_eq_append, ih List.not_mem_nil, feed, cutLines_append whole, closeLine_eq]
        rfl
      case isFalse other =>
        have whole : '\n' ∉ c :: start := by
          simpa [whole] using fun h => other h.symm
        rw [ih whole, List.reverse_cons, List.append_assoc]
        rfl

theorem lines_eq_cutLines (cs : List Char) : lines cs = cutLines cs :=
  linesFrom_eq_cutLines List.not_mem_nil cs

/-- Lines that are written one after the other, each ended by a line feed. -/
theorem toList_join_lines {α : Type} (line : α → String) (xs : List α) :
    (String.join (xs.map fun x => line x ++ "\n")).toList =
      (xs.map fun x => (line x).toList).flatMap (· ++ ['\n']) := by
  have ended (x : α) : (line x ++ "\n").toList = (line x).toList ++ ['\n'] :=
    String.toList_append
  rw [String.toList_join, List.flatMap_map, List.flatMap_map]
  exact congrArg xs.flatMap (funext ended)

/-- Nothing stands behind the last line feed. -/
theorem splitOn_flatMap {cut : List (List Char)} (whole : ∀ line ∈ cut, '\n' ∉ line) :
    (cut.flatMap (· ++ ['\n'])).splitOn '\n' = cut ++ [[]] := by
  induction cut with
  | nil => exact List.splitOn_eq_singleton List.not_mem_nil
  | cons line rest ih =>
      rw [List.flatMap_cons, List.append_assoc, List.singleton_append,
        List.splitOn_append_cons_self_of_not_mem (whole line List.mem_cons_self),
        ih fun other member => whole other (List.mem_cons_of_mem _ member), List.cons_append]

theorem lines_flatMap {cut : List (List Char)} (whole : ∀ line ∈ cut, '\n' ∉ line)
    (plain : ∀ line ∈ cut, line.getLast? ≠ some '\r') :
    lines (cut.flatMap (· ++ ['\n'])) = cut := by
  have same : cut.map dropReturn = cut :=
    (List.map_congr_left fun line member => if_neg (plain line member)).trans (List.map_id cut)
  rw [lines_eq_cutLines, cutLines, splitOn_flatMap whole]
  simp [same]

/-! ## Texts without blanks -/

/-- No character of a text is blank. -/
def Solid (cs : List Char) : Prop := ∀ c ∈ cs, isBlank c = false

instance (cs : List Char) : Decidable (Solid cs) := List.decidableBAll (isBlank · = false) cs

theorem Solid.append {cs ds : List Char} (left : Solid cs) (right : Solid ds) :
    Solid (cs ++ ds) := fun c member =>
  (List.mem_append.mp member).elim (left c) (right c)

theorem Solid.not_mem {cs : List Char} (solid : Solid cs) {c : Char} (blank : isBlank c = true) :
    c ∉ cs := fun member => Bool.noConfusion ((solid c member).symm.trans blank)

/-! ## Blanks around a line -/

theorem dropWhile_isBlank_of_head? {cs : List Char}
    (first : ∀ c, cs.head? = some c → isBlank c = false) : cs.dropWhile isBlank = cs := by
  cases cs with
  | nil => rfl
  | cons c rest => rw [List.dropWhile_cons, first c rfl]; rfl

/-- What stands between blanks is what trimming leaves. -/
theorem trim_append {before middle after : List Char}
    (blankBefore : ∀ c ∈ before, isBlank c = true) (blankAfter : ∀ c ∈ after, isBlank c = true)
    (first : ∀ c, middle.head? = some c → isBlank c = false)
    (last : ∀ c, middle.getLast? = some c → isBlank c = false) :
    trim (before ++ middle ++ after) = middle := by
  have start : (before ++ middle ++ after).dropWhile isBlank =
      if middle = [] then [] else middle ++ after := by
    rw [List.append_assoc, List.dropWhile_append_of_pos blankBefore]
    cases middle with
    | nil =>
        rw [List.nil_append, ← List.append_nil after, List.dropWhile_append_of_pos blankAfter]
        rfl
    | cons c rest => exact dropWhile_isBlank_of_head? first
  have blankReversed : ∀ c ∈ after.reverse, isBlank c = true := fun c member =>
    blankAfter c (List.mem_reverse.mp member)
  rw [trim, trimEnd, start]
  split
  case isTrue empty => exact empty.symm
  case isFalse =>
    rw [List.reverse_append, List.dropWhile_append_of_pos blankReversed,
      dropWhile_isBlank_of_head? (by simpa using last), List.reverse_reverse]

/-- Trimming takes nothing but blanks away, and only from the ends. -/
theorem exists_blanks_append_trim (cs : List Char) :
    ∃ before after, (∀ c ∈ before, isBlank c = true) ∧ (∀ c ∈ after, isBlank c = true) ∧
      cs = before ++ trim cs ++ after := by
  let rest := cs.dropWhile isBlank
  have ends : rest = trim cs ++ (rest.reverse.takeWhile isBlank).reverse := by
    rw [trim, trimEnd, ← List.reverse_append, List.takeWhile_append_dropWhile,
      List.reverse_reverse]
  refine ⟨cs.takeWhile isBlank, (rest.reverse.takeWhile isBlank).reverse, ?_, ?_, ?_⟩
  · exact List.all_eq_true.mp List.all_takeWhile
  · exact fun c member => List.all_eq_true.mp List.all_takeWhile c (List.mem_reverse.mp member)
  · rw [List.append_assoc, ← ends, List.takeWhile_append_dropWhile]

theorem trim_eq_self {cs : List Char} (solid : Solid cs) : trim cs = cs := by
  have first : ∀ c, cs.head? = some c → isBlank c = false := fun c found =>
    solid c (List.mem_of_mem_head? found)
  have last : ∀ c, cs.getLast? = some c → isBlank c = false := fun c found =>
    solid c (List.mem_of_getLast? found)
  have nothing : ∀ c ∈ ([] : List Char), isBlank c = true := fun _ member => nomatch member
  have trimmed := trim_append nothing nothing first last
  rwa [List.nil_append, List.append_nil] at trimmed

end NandMachine.Text
