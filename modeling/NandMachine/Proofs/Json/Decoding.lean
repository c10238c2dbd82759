/-
# NandMachine.Proofs.Json.Decoding -- typed values behind JSON values

`Encodes j a` says that a JSON value stands for a typed one: reading gives that
value, and every number inside is whole, so it also comes back through text
(`Encodes.read?_compact`, `Encodes.read?_pretty`).

Each kind of exchange form gets one law.  For a record it follows the way its
decoder is built: no field stands for the bare constructor, and one more field
whose value is encoded extends what is encoded so far (`Fields.Holds.field`).
The names of the fields must differ, since a decoder finds a value by its name.
-/
import NandMachine.Json.Reader
import NandMachine.Proofs.Json.Reading
import NandMachine.Proofs.Traversal

namespace NandMachine.Json

set_option autoImplicit false

/-- A JSON value stands for a typed one. -/
structure Encodes {α : Type} [FromJson α] (j : Json) (a : α) : Prop where
  whole : j.Whole
  reads : fromJson j = .ok a

/-- The typed value that a text is. -/
def read? (α : Type) [FromJson α] (text : String) : Option α := do
  (fromJson (← parse? text)).toOption

section Text

variable {α : Type} [FromJson α] {j : Json} {a : α}

theorem read?_eq_some_iff (text : String) (a : α) :
    read? α text = some a ↔ ∃ j, parse? text = some j ∧ fromJson j = .ok a := by
  have ok (d : Decoded α) : d.toOption = some a ↔ d = .ok a := by
    cases d <;> simp [Except.toOption]
  simp only [read?, Option.bind_eq_bind, Option.bind_eq_some_iff, ok]

theorem Encodes.read?_compact (encodes : Encodes j a) : read? α j.compact = some a :=
  (read?_eq_some_iff _ a).mpr ⟨j, parse?_compact encodes.whole, encodes.reads⟩

theorem Encodes.read?_pretty (encodes : Encodes j a) : read? α j.pretty = some a :=
  (read?_eq_some_iff _ a).mpr ⟨j, parse?_pretty encodes.whole, encodes.reads⟩

end Text

/-! ## Lists -/

theorem lookup_of_mem {β : Type} {entries : List (String × β)}
    (distinct : (entries.map Prod.fst).Nodup) {name : String} {b : β}
    (member : (name, b) ∈ entries) : entries.lookup name = some b := by
  induction entries with
  | nil => cases member
  | cons entry entries rest =>
    rw [List.map_cons, List.nodup_cons] at distinct
    rcases List.mem_cons.mp member with rfl | later
    · exact List.lookup_cons_self
    · have other : name ≠ entry.1 := by
        rintro rfl
        exact distinct.1 (List.mem_map.mpr ⟨_, later, rfl⟩)
      rw [List.lookup_cons, beq_eq_false_iff_ne.mpr other]
      exact rest distinct.2 later

/-- A list is encoded by its encoded items. -/
theorem encodes_list {α : Type} [ToJson α] [FromJson α] {xs : List α}
    (each : ∀ x ∈ xs, Encodes (toJson x) x) : Encodes (toJson xs) xs where
  whole := .array (by simpa using fun x member => (each x member).whole)
  reads := by
    have item : ∀ x ∈ xs, (fromJson ∘ toJson) x = (pure (id x) : Decoded α) :=
      fun x member => (each x member).reads
    calc (xs.map toJson).mapM (fromJson : Json → Decoded α)
        = pure (xs.map id) := by rw [List.mapM_map, Traversal.mapM_eq_pure item]
      _ = .ok xs := by rw [List.map_id]; rfl

/-! ## Numbers and levels -/

theorem encodes_bool (b : Bool) : Encodes (.bool b) b := ⟨.bool b, rfl⟩

/-- A number of so many bits is read from its own literal, and from nothing else. -/
theorem natOf_eq_ok_iff (bits : Nat) (j : Json) (n : Nat) :
    natOf bits j = .ok n ↔ j = integer n ∧ n < 2 ^ bits := by
  have width : ((2 ^ bits : Nat) : Int) = 2 ^ bits := by push_cast; rfl
  cases j with
  | integer i =>
    simp only [natOf, intIn, integer.injEq]
    split
    next inside =>
      have below : i.toNat < 2 ^ bits := by omega
      simp
      omega
    next outside =>
      simp
      omega
  | _ => simp [natOf, intIn]

/-! ## Records -/

namespace Fields

/-- The entries of an object stand for a record: they have the names of its
fields, each passes the check of its field, and together they build it. -/
structure Holds {α : Type} (record : Fields α) (entries : List (String × Json)) (a : α) :
    Prop where
  names : record.checks.map Prod.fst = entries.map Prod.fst
  passes : ∀ entry ∈ entries, ∃ check,
    (entry.1, check) ∈ record.checks ∧ check entry.2 = .ok ()
  builds : ∀ rest, record.build (entries.map Prod.snd ++ rest) = .ok (a, rest)
  whole : ∀ entry ∈ entries, entry.2.Whole

theorem Holds.done {α : Type} (a : α) : (Fields.done a).Holds [] a :=
  ⟨rfl, by simp, fun _ => rfl, by simp⟩

theorem Holds.field {α β : Type} [FromJson α] {record : Fields (α → β)}
    {entries : List (String × Json)} {f : α → β} {j : Json} {a : α}
    (holds : record.Holds entries f) (name : String) (encodes : Encodes j a) :
    (record.field name).Holds (entries ++ [(name, j)]) (f a) where
  names := by simp [Fields.field, holds.names]
  passes entry member := by
    rcases List.mem_append.mp member with earlier | last
    · obtain ⟨check, inside, passes⟩ := holds.passes entry earlier
      exact ⟨check, List.mem_append_left _ inside, passes⟩
    · obtain rfl := List.mem_singleton.mp last
      exact ⟨_, List.mem_append_right _ (List.mem_singleton.mpr rfl), by
        simp [encodes.reads]⟩
  builds rest := by
    have built := holds.builds (j :: rest)
    simp only [Fields.field, List.map_append, List.map_cons, List.map_nil, List.append_assoc,
      List.singleton_append, built]
    change (do return (f (← fromJson j), rest)) = .ok (f a, rest)
    rw [encodes.reads]
    rfl
  whole entry member := by
    rcases List.mem_append.mp member with earlier | last
    · exact holds.whole entry earlier
    · obtain rfl := List.mem_singleton.mp last
      exact encodes.whole

variable {α : Type} {record : Fields α} {entries : List (String × Json)} {a : α}

/-- Entries that pass, with names that differ from each other and from those seen before. -/
theorem judge_eq_ok {seen : List String}
    (each : ∀ entry ∈ entries, ∃ check,
      record.checks.lookup entry.1 = some check ∧ check entry.2 = .ok ())
    (distinct : (entries.map Prod.fst).Nodup) (unseen : ∀ entry ∈ entries, entry.1 ∉ seen) :
    record.judge seen entries = .ok () := by
  induction entries generalizing seen with
  | nil => rfl
  | cons entry rest ih =>
      obtain ⟨check, found, passes⟩ := each entry List.mem_cons_self
      rw [List.map_cons, List.nodup_cons] at distinct
      have later : ∀ other ∈ rest, other.1 ∉ entry.1 :: seen := by
        intro other member repeated
        rcases List.mem_cons.mp repeated with same | before
        · exact distinct.1 (same ▸ List.mem_map_of_mem member)
        · exact unseen other (List.mem_cons_of_mem _ member) before
      rw [judge, found]
      simp only [unseen entry List.mem_cons_self, if_false, passes]
      exact ih (fun other member => each other (List.mem_cons_of_mem _ member)) distinct.2 later

/-- A record with distinct names is read from its entries. -/
theorem Holds.ofEntries (holds : record.Holds entries a)
    (distinct : (record.checks.map Prod.fst).Nodup) : record.ofEntries entries = .ok a := by
  have distinct' : (entries.map Prod.fst).Nodup := holds.names ▸ distinct
  have values : (record.checks.mapM fun check => entries.lookup check.1) =
      some (entries.map Prod.snd) := by
    calc (record.checks.mapM fun check => entries.lookup check.1)
        = (record.checks.map Prod.fst).mapM (entries.lookup ·) := by rw [List.mapM_map]; rfl
      _ = entries.mapM ((entries.lookup ·) ∘ Prod.fst) := by rw [holds.names, List.mapM_map]
      _ = some (entries.map Prod.snd) :=
          Traversal.mapM_eq_pure fun entry member => lookup_of_mem distinct' member
  have builds := holds.builds []
  rw [List.append_nil] at builds
  have each : ∀ entry ∈ entries, ∃ check,
      record.checks.lookup entry.1 = some check ∧ check entry.2 = .ok () := by
    intro entry member
    obtain ⟨check, inside, passes⟩ := holds.passes entry member
    exact ⟨check, lookup_of_mem distinct inside, passes⟩
  rw [Fields.ofEntries, judge_eq_ok each distinct' fun _ _ => List.not_mem_nil, values]
  show Prod.fst <$> record.build (entries.map Prod.snd) = _
  rw [builds]
  rfl

-- A field that stands twice is refused, whatever its values.
example : ((done id).field "on" : Fields Bool).read
    (object [("on", bool true), ("on", bool true)]) = .error .mismatch := rfl

/-- An object of such entries is encoded for a type that is read as this record. -/
theorem Holds.encodes [FromJson α] (holds : record.Holds entries a)
    (distinct : (record.checks.map Prod.fst).Nodup)
    (decoder : (fromJson : Json → Decoded α) = record.read) : Encodes (.object entries) a where
  whole := .object holds.whole
  reads := by rw [decoder]; exact holds.ofEntries distinct

end Fields

end NandMachine.Json
