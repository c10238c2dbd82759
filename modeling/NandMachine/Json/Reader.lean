/-
# NandMachine.Json.Reader -- typed values from JSON

A decoder turns a JSON value into a typed one or says why it cannot: `mismatch`
when the shape is wrong, `tooWide` when a number fits sixteen bits but not its
bus.  Whole numbers are taken from integer literals only and must lie in range.

A record is read from an object or from an array.  In an object the entries are
judged in the order in which they stand, a field may stand there once, unknown keys
are skipped, and a missing key is noticed last; an array must hold exactly the
fields, in order.  A variant
without data is its name, or an object with the name and `null`; a variant with
data is an object with one entry, and a record of its own is read from an object
only.
-/
import NandMachine.Json.Basic
import NandMachine.Logic.Bus

namespace NandMachine

set_option autoImplicit false

namespace Json

/-- Why a JSON value is not of the wanted type. -/
inductive DecodeError
  | mismatch
  | tooWide (value width : Nat)
  deriving DecidableEq, Repr

/-- The wording, for the errors that have one. -/
def DecodeError.message? : DecodeError → Option String
  | mismatch => none
  | tooWide value width => some s!"value {value} does not fit in {width} bits"

/-- What reading answers: a value, or why there is none. -/
abbrev Decoded (α : Type) := Except DecodeError α

/-- A type with a JSON form. -/
class ToJson (α : Type) where
  toJson : α → Json

/-- A type that is read from JSON. -/
class FromJson (α : Type) where
  fromJson : Json → Decoded α

export ToJson (toJson)
export FromJson (fromJson)

/-- A whole number between two bounds. -/
def intIn (low high : Int) : Json → Decoded Int
  | integer i => if low ≤ i ∧ i ≤ high then .ok i else .error .mismatch
  | _ => .error .mismatch

/-- A whole number of `bits` bits without a sign. -/
def natOf (bits : Nat) (j : Json) : Decoded Nat :=
  Int.toNat <$> intIn 0 (2 ^ bits - 1) j

instance : ToJson Bool := ⟨bool⟩

instance : FromJson Bool where
  fromJson
    | bool b => .ok b
    | _ => .error .mismatch

instance {n : Nat} : ToJson (Bus n) := ⟨fun b => nat b.toNat⟩

/-- A bus is read from a sixteen-bit number that fits it. -/
instance {n : Nat} : FromJson (Bus n) where
  fromJson j := do
    let value ← natOf 16 j
    if value < 2 ^ n then return BitVec.ofNat n value else .error (.tooWide value n)

instance {α : Type} [ToJson α] : ToJson (List α) := ⟨fun xs => array (xs.map toJson)⟩

instance {α : Type} [FromJson α] : FromJson (List α) where
  fromJson
    | array items => items.mapM fromJson
    | _ => .error .mismatch

/-! ## Records -/

/-- A decoder of the fields of a record: the check of each named field, and the
record from the values of its fields in order. -/
structure Fields (α : Type) where
  checks : List (String × (Json → Decoded Unit))
  build : List Json → Decoded (α × List Json)

namespace Fields

/-- A record without fields. -/
def done {α : Type} (a : α) : Fields α := ⟨[], fun values => .ok (a, values)⟩

/-- One more field. -/
def field {α β : Type} [FromJson α] (record : Fields (α → β)) (name : String) : Fields β where
  checks := record.checks ++ [(name, fun j => (fun (_ : α) => ()) <$> fromJson j)]
  build values := do
    let (f, rest) ← record.build values
    match rest with
    | value :: rest => return (f (← fromJson value), rest)
    | [] => .error .mismatch

/-- Judges the entries of an object, behind entries that name the fields `seen`. -/
def judge {α : Type} (record : Fields α) (seen : List String) :
    List (String × Json) → Decoded Unit
  | [] => .ok ()
  | (key, value) :: rest => match record.checks.lookup key with
    | some check =>
        if key ∈ seen then .error .mismatch
        else do
          check value
          record.judge (key :: seen) rest
    | none => record.judge seen rest

/-- The record of the entries of an object. -/
def ofEntries {α : Type} (record : Fields α) (entries : List (String × Json)) : Decoded α := do
  record.judge [] entries
  match record.checks.mapM fun (name, _) => entries.lookup name with
  | some values => Prod.fst <$> record.build values
  | none => .error .mismatch

def readObject {α : Type} (record : Fields α) : Json → Decoded α
  | object entries => record.ofEntries entries
  | _ => .error .mismatch

/-- The record of an object or an array. -/
def read {α : Type} (record : Fields α) : Json → Decoded α
  | object entries => record.ofEntries entries
  | array items => do
      (record.checks.zip items).forM fun ((_, check), item) => check item
      if items.length = record.checks.length then Prod.fst <$> record.build items
      else .error .mismatch
  | _ => .error .mismatch

end Fields

/-! ## Variants -/

/-- The name of a variant without data. -/
def variantName : Json → Decoded String
  | string name => .ok name
  | object [(name, null)] => .ok name
  | _ => .error .mismatch

/-- One of a list of variants without data. -/
def oneOf {α : Type} (variants : List (String × α)) (j : Json) : Decoded α := do
  match variants.lookup (← variantName j) with
  | some a => return a
  | none => .error .mismatch

end Json

end NandMachine
