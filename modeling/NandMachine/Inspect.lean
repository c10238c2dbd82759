/-
# NandMachine.Inspect -- values spelled out for inspection

The inspected form of a value names its type and its fields, as in
`Clock { now: Cycle(0) }`; a list stands in brackets.
-/
namespace NandMachine

set_option autoImplicit false

/-- A type whose values can be spelled out. -/
class Inspect (α : Type) where
  inspect : α → String

export Inspect (inspect)

namespace Inspect

/-- A record: its name and its named fields in braces. -/
def record (name : String) (fields : List (String × String)) : String :=
  name ++ " \x7b " ++ ", ".intercalate (fields.map fun (key, value) => key ++ ": " ++ value) ++ " \x7d"

/-- A name with its arguments in parentheses. -/
def tuple (name : String) (arguments : List String) : String :=
  name ++ "(" ++ ", ".intercalate arguments ++ ")"

def listed (items : List String) : String := "[" ++ ", ".intercalate items ++ "]"

end Inspect

end NandMachine
