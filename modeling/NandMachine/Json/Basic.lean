/-
# NandMachine.Json.Basic -- JSON values

A JSON value as the machine exchanges it.  Numbers come in two kinds, because
readers of whole numbers accept only literals written as such: `integer` holds a
literal of digits with an optional minus sign, and `decimal` keeps the text of
every other literal (a fraction, an exponent, or minus zero).  The entries of an
object keep their order.
-/
namespace NandMachine

set_option autoImplicit false

inductive Json
  | null
  | bool (b : Bool)
  | integer (i : Int)
  | decimal (literal : String)
  | string (s : String)
  | array (items : List Json)
  | object (entries : List (String × Json))
  deriving Repr, Inhabited

namespace Json

/-- The value of the first entry with a key. -/
def get? (key : String) : Json → Option Json
  | object entries => entries.lookup key
  | _ => none

def nat (n : Nat) : Json := integer n

def nats (ns : List Nat) : Json := array (ns.map nat)

def strings (texts : List String) : Json := array (texts.map string)

end Json

end NandMachine
