/-
# NandMachine.Program.Path -- where a path leads

A path is a list of names with slashes between them, which are followed one by one
from the folder that one works in, or from the root when the path starts with a
slash.  An empty name and `.` stay where they are, `..` goes to the directory
around, and from the root nowhere.
-/
import NandMachine.Program.Basic

namespace NandMachine.Program

set_option autoImplicit false

abbrev Name := List Char

/-- What stands between the slashes of a path. -/
def parts (path : String) : List Name := path.toList.splitOn '/'

/-- The names of a path that lead somewhere. -/
def names (path : String) : List Name := (parts path).filter fun part => part ≠ [] ∧ part ≠ ['.']

def nameSize (name : Name) : Nat := (String.ofList name).utf8ByteSize

/-- The number of bytes that a name may have. -/
def nameLimit : Nat := 255

/-- The number of bytes that a path may have. -/
def pathLimit : Nat := 4095

/-- Why a path leads nowhere, whatever there is. -/
def pathFault? (path : String) : Option FileError :=
  if path.toList.contains '\x00' then some .nulInName
  else if path.isEmpty then some .notFound
  else if pathLimit < path.utf8ByteSize then some .nameTooLong
  else none

/-- Where the names of a place are counted from. -/
inductive Base
  /-- The folder, or a directory some levels around it. -/
  | above (levels : Nat)
  | root
  deriving DecidableEq, Repr

/-- A place that may hold a file or a directory. -/
structure Place where
  base : Base := .above 0
  names : List Name := []
  deriving DecidableEq, Repr

namespace Place

/-- The place of a name in a directory. -/
def enter (place : Place) (name : Name) : Place := { place with names := place.names ++ [name] }

/-- The directory around a place. -/
def parent (place : Place) : Place :=
  match place.names, place.base with
  | [], .above levels => { base := .above (levels + 1) }
  | [], .root => place
  | names, _ => { place with names := names.dropLast }

/-- Whether a place is that of another or of a directory around it. -/
def holds (place other : Place) : Bool :=
  place.base == other.base && place.names.isPrefixOf other.names

/-- Where a path starts. -/
def start (path : String) : Place :=
  if path.toList.head? = some '/' then { base := .root } else {}

/-- Where a name leads from a directory. -/
def follow (place : Place) (name : Name) : Place :=
  if name = [] ∨ name = ['.'] then place
  else if name = ['.', '.'] then place.parent
  else place.enter name

def ofPath (path : String) : Place := (parts path).foldl follow (start path)

end Place

end NandMachine.Program
