/-
# NandMachine.Program.Folder -- files under their paths

A folder lists what it and the directories around it hold, files with their bytes
and directories.  Every directory on the way to an entry is there too, and so are
the directories around the folder.
-/
import NandMachine.Program.File

namespace NandMachine.Program

set_option autoImplicit false

/-- What stands at a place. -/
inductive Entry
  | file (bytes : ByteArray)
  | directory

/-- The entries of a folder by place. -/
abbrev Folder := List (Place × Entry)

namespace Folder

/-- The folder of entries under their paths. -/
def ofList (entries : List (String × Entry)) : Folder :=
  entries.map fun (path, entry) => (Place.ofPath path, entry)

/-- What stands at a place. -/
def get? (folder : Folder) (place : Place) : Option Entry :=
  match folder.find? (·.1 == place) with
  | some (_, entry) => some entry
  | none =>
      if place.names.isEmpty || folder.any (fun (p, _) => place.holds p) then some .directory
      else none

/-- Judges whether a place is that of a directory. -/
def requireDirectory (folder : Folder) (place : Place) : Except FileError Unit :=
  match folder.get? place with
  | some .directory => .ok ()
  | some (.file _) => .error .notDirectory
  | none => .error .notFound

/-- Goes from a directory to what a name stands for there. -/
def step (folder : Folder) (place : Place) (name : Name) : Except FileError Place := do
  folder.requireDirectory place
  if nameLimit < nameSize name then .error .nameTooLong
  else if (folder.get? (place.follow name)).isSome then .ok (place.follow name)
  else .error .notFound

/-- Goes through directories by a list of names. -/
def walk (folder : Folder) (place : Place) (names : List Name) : Except FileError Place :=
  names.foldlM folder.step place

def read (folder : Folder) (path : String) : Contents :=
  match pathFault? path with
  | some fault => .error fault
  | none => do
      match folder.get? (← folder.walk (Place.start path) (parts path)) with
      | some (.file bytes) => .ok bytes
      | some .directory => .error .isDirectory
      | none => .error .notFound

/-- The folder with a file written at a place whose directory is there. -/
def put (folder : Folder) (place : Place) (bytes : ByteArray) : Except FileError Folder :=
  match folder.get? place with
  | some .directory => .error .isDirectory
  | _ => .ok ((place, .file bytes) :: folder.filter (·.1 != place))

/-- The folder with a file written under a path; its directory must be there.  A path
that ends in a slash, in `.` or in `..` can only be that of a directory. -/
def write (folder : Folder) (path : String) (bytes : ByteArray) : Except FileError Folder :=
  match pathFault? path with
  | some fault => .error fault
  | none => do
      let reversed := (parts path).reverse
      let names := reversed.dropWhile (·.isEmpty)
      let directory ← folder.walk (Place.start path) names.tail.reverse
      folder.requireDirectory directory
      match names with
      | name :: _ =>
          if reversed.length != names.length || name == ['.'] || name == ['.', '.'] then
            .error .isDirectory
          else if nameLimit < nameSize name then .error .nameTooLong
          else folder.put (directory.enter name) bytes
      | [] => .error .isDirectory

end Folder

end NandMachine.Program
