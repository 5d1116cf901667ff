/-!
# Files

What a program sees of the disk is what it gets for a path: the bytes of a file or the reason why
there are none, and the names of the files in a directory or the reason why these cannot be read.
`Files` is that view at one moment.  Everything that reads files takes such a view, so a run on real
files and a run on a tree in memory (`Pacts.Files.Tree`) are the same function.
-/

set_option autoImplicit false

namespace Pacts

/-- A view of the disk. -/
structure Files where
  /-- The bytes of the file at a path, or what is wrong. -/
  bytes : String → Except String ByteArray
  /-- The names of the files that are found directly inside the directory at a path, or what is
  wrong with a directory whose names cannot be read; `none` when the path does not lead to a
  directory. -/
  names : String → Option (Except String (List String))

namespace Files

/-! ## Problems -/

/-- What the system says about a problem, with the number it has for it. -/
def problem (number : Nat) (text : String) : String :=
  text ++ " (os error " ++ toString number ++ ")"

/-- What is wrong with a path to nothing. -/
def noSuchFile : String := problem 2 "No such file or directory"

/-- What is wrong with a file that must not be read. -/
def permissionDenied : String := problem 13 "Permission denied"

/-- What is wrong with a path that goes on behind a file. -/
def notADirectory : String := problem 20 "Not a directory"

/-- What is wrong with a directory that is read as if it were a file. -/
def isADirectory : String := problem 21 "Is a directory"

/-- What is wrong with a name or a path that is too long. -/
def nameTooLong : String := problem 36 "File name too long"

/-! ## Reading -/

/-- The view of a disk without files. -/
def bare : Files := ⟨fun _ => .error noSuchFile, fun _ => none⟩

/-- The text of the file at a path, or what is wrong. -/
def text (files : Files) (path : String) : Except String String := do
  let bytes ← files.bytes path
  match String.fromUTF8? bytes with
  | some s => .ok s
  | none => .error "stream did not contain valid UTF-8"

/-- The path of a name inside the directory at a path. -/
def join (dir name : String) : String :=
  if dir.toList.getLast? = some '/' then dir ++ name else dir ++ "/" ++ name

end Files

end Pacts
