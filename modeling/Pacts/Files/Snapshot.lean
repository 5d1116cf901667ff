import Pacts.Files

/-!
# Snapshots of a disk

A snapshot holds what was read from a disk: the bytes of some files, or why they could not be read,
and the names in some directories, or why these could not be read.  To everything that was not read
it is as good as empty.
-/

set_option autoImplicit false

namespace Pacts.Files

/-- What was read from a disk. -/
structure Snapshot where
  contents : List (String × Except String ByteArray)
  directories : List (String × Except String (List String))

namespace Snapshot

/-- The snapshot for which nothing was read. -/
def empty : Snapshot := ⟨[], []⟩

/-- What was read for a path, if anything was. -/
def content? (s : Snapshot) (path : String) : Option (Except String ByteArray) :=
  (s.contents.find? (·.1 = path)).map (·.2)

/-- The view of the disk that a snapshot gives. -/
def files (s : Snapshot) : Files :=
  ⟨fun path => (s.content? path).getD (Files.bare.bytes path),
    fun dir => (s.directories.find? (·.1 = dir)).map (·.2)⟩

/-- A snapshot with what was read for one more path. -/
def withContent (s : Snapshot) (path : String) (content : Except String ByteArray) : Snapshot :=
  { s with contents := (path, content) :: s.contents }

/-- A snapshot with the names in one more directory, or what is wrong with it. -/
def withDirectory (s : Snapshot) (dir : String) (names : Except String (List String)) : Snapshot :=
  { s with directories := (dir, names) :: s.directories }

end Snapshot

end Pacts.Files
