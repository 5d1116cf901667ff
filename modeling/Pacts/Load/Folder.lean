import Pacts.Load.Error
import Pacts.Pact.Basic
import Pacts.Text.Fields

/-!
# Pacts from a directory

The pacts of a directory are those of the files directly in it whose names end in `.json`, in order
of their names.  A load reads all of them and keeps those of the provider; it stops at the first
that cannot be read.  A path that does not lead to a directory holds no pacts, and a load of a
directory whose names cannot be read fails.

A loader keeps every pact of its loads under the path it was read from, in order of the paths; a
pact that is read again takes the place of the one before.
-/

set_option autoImplicit false

namespace Pacts

namespace Folder

/-- Whether a file name ends in `.json` with something in front of it. -/
def isPactName (name : String) : Bool :=
  match (Text.fields '.' name.toList).reverse with
  | last :: front :: others =>
    last == "json".toList && (!front.isEmpty || !others.isEmpty)
  | _ => false

/-- The paths of the pacts among the files of a directory, in order. -/
def pathsOf (dir : String) (names : List String) : List String :=
  ((names.filter isPactName).mergeSort fun a b => decide (a ≤ b)).map (Files.join dir)

/-- The paths of the pacts of a directory, in order. -/
def paths (files : Files) (dir : String) : Except ReadError (List String) :=
  match files.names dir with
  | none => .ok []
  | some (.error problem) => .error (.io dir problem)
  | some (.ok names) => .ok (pathsOf dir names)

/-- Reads the pacts at paths and keeps those of a provider, until one cannot be read.  Returns the
pacts with their paths, and what went wrong. -/
def readAll (files : Files) (provider : String) :
    List String → List (String × Pact) × Option ReadError
  | [] => ([], none)
  | path :: paths =>
    match Pact.ofFile files path with
    | .error e => ([], some e)
    | .ok pact =>
      let (read, failure) := readAll files provider paths
      (if pact.provider = provider then (path, pact) :: read else read, failure)

/-- Puts a pact under its path, in order of the paths. -/
def insertPact (path : String) (pact : Pact) : List (String × Pact) → List (String × Pact)
  | [] => [(path, pact)]
  | (p, q) :: pacts =>
    if path < p then (path, pact) :: (p, q) :: pacts
    else if path = p then (path, pact) :: pacts
    else (p, q) :: insertPact path pact pacts

end Folder

/-- A loader keeps the pacts of all its loads. -/
structure FolderLoader where
  dir : String
  /-- The pacts under their paths, in order of the paths. -/
  loaded : List (String × Pact)

namespace FolderLoader

/-- A loader that has loaded nothing yet. -/
def ofDirectory (dir : String) : FolderLoader := ⟨dir, []⟩

/-- The directory in words. -/
def description (l : FolderLoader) : String := "Directory(" ++ l.dir ++ ")"

/-- The loader after a load, and the pacts of the provider or what went wrong.  Pacts that were read
before something went wrong are kept. -/
def load (l : FolderLoader) (files : Files) (provider : String) :
    FolderLoader × Except LoadError (List Pact) :=
  match Folder.paths files l.dir with
  | .error e => (l, .error (.pact e))
  | .ok paths =>
    let (read, failure) := Folder.readAll files provider paths
    let loaded := read.foldl (fun loaded (path, pact) => Folder.insertPact path pact loaded) l.loaded
    let result := match failure with
      | none => .ok (read.map (·.2))
      | some e => .error (.pact e)
    ({ l with loaded }, result)

/-- A loader stays with its directory. -/
@[simp]
theorem dir_load (l : FolderLoader) (files : Files) (provider : String) :
    (l.load files provider).1.dir = l.dir := by
  rw [load]
  split <;> rfl

end FolderLoader

end Pacts
