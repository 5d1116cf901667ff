import Pacts.Command.Run

/-!
# What a command line wants to read

Before a command line is run, the files it needs have to be read.  Which these are may depend on
files that were read before: the settings file names the file with the values, and the names in a
directory say which files in it are pacts.
-/

set_option autoImplicit false

namespace Pacts.Command

namespace Invocation

/-- The directories whose names are needed. -/
def wantedDirectories : Invocation → List String
  | .folder c => [c.dir]
  | _ => []

/-- The path of the file with the values that settings name. -/
def valuesPath (s : BrokerSettings) : List String :=
  (s.lookup.bind fun name => Lookup.path? (trimmed name)).toList

/-- The paths of the files that are needed, as far as what was read of the disk tells. -/
def wantedFiles (files : Files) : Invocation → List String
  | .folder c => (Folder.paths files c.dir).toOption.getD []
  | .broker c => c.config.toList ++
    match c.start files with
    | .ok s => valuesPath s
    | .error _ => []
  | _ => []

end Invocation

end Pacts.Command
