import Pacts.Load.Error
import Pacts.Lookup
import Pacts.Text.Blank
import Pacts.Text.Letters
import Pacts.Yaml.Value

/-!
# Lookups by name

The settings may name the lookup to use: the variables of the process, or a table that is kept in a
YAML file.  Such a file holds a mapping; its values are truth values, numbers and texts, and a value
of another kind is as good as none.  Where a name cannot be used, the variables of the process take
the place of what it names.
-/

set_option autoImplicit false

namespace Pacts

namespace Values

/-- A table in which a key has the value that was read for it, and none if that has no text. -/
def record (t : Values) (key : String) (value : Yaml.Value) : Values :=
  match value.text? with
  | some text => t.insert key text
  | none => t.erase key

/-- Reads the members of a mapping into a table. -/
def ofMembers (d : Yaml.Document) (members : List (Yaml.Node × Yaml.Node)) :
    Yaml.Reading Values :=
  members.foldlM (fun t (key, value) => do
    let key ← d.text key
    let value ← d.value (Yaml.maxDepth - 1) value
    return t.record key value) empty

/-- The table that a text in YAML holds. -/
def ofYaml (text : String) : Except Yaml.Problem Values :=
  Yaml.readAs text empty fun d => do ofMembers d (← d.members d.root)

/-- The table that a file holds. -/
def ofFile (files : Files) (path : String) : Except ReadError Values :=
  match files.text path with
  | .error problem => .error (.io path problem)
  | .ok text => (ofYaml text).mapError (.yaml path)

end Values

namespace Lookup

/-- What starts a name that leads to a file. -/
def fileMark : String := "file:"

/-- The path in a name that leads to a file. -/
def path? (name : String) : Option String :=
  if fileMark.toList.isPrefixOf name.toList then
    some (trimmed (String.ofList (name.toList.drop fileMark.length)))
  else none

/-- The lookup that a name stands for. -/
def named (env : Environment) (files : Files) (name : String) : Except LoadError Lookup :=
  let name := trimmed name
  if sameLetters name "system" || sameLetters name "env" then .ok env.lookup
  else match path? name with
    | some path =>
      match Values.ofFile files path with
      | .ok table => .ok table.lookup
      | .error e => .error (.pact e)
    | none => .error (.unknownLookup name)

/-- The lookup that a name stands for, or else the variables of the process. -/
def namedOrVariables (env : Environment) (files : Files) : Option String → Lookup
  | none => env.lookup
  | some name =>
    match named env files name with
    | .ok lookup => lookup
    | .error _ => env.lookup

end Lookup

end Pacts
