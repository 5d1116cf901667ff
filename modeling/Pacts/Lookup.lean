import Pacts.Text.Letters

/-!
# Where values come from

A `Lookup` answers the value that is bound to a key, if any.  There are two ways to come by one: a
fixed table of values, in which a later entry of a key replaces the earlier one, and the variables
of the process.  A variable is looked up under the key as it is given and then under the key's form
as a variable, in capitals and with `_` for `.` and `-`.
-/

set_option autoImplicit false

namespace Pacts

/-- The value bound to each key. -/
abbrev Lookup := String → Option String

/-- The lookup that binds nothing. -/
def Lookup.empty : Lookup := fun _ => none

/-! ## Tables -/

/-- A table of values.  Each key has at most one entry, as long as entries are added by
`Values.insert`. -/
structure Values where
  entries : List (String × String)
  deriving DecidableEq, Repr

namespace Values

/-- The table without entries. -/
def empty : Values := ⟨[]⟩

/-- Entries in which a key has a new value. -/
def insertInto (key value : String) : List (String × String) → List (String × String)
  | [] => [(key, value)]
  | (k, v) :: entries =>
    if k = key then (key, value) :: entries else (k, v) :: insertInto key value entries

/-- The table in which a key has a new value. -/
def insert (key value : String) (t : Values) : Values := ⟨insertInto key value t.entries⟩

/-- The table of a list of entries; of several entries of one key the last one counts. -/
def ofList (entries : List (String × String)) : Values :=
  entries.foldl (fun t (key, value) => t.insert key value) empty

/-- The table in which a key has no value. -/
def erase (key : String) (t : Values) : Values := ⟨t.entries.filter (·.1 ≠ key)⟩

/-- The value of the first entry of a key. -/
def find (key : String) : List (String × String) → Option String
  | [] => none
  | (k, v) :: entries => if k = key then some v else find key entries

/-- The table as a lookup. -/
def lookup (t : Values) : Lookup := fun key => find key t.entries

/-- The number of keys that have a value. -/
def size (t : Values) : Nat := t.entries.length

end Values

/-! ## The variables of the process -/

/-- The variables of a process, as its lines `name=value`. -/
structure Environment where
  lines : List String

namespace Environment

/-- The form a key has as the name of a variable. -/
def variableName (key : String) : String :=
  String.ofList (key.toList.map fun c => if c = '.' ∨ c = '-' then '_' else c.toUpper)

/-- What follows the name and the sign `=` in a line. -/
def valueIn (name line : String) : Option String :=
  let opening := name.toList ++ ['=']
  if opening.isPrefixOf line.toList then some (String.ofList (line.toList.drop opening.length))
  else none

/-- The value of a variable. -/
def value? (env : Environment) (name : String) : Option String :=
  env.lines.findSome? (valueIn name)

/-- The variables as a lookup: a key stands for the variable of that name, or else for the variable
named by its form. -/
def lookup (env : Environment) : Lookup := fun key =>
  if key.isEmpty then none
  else (env.value? key).or (env.value? (variableName key))

end Environment

end Pacts
