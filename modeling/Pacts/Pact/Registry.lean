import Pacts.Pact.Basic

/-!
# Pacts by consumer

A registry keeps pacts in the order in which they came, under the names of their consumers, and the
names in the order in which they first came.  Nothing is left out: a pact that comes twice stands
there twice.

Two registries are the same when they hold the same pacts under the same names; the order of the
names does not matter.
-/

set_option autoImplicit false

namespace Pacts

/-- Lists of pacts under the names of consumers. -/
structure Registry where
  entries : List (String × List Pact)
  deriving DecidableEq

namespace Registry

/-- The registry without pacts. -/
def empty : Registry := ⟨[]⟩

/-- Entries to which pacts of a consumer are added. -/
def addTo (consumer : String) (pacts : List Pact) :
    List (String × List Pact) → List (String × List Pact)
  | [] => [(consumer, pacts)]
  | (c, ps) :: entries =>
    if c = consumer then (c, ps ++ pacts) :: entries else (c, ps) :: addTo consumer pacts entries

/-- Adds a pact under the name of a consumer. -/
def record (r : Registry) (consumer : String) (pact : Pact) : Registry :=
  ⟨addTo consumer [pact] r.entries⟩

/-- Adds everything that another registry holds, in its order. -/
def merge (r other : Registry) : Registry :=
  ⟨other.entries.foldl (fun entries (consumer, pacts) => addTo consumer pacts entries) r.entries⟩

/-- The pacts of the first entry of a consumer. -/
def find (consumer : String) : List (String × List Pact) → Option (List Pact)
  | [] => none
  | (c, ps) :: entries => if c = consumer then some ps else find consumer entries

/-- The pacts of a consumer, if it has an entry. -/
def get? (r : Registry) (consumer : String) : Option (List Pact) := find consumer r.entries

/-- The names of the consumers, in the order in which they first came. -/
def consumers (r : Registry) : List String := r.entries.map (·.1)

/-- The number of consumers. -/
def size (r : Registry) : Nat := r.entries.length

/-- Whether there are no consumers. -/
def isEmpty (r : Registry) : Bool := r.entries.isEmpty

/-- The number of pacts. -/
def pactCount (r : Registry) : Nat := r.entries.foldr (fun e n => e.2.length + n) 0

/-- Whether two lists of pacts are the same pact by pact. -/
def samePacts (ps qs : List Pact) : Bool := decide (ps.map Pact.canonical = qs.map Pact.canonical)

/-- Whether two registries hold the same pacts under the same names. -/
def same (r other : Registry) : Bool :=
  r.size == other.size &&
    r.entries.all fun (consumer, pacts) => match other.get? consumer with
      | some others => samePacts pacts others
      | none => false

/-- The JSON value of a registry: a list of pacts under each name. -/
def toJson (r : Registry) : Json :=
  .obj (r.entries.map fun (consumer, pacts) => (consumer, .arr (pacts.map Pact.toJson)))

theorem find_addTo (consumer other : String) (pacts : List Pact)
    (entries : List (String × List Pact)) :
    find other (addTo consumer pacts entries) =
      if consumer = other then some ((find other entries).getD [] ++ pacts)
      else find other entries := by
  induction entries with
  | nil => simp [addTo, find]
  | cons e entries ih =>
    obtain ⟨c, ps⟩ := e
    rw [addTo]
    split
    · rename_i h
      subst h
      by_cases ho : c = other <;> simp [find, ho]
    · rename_i h
      by_cases ho : c = other
      · have : consumer ≠ other := fun e => h (ho.trans e.symm)
        simp [find, ho, this]
      · simp [find, ho, ih]

theorem get?_record (r : Registry) (consumer other : String) (pact : Pact) :
    (r.record consumer pact).get? other =
      if consumer = other then some ((r.get? other).getD [] ++ [pact]) else r.get? other :=
  find_addTo consumer other [pact] r.entries

end Registry

end Pacts
