import Pacts.Proofs.Registry.Replay

/-!
# Some of the consumers of a registry

A registry can be restricted to consumers of given names.  The names that are left keep their order
and each of them all its pacts, so the restriction is what comes about by recording only the pacts
of these consumers in the first place (`restrict_recordAll`).  A consumer gets its place with the
first of its pacts and with no other, which is why nothing of the rest shows.
-/

set_option autoImplicit false

namespace Pacts

namespace Registry

/-- The registry with the consumers of given names only. -/
def restrict (names : List String) (r : Registry) : Registry :=
  ⟨r.entries.filter (names.contains ·.1)⟩

/-- The entries of a log that are about consumers of given names. -/
def restrictLog (names : List String) (log : List (String × Pact)) : List (String × Pact) :=
  log.filter (names.contains ·.1)

@[simp]
theorem restrict_empty (names : List String) : empty.restrict names = empty := rfl

theorem filter_addTo (names : List String) (consumer : String) (pacts : List Pact)
    (entries : List (String × List Pact)) :
    (addTo consumer pacts entries).filter (names.contains ·.1) =
      if names.contains consumer then
        addTo consumer pacts (entries.filter (names.contains ·.1))
      else entries.filter (names.contains ·.1) := by
  induction entries with
  | nil => by_cases hn : consumer ∈ names <;> simp [addTo, hn]
  | cons e entries ih =>
    obtain ⟨c, ps⟩ := e
    by_cases hc : c = consumer
    · subst hc
      by_cases hn : c ∈ names <;> simp [addTo, hn]
    · by_cases hn : consumer ∈ names <;> by_cases hm : c ∈ names <;>
        simp_all [addTo]

theorem restrict_record (names : List String) (r : Registry) (consumer : String) (pact : Pact) :
    (r.record consumer pact).restrict names =
      if names.contains consumer then (r.restrict names).record consumer pact
      else r.restrict names := by
  rw [restrict, record, filter_addTo]
  split <;> rfl

/-- **A restriction is the replay of a part of the log.** -/
theorem restrict_recordAll (names : List String) (r : Registry) (log : List (String × Pact)) :
    (r.recordAll log).restrict names = (r.restrict names).recordAll (restrictLog names log) := by
  induction log generalizing r with
  | nil => rfl
  | cons e log ih =>
    obtain ⟨consumer, pact⟩ := e
    rw [recordAll_cons, ih, restrict_record, restrictLog, restrictLog, List.filter_cons]
    dsimp only
    split <;> rfl

end Registry

end Pacts
