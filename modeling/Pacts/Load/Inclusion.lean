import Pacts.Broker.Consumers
import Pacts.Placeholder

/-!
# Which consumers count

The settings may name the consumers that count.  Every setting is a list of names once its
placeholders are looked up; when all of the lists together are empty, every consumer counts.
-/

set_option autoImplicit false

namespace Pacts

namespace Inclusion

/-- The names that settings stand for. -/
def names (lookup : Lookup) (settings : List String) : List String :=
  settings.flatMap (expandList lookup)

/-- The consumers that count, when those of the given names do. -/
def keep (names : List String) (consumers : List Consumer) : List Consumer :=
  if names = [] then consumers else consumers.filter (names.contains ·.name)

/-- The consumers that count by the settings. -/
def filter (lookup : Lookup) (settings : List String) (consumers : List Consumer) :
    List Consumer :=
  keep (names lookup settings) consumers

theorem keep_append (names : List String) (a b : List Consumer) :
    keep names (a ++ b) = keep names a ++ keep names b := by
  unfold keep
  split <;> simp

theorem keep_sublist (names : List String) (consumers : List Consumer) :
    (keep names consumers).Sublist consumers := by
  unfold keep
  split
  · exact List.Sublist.refl _
  · exact List.filter_sublist

theorem filter_nil (lookup : Lookup) (settings : List String) : filter lookup settings [] = [] :=
  List.sublist_nil.1 (keep_sublist _ _)

theorem keep_keep (names : List String) (consumers : List Consumer) :
    keep names (keep names consumers) = keep names consumers := by
  unfold keep
  split <;> simp

theorem counts_of_mem_filter {lookup : Lookup} {settings : List String} {consumers : List Consumer}
    {k : Consumer} (h : k ∈ filter lookup settings consumers) :
    names lookup settings = [] ∨ k.name ∈ names lookup settings := by
  rw [filter, keep] at h
  split at h
  · rename_i hn
    exact .inl hn
  · exact .inr (by simpa using (List.mem_filter.1 h).2)

end Inclusion

end Pacts
