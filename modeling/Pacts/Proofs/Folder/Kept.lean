import Mathlib.Data.String.Basic
import Pacts.Load.Folder

/-!
# Pacts under their paths

A folder loader keeps pacts in order of their paths, each path once (`Ordered`), so what it has is
determined by what is found under each path (`eq_of_lookup_eq`).  To keep a pact changes what is
found under its path and nothing else (`lookup_insertPact`).
-/

set_option autoImplicit false

namespace Pacts

namespace Folder

/-! ## Pacts in order of their paths -/

/-- The paths come in strict order, so none is there twice. -/
def Ordered (loaded : List (String × Pact)) : Prop := loaded.Pairwise (·.1 < ·.1)

theorem lookup_cons_eq (path p : String) (q : Pact) (loaded : List (String × Pact)) :
    ((p, q) :: loaded).lookup path = if p = path then some q else loaded.lookup path := by
  by_cases h : p = path
  · simp [h]
  · have hne : (path == p) = false := beq_eq_false_iff_ne.2 (Ne.symm h)
    rw [List.lookup_cons, hne, if_neg h]

theorem lookup_insertPact (path other : String) (pact : Pact) (loaded : List (String × Pact)) :
    (insertPact path pact loaded).lookup other =
      if path = other then some pact else loaded.lookup other := by
  induction loaded with
  | nil => exact lookup_cons_eq other path pact []
  | cons e loaded ih =>
    obtain ⟨p, q⟩ := e
    rw [insertPact]
    split
    · exact lookup_cons_eq other path pact _
    · split
      · rename_i hp
        subst hp
        rw [lookup_cons_eq, lookup_cons_eq]
        split <;> rfl
      · rename_i hp
        rw [lookup_cons_eq, lookup_cons_eq, ih]
        by_cases ho : p = other
        · have hne : path ≠ other := fun h => hp (h.trans ho.symm)
          rw [if_pos ho, if_pos ho, if_neg hne]
        · rw [if_neg ho, if_neg ho]

theorem mem_insertPact {path : String} {pact : Pact} {loaded : List (String × Pact)}
    {e : String × Pact} (h : e ∈ insertPact path pact loaded) : e = (path, pact) ∨ e ∈ loaded := by
  induction loaded with
  | nil => exact .inl (List.mem_singleton.1 h)
  | cons f loaded ih =>
    obtain ⟨p, q⟩ := f
    rw [insertPact] at h
    split at h
    · exact List.mem_cons.1 h
    · split at h
      · exact (List.mem_cons.1 h).imp_right (List.mem_cons_of_mem _)
      · rcases List.mem_cons.1 h with rfl | h
        · exact .inr List.mem_cons_self
        · exact (ih h).imp_right (List.mem_cons_of_mem _)

theorem ordered_insertPact {path : String} {pact : Pact} {loaded : List (String × Pact)}
    (h : Ordered loaded) : Ordered (insertPact path pact loaded) := by
  induction loaded with
  | nil => exact List.pairwise_singleton _ _
  | cons f loaded ih =>
    obtain ⟨p, q⟩ := f
    obtain ⟨hfirst, hrest⟩ := List.pairwise_cons.1 h
    rw [insertPact]
    split
    · rename_i hlt
      refine List.pairwise_cons.2 ⟨?_, h⟩
      intro e he
      rcases List.mem_cons.1 he with rfl | he
      · exact hlt
      · exact String.lt_trans hlt (hfirst e he)
    · rename_i hlt
      split
      · rename_i heq
        subst heq
        exact List.pairwise_cons.2 ⟨hfirst, hrest⟩
      · rename_i hne
        refine List.pairwise_cons.2 ⟨?_, ih hrest⟩
        intro e he
        rcases mem_insertPact he with rfl | he
        · exact lt_of_le_of_ne (String.not_lt.1 hlt) (Ne.symm hne)
        · exact hfirst e he

/-- Nothing is found under a path that comes before all others. -/
theorem lookup_eq_none_of_lt {path : String} {loaded : List (String × Pact)}
    (h : ∀ e ∈ loaded, path < e.1) : loaded.lookup path = none := by
  refine List.lookup_eq_none_iff.2 fun e he => ?_
  have hlt := h e he
  simpa using fun heq : path = e.1 => String.lt_irrefl _ (heq ▸ hlt)

/-- A path under which something is found does not come before the first. -/
theorem le_of_lookup_eq_some {path p : String} {q pact : Pact} {loaded : List (String × Pact)}
    (h : Ordered ((p, q) :: loaded)) (hl : ((p, q) :: loaded).lookup path = some pact) :
    p ≤ path := by
  by_contra hlt
  have hlt : path < p := String.not_le.1 hlt
  rw [lookup_eq_none_of_lt] at hl
  · cases hl
  · intro e he
    rcases List.mem_cons.1 he with rfl | he
    · exact hlt
    · exact String.lt_trans hlt ((List.pairwise_cons.1 h).1 e he)

/-- **What is found under each path determines the whole.** -/
theorem eq_of_lookup_eq {a b : List (String × Pact)} (ha : Ordered a) (hb : Ordered b)
    (h : ∀ path, a.lookup path = b.lookup path) : a = b := by
  induction a generalizing b with
  | nil =>
    cases b with
    | nil => rfl
    | cons f b =>
      obtain ⟨p, q⟩ := f
      simpa [lookup_cons_eq] using h p
  | cons e a ih =>
    obtain ⟨p, q⟩ := e
    cases b with
    | nil => simpa [lookup_cons_eq] using h p
    | cons f b =>
      obtain ⟨p', q'⟩ := f
      have hp : ((p', q') :: b).lookup p = some q := by
        rw [← h p, lookup_cons_eq, if_pos rfl]
      have hp' : ((p, q) :: a).lookup p' = some q' := by
        rw [h p', lookup_cons_eq, if_pos rfl]
      obtain rfl : p = p' :=
        String.le_antisymm (le_of_lookup_eq_some ha hp') (le_of_lookup_eq_some hb hp)
      obtain rfl : q = q' := by simpa [lookup_cons_eq] using hp.symm
      obtain ⟨hafirst, ha⟩ := List.pairwise_cons.1 ha
      obtain ⟨hbfirst, hb⟩ := List.pairwise_cons.1 hb
      congr 1
      refine ih ha hb fun path => ?_
      by_cases hpath : p = path
      · subst hpath
        rw [lookup_eq_none_of_lt hafirst, lookup_eq_none_of_lt hbfirst]
      · have hrest := h path
        rwa [lookup_cons_eq, lookup_cons_eq, if_neg hpath, if_neg hpath] at hrest

/-! ## Keeping what was read -/

/-- Pacts to which those that were read are added. -/
def keepAll (loaded read : List (String × Pact)) : List (String × Pact) :=
  read.foldl (fun loaded (path, pact) => insertPact path pact loaded) loaded

theorem ordered_keepAll {loaded : List (String × Pact)} (h : Ordered loaded)
    (read : List (String × Pact)) : Ordered (keepAll loaded read) := by
  induction read generalizing loaded with
  | nil => exact h
  | cons e read ih => exact ih (ordered_insertPact h)

/-- Under a path at which nothing was read stands what stood there. -/
theorem lookup_keepAll_of_not_mem {loaded read : List (String × Pact)} {path : String}
    (h : ∀ pact, (path, pact) ∉ read) : (keepAll loaded read).lookup path = loaded.lookup path := by
  induction read generalizing loaded with
  | nil => rfl
  | cons e read ih =>
    obtain ⟨p, q⟩ := e
    have hp : p ≠ path := by
      rintro rfl
      exact h q List.mem_cons_self
    have hrest : (keepAll (insertPact p q loaded) read).lookup path =
        (insertPact p q loaded).lookup path := ih fun pact hm => h pact (List.mem_cons_of_mem _ hm)
    rw [lookup_insertPact, if_neg hp] at hrest
    exact hrest

/-- Under a path at which a pact was read, and no other one, stands this pact. -/
theorem lookup_keepAll_of_mem {loaded read : List (String × Pact)} {path : String} {pact : Pact}
    (hmem : (path, pact) ∈ read) (hone : ∀ other, (path, other) ∈ read → other = pact) :
    (keepAll loaded read).lookup path = some pact := by
  induction read generalizing loaded with
  | nil => cases hmem
  | cons e read ih =>
    obtain ⟨p, q⟩ := e
    by_cases hlater : ∃ other, (path, other) ∈ read
    · obtain ⟨other, hother⟩ := hlater
      obtain rfl := hone other (List.mem_cons_of_mem _ hother)
      exact ih hother fun other hm => hone other (List.mem_cons_of_mem _ hm)
    · rcases List.mem_cons.1 hmem with he | hmem
      · obtain ⟨rfl, rfl⟩ := Prod.mk.inj he
        have hkept : (keepAll (insertPact path pact loaded) read).lookup path = _ :=
          lookup_keepAll_of_not_mem fun other hm => hlater ⟨other, hm⟩
        rw [lookup_insertPact, if_pos rfl] at hkept
        exact hkept
      · exact absurd ⟨pact, hmem⟩ hlater

end Folder

end Pacts
