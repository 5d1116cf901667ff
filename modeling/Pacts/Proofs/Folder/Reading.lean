import Mathlib.Data.List.Forall2
import Pacts.Load.Folder
import Pacts.Proofs.Pact.Envelope

/-!
# What one load of a directory reads

A load reads the files of a directory one after the other and stops at the first that cannot be
read.  `Reaches` says which files it gets to, and `reaches_cons_iff` takes it apart along the list
of paths, as `readAll` does.

* `readAll_eq_none_iff` — a load that reaches the end keeps all pacts of its provider.
* `readAll_eq_some_iff` — a load that does not stops at the first file that cannot be read.
* `mem_readAll_iff` — either way it keeps the pacts of its provider that it reaches (`Takes`).
-/

set_option autoImplicit false

namespace Pacts

namespace Folder

variable {files : Files} {provider : String}

/-! ## Files that are reached -/

/-- The file at a path holds a pact. -/
def Readable (files : Files) (path : String) : Prop := ∃ pact, Pact.ofFile files path = .ok pact

theorem not_readable_of_error {path : String} {e : ReadError}
    (he : Pact.ofFile files path = .error e) : ¬ Readable files path := by
  rintro ⟨pact, h⟩
  cases he.symm.trans h

/-- A file whose bytes are not to be had fails with its own path. -/
theorem eq_of_ofFile_eq_io {path other problem : String}
    (h : Pact.ofFile files path = .error (.io other problem)) : other = path := by
  rw [Pact.ofFile] at h
  split at h
  · cases h
    rfl
  · rw [Pact.ofText] at h
    split at h
    · cases h
    · cases Pact.ofJson_eq_error_iff.1 h

/-- All files in front of a path can be read. -/
def Reaches (files : Files) (paths : List String) (path : String) : Prop :=
  ∃ front rest, paths = front ++ path :: rest ∧ ∀ p ∈ front, Readable files p

theorem not_reaches_nil {path : String} : ¬ Reaches files [] path := by
  rintro ⟨front, rest, he, -⟩
  simp at he

theorem reaches_cons_iff {first path : String} {paths : List String} :
    Reaches files (first :: paths) path ↔
      path = first ∨ (Readable files first ∧ Reaches files paths path) := by
  constructor
  · rintro ⟨front, rest, he, hfront⟩
    cases front with
    | nil => exact .inl (List.cons.inj he).1.symm
    | cons p front =>
      obtain ⟨rfl, rfl⟩ := List.cons.inj he
      obtain ⟨hfirst, hfront⟩ := List.forall_mem_cons.1 hfront
      exact .inr ⟨hfirst, front, rest, rfl, hfront⟩
  · rintro (rfl | ⟨hfirst, front, rest, rfl, hfront⟩)
    · exact ⟨[], paths, rfl, by simp⟩
    · exact ⟨first :: front, rest, rfl, List.forall_mem_cons.2 ⟨hfirst, hfront⟩⟩

/-! ## Pacts that are accepted -/

/-- A load for a provider accepts the pact at a path: the path is reached, and the provider is the
right one. -/
structure Takes (files : Files) (provider : String) (paths : List String) (path : String)
    (pact : Pact) : Prop where
  reaches : Reaches files paths path
  read : Pact.ofFile files path = .ok pact
  provider_eq : pact.provider = provider

theorem Takes.unique {paths : List String} {path : String} {pact other : Pact}
    (h : Takes files provider paths path pact) (h' : Takes files provider paths path other) :
    other = pact :=
  Except.ok.inj (h'.read.symm.trans h.read)

theorem not_takes_nil {path : String} {pact : Pact} : ¬ Takes files provider [] path pact :=
  fun h => not_reaches_nil h.reaches

theorem not_takes_cons_of_error {first path : String} {paths : List String} {pact : Pact}
    {e : ReadError} (he : Pact.ofFile files first = .error e) :
    ¬ Takes files provider (first :: paths) path pact := by
  rintro ⟨hreaches, hread, -⟩
  rcases reaches_cons_iff.1 hreaches with rfl | ⟨hfirst, -⟩
  · exact not_readable_of_error he ⟨pact, hread⟩
  · exact not_readable_of_error he hfirst

theorem takes_cons_of_ok {first path : String} {paths : List String} {pact read : Pact}
    (hr : Pact.ofFile files first = .ok read) :
    Takes files provider (first :: paths) path pact ↔
      (path = first ∧ pact = read ∧ read.provider = provider) ∨
        Takes files provider paths path pact := by
  constructor
  · rintro ⟨hreaches, hread, hprovider⟩
    rcases reaches_cons_iff.1 hreaches with rfl | ⟨-, hreaches⟩
    · obtain rfl := Except.ok.inj (hr.symm.trans hread)
      exact .inl ⟨rfl, rfl, hprovider⟩
    · exact .inr ⟨hreaches, hread, hprovider⟩
  · rintro (⟨rfl, rfl, hprovider⟩ | ⟨hreaches, hread, hprovider⟩)
    · exact ⟨reaches_cons_iff.2 (.inl rfl), hr, hprovider⟩
    · exact ⟨reaches_cons_iff.2 (.inr ⟨⟨read, hr⟩, hreaches⟩), hread, hprovider⟩

/-- A load keeps the pacts that it accepts. -/
theorem mem_readAll_iff {paths : List String} {path : String} {pact : Pact} :
    (path, pact) ∈ (readAll files provider paths).1 ↔ Takes files provider paths path pact := by
  induction paths with
  | nil => simp [readAll, not_takes_nil]
  | cons first paths ih =>
    rw [readAll]
    cases hr : Pact.ofFile files first with
    | error e => simp [not_takes_cons_of_error hr]
    | ok read =>
      rw [takes_cons_of_ok hr, ← ih]
      by_cases hp : read.provider = provider <;> simp [hp]

/-! ## How a load ends -/

/-- The pacts at paths, in order. -/
def ReadsAs (files : Files) : List String → List Pact → Prop :=
  List.Forall₂ fun path pact => Pact.ofFile files path = .ok pact

/-- Nothing goes wrong when every file can be read; then all pacts of the provider are kept. -/
theorem readAll_eq_none_iff {paths : List String} {pacts : List Pact} :
    (readAll files provider paths).2 = none ∧ (readAll files provider paths).1.map (·.2) = pacts ↔
      ∃ read, ReadsAs files paths read ∧ pacts = read.filter (·.provider = provider) := by
  induction paths generalizing pacts with
  | nil =>
    constructor
    · rintro ⟨-, rfl⟩
      exact ⟨[], .nil, rfl⟩
    · rintro ⟨read, ⟨⟩, rfl⟩
      exact ⟨rfl, rfl⟩
  | cons path paths ih =>
    rw [readAll]
    cases hr : Pact.ofFile files path with
    | error e =>
      constructor
      · rintro ⟨h, -⟩
        cases h
      · rintro ⟨read, hread, -⟩
        cases hread with
        | cons hfirst => simp [hr] at hfirst
    | ok pact =>
      constructor
      · rintro ⟨hnone, rfl⟩
        obtain ⟨read, hread, hpacts⟩ := ih.1 ⟨hnone, rfl⟩
        refine ⟨pact :: read, .cons hr hread, ?_⟩
        by_cases hp : pact.provider = provider <;> simp [hp, hpacts]
      · rintro ⟨read, hread, rfl⟩
        cases hread with
        | cons hfirst hrest =>
          obtain rfl := Except.ok.inj (hr.symm.trans hfirst)
          obtain ⟨hnone, hpacts⟩ := ih.2 ⟨_, hrest, rfl⟩
          refine ⟨hnone, ?_⟩
          by_cases hp : pact.provider = provider <;> simp [hp, hpacts]

/-- What goes wrong is what is wrong with the file that cannot be read although all files in front
of it can. -/
theorem readAll_eq_some_iff {paths : List String} {e : ReadError} :
    (readAll files provider paths).2 = some e ↔
      ∃ path, Reaches files paths path ∧ Pact.ofFile files path = .error e := by
  induction paths with
  | nil => simp [readAll, not_reaches_nil]
  | cons first paths ih =>
    simp only [reaches_cons_iff]
    rw [readAll]
    cases hr : Pact.ofFile files first with
    | error e' =>
      constructor
      · intro h
        cases h
        exact ⟨first, .inl rfl, hr⟩
      · rintro ⟨path, rfl | ⟨hfirst, -⟩, he⟩
        · exact congrArg some (Except.error.inj (hr.symm.trans he))
        · exact absurd hfirst (not_readable_of_error hr)
    | ok read =>
      refine ih.trans ⟨?_, ?_⟩
      · rintro ⟨path, hreaches, he⟩
        exact ⟨path, .inr ⟨⟨read, hr⟩, hreaches⟩, he⟩
      · rintro ⟨path, rfl | ⟨-, hreaches⟩, he⟩
        · cases hr.symm.trans he
        · exact ⟨path, hreaches, he⟩

end Folder

end Pacts
