import Mathlib.Data.List.Defs
import Pacts.Proofs.Load.Course
import Pacts.Proofs.Registry.Replay

/-!
# What a loader keeps

A loader is used again and again: it loads for one provider and then for another, its lookup and its
view of empty listings are changed in between, and pacts are resolved that it is not to keep.  Each
load collects its pacts in a registry of its own, which is merged into that of the loader when the
load is over, whether it failed or not.

* `Operation` and `perform` — what can be done with a loader.
* `entries` — a run of operations against a machine, each with the loader before and after it, what
  was said meanwhile and what came back.
* `Entry.Brings` — the downloads of an entry, as the course of its load has them.
* `loaded_replays_downloads` — after every run, the registry of the loader is what comes about by
  recording all these downloads one at a time.
-/

set_option autoImplicit false

namespace Pacts

open Session (Talk Ends ends_bind_done_iff ends_done_iff)

namespace BrokerLoader

/-! ## Operations -/

/-- What can be done with a loader. -/
inductive Operation where
  /-- To load; `named` is the lookup that the settings name, as it is at that time. -/
  | load (named : Lookup) (provider : String)
  | resolve (lookup : Lookup) (provider : String)
  | setLookup (lookup : Lookup)
  | setFailIfNone (fail : Bool)

/-- What comes back from an operation. -/
inductive Outcome where
  | loaded (result : Except LoadError (List Pact))
  | resolved (result : Except LoadError (List Pact × Registry))
  | set

/-- Does something with a loader. -/
def perform (l : BrokerLoader) : Operation → Session (BrokerLoader × Outcome)
  | .load named provider => do
    let (l, result) ← l.load named provider
    return (l, .loaded result)
  | .resolve lookup provider => do
    let result ← l.resolve lookup provider
    return (l, .resolved result)
  | .setLookup lookup => return (l.withLookup lookup, .set)
  | .setFailIfNone fail => return (l.withFailIfNone fail, .set)

/-- An operation in the course of a run. -/
structure Entry where
  before : BrokerLoader
  operation : Operation
  /-- What was said meanwhile. -/
  talk : Talk
  outcome : Outcome
  after : BrokerLoader

/-- The entries of a run of operations against a machine. -/
def entries {σ : Type} (answer : σ → Request → Reply × σ) (l : BrokerLoader) :
    List Operation → σ → List Entry
  | [], _ => []
  | operation :: operations, state =>
    let session := l.perform operation
    let run := session.run answer state
    ⟨l, operation, session.talk answer state, run.1.2, run.1.1⟩ ::
      run.1.1.entries answer operations run.2.2

/-- The loader that entries leave. -/
def reached (l : BrokerLoader) : List Entry → BrokerLoader
  | [] => l
  | entry :: entries => entry.after.reached entries

/-- What an entry brings: for a load, the downloads of its course, which are also what it returns
unless something stopped it.  Nothing else brings anything. -/
def Entry.Brings (entry : Entry) (downloads : List (String × Pact)) : Prop :=
  match entry.operation with
  | .load named provider =>
    ∃ failure : Option LoadError,
      Course entry.before.settings (entry.before.lookup named) provider
        (entry.before.settings.passTags (entry.before.lookup named)) entry.talk downloads failure ∧
      entry.outcome = .loaded (match failure with
        | none => .ok (downloads.map (·.2))
        | some error => .error error)
  | _ => downloads = []

/-! ## One operation -/

/-- The loader that has downloads besides what it has. -/
def keep (l : BrokerLoader) (downloads : List (String × Pact)) : BrokerLoader :=
  { l with loaded := l.loaded.recordAll downloads }

/-- A load keeps its downloads as if they were recorded one at a time. -/
theorem load_eq (l : BrokerLoader) (named : Lookup) (provider : String) :
    l.load named provider = l.settings.collect (l.lookup named) provider >>= fun p =>
      Session.done (l.keep p.downloads, p.result) := by
  rw [load]
  congr 1
  funext p
  rw [keep, ← Registry.merge_recordAll]
  rfl

theorem loaded_load {l l' : BrokerLoader} {named : Lookup} {provider : String} {talk : Talk}
    {result : Except LoadError (List Pact)} (h : Ends (l.load named provider) talk (l', result)) :
    ∃ p : Progress, Course l.settings (l.lookup named) provider
        (l.settings.passTags (l.lookup named)) talk p.downloads p.failure ∧
      l' = l.keep p.downloads ∧ result = p.result := by
  rw [load_eq] at h
  obtain ⟨p, hp, he⟩ := ends_bind_done_iff.1 h
  obtain ⟨rfl, rfl⟩ := Prod.mk.inj he
  exact ⟨p, BrokerSettings.ends_collect_iff.1 hp, rfl, rfl⟩

/-- The settings that tell where the broker is are the same. -/
def SamePlace (l l' : BrokerLoader) : Prop :=
  l'.settings.scheme = l.settings.scheme ∧ l'.settings.host = l.settings.host ∧
    l'.settings.port = l.settings.port

/-- What an operation brings is recorded, and the place of the broker stays. -/
theorem step_perform {l l' : BrokerLoader} {operation : Operation} {talk : Talk} {outcome : Outcome}
    (h : Ends (l.perform operation) talk (l', outcome)) :
    ∃ downloads, Entry.Brings ⟨l, operation, talk, outcome, l'⟩ downloads ∧
      l'.loaded = l.loaded.recordAll downloads ∧ l.SamePlace l' := by
  cases operation with
  | load named provider =>
    obtain ⟨⟨l₁, result⟩, hl, he⟩ := ends_bind_done_iff.1 h
    obtain ⟨rfl, rfl⟩ := Prod.mk.inj he
    obtain ⟨p, hp, rfl, rfl⟩ := loaded_load hl
    exact ⟨p.downloads, ⟨p.failure, hp, rfl⟩, rfl, rfl, rfl, rfl⟩
  | resolve lookup provider =>
    obtain ⟨result, -, he⟩ := ends_bind_done_iff.1 h
    obtain ⟨rfl, rfl⟩ := Prod.mk.inj he
    exact ⟨[], rfl, rfl, rfl, rfl, rfl⟩
  | setLookup lookup =>
    obtain ⟨-, he⟩ := ends_done_iff.1 h
    obtain ⟨rfl, rfl⟩ := Prod.mk.inj he
    exact ⟨[], rfl, rfl, rfl, rfl, rfl⟩
  | setFailIfNone fail =>
    obtain ⟨-, he⟩ := ends_done_iff.1 h
    obtain ⟨rfl, rfl⟩ := Prod.mk.inj he
    exact ⟨[], rfl, rfl, rfl, rfl, rfl⟩

/-! ## Runs -/

/-- What the entries of a run bring is recorded one after the other, from whatever the loader has
already. -/
theorem run_entries {σ : Type} (answer : σ → Request → Reply × σ) (operations : List Operation)
    (l : BrokerLoader) (state : σ) :
    ∃ downloads : List (List (String × Pact)),
      List.Forall₂ (fun entry brought => entry.Brings brought ∧
          entry.after.loaded.pactCount = entry.before.loaded.pactCount + brought.length)
        (l.entries answer operations state) downloads ∧
      (l.reached (l.entries answer operations state)).loaded =
        l.loaded.recordAll downloads.flatten ∧
      l.SamePlace (l.reached (l.entries answer operations state)) := by
  induction operations generalizing l state with
  | nil => exact ⟨[], .nil, rfl, rfl, rfl, rfl⟩
  | cons operation operations ih =>
    have hs := Session.ends_talk answer (l.perform operation) state
    obtain ⟨downloads, hb, hl, hp⟩ := step_perform hs
    obtain ⟨rest, hf, hr, hq⟩ := ih ((l.perform operation).run answer state).1.1
      ((l.perform operation).run answer state).2.2
    refine ⟨downloads :: rest, .cons ⟨hb, ?_⟩ hf, ?_, ?_⟩
    · rw [hl, Registry.pactCount_recordAll]
    · rw [List.flatten_cons, Registry.recordAll_append, ← hl]
      exact hr
    · exact ⟨hq.1.trans hp.1, hq.2.1.trans hp.2.1, hq.2.2.trans hp.2.2⟩

/-- **The registry of a loader is the replay of its downloads.**  Whatever is done with a loader and
whatever the broker answers, the registry is the empty one in which the downloads of all loads were
recorded one at a time, in order: those of loads that failed later are among them, and those of
`resolve` are not.  A load that succeeds returns the pacts of its own downloads in their order, by
whose number the loader then has more pacts.  Where the broker is stays as it was set. -/
theorem loaded_replays_downloads {σ : Type} (answer : σ → Request → Reply × σ) (state : σ)
    (settings : BrokerSettings) (operations : List Operation) :
    let start := ofSettings settings
    let entries := start.entries answer operations state
    ∃ downloads : List (List (String × Pact)),
      List.Forall₂ (fun entry brought => entry.Brings brought ∧
          entry.after.loaded.pactCount = entry.before.loaded.pactCount + brought.length)
        entries downloads ∧
      (start.reached entries).loaded = Registry.empty.recordAll downloads.flatten ∧
      (start.reached entries).settings.scheme = settings.scheme ∧
      (start.reached entries).settings.host = settings.host ∧
      (start.reached entries).settings.port = settings.port :=
  run_entries answer operations (ofSettings settings) state

end BrokerLoader

end Pacts
