import Mathlib.Data.Finset.Card
import Mathlib.Logic.Function.Basic
import Pacts.Proofs.Registry.Replay

/-!
# Registries as logs

A registry groups its pacts by consumer, and a merge goes group by group.  This file takes the log
of what was recorded for the registry itself: recording appends one entry to a log, and merging
appends a whole log.

* `consumers_recordAll` and `get?_recordAll` — what a registry says of its log.
* `Change` — what can happen to registries that are kept under names.  A registry may be merged into
  any other and into itself; what is merged in is a copy.
* `replays_apply` and `replays_run` — one change, and a run of changes, keep every registry the
  replay of its log.
* `run_replays_log` — what follows for every registry that comes about in this way: its groups are
  those of its log, and merging is associative.
-/

set_option autoImplicit false

namespace Pacts

namespace Registry

/-! ## What a registry says of its log -/

/-- The names in a log. -/
def loggedNames (log : List (String × Pact)) : List String := log.map (·.1)

/-- The pacts of a consumer in a log, in order. -/
def loggedPacts (consumer : String) (log : List (String × Pact)) : List Pact :=
  (log.filter (·.1 = consumer)).map (·.2)

theorem loggedPacts_cons (consumer : String) (e : String × Pact) (log : List (String × Pact)) :
    loggedPacts consumer (e :: log) =
      if e.1 = consumer then e.2 :: loggedPacts consumer log else loggedPacts consumer log := by
  by_cases h : e.1 = consumer <;> simp [loggedPacts, h]

theorem loggedPacts_append (consumer : String) (a b : List (String × Pact)) :
    loggedPacts consumer (a ++ b) = loggedPacts consumer a ++ loggedPacts consumer b := by
  rw [loggedPacts, loggedPacts, loggedPacts, List.filter_append, List.map_append]

theorem loggedPacts_ne_nil {consumer : String} {log : List (String × Pact)}
    (h : consumer ∈ loggedNames log) : loggedPacts consumer log ≠ [] := by
  obtain ⟨e, he, rfl⟩ := List.mem_map.1 h
  exact List.ne_nil_of_mem (List.mem_map_of_mem (List.mem_filter.2 ⟨he, by simp⟩))

theorem loggedPacts_eq_nil_iff {consumer : String} {log : List (String × Pact)} :
    loggedPacts consumer log = [] ↔ consumer ∉ loggedNames log := by
  refine ⟨fun h hmem => loggedPacts_ne_nil hmem h, fun h => ?_⟩
  rw [loggedPacts, List.filter_eq_nil_iff.2, List.map_nil]
  intro e he hname
  exact h (List.mem_map.2 ⟨e, he, by simpa using hname⟩)

/-- Consumers stay in place; a new one comes last. -/
theorem consumers_record (r : Registry) (consumer : String) (pact : Pact) :
    (r.record consumer pact).consumers =
      if consumer ∈ r.consumers then r.consumers else r.consumers ++ [consumer] :=
  names_addTo consumer [pact] r.entries

/-- The consumers of a registry are the names in its log, in the order in which they first come. -/
theorem consumers_recordAll (log : List (String × Pact)) :
    (empty.recordAll log).consumers = (loggedNames log).eraseDups := by
  induction log using List.reverseRecOn with
  | nil => rfl
  | append_singleton log e ih =>
    have hnames : loggedNames (log ++ [e]) = loggedNames log ++ [e.1] := List.map_append
    rw [recordAll_append, recordAll_cons, recordAll_nil, consumers_record, ih, hnames,
      List.eraseDups_append]
    by_cases h : e.1 ∈ loggedNames log <;> simp [List.removeAll, List.eraseDups_cons, h]

theorem nodup_consumers_recordAll {r : Registry} (h : r.consumers.Nodup)
    (log : List (String × Pact)) : (r.recordAll log).consumers.Nodup := by
  induction log generalizing r with
  | nil => exact h
  | cons e log ih => exact ih (nodup_consumers_record h e.1 e.2)

theorem nodup_consumers_replay (log : List (String × Pact)) :
    (empty.recordAll log).consumers.Nodup :=
  nodup_consumers_recordAll (r := empty) List.nodup_nil log

theorem size_recordAll (log : List (String × Pact)) :
    (empty.recordAll log).size = (loggedNames log).toFinset.card := by
  have hnodup : (empty.recordAll log).consumers.Nodup := nodup_consumers_replay log
  have hnames : (empty.recordAll log).consumers.toFinset = (loggedNames log).toFinset := by
    ext name
    rw [List.mem_toFinset, List.mem_toFinset, consumers_recordAll, List.mem_eraseDups]
  rw [← hnames, List.toFinset_card_of_nodup hnodup]
  exact (List.length_map _).symm

/-- The pacts of a consumer come behind those that it has already. -/
theorem get?_recordAll (r : Registry) (log : List (String × Pact)) (consumer : String) :
    (r.recordAll log).get? consumer =
      if consumer ∈ loggedNames log then
        some ((r.get? consumer).getD [] ++ loggedPacts consumer log)
      else r.get? consumer := by
  induction log generalizing r with
  | nil => rfl
  | cons e log ih =>
    obtain ⟨name, pact⟩ := e
    rw [recordAll_cons, ih, get?_record, loggedPacts_cons]
    by_cases hn : name = consumer
    · subst hn
      by_cases hl : name ∈ loggedNames log
      · have hcons : name ∈ loggedNames ((name, pact) :: log) := List.mem_cons_of_mem _ hl
        simp [hl, hcons]
      · have hnone : loggedPacts name log = [] := loggedPacts_eq_nil_iff.2 hl
        have hcons : name ∈ loggedNames ((name, pact) :: log) := List.mem_cons_self
        simp [hl, hcons, hnone]
    · have hcons : consumer ∈ loggedNames ((name, pact) :: log) ↔ consumer ∈ loggedNames log := by
        simp [loggedNames, Ne.symm hn]
      simp only [hcons, if_neg hn]

theorem isEmpty_recordAll (log : List (String × Pact)) :
    (empty.recordAll log).isEmpty = log.isEmpty := by
  cases log with
  | nil => rfl
  | cons e log =>
    have hmem : e.1 ∈ (empty.recordAll (e :: log)).consumers := by
      rw [consumers_recordAll, List.mem_eraseDups]
      exact List.mem_cons_self
    cases hentries : (empty.recordAll (e :: log)).entries with
    | nil => simp [consumers, hentries] at hmem
    | cons _ _ => simp [isEmpty, hentries]

/-! ## Registries under names -/

/-- What can happen to registries that are kept under names. -/
inductive Change where
  /-- A pact is recorded in the registry of a name. -/
  | record (name consumer : String) (pact : Pact)
  /-- A copy of a registry, which may be the same, is merged into the registry of a name. -/
  | merge (name other : String)

/-- The registries after a change. -/
def Change.apply (shelf : String → Registry) : Change → String → Registry
  | .record name consumer pact =>
    Function.update shelf name ((shelf name).record consumer pact)
  | .merge name other => Function.update shelf name ((shelf name).merge (shelf other))

/-- The logs after a change. -/
def Change.note (logs : String → List (String × Pact)) : Change → String → List (String × Pact)
  | .record name consumer pact => Function.update logs name (logs name ++ [(consumer, pact)])
  | .merge name other => Function.update logs name (logs name ++ logs other)

/-- The registries after a run of changes to empty ones. -/
def run (changes : List Change) : String → Registry := changes.foldl Change.apply fun _ => empty

/-- The logs after a run of changes to empty ones. -/
def logs (changes : List Change) : String → List (String × Pact) :=
  changes.foldl Change.note fun _ => []

/-- Every registry is the replay of its log. -/
def Replays (shelf : String → Registry) (logs : String → List (String × Pact)) : Prop :=
  ∀ name, shelf name = empty.recordAll (logs name)

theorem Replays.update {shelf : String → Registry} {logs : String → List (String × Pact)}
    (h : Replays shelf logs) {name : String} {r : Registry} {log : List (String × Pact)}
    (hr : r = empty.recordAll log) :
    Replays (Function.update shelf name r) (Function.update logs name log) := by
  intro other
  rw [Function.update_apply, Function.update_apply]
  split
  · exact hr
  · exact h other

/-- A change to a registry is the change to its log. -/
theorem replays_apply {shelf : String → Registry} {logs : String → List (String × Pact)}
    (h : Replays shelf logs) (change : Change) :
    Replays (change.apply shelf) (change.note logs) := by
  cases change with
  | record name consumer pact =>
    refine h.update ?_
    rw [recordAll_append, ← h name]
    rfl
  | merge name other =>
    refine h.update ?_
    rw [h other, merge_recordAll, recordAll_append, ← h name]

theorem replays_foldl (changes : List Change) {shelf : String → Registry}
    {logs : String → List (String × Pact)} (h : Replays shelf logs) :
    Replays (changes.foldl Change.apply shelf) (changes.foldl Change.note logs) := by
  induction changes generalizing shelf logs with
  | nil => exact h
  | cons change changes ih => exact ih (replays_apply h change)

theorem replays_run (changes : List Change) : Replays (run changes) (logs changes) :=
  replays_foldl changes fun _ => rfl

theorem nodup_consumers_run (changes : List Change) (name : String) :
    (run changes name).consumers.Nodup := by
  rw [replays_run changes name]
  exact nodup_consumers_replay (logs changes name)

/-- **A registry is as good as its log.**  Whatever happens to any number of registries, each of
them is what comes about by recording its log one entry at a time.  Its consumers are the names in
the log, in the order in which they first come, and as many as there are different names; a consumer
that is not in the log has no entry, and any other has its pacts in the order of the log, of which
there is at least one; there are as many pacts as entries in the log, and the registry is empty when
the log is.  So to merge such registries is associative and has the empty registry for its identity,
down to the order of the consumers. -/
theorem run_replays_log (changes : List Change) (name : String) :
    let r := run changes name
    let log := logs changes name
    r = empty.recordAll log ∧
      r.consumers = (loggedNames log).eraseDups ∧
      (∀ consumer, r.get? consumer =
        if consumer ∈ loggedNames log then some (loggedPacts consumer log) else none) ∧
      (∀ consumer, r.get? consumer ≠ some []) ∧
      r.size = (loggedNames log).toFinset.card ∧
      r.pactCount = log.length ∧
      r.isEmpty = log.isEmpty ∧
      empty.merge r = r ∧ r.merge empty = r ∧
      ∀ (changes' changes'' : List Change) (name' name'' : String),
        let r' := run changes' name'
        let r'' := run changes'' name''
        (r.merge r').merge r'' = r.merge (r'.merge r'') := by
  intro r log
  have hr : r = empty.recordAll log := replays_run changes name
  have hget : ∀ consumer, r.get? consumer =
      if consumer ∈ loggedNames log then some (loggedPacts consumer log) else none := by
    intro consumer
    rw [hr, get?_recordAll]
    rfl
  refine ⟨hr, ?_, hget, ?_, ?_, ?_, ?_, ?_, rfl, ?_⟩
  · rw [hr, consumers_recordAll]
  · intro consumer he
    rw [hget] at he
    split at he
    · rename_i hmem
      exact loggedPacts_ne_nil hmem (Option.some.inj he)
    · cases he
  · rw [hr, size_recordAll]
  · rw [hr, pactCount_recordAll]
    exact Nat.zero_add _
  · rw [hr, isEmpty_recordAll]
  · rw [hr, merge_recordAll]
  · intro changes' changes'' name' name'' r' r''
    have hr' : r' = empty.recordAll (logs changes' name') := replays_run changes' name'
    have hr'' : r'' = empty.recordAll (logs changes'' name'') := replays_run changes'' name''
    calc (r.merge r').merge r''
        = (r.recordAll (logs changes' name')).recordAll (logs changes'' name'') := by
          rw [hr', hr'', merge_recordAll, merge_recordAll]
      _ = r.recordAll (logs changes' name' ++ logs changes'' name'') :=
          (recordAll_append r _ _).symm
      _ = r.merge (empty.recordAll (logs changes' name' ++ logs changes'' name'')) :=
          (merge_recordAll r _).symm
      _ = r.merge (r'.merge r'') := by
          rw [hr', hr'', recordAll_append, merge_recordAll]

end Registry

end Pacts
