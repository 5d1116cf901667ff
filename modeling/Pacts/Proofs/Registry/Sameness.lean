import Mathlib.Data.List.Forall2
import Mathlib.Data.List.Perm.Subperm
import Pacts.Proofs.Registry.Log

/-!
# When registries are the same

Two registries are the same when they have as many consumers and each entry of the one is found in
the other.  That is how it is worked out, and what it comes to is told by a `view`: what a registry
holds for a consumer, apart from the signs of zeros.  As each consumer has one entry only, registries
are the same when their views are (`same_iff`), so the order of the consumers cannot matter.

The view of a registry that was built from a log shows the pacts of each consumer in their order, and
nothing of how the records of different consumers were interleaved.

* `same_recordAll_iff` — registries are the same when their logs agree consumer by consumer.
* `loggedPacts_swap` and `same_exchange_iff` — two records that change places: of different
  consumers this is not seen, and of the same consumer it always is, unless the pacts are the same.
* `same_merge_comm` and `consumers_recordAll_append` — registries without a common consumer may be
  merged either way, and only the order of the consumers tells which way it was.
* `same_up_to_interleaving` — all of this in one statement.
-/

set_option autoImplicit false

namespace Pacts

namespace Pact

variable {p q : Pact} {ps qs : List Pact}

theorem same_iff : p.same q = true ↔ p.canonical = q.canonical := decide_eq_true_iff

/-- Pacts from different places are not the same. -/
theorem source_eq_of_same (h : p.same q = true) : p.source = q.source := by
  have hsource : p.canonical.source = q.canonical.source := by rw [same_iff.1 h]
  exact hsource

theorem map_canonical_eq_iff :
    ps.map canonical = qs.map canonical ↔ List.Forall₂ (fun p q => p.same q = true) ps qs := by
  rw [← List.forall₂_eq_eq_eq, List.forall₂_map_left_iff, List.forall₂_map_right_iff]
  simp only [same_iff]

end Pact

namespace Registry

/-! ## Views -/

/-- What a registry holds for a consumer, apart from the signs of zeros. -/
def view (r : Registry) (consumer : String) : Option (List Pact) :=
  (r.get? consumer).map (List.map Pact.canonical)

theorem find_eq_none_iff {consumer : String} {entries : List (String × List Pact)} :
    find consumer entries = none ↔ consumer ∉ names entries := by
  induction entries with
  | nil => simp [find, names]
  | cons e entries ih =>
    obtain ⟨c, ps⟩ := e
    by_cases h : c = consumer
    · simp [find, names, h]
    · simp only [names] at ih
      simp [find, names, h, Ne.symm h, ih]

theorem find_of_mem {consumer : String} {pacts : List Pact} {entries : List (String × List Pact)}
    (hnodup : (names entries).Nodup) (h : (consumer, pacts) ∈ entries) :
    find consumer entries = some pacts := by
  induction entries with
  | nil => cases h
  | cons e entries ih =>
    rw [names, List.map_cons, List.nodup_cons] at hnodup
    rcases List.mem_cons.1 h with rfl | h
    · simp [find]
    · have hne : e.1 ≠ consumer := fun he => hnodup.1 (List.mem_map.2 ⟨_, h, he.symm⟩)
      rw [find, if_neg hne]
      exact ih hnodup.2 h

variable {r other : Registry}

theorem view_eq_none_iff {consumer : String} : r.view consumer = none ↔ consumer ∉ r.consumers := by
  rw [view, Option.map_eq_none_iff]
  exact find_eq_none_iff

/-- A registry is compared entry by entry with the view of another one. -/
theorem same_eq_true_iff :
    r.same other = true ↔ r.consumers.length = other.consumers.length ∧
      ∀ e ∈ r.entries, other.view e.1 = some (e.2.map Pact.canonical) := by
  have hsize : ∀ r : Registry, r.size = r.consumers.length := fun r => (List.length_map _).symm
  rw [same, Bool.and_eq_true, beq_iff_eq, List.all_eq_true, hsize, hsize]
  refine and_congr_right fun _ => forall₂_congr fun e _ => ?_
  dsimp only
  rw [view]
  cases other.get? e.1 with
  | none => simp
  | some others => simp [samePacts, eq_comm]

/-- **Registries are the same when their views are.**  With as many consumers in the one as in the
other, and all those of the one among those of the other, there are no others left. -/
theorem same_iff (hr : r.consumers.Nodup) (ho : other.consumers.Nodup) :
    r.same other = true ↔ r.view = other.view := by
  have hview : ∀ e ∈ r.entries, r.view e.1 = some (e.2.map Pact.canonical) := by
    intro e he
    rw [view, get?, find_of_mem hr he, Option.map_some]
  rw [same_eq_true_iff]
  constructor
  · rintro ⟨hlength, hentries⟩
    have hsub : r.consumers ⊆ other.consumers := by
      intro consumer hc
      obtain ⟨e, he, rfl⟩ := List.mem_map.1 hc
      by_contra hnot
      have hfound := hentries e he
      rw [view_eq_none_iff.2 hnot] at hfound
      cases hfound
    have hperm : r.consumers.Perm other.consumers :=
      (List.Nodup.subperm hr hsub).perm_of_length_le hlength.ge
    funext consumer
    by_cases hc : consumer ∈ r.consumers
    · obtain ⟨e, he, rfl⟩ := List.mem_map.1 hc
      rw [hview e he, hentries e he]
    · have hnot : consumer ∉ other.consumers := fun h => hc (hperm.mem_iff.2 h)
      rw [view_eq_none_iff.2 hc, view_eq_none_iff.2 hnot]
  · intro h
    have hmem : ∀ consumer, consumer ∈ r.consumers ↔ consumer ∈ other.consumers := by
      intro consumer
      rw [← not_iff_not, ← view_eq_none_iff, ← view_eq_none_iff, h]
    refine ⟨((List.perm_ext_iff_of_nodup hr ho).2 hmem).length_eq, ?_⟩
    intro e he
    rw [← h, hview e he]

/-! ## Logs -/

variable {a b : List (String × Pact)}

/-- The view of a registry shows the pacts of a consumer in its log, if there are any. -/
theorem view_recordAll (log : List (String × Pact)) (consumer : String) :
    (empty.recordAll log).view consumer =
      if (loggedPacts consumer log).map Pact.canonical = [] then none
      else some ((loggedPacts consumer log).map Pact.canonical) := by
  rw [view, get?_recordAll]
  by_cases h : consumer ∈ loggedNames log
  · have hne : (loggedPacts consumer log).map Pact.canonical ≠ [] := by
      rw [Ne, List.map_eq_nil_iff]
      exact loggedPacts_ne_nil h
    rw [if_pos h, if_neg hne]
    rfl
  · rw [if_neg h, loggedPacts_eq_nil_iff.2 h]
    rfl

/-- **Registries are the same when their logs agree consumer by consumer.**  A consumer that is in
neither log agrees as well, and one that is in one of them only does not. -/
theorem same_recordAll_iff :
    (empty.recordAll a).same (empty.recordAll b) = true ↔
      ∀ consumer, List.Forall₂ (fun p q => p.same q = true) (loggedPacts consumer a)
        (loggedPacts consumer b) := by
  rw [same_iff (nodup_consumers_replay a) (nodup_consumers_replay b), funext_iff]
  refine forall_congr' fun consumer => ?_
  rw [view_recordAll, view_recordAll, ← Pact.map_canonical_eq_iff]
  generalize (loggedPacts consumer a).map Pact.canonical = ps
  generalize (loggedPacts consumer b).map Pact.canonical = qs
  by_cases hp : ps = [] <;> by_cases hq : qs = [] <;> simp [hp, hq, eq_comm]

/-- What a registry holds for a consumer hangs on the pacts of this consumer in its log only. -/
theorem get?_congr {consumer : String} (h : loggedPacts consumer a = loggedPacts consumer b) :
    (empty.recordAll a).get? consumer = (empty.recordAll b).get? consumer := by
  have hmem : consumer ∈ loggedNames a ↔ consumer ∈ loggedNames b := by
    rw [← not_iff_not, ← loggedPacts_eq_nil_iff, ← loggedPacts_eq_nil_iff, h]
  rw [get?_recordAll, get?_recordAll, h]
  simp only [hmem]

theorem view_congr (h : ∀ consumer, loggedPacts consumer a = loggedPacts consumer b) :
    (empty.recordAll a).view = (empty.recordAll b).view := by
  funext consumer
  rw [view, view, get?_congr (h consumer)]

/-- Registries with one view are the same as the same others. -/
theorem same_congr {r' : Registry} (h : r.view = r'.view) (hr : r.consumers.Nodup)
    (hr' : r'.consumers.Nodup) (ho : other.consumers.Nodup) :
    r.same other = r'.same other ∧ other.same r = other.same r' := by
  refine ⟨?_, ?_⟩
  · rw [Bool.eq_iff_iff, same_iff hr ho, same_iff hr' ho, h]
  · rw [Bool.eq_iff_iff, same_iff ho hr, same_iff ho hr', h]

/-! ## Records that change places -/

/-- That two records of different consumers change places is not seen from any consumer. -/
theorem loggedPacts_swap {c d : String} (h : c ≠ d) (p q : Pact)
    (front back : List (String × Pact)) (consumer : String) :
    loggedPacts consumer (front ++ (c, p) :: (d, q) :: back) =
      loggedPacts consumer (front ++ (d, q) :: (c, p) :: back) := by
  simp only [loggedPacts_append, loggedPacts_cons]
  by_cases hc : c = consumer
  · have hd : ¬ d = consumer := fun hd => h (hc.trans hd.symm)
    simp only [if_pos hc, if_neg hd]
  · simp only [if_neg hc]

theorem size_of_perm (h : a.Perm b) : (empty.recordAll a).size = (empty.recordAll b).size := by
  rw [size_recordAll, size_recordAll, loggedNames, loggedNames,
    List.toFinset_eq_of_perm _ _ (h.map _)]

theorem pactCount_of_perm (h : a.Perm b) :
    (empty.recordAll a).pactCount = (empty.recordAll b).pactCount := by
  rw [pactCount_recordAll, pactCount_recordAll, h.length_eq]

/-- That two records of one consumer change places is seen, unless the pacts are the same. -/
theorem same_exchange_iff (consumer : String) (p q : Pact)
    (front middle back : List (String × Pact)) :
    (empty.recordAll (front ++ (consumer, p) :: (middle ++ (consumer, q) :: back))).same
        (empty.recordAll (front ++ (consumer, q) :: (middle ++ (consumer, p) :: back))) = true ↔
      p.same q = true := by
  rw [same_recordAll_iff, Pact.same_iff]
  simp only [← Pact.map_canonical_eq_iff, loggedPacts_append, loggedPacts_cons, List.map_append]
  constructor
  · intro h
    have hconsumer := h consumer
    simp only [if_true, List.map_cons] at hconsumer
    exact (List.cons.inj (List.append_cancel_left hconsumer)).1
  · intro h other
    by_cases hc : consumer = other
    · simp only [if_pos hc, List.map_cons, List.map_append, h]
    · simp only [if_neg hc]

/-! ## Merging either way -/

/-- Logs without a common consumer are put together either way. -/
theorem loggedPacts_append_comm (h : ∀ consumer ∈ loggedNames a, consumer ∉ loggedNames b)
    (consumer : String) : loggedPacts consumer (a ++ b) = loggedPacts consumer (b ++ a) := by
  rw [loggedPacts_append, loggedPacts_append]
  by_cases ha : consumer ∈ loggedNames a
  · rw [loggedPacts_eq_nil_iff.2 (h consumer ha), List.append_nil, List.nil_append]
  · rw [loggedPacts_eq_nil_iff.2 ha, List.append_nil, List.nil_append]

/-- The consumers of a registry that has none in common with the other come behind those of the
other. -/
theorem consumers_recordAll_append (h : ∀ consumer ∈ loggedNames a, consumer ∉ loggedNames b) :
    (empty.recordAll (a ++ b)).consumers =
      (empty.recordAll a).consumers ++ (empty.recordAll b).consumers := by
  have hnew : (loggedNames b).removeAll (loggedNames a) = loggedNames b := by
    rw [List.removeAll, List.filter_eq_self]
    intro consumer hb
    simpa using fun ha => h consumer ha hb
  have hnames : loggedNames (a ++ b) = loggedNames a ++ loggedNames b := List.map_append
  rw [consumers_recordAll, consumers_recordAll, consumers_recordAll, hnames, List.eraseDups_append,
    hnew]

/-- Names in front of others and behind them make a difference, if there are any and they are
different. -/
theorem append_comm_iff {xs ys : List String} (h : ∀ x ∈ xs, x ∉ ys) :
    xs ++ ys = ys ++ xs ↔ xs = [] ∨ ys = [] := by
  cases xs with
  | nil => simp
  | cons x xs =>
    cases ys with
    | nil => simp
    | cons y ys =>
      have hne : x ≠ y := fun he => h x List.mem_cons_self (he ▸ List.mem_cons_self)
      simp [hne]

/-- Registries without a common consumer are merged to the same registry either way; the order of
its consumers tells which way it was, unless one of the two is empty. -/
theorem same_merge_comm {changes changes' : List Change} {name name' : String} {r r' : Registry}
    (hr : r = run changes name) (hr' : r' = run changes' name')
    (h : ∀ consumer ∈ r.consumers, consumer ∉ r'.consumers) :
    (r.merge r').same (r'.merge r) = true ∧
      ((r.merge r').consumers = (r'.merge r).consumers ↔ r.isEmpty = true ∨ r'.isEmpty = true) := by
  obtain ⟨a, rfl⟩ : ∃ a, r = empty.recordAll a := ⟨_, hr.trans (replays_run changes name)⟩
  obtain ⟨b, rfl⟩ : ∃ b, r' = empty.recordAll b := ⟨_, hr'.trans (replays_run changes' name')⟩
  have hlogs : ∀ consumer ∈ loggedNames a, consumer ∉ loggedNames b := by
    intro consumer ha hb
    refine h consumer ?_ ?_ <;> rw [consumers_recordAll, List.mem_eraseDups] <;> assumption
  have hlogs' : ∀ consumer ∈ loggedNames b, consumer ∉ loggedNames a :=
    fun consumer hb ha => hlogs consumer ha hb
  have hempty : ∀ log : List (String × Pact),
      (empty.recordAll log).isEmpty = true ↔ (empty.recordAll log).consumers = [] := by
    intro log
    rw [isEmpty, List.isEmpty_iff, consumers, List.map_eq_nil_iff]
  rw [merge_recordAll, merge_recordAll, ← recordAll_append, ← recordAll_append,
    consumers_recordAll_append hlogs, consumers_recordAll_append hlogs', append_comm_iff h, hempty,
    hempty]
  refine ⟨?_, Iff.rfl⟩
  rw [same_iff (nodup_consumers_replay _) (nodup_consumers_replay _)]
  exact view_congr (loggedPacts_append_comm hlogs)

/-- **Registries are the same up to the interleaving of different consumers.**  Registries that
come about by recording are the same exactly when for each consumer the same pacts, from the same
sources, were recorded in the same order.  So let two records that follow one another change places.
When they are of different consumers, the registry is the same as before and is the same as the same
others, it has as many consumers and pacts, and every consumer has its pacts.  Two records of one
consumer, wherever they are, leave another registry behind unless their pacts are the same.  And
registries without a common consumer may be merged either way; the consumers are then in another
order, unless one of the registries is empty. -/
theorem same_up_to_interleaving :
    (∀ a b : List (String × Pact),
      (empty.recordAll a).same (empty.recordAll b) = true ↔
        ∀ consumer, List.Forall₂ (fun p q => p.same q = true ∧ p.source = q.source)
          (loggedPacts consumer a) (loggedPacts consumer b)) ∧
    (∀ (front back : List (String × Pact)) (c d : String) (p q : Pact), c ≠ d →
      let r := empty.recordAll (front ++ (c, p) :: (d, q) :: back)
      let r' := empty.recordAll (front ++ (d, q) :: (c, p) :: back)
      r.same r' = true ∧
        (∀ changes name, r.same (run changes name) = r'.same (run changes name) ∧
          (run changes name).same r = (run changes name).same r') ∧
        r.pactCount = r'.pactCount ∧ r.size = r'.size ∧
        ∀ consumer, r.get? consumer = r'.get? consumer) ∧
    (∀ (front middle back : List (String × Pact)) (c : String) (p q : Pact), p.same q = false →
      (empty.recordAll (front ++ (c, p) :: (middle ++ (c, q) :: back))).same
        (empty.recordAll (front ++ (c, q) :: (middle ++ (c, p) :: back))) = false) ∧
    ∀ (changes changes' : List Change) (name name' : String),
      let r := run changes name
      let r' := run changes' name'
      (∀ consumer ∈ r.consumers, consumer ∉ r'.consumers) →
        (r.merge r').same (r'.merge r) = true ∧
        ((r.merge r').consumers = (r'.merge r).consumers ↔
          r.isEmpty = true ∨ r'.isEmpty = true) := by
  refine ⟨?_, ?_, ?_, ?_⟩
  · intro a b
    have hsource : ∀ p q : Pact, (p.same q = true ∧ p.source = q.source) ↔ p.same q = true :=
      fun p q => and_iff_left_of_imp Pact.source_eq_of_same
    simp only [hsource]
    exact same_recordAll_iff
  · intro front back c d p q hcd r r'
    have hlogs := loggedPacts_swap hcd p q front back
    have hperm : (front ++ (c, p) :: (d, q) :: back).Perm (front ++ (d, q) :: (c, p) :: back) :=
      (List.Perm.swap _ _ _).append_left front
    have hview : r.view = r'.view := view_congr hlogs
    have hr : r.consumers.Nodup := nodup_consumers_replay _
    have hr' : r'.consumers.Nodup := nodup_consumers_replay _
    refine ⟨(same_iff hr hr').2 hview, ?_, pactCount_of_perm hperm, size_of_perm hperm,
      fun consumer => get?_congr (hlogs consumer)⟩
    exact fun changes name => same_congr hview hr hr' (nodup_consumers_run changes name)
  · intro front middle back c p q hpq
    rw [← Bool.not_eq_true, same_exchange_iff, hpq]
    exact Bool.false_ne_true
  · intro changes changes' name name' r r' h
    exact same_merge_comm rfl rfl h

/-- Pacts of a shop and of the web, from two sources. -/
theorem same_up_to_interleaving_of_two_consumers :
    let p : Pact := ⟨"web", "store", [], [], .null, "v1"⟩
    let q : Pact := { p with source := "v2" }
    let r := run [.record "all" "web" p, .record "all" "web" q] "all"
    let r' := run [.record "new" "shop" q] "new"
    "web" ≠ "shop" ∧ p.same q = false ∧
      (empty.recordAll [("web", p), ("shop", q)]).same (empty.recordAll [("shop", q), ("web", p)]) =
        true ∧
      (empty.recordAll [("web", p), ("shop", q), ("web", q)]).same
        (empty.recordAll [("web", q), ("shop", q), ("web", p)]) = false ∧
      (∀ consumer ∈ r.consumers, consumer ∉ r'.consumers) ∧
      (r.merge r').same (r'.merge r) = true ∧ (r.merge r').consumers ≠ (r'.merge r).consumers := by
  intro p q r r'
  have hne : "web" ≠ "shop" := by decide
  have hpq : p.same q = false := by decide
  have hdisjoint : ∀ consumer ∈ r.consumers, consumer ∉ r'.consumers := by decide
  obtain ⟨-, hswap, hexchange, hmerge⟩ := same_up_to_interleaving
  obtain ⟨hsame, hconsumers⟩ := hmerge _ _ "all" "new" hdisjoint
  refine ⟨hne, hpq, (hswap [] [] "web" "shop" p q hne).1,
    hexchange [] [("shop", q)] [] "web" p q hpq, hdisjoint, hsame, ?_⟩
  rw [Ne, hconsumers]
  decide

end Registry

end Pacts
