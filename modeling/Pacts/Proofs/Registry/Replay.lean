import Pacts.Pact.Registry

/-!
# A registry is the replay of what was recorded

A registry groups pacts by consumer, so it forgets how the records of different consumers were
interleaved.  It is nevertheless determined by the log of the records, and this file says how far
the log can be read instead of the registry.

* `recordAll r log` records the entries of a log one at a time.
* `merge_recordAll` — a registry that was built from a log is merged into another one as if its log
  were recorded there.  Merging goes entry by entry, with all pacts of a consumer at once, and so in
  another order than the log; that the result is the same is because a consumer that already has
  its place keeps it, whichever pacts come next.
* `pactCount_recordAll` — the number of pacts is the length of the log.
-/

set_option autoImplicit false

namespace Pacts

namespace Registry

/-- Records the entries of a log, one after the other. -/
def recordAll (r : Registry) (log : List (String × Pact)) : Registry :=
  log.foldl (fun r (consumer, pact) => r.record consumer pact) r

@[simp]
theorem recordAll_nil (r : Registry) : r.recordAll [] = r := rfl

@[simp]
theorem recordAll_cons (r : Registry) (consumer : String) (pact : Pact)
    (log : List (String × Pact)) :
    r.recordAll ((consumer, pact) :: log) = (r.record consumer pact).recordAll log := rfl

theorem recordAll_append (r : Registry) (a b : List (String × Pact)) :
    r.recordAll (a ++ b) = (r.recordAll a).recordAll b :=
  List.foldl_append

/-! ## Adding to entries -/

/-- The names in entries, in order. -/
def names (entries : List (String × List Pact)) : List String := entries.map (·.1)

/-- Names stay in place; a new one comes last. -/
theorem names_addTo (consumer : String) (pacts : List Pact) (entries : List (String × List Pact)) :
    names (addTo consumer pacts entries) =
      if consumer ∈ names entries then names entries else names entries ++ [consumer] := by
  induction entries with
  | nil => simp [addTo, names]
  | cons e entries ih =>
    obtain ⟨c, ps⟩ := e
    rw [addTo]
    by_cases h : c = consumer
    · simp [names, h]
    · have h' : consumer ≠ c := Ne.symm h
      simp only [names] at ih
      by_cases hm : consumer ∈ entries.map (·.1) <;> simp [names, h, h', ih, hm]

theorem nodup_names_addTo {consumer : String} {pacts : List Pact}
    {entries : List (String × List Pact)} (h : (names entries).Nodup) :
    (names (addTo consumer pacts entries)).Nodup := by
  rw [names_addTo]
  split
  · exact h
  · rename_i hm
    exact List.nodup_append.2 ⟨h, by simp, by rintro a ha b hb rfl; simp_all⟩

theorem mem_names_addTo (consumer : String) (pacts : List Pact)
    (entries : List (String × List Pact)) : consumer ∈ names (addTo consumer pacts entries) := by
  rw [names_addTo]
  split
  · assumption
  · simp

/-- Two additions for one consumer are one addition of both. -/
theorem addTo_addTo (consumer : String) (ps qs : List Pact) (entries : List (String × List Pact)) :
    addTo consumer qs (addTo consumer ps entries) = addTo consumer (ps ++ qs) entries := by
  induction entries with
  | nil => simp [addTo]
  | cons e entries ih =>
    obtain ⟨c, rs⟩ := e
    by_cases h : c = consumer
    · simp [addTo, h]
    · simp [addTo, h, ih]

/-- A consumer that has its place gets its pacts before or after another one gets its own. -/
theorem addTo_comm {a b : String} (hab : a ≠ b) (ps qs : List Pact)
    {entries : List (String × List Pact)} (ha : a ∈ names entries) :
    addTo a ps (addTo b qs entries) = addTo b qs (addTo a ps entries) := by
  induction entries with
  | nil => simp [names] at ha
  | cons e entries ih =>
    obtain ⟨c, rs⟩ := e
    by_cases hb : c = b
    · subst hb
      simp [addTo, Ne.symm hab]
    · by_cases hc : c = a
      · subst hc
        simp [addTo, hb]
      · have ha' : a ∈ names entries := by
          simpa [names, Ne.symm hc] using ha
        simp [addTo, hb, hc, ih ha']

/-! ## Merging -/

/-- Entries to which others are added, entry by entry. -/
def addAll (entries others : List (String × List Pact)) : List (String × List Pact) :=
  others.foldl (fun entries (consumer, pacts) => addTo consumer pacts entries) entries

theorem merge_eq (r other : Registry) : r.merge other = ⟨addAll r.entries other.entries⟩ := rfl

theorem addAll_addTo_of_not_mem {consumer : String} (pacts : List Pact)
    {others : List (String × List Pact)} (h : consumer ∉ names others) :
    ∀ {entries : List (String × List Pact)}, consumer ∈ names entries →
      addAll (addTo consumer pacts entries) others =
        addTo consumer pacts (addAll entries others) := by
  induction others with
  | nil => intro entries _; rfl
  | cons e others ih =>
    intro entries he
    obtain ⟨c, qs⟩ := e
    rw [names, List.map_cons, List.mem_cons, not_or] at h
    have hmem : consumer ∈ names (addTo c qs entries) := by
      rw [names_addTo]
      split
      · exact he
      · exact List.mem_append_left _ he
    have hcomm : addTo c qs (addTo consumer pacts entries) =
        addTo consumer pacts (addTo c qs entries) :=
      (addTo_comm h.1 pacts qs he).symm
    show addAll (addTo c qs (addTo consumer pacts entries)) others = _
    rw [hcomm]
    exact ih h.2 hmem

/-- What is added to the registry that is merged in is added after the merge. -/
theorem addAll_addTo (consumer : String) (pacts : List Pact)
    {others : List (String × List Pact)} (h : (names others).Nodup) :
    ∀ entries : List (String × List Pact),
      addAll entries (addTo consumer pacts others) =
        addTo consumer pacts (addAll entries others) := by
  induction others with
  | nil => intro entries; rfl
  | cons e others ih =>
    intro entries
    obtain ⟨c, qs⟩ := e
    rw [names, List.map_cons, List.nodup_cons] at h
    by_cases hc : c = consumer
    · subst hc
      rw [addTo, if_pos rfl]
      calc addAll (addTo c (qs ++ pacts) entries) others
          = addAll (addTo c pacts (addTo c qs entries)) others := by rw [addTo_addTo]
        _ = addTo c pacts (addAll (addTo c qs entries) others) :=
          addAll_addTo_of_not_mem pacts h.1 (mem_names_addTo c qs entries)
    · rw [addTo, if_neg hc]
      exact ih h.2 (addTo c qs entries)

theorem merge_record (r : Registry) {other : Registry} (h : other.consumers.Nodup)
    (consumer : String) (pact : Pact) :
    r.merge (other.record consumer pact) = (r.merge other).record consumer pact := by
  rw [merge_eq, merge_eq, record, record, addAll_addTo consumer [pact] h]

theorem nodup_consumers_record {r : Registry} (h : r.consumers.Nodup) (consumer : String)
    (pact : Pact) : (r.record consumer pact).consumers.Nodup :=
  nodup_names_addTo h

/-- A log that is recorded in the registry that is merged in is recorded after the merge. -/
theorem merge_recordAll_right (r : Registry) {other : Registry} (h : other.consumers.Nodup)
    (log : List (String × Pact)) :
    r.merge (other.recordAll log) = (r.merge other).recordAll log := by
  induction log generalizing other with
  | nil => rfl
  | cons e log ih =>
    obtain ⟨consumer, pact⟩ := e
    rw [recordAll_cons, recordAll_cons, ih (nodup_consumers_record h consumer pact),
      merge_record r h]

/-- **A merge is a replay.**  To merge a registry into another is to record there, one at a time and
in their order, the records that it was built from. -/
theorem merge_recordAll (r : Registry) (log : List (String × Pact)) :
    r.merge (empty.recordAll log) = r.recordAll log := by
  have h : empty.consumers.Nodup := List.nodup_nil
  exact merge_recordAll_right r h log

/-! ## Counting -/

theorem pactCount_addTo (consumer : String) (pacts : List Pact)
    (entries : List (String × List Pact)) :
    pactCount ⟨addTo consumer pacts entries⟩ = pactCount ⟨entries⟩ + pacts.length := by
  induction entries with
  | nil => simp [addTo, pactCount]
  | cons e entries ih =>
    obtain ⟨c, ps⟩ := e
    rw [addTo]
    simp only [pactCount] at ih ⊢
    split
    · simp only [List.foldr_cons, List.length_append]
      omega
    · simp only [List.foldr_cons, ih]
      omega

theorem pactCount_record (r : Registry) (consumer : String) (pact : Pact) :
    (r.record consumer pact).pactCount = r.pactCount + 1 :=
  pactCount_addTo consumer [pact] r.entries

theorem pactCount_recordAll (r : Registry) (log : List (String × Pact)) :
    (r.recordAll log).pactCount = r.pactCount + log.length := by
  induction log generalizing r with
  | nil => rfl
  | cons e log ih =>
    obtain ⟨consumer, pact⟩ := e
    rw [recordAll_cons, ih, pactCount_record, List.length_cons]
    omega

end Registry

end Pacts
