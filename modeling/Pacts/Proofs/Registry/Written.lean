import Mathlib.Data.List.Forall2
import Pacts.Proofs.Pact.Envelope
import Pacts.Proofs.Registry.Log

/-!
# What is written can be read back

A pact is written without its source, with lists that may have been left out where it was read from,
and with metadata that may have been left out there as well.  It is read back all the same, as long
as somebody remembers the source: what stood there instead of a list or of the metadata is written
as what it was taken for.  Only the names need an argument.  A reader insists that they are not
blank, and a pact knows that of its names because it was read itself.

A registry is written as one object.  So what has to be said of it is that the names of its members
are all different, and that every pact in it was read once; both hold of every registry that comes
about by recording pacts that were read and by merging.

* `Pact.WasRead` and `Pact.WasRead.read_back` — a pact that comes out of a value, and that it is
  read back.
* `Registry.Holds` — all pacts of a registry are of a kind; `Registry.holds_apply` and
  `Registry.holds_run` — one change and a run of changes keep it that way.
* `Registry.written_read_back` — pacts and registries are read back from what is written.
-/

set_option autoImplicit false

namespace Pacts

namespace Pact

/-- The pact comes out of a value. -/
def WasRead (p : Pact) : Prop := ∃ v source, ofJson v source = .ok p

/-- **A pact is read back** under its own source. -/
theorem WasRead.read_back {p : Pact} (h : p.WasRead) : ofJson p.toJson p.source = .ok p := by
  obtain ⟨v, source, hv⟩ := h
  obtain ⟨henvelope, -⟩ := ofJson_eq_ok_iff.1 hv
  obtain ⟨_, _, -, -, -, hconsumer⟩ := henvelope.consumer
  obtain ⟨_, _, -, -, -, hprovider⟩ := henvelope.provider
  exact ofJson_toJson p hconsumer hprovider

/-- Items are read back as pacts, each under the source of the pact in its place. -/
def ReadBack (items : List Json) (pacts : List Pact) : Prop :=
  List.Forall₂ (fun item p => ofJson item p.source = .ok p) items pacts

theorem readBack_map_toJson {pacts : List Pact} (h : ∀ p ∈ pacts, p.WasRead) :
    ReadBack (pacts.map toJson) pacts := by
  rw [ReadBack, List.forall₂_map_left_iff, List.forall₂_same]
  exact fun p hp => (h p hp).read_back

end Pact

namespace Registry

/-! ## Pacts of a kind -/

/-- All pacts of a registry are of a kind. -/
def Holds (P : Pact → Prop) (r : Registry) : Prop := ∀ e ∈ r.entries, ∀ p ∈ e.2, P p

variable {P : Pact → Prop} {r other : Registry}

theorem holds_empty : empty.Holds P := fun _ he => absurd he List.not_mem_nil

theorem holds_addTo {consumer : String} {pacts : List Pact} {entries : List (String × List Pact)}
    (h : Holds P ⟨entries⟩) (hp : ∀ p ∈ pacts, P p) : Holds P ⟨addTo consumer pacts entries⟩ := by
  induction entries with
  | nil => exact List.forall_mem_singleton.2 hp
  | cons e entries ih =>
    obtain ⟨c, ps⟩ := e
    obtain ⟨hps, hrest⟩ := List.forall_mem_cons.1 h
    rw [addTo]
    split
    · exact List.forall_mem_cons.2 ⟨List.forall_mem_append.2 ⟨hps, hp⟩, hrest⟩
    · exact List.forall_mem_cons.2 ⟨hps, ih hrest⟩

theorem Holds.record (h : r.Holds P) (consumer : String) {pact : Pact} (hp : P pact) :
    (r.record consumer pact).Holds P :=
  holds_addTo h (List.forall_mem_singleton.2 hp)

theorem Holds.merge (h : r.Holds P) (ho : other.Holds P) : (r.merge other).Holds P := by
  obtain ⟨entries⟩ := r
  obtain ⟨others⟩ := other
  rw [merge_eq]
  induction others generalizing entries with
  | nil => exact h
  | cons e others ih =>
    obtain ⟨hp, hrest⟩ := List.forall_mem_cons.1 ho
    exact ih (addTo e.1 e.2 entries) (holds_addTo h hp) hrest

/-- A change keeps the pacts of all registries of a kind, when a pact that it records is of it. -/
theorem holds_apply {shelf : String → Registry} (h : ∀ name, (shelf name).Holds P)
    {change : Change} (hp : ∀ name consumer p, change = .record name consumer p → P p)
    (name : String) : (change.apply shelf name).Holds P := by
  cases change with
  | record target consumer pact =>
    rw [Change.apply, Function.update_apply]
    split
    · exact (h target).record consumer (hp target consumer pact rfl)
    · exact h name
  | merge target source =>
    rw [Change.apply, Function.update_apply]
    split
    · exact (h target).merge (h source)
    · exact h name

theorem holds_foldl {changes : List Change} {shelf : String → Registry}
    (h : ∀ name, (shelf name).Holds P)
    (hp : ∀ name consumer p, .record name consumer p ∈ changes → P p) (name : String) :
    (changes.foldl Change.apply shelf name).Holds P := by
  induction changes generalizing shelf with
  | nil => exact h name
  | cons change changes ih =>
    refine ih (holds_apply h ?_) fun n c p hmem => hp n c p (List.mem_cons_of_mem change hmem)
    rintro n c p rfl
    exact hp n c p List.mem_cons_self

/-- After a run of changes every registry holds pacts of a kind, when only such were recorded. -/
theorem holds_run {changes : List Change}
    (hp : ∀ name consumer p, .record name consumer p ∈ changes → P p) (name : String) :
    (run changes name).Holds P :=
  holds_foldl (fun _ => holds_empty) hp name

/-! ## Reading back -/

/-- **Pacts and registries are read back from what is written.**  Every pact that comes out of a
value is read back under its source.  Let such pacts be recorded in registries, which are also
merged into one another.  Then each registry is written as an object that has one member for each
consumer, in the order of the registry, and a member is a list that is read back, item by item and
each under its source, as the pacts of the consumer in their order. -/
theorem written_read_back :
    (∀ v source p, Pact.ofJson v source = .ok p → Pact.ofJson p.toJson p.source = .ok p) ∧
    ∀ changes : List Change,
      (∀ name consumer p, .record name consumer p ∈ changes → p.WasRead) → ∀ name,
        let r := run changes name
        ∃ members, r.toJson = .obj members ∧
          members.map (·.1) = r.consumers ∧ r.consumers.Nodup ∧
          List.Forall₂
            (fun member entry => ∃ items, member = (entry.1, .arr items) ∧
              Pact.ReadBack items entry.2)
            members r.entries := by
  refine ⟨fun v source p hp => Pact.WasRead.read_back ⟨v, source, hp⟩, ?_⟩
  intro changes h name r
  have hread : r.Holds Pact.WasRead := holds_run h name
  refine ⟨_, rfl, ?_, nodup_consumers_run changes name, ?_⟩
  · rw [List.map_map]
    rfl
  · rw [List.forall₂_map_left_iff, List.forall₂_same]
    exact fun e he => ⟨_, rfl, Pact.readBack_map_toJson (hread e he)⟩

/-- A pact that was read without lists and metadata is read back, and so is one of the same consumer
that came with a merge. -/
theorem written_read_back_of_merged :
    let p : Pact := ⟨"web", "store", [], [], .null, "web.json"⟩
    let q : Pact := ⟨"shop", "store", [.obj [("status", .num (.integer 200))]], [.null],
      .obj [("version", .str "3")], "http://broker/shop"⟩
    let changes : List Change :=
      [.record "all" "web" p, .record "new" "web" q, .merge "all" "new", .merge "all" "all"]
    p.WasRead ∧ q.WasRead ∧
      (run changes "all").entries = [("web", [p, q, p, q])] ∧
      ∃ items, (run changes "all").toJson = .obj [("web", .arr items)] ∧
        Pact.ReadBack items [p, q, p, q] := by
  intro p q changes
  have hp : p.WasRead := by
    refine ⟨.obj [("consumer", .obj [("name", .str "web"), ("id", .null)]),
      ("provider", .obj [("name", .str "store")])], "web.json", ?_⟩
    decide
  have hq : q.WasRead := ⟨q.toJson, q.source, by decide⟩
  have hentries : (run changes "all").entries = [("web", [p, q, p, q])] := by decide
  have hrecorded : ∀ name consumer pact, .record name consumer pact ∈ changes →
      pact.WasRead := by
    intro name consumer pact h
    simp only [changes, List.mem_cons, Change.record.injEq, reduceCtorEq, List.not_mem_nil,
      or_false] at h
    rcases h with ⟨-, -, rfl⟩ | ⟨-, -, rfl⟩
    · exact hp
    · exact hq
  obtain ⟨members, hmembers, -, -, hitems⟩ := written_read_back.2 changes hrecorded "all"
  rw [hentries, List.forall₂_cons_right_iff] at hitems
  obtain ⟨_, _, ⟨items, rfl, hback⟩, hrest, rfl⟩ := hitems
  rw [List.forall₂_nil_right_iff] at hrest
  exact ⟨hp, hq, hentries, items, by rw [hmembers, hrest], hback⟩

end Registry

end Pacts
