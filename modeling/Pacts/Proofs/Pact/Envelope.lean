import Mathlib.Data.List.Basic
import Pacts.Pact.Basic
import Pacts.Proofs.Results

/-!
# Which values are pacts

A value is read in two stages.  The first looks for the two names and insists that they are not
blank; the second makes the pact, with a default for every field that may be left out, and fails for
a field of the wrong kind.  This file says which values pass both, without mention of the stages.

* `Pact.Named` — the name of a participant in a value, and `Pact.Holds` and `Pact.Mistyped`, the
  items of a field and what stands there in place of items.
* `Pact.Refused` — what is wrong with a value that is no pact, in the order in which it is found,
  and `Pact.Envelope`, a pact as what a value holds.
* `Pact.ofJson_eq_error_iff` and `Pact.ofJson_eq_ok_iff` — reading comes to the one or the other.
* `Pact.SameEnvelope` — two values agree on everything that matters, and `Pact.ofJson_congr`:
  nothing else does.
* `Pact.ofJson_outcomes` — the outcome of reading, for every value.
-/

set_option autoImplicit false

namespace Pacts

namespace Pact

variable {v w : Json} {field source : String}

/-! ## The names of the participants -/

/-- The value is an object, the field in it is an object, and this has a name that is not blank. -/
def Named (v : Json) (field name : String) : Prop :=
  ∃ members participant, v = .obj members ∧
    Json.lookupMember field members = some (.obj participant) ∧
    Json.lookupMember "name" participant = some (.str name) ∧ isBlankString name = false

/-- The name of a participant hangs on the member `name` of its field only. -/
theorem nameIn_eq :
    nameIn v field = ((v.get? field).bind (·.get? "name")).bind fun member =>
      member.str?.bind fun name => if isBlankString name then none else some name := by
  simp only [nameIn, Option.bind_eq_bind, Option.bind_assoc]

theorem nameIn_eq_some_iff {name : String} : nameIn v field = some name ↔ Named v field name := by
  simp only [nameIn_eq, Option.bind_eq_some_iff, Json.str?_eq_some_iff, Json.get?_eq_some_iff,
    Option.ite_none_left_eq_some, Bool.not_eq_true, Option.some_inj]
  refine ⟨?_, ?_⟩
  · rintro ⟨_, ⟨_, ⟨members, rfl, hfield⟩, participant, rfl, hname⟩, _, rfl, hn, rfl⟩
    exact ⟨members, participant, rfl, hfield, hname, hn⟩
  · rintro ⟨members, participant, rfl, hfield, hname, hn⟩
    exact ⟨_, ⟨_, ⟨members, rfl, hfield⟩, participant, rfl, hname⟩, name, rfl, hn, rfl⟩

theorem nameIn_eq_none_iff : nameIn v field = none ↔ ¬ ∃ name, Named v field name := by
  simp only [Option.eq_none_iff_forall_ne_some, ne_eq, nameIn_eq_some_iff, not_exists]

/-! ## The items of a field -/

/-- The field of the value is a list of these items, or it is not there and there are none. -/
def Holds (v : Json) (field : String) (items : List Json) : Prop :=
  v.get? field = some (.arr items) ∨ v.get? field = none ∧ items = []

/-- In the field of the value there is something else than a list. -/
def Mistyped (v : Json) (field : String) (other : Json) : Prop :=
  v.get? field = some other ∧ ∀ items, other ≠ .arr items

/-- The complaint about something that is not a list. -/
def notItems (source : String) (other : Json) : ReadError :=
  .parse source ("invalid type: " ++ other.kind ++ ", expected a sequence")

theorem itemsIn_eq_ok_iff {items : List Json} :
    itemsIn v field source = .ok items ↔ Holds v field items := by
  rw [itemsIn, Holds]
  split
  · rename_i h
    simp [h, eq_comm]
  · rename_i found h
    simp [h]
  · rename_i other hne h
    refine ⟨?_, ?_⟩
    · rintro ⟨⟩
    · rintro (hitems | ⟨hnone, -⟩)
      · exact absurd (Option.some_inj.1 (h.symm.trans hitems)) (hne items)
      · cases h.symm.trans hnone

theorem itemsIn_eq_error_iff {e : ReadError} :
    itemsIn v field source = .error e ↔
      ∃ other, Mistyped v field other ∧ e = notItems source other := by
  rw [itemsIn]
  split
  · rename_i h
    simp [Mistyped, h]
  · rename_i found h
    simp [Mistyped, h]
  · rename_i other hne h
    refine ⟨?_, ?_⟩
    · rintro ⟨⟩
      exact ⟨other, ⟨h, hne⟩, rfl⟩
    · rintro ⟨other', ⟨h', -⟩, rfl⟩
      obtain rfl := Option.some_inj.1 (h.symm.trans h')
      rfl

/-! ## Pacts -/

/-- What is wrong with a value: whatever comes first in the order of the constructors. -/
inductive Refused (v : Json) (source : String) : ReadError → Prop
  | consumer (nameless : ¬ ∃ name, Named v "consumer" name) :
      Refused v source (.invalid source "missing consumer name")
  | provider {consumer : String} (named : Named v "consumer" consumer)
      (nameless : ¬ ∃ name, Named v "provider" name) :
      Refused v source (.invalid source "missing provider name")
  | interactions {consumer provider : String} {other : Json}
      (demanding : Named v "consumer" consumer) (offering : Named v "provider" provider)
      (mistyped : Mistyped v "interactions" other) : Refused v source (notItems source other)
  | messages {consumer provider : String} {interactions : List Json} {other : Json}
      (demanding : Named v "consumer" consumer) (offering : Named v "provider" provider)
      (listed : Holds v "interactions" interactions)
      (mistyped : Mistyped v "messages" other) : Refused v source (notItems source other)

/-- A pact is what a value holds. -/
structure Envelope (v : Json) (p : Pact) : Prop where
  consumer : Named v "consumer" p.consumer
  provider : Named v "provider" p.provider
  interactions : Holds v "interactions" p.interactions
  messages : Holds v "messages" p.messages
  metadata : p.metadata = (v.get? "metadata").getD .null

theorem ofJson_of_consumer_eq_none (hc : nameIn v "consumer" = none) :
    ofJson v source = .error (.invalid source "missing consumer name") := by
  rw [ofJson, hc]

theorem ofJson_of_provider_eq_none {consumer : String} (hc : nameIn v "consumer" = some consumer)
    (hp : nameIn v "provider" = none) :
    ofJson v source = .error (.invalid source "missing provider name") := by
  rw [ofJson, hc, hp]

/-- Behind the names, what is left to go wrong is the two lists. -/
theorem ofJson_of_names {consumer provider : String} (hc : nameIn v "consumer" = some consumer)
    (hp : nameIn v "provider" = some provider) :
    ofJson v source = itemsIn v "interactions" source >>= fun interactions =>
      itemsIn v "messages" source >>= fun messages =>
        .ok { consumer, provider, interactions, messages
              metadata := (v.get? "metadata").getD .null, source } := by
  rw [ofJson, hc, hp]

theorem ofJson_eq_error_iff {e : ReadError} : ofJson v source = .error e ↔ Refused v source e := by
  refine ⟨fun h => ?_, fun h => ?_⟩
  · cases hc : nameIn v "consumer" with
    | none =>
      rw [ofJson_of_consumer_eq_none hc] at h
      cases h
      exact .consumer (nameIn_eq_none_iff.1 hc)
    | some consumer =>
      have hnamed := nameIn_eq_some_iff.1 hc
      cases hp : nameIn v "provider" with
      | none =>
        rw [ofJson_of_provider_eq_none hc hp] at h
        cases h
        exact .provider hnamed (nameIn_eq_none_iff.1 hp)
      | some provider =>
        have hoffering := nameIn_eq_some_iff.1 hp
        rw [ofJson_of_names hc hp, bind_eq_error_iff] at h
        rcases h with h | ⟨interactions, hi, h⟩
        · obtain ⟨other, hother, rfl⟩ := itemsIn_eq_error_iff.1 h
          exact .interactions hnamed hoffering hother
        · rcases bind_eq_error_iff.1 h with h | ⟨messages, -, h⟩
          · obtain ⟨other, hother, rfl⟩ := itemsIn_eq_error_iff.1 h
            exact .messages hnamed hoffering (itemsIn_eq_ok_iff.1 hi) hother
          · cases h
  · cases h with
    | consumer nameless => exact ofJson_of_consumer_eq_none (nameIn_eq_none_iff.2 nameless)
    | provider named nameless =>
      exact ofJson_of_provider_eq_none (nameIn_eq_some_iff.2 named) (nameIn_eq_none_iff.2 nameless)
    | interactions demanding offering mistyped =>
      rw [ofJson_of_names (nameIn_eq_some_iff.2 demanding) (nameIn_eq_some_iff.2 offering)]
      exact bind_eq_error_iff.2 (.inl (itemsIn_eq_error_iff.2 ⟨_, mistyped, rfl⟩))
    | messages demanding offering listed mistyped =>
      rw [ofJson_of_names (nameIn_eq_some_iff.2 demanding) (nameIn_eq_some_iff.2 offering)]
      have hmessages : itemsIn v "messages" source = .error _ :=
        itemsIn_eq_error_iff.2 ⟨_, mistyped, rfl⟩
      exact bind_eq_error_iff.2
        (.inr ⟨_, itemsIn_eq_ok_iff.2 listed, bind_eq_error_iff.2 (.inl hmessages)⟩)

theorem ofJson_eq_ok_iff {p : Pact} :
    ofJson v source = .ok p ↔ Envelope v p ∧ p.source = source := by
  refine ⟨fun h => ?_, ?_⟩
  · cases hc : nameIn v "consumer" with
    | none => cases (ofJson_of_consumer_eq_none hc).symm.trans h
    | some consumer =>
      cases hp : nameIn v "provider" with
      | none => cases (ofJson_of_provider_eq_none hc hp).symm.trans h
      | some provider =>
        rw [ofJson_of_names hc hp, bind_eq_ok_iff] at h
        obtain ⟨interactions, hi, h⟩ := h
        obtain ⟨messages, hm, h⟩ := bind_eq_ok_iff.1 h
        cases h
        exact ⟨⟨nameIn_eq_some_iff.1 hc, nameIn_eq_some_iff.1 hp, itemsIn_eq_ok_iff.1 hi,
          itemsIn_eq_ok_iff.1 hm, rfl⟩, rfl⟩
  · obtain ⟨consumer, provider, interactions, messages, metadata, origin⟩ := p
    rintro ⟨⟨hc, hp, hi, hm, rfl⟩, rfl⟩
    rw [ofJson_of_names (nameIn_eq_some_iff.2 hc) (nameIn_eq_some_iff.2 hp)]
    exact bind_eq_ok_iff.2 ⟨_, itemsIn_eq_ok_iff.2 hi,
      bind_eq_ok_iff.2 ⟨_, itemsIn_eq_ok_iff.2 hm, rfl⟩⟩

/-! ## What does not matter -/

/-- Two values agree on the names of the participants, the lists and the metadata.  They may differ
in every other member of their own and of their participants. -/
structure SameEnvelope (v w : Json) : Prop where
  consumer : (v.get? "consumer").bind (·.get? "name") = (w.get? "consumer").bind (·.get? "name")
  provider : (v.get? "provider").bind (·.get? "name") = (w.get? "provider").bind (·.get? "name")
  interactions : v.get? "interactions" = w.get? "interactions"
  messages : v.get? "messages" = w.get? "messages"
  metadata : v.get? "metadata" = w.get? "metadata"

theorem ofJson_congr (h : SameEnvelope v w) : ofJson v source = ofJson w source := by
  have hconsumer : nameIn v "consumer" = nameIn w "consumer" := by
    rw [nameIn_eq, nameIn_eq, h.consumer]
  have hprovider : nameIn v "provider" = nameIn w "provider" := by
    rw [nameIn_eq, nameIn_eq, h.provider]
  rw [ofJson, ofJson, hconsumer, hprovider]
  simp only [itemsIn, h.interactions, h.messages, h.metadata]

/-! ## Outcomes -/

/-- A field holds items unless there is something else in it. -/
theorem exists_holds (h : ∀ other, ¬ Mistyped v field other) : ∃ items, Holds v field items := by
  cases hf : v.get? field with
  | none => exact ⟨[], .inr ⟨hf, rfl⟩⟩
  | some found =>
    refine Classical.byContradiction fun hn => h found ⟨hf, ?_⟩
    rintro items rfl
    exact hn ⟨items, .inl hf⟩

theorem Refused.not_named_consumer
    (h : Refused v source (.invalid source "missing consumer name")) :
    ¬ ∃ name, Named v "consumer" name := by
  generalize he : ReadError.invalid source "missing consumer name" = e at h
  cases h with
  | consumer nameless => exact nameless
  | provider => simp at he
  | interactions | messages => cases he

theorem Refused.not_named_provider
    (h : Refused v source (.invalid source "missing provider name")) :
    ¬ ∃ name, Named v "provider" name := by
  generalize he : ReadError.invalid source "missing provider name" = e at h
  cases h with
  | consumer => simp at he
  | provider _ nameless => exact nameless
  | interactions | messages => cases he

/-- With two names, reading complains about the JSON when one of the lists is none. -/
theorem exists_parse_iff {consumer provider : String} (hc : Named v "consumer" consumer)
    (hp : Named v "provider" provider) :
    (∃ problem, ofJson v source = .error (.parse source problem)) ↔
      ∃ field ∈ ["interactions", "messages"], ∃ other, Mistyped v field other := by
  simp only [ofJson_eq_error_iff]
  refine ⟨?_, ?_⟩
  · rintro ⟨problem, h⟩
    generalize he : ReadError.parse source problem = e at h
    cases h with
    | consumer | provider => cases he
    | interactions _ _ mistyped => exact ⟨_, by simp, _, mistyped⟩
    | messages _ _ _ mistyped => exact ⟨_, by simp, _, mistyped⟩
  · rintro ⟨field, hfield, other, h⟩
    by_cases hi : ∃ other, Mistyped v "interactions" other
    · obtain ⟨first, hfirst⟩ := hi
      exact ⟨_, .interactions hc hp hfirst⟩
    · obtain ⟨interactions, hholds⟩ := exists_holds (not_exists.1 hi)
      rcases List.mem_pair.1 hfield with rfl | rfl
      · exact absurd ⟨other, h⟩ hi
      · exact ⟨_, .messages hc hp hholds h⟩

/-- **Which values are pacts.**  Reading a value complains about the consumer exactly when the value
does not name one; or else about the provider exactly when it does not name one; or else about the
JSON exactly when there is something else than a list in the place of the interactions or of the
messages.  Or else it comes to the pact with these names and these lists, of which one that is not
there is empty, with the metadata, which are `null` when they are not there, and with the source.
Nothing else in the value matters. -/
theorem ofJson_outcomes (v : Json) (source : String) :
    (ofJson v source = .error (.invalid source "missing consumer name") ↔
      ¬ ∃ name, Named v "consumer" name) ∧
    (∀ consumer, Named v "consumer" consumer →
      (ofJson v source = .error (.invalid source "missing provider name") ↔
        ¬ ∃ name, Named v "provider" name) ∧
      ∀ provider, Named v "provider" provider →
        ((∃ problem, ofJson v source = .error (.parse source problem)) ↔
          ∃ field ∈ ["interactions", "messages"], ∃ other, Mistyped v field other) ∧
        ((∀ field ∈ ["interactions", "messages"], ∀ other, ¬ Mistyped v field other) →
          ∃ interactions messages, Holds v "interactions" interactions ∧
            Holds v "messages" messages ∧
            ofJson v source = .ok { consumer, provider, interactions, messages
                                    metadata := (v.get? "metadata").getD .null, source })) ∧
    ∀ w, SameEnvelope v w → ofJson w source = ofJson v source := by
  refine ⟨?_, ?_, fun w hw => (ofJson_congr hw).symm⟩
  · rw [ofJson_eq_error_iff]
    exact ⟨Refused.not_named_consumer, .consumer⟩
  · intro consumer hconsumer
    refine ⟨?_, ?_⟩
    · rw [ofJson_eq_error_iff]
      exact ⟨Refused.not_named_provider, .provider hconsumer⟩
    · intro provider hprovider
      refine ⟨exists_parse_iff hconsumer hprovider, fun h => ?_⟩
      obtain ⟨interactions, hi⟩ := exists_holds (h "interactions" (by simp))
      obtain ⟨messages, hm⟩ := exists_holds (h "messages" (by simp))
      refine ⟨interactions, messages, hi, hm, ?_⟩
      exact ofJson_eq_ok_iff.2 ⟨⟨hconsumer, hprovider, hi, hm, rfl⟩, rfl⟩

/-- A value without messages, and with members that do not matter, is the pact that it would be
without these. -/
theorem ofJson_outcomes_of_surplus :
    let participant := fun name => Json.obj [("name", .str name), ("tags", .null)]
    let v : Json := .obj [("consumer", participant "web"), ("created", .bool true),
      ("interactions", .arr [.null]), ("provider", participant "store")]
    let w : Json := .obj [("provider", .obj [("name", .str "store")]),
      ("interactions", .arr [.null]), ("consumer", .obj [("name", .str "web")])]
    Named v "consumer" "web" ∧ Named v "provider" "store" ∧ SameEnvelope v w ∧
      ofJson w "web.json" = ofJson v "web.json" ∧
      ∃ interactions messages, Holds v "interactions" interactions ∧ Holds v "messages" messages ∧
        ofJson v "web.json" = .ok ⟨"web", "store", interactions, messages, .null, "web.json"⟩ := by
  intro participant v w
  have hc : Named v "consumer" "web" := ⟨_, _, rfl, rfl, rfl, by decide⟩
  have hp : Named v "provider" "store" := ⟨_, _, rfl, rfl, rfl, by decide⟩
  have hw : SameEnvelope v w := ⟨rfl, rfl, rfl, rfl, rfl⟩
  have hlists : ∀ field ∈ ["interactions", "messages"], ∀ other, ¬ Mistyped v field other := by
    rintro field hfield other ⟨hother, hne⟩
    rcases List.mem_pair.1 hfield with rfl | rfl
    · exact hne [.null] (Option.some_inj.1 hother).symm
    · cases hother
  obtain ⟨-, hnamed, hsame⟩ := ofJson_outcomes v "web.json"
  exact ⟨hc, hp, hw, hsame w hw, ((hnamed "web" hc).2 "store" hp).2 hlists⟩

end Pact

end Pacts
