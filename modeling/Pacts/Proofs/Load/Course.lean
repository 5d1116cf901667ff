import Pacts.Load.Broker
import Pacts.Proofs.Broker.Conversation

/-!
# The course of a load

`BrokerSettings.collect` computes what a load achieves.  This file says the same thing as a
relation between what the load is about, what was said meanwhile, what was downloaded and what
stopped it: one constructor for every way in which a download, a pass or the passes for a list of
tags can go.

* `Fetches` — the downloads of a list of consumers.  A pact counts as downloaded when the URL of the
  consumer could be read, a document came back for it, and the document is a pact.
* `Pass` — the pass for a tag.
* `Course` — the passes for a list of tags.
* `ends_collect_iff` — the computation ends a talk with some progress exactly when there is a course
  with this talk, these downloads and this failure.
* `Course.broker_or_noPactsFound` — what can stop a load.

What is proved of a whole load is proved by induction on its course, so that the cases are the ones
listed here and the definitions of the computation are opened in this file only.
-/

set_option autoImplicit false

namespace Pacts

open Session (Talk Ends ends_bind_iff ends_bind_done_iff ends_done_iff ends_request_iff)

/-- The request for the pact of a consumer. -/
def Consumer.pactRequest (c : Consumer) (url : Url) : Request :=
  ⟨url, (Credentials.ofOptions c.credentials).header?⟩

/-! ## Downloads -/

/-- The downloads of consumers, one after the other, until one of them fails. -/
inductive Fetches : List Consumer → Talk → List (String × Pact) → Option LoadError → Prop
  | finished : Fetches [] [] [] none
  | got {c : Consumer} {cs : List Consumer} {url : Url} {doc : Json} {pact : Pact} {talk : Talk}
      {downloads : List (String × Pact)} {failure : Option LoadError}
      (href : Url.parse c.href = .ok url) (read : Pact.ofJson doc c.href = .ok pact)
      (rest : Fetches cs talk downloads failure) :
      Fetches (c :: cs) ((c.pactRequest url, .document doc) :: talk) ((c.name, pact) :: downloads)
        failure
  | unreadable {c : Consumer} {cs : List Consumer} {defect : Url.Defect}
      (href : Url.parse c.href = .error defect) :
      Fetches (c :: cs) [] [] (some (.broker (.invalidUrl c.href defect)))
  | refused {c : Consumer} {cs : List Consumer} {url : Url} {reply : Reply} {e : BrokerError}
      (href : Url.parse c.href = .ok url) (answer : reply.toExcept url.text = .error e) :
      Fetches (c :: cs) [(c.pactRequest url, reply)] [] (some (.broker e))
  | spoiled {c : Consumer} {cs : List Consumer} {url : Url} {doc : Json} {e : ReadError}
      (href : Url.parse c.href = .ok url) (read : Pact.ofJson doc c.href = .error e) :
      Fetches (c :: cs) [(c.pactRequest url, .document doc)] []
        (some (.broker (.document e)))

/-- Asking for the pact of a consumer is a single request, or none if its URL cannot be read. -/
theorem ends_pactAt_iff {c : Consumer} {talk : Talk} {r : Except BrokerError Pact} :
    Ends (Client.pactAt c.href c.credentials) talk r ↔
      (∃ defect, Url.parse c.href = .error defect ∧ talk = [] ∧
        r = .error (.invalidUrl c.href defect)) ∨
      ∃ url reply, Url.parse c.href = .ok url ∧ talk = [(c.pactRequest url, reply)] ∧
        r = (reply.toExcept url.text).bind fun doc =>
          (Pact.ofJson doc c.href).mapError .document := by
  rw [Client.pactAt]
  cases hp : Url.parse c.href with
  | error defect => simp
  | ok url =>
    simp only [ends_bind_iff, ends_request_iff]
    constructor
    · rintro ⟨_, _, second, ⟨reply, rfl, rfl⟩, h, rfl⟩
      refine .inr ⟨url, reply, rfl, ?_⟩
      cases hr : reply.toExcept url.text <;> simp_all [Consumer.pactRequest, Except.bind]
    · rintro (⟨defect, h, -, -⟩ | ⟨_, reply, h, rfl, rfl⟩)
      · simp at h
      · cases h
        refine ⟨_, _, [], ⟨reply, rfl, rfl⟩, ?_, rfl⟩
        cases hr : reply.toExcept url.text <;> simp [Except.bind]

namespace BrokerSettings

/-- The downloads of the computation are those that the relation describes. -/
theorem ends_download_iff {cs : List Consumer} {talk : Talk} {p : Progress} :
    Ends (download cs) talk p ↔ Fetches cs talk p.downloads p.failure := by
  induction cs generalizing talk p with
  | nil =>
    rw [download, Session.pure_eq, ends_done_iff]
    constructor
    · rintro ⟨rfl, rfl⟩
      exact .finished
    · obtain ⟨downloads, failure⟩ := p
      rintro ⟨⟩
      exact ⟨rfl, rfl⟩
  | cons c cs ih =>
    rw [download, ends_bind_iff]
    constructor
    · rintro ⟨first, r, second, h₁, h₂, rfl⟩
      rcases ends_pactAt_iff.1 h₁ with ⟨defect, hp, rfl, rfl⟩ | ⟨url, reply, hp, rfl, rfl⟩
      · obtain ⟨rfl, rfl⟩ := ends_done_iff.1 h₂
        exact .unreadable hp
      · cases hr : reply.toExcept url.text with
        | error e =>
          rw [hr] at h₂
          obtain ⟨rfl, rfl⟩ := ends_done_iff.1 h₂
          exact .refused hp hr
        | ok doc =>
          obtain rfl := Reply.toExcept_eq_ok_iff.1 hr
          cases hj : Pact.ofJson doc c.href with
          | error e =>
            simp only [hr, Except.bind] at h₂
            rw [hj] at h₂
            obtain ⟨rfl, rfl⟩ := ends_done_iff.1 h₂
            exact .spoiled hp hj
          | ok pact =>
            simp only [hr, Except.bind] at h₂
            rw [hj] at h₂
            obtain ⟨q, hq, rfl⟩ := ends_bind_done_iff.1 h₂
            exact .got hp hj (ih.1 hq)
    · obtain ⟨downloads, failure⟩ := p
      intro h
      cases h with
      | unreadable hp =>
        exact ⟨[], _, [], ends_pactAt_iff.2 (.inl ⟨_, hp, rfl, rfl⟩), .done _, rfl⟩
      | refused hp hr =>
        refine ⟨_, _, [], ends_pactAt_iff.2 (.inr ⟨_, _, hp, rfl, rfl⟩), ?_, rfl⟩
        rw [hr]
        exact .done _
      | spoiled hp hj =>
        refine ⟨_, _, [], ends_pactAt_iff.2 (.inr ⟨_, _, hp, rfl, rfl⟩), ?_, rfl⟩
        simp only [Reply.toExcept, Except.bind]
        rw [hj]
        exact .done _
      | @got _ _ url doc pact talk downloads failure hp hj hrest =>
        refine ⟨[_], _, talk, ends_pactAt_iff.2 (.inr ⟨_, _, hp, rfl, rfl⟩), ?_, rfl⟩
        simp only [Reply.toExcept, Except.bind]
        rw [hj]
        exact ends_bind_done_iff.2 ⟨⟨downloads, failure⟩, ih.2 hrest, rfl⟩

end BrokerSettings

/-! ## Passes -/

/-- The pass for a tag: what was said, what was downloaded, and what stopped it. -/
inductive Pass (s : BrokerSettings) (lookup : Lookup) (provider : String) (tag : Option String) :
    Talk → List (String × Pact) → Option LoadError → Prop
  | unconfigured {e : BrokerError} (settings : s.client lookup = .error e) :
      Pass s lookup provider tag [] [] (some (.broker e))
  | unlisted {client : Client} {talk : Talk} {e : BrokerError}
      (settings : s.client lookup = .ok client)
      (listing : Ends (client.consumersOf provider tag) talk (.error e)) :
      Pass s lookup provider tag talk [] (some (.broker e))
  | nobody {client : Client} {talk told : Talk} {url : String}
      (settings : s.client lookup = .ok client) (fail : s.failIfNone = true)
      (listing : Ends (client.consumersOf provider tag) talk (.ok []))
      (diagnosis : Ends (client.shownListingUrl provider tag) told url) :
      Pass s lookup provider tag (talk ++ told) []
        (some (.noPactsFound provider (tag.getD Consumer.latest) url))
  | listed {client : Client} {talk fetched : Talk} {consumers : List Consumer}
      {downloads : List (String × Pact)} {failure : Option LoadError}
      (settings : s.client lookup = .ok client)
      (listing : Ends (client.consumersOf provider tag) talk (.ok consumers))
      (found : ¬ (s.failIfNone = true ∧ consumers = []))
      (fetches : Fetches (Inclusion.filter lookup s.consumers consumers) fetched downloads
        failure) :
      Pass s lookup provider tag (talk ++ fetched) downloads failure

/-- The passes for tags, one after the other, until one of them fails in a way that is not
tolerated. -/
inductive Course (s : BrokerSettings) (lookup : Lookup) (provider : String) :
    List (Option String) → Talk → List (String × Pact) → Option LoadError → Prop
  | finished : Course s lookup provider [] [] [] none
  | stopped {tag : Option String} {tags : List (Option String)} {talk : Talk}
      {downloads : List (String × Pact)} {e : LoadError}
      (pass : Pass s lookup provider tag talk downloads (some e)) (fatal : s.tolerates e = false) :
      Course s lookup provider (tag :: tags) talk downloads (some e)
  | onward {tag : Option String} {tags : List (Option String)} {talk talk' : Talk}
      {downloads downloads' : List (String × Pact)} {failure failure' : Option LoadError}
      (pass : Pass s lookup provider tag talk downloads failure)
      (tolerated : ∀ e, failure = some e → s.tolerates e = true)
      (rest : Course s lookup provider tags talk' downloads' failure') :
      Course s lookup provider (tag :: tags) (talk ++ talk') (downloads ++ downloads') failure'

namespace BrokerSettings

variable {s : BrokerSettings} {lookup : Lookup} {provider : String}

theorem ends_pass_iff {tag : Option String} {talk : Talk} {p : Progress} :
    Ends (s.pass lookup provider tag) talk p ↔
      Pass s lookup provider tag talk p.downloads p.failure := by
  rw [pass]
  cases hc : s.client lookup with
  | error e =>
    simp only [Session.pure_eq, ends_done_iff]
    constructor
    · rintro ⟨rfl, rfl⟩
      exact .unconfigured hc
    · obtain ⟨downloads, failure⟩ := p
      intro h
      cases h with
      | unconfigured he =>
        rw [hc] at he
        cases he
        exact ⟨rfl, rfl⟩
      | unlisted hs => simp [hc] at hs
      | nobody hs => simp [hc] at hs
      | listed hs => simp [hc] at hs
  | ok client =>
    simp only [ends_bind_iff]
    constructor
    · rintro ⟨first, r, second, h₁, h₂, rfl⟩
      cases r with
      | error e =>
        obtain ⟨rfl, rfl⟩ := ends_done_iff.1 h₂
        rw [List.append_nil]
        exact .unlisted hc h₁
      | ok consumers =>
        simp only at h₂
        split at h₂
        · rename_i hn
          obtain ⟨hf, rfl⟩ := hn
          obtain ⟨url, hu, rfl⟩ := ends_bind_done_iff.1 h₂
          exact .nobody hc hf h₁ hu
        · rename_i hn
          exact .listed hc h₁ hn (ends_download_iff.1 h₂)
    · obtain ⟨downloads, failure⟩ := p
      intro h
      cases h with
      | unconfigured h => simp [hc] at h
      | unlisted h hl =>
        obtain rfl : client = _ := by simpa [hc] using h
        exact ⟨talk, _, [], hl, .done _, by simp⟩
      | nobody h hf hl hu =>
        obtain rfl : client = _ := by simpa [hc] using h
        refine ⟨_, _, _, hl, ?_, rfl⟩
        simp only [hf, and_self, if_true]
        exact ends_bind_done_iff.2 ⟨_, hu, rfl⟩
      | listed h hl hn hd =>
        obtain rfl : client = _ := by simpa [hc] using h
        refine ⟨_, _, _, hl, ?_, rfl⟩
        simp only [if_neg hn]
        exact ends_download_iff.2 hd

theorem ends_passes_iff {tags : List (Option String)} {talk : Talk} {p : Progress} :
    Ends (s.passes lookup provider tags) talk p ↔
      Course s lookup provider tags talk p.downloads p.failure := by
  induction tags generalizing talk p with
  | nil =>
    rw [passes, Session.pure_eq, ends_done_iff]
    constructor
    · rintro ⟨rfl, rfl⟩
      exact .finished
    · obtain ⟨downloads, failure⟩ := p
      rintro ⟨⟩
      exact ⟨rfl, rfl⟩
  | cons tag tags ih =>
    rw [passes, ends_bind_iff]
    constructor
    · rintro ⟨first, q, second, h₁, h₂, rfl⟩
      have hp := ends_pass_iff.1 h₁
      cases hf : q.failure with
      | none =>
        simp only [hf] at h₂ hp
        obtain ⟨r, hr, rfl⟩ := ends_bind_done_iff.1 h₂
        exact .onward hp (by simp) (ih.1 hr)
      | some e =>
        simp only [hf] at h₂ hp
        split at h₂
        · rename_i ht
          obtain ⟨r, hr, rfl⟩ := ends_bind_done_iff.1 h₂
          exact .onward hp (by rintro _ ⟨⟩; exact ht) (ih.1 hr)
        · rename_i ht
          obtain ⟨rfl, rfl⟩ := ends_done_iff.1 h₂
          rw [List.append_nil, hf]
          exact .stopped hp (by simpa using ht)
    · obtain ⟨downloads, failure⟩ := p
      intro h
      cases h with
      | stopped hp ht =>
        refine ⟨talk, ⟨downloads, _⟩, [], ends_pass_iff.2 hp, ?_, by simp⟩
        simp only [ht, Bool.false_eq_true, if_false]
        exact .done _
      | @onward _ _ first second ds ds' f _ hp ht hr =>
        refine ⟨first, ⟨ds, f⟩, second, ends_pass_iff.2 hp, ?_, rfl⟩
        cases f with
        | none => exact ends_bind_done_iff.2 ⟨⟨ds', failure⟩, ih.2 hr, rfl⟩
        | some e =>
          simp only [ht e rfl, if_true]
          exact ends_bind_done_iff.2 ⟨⟨ds', failure⟩, ih.2 hr, rfl⟩

/-- **The computation follows the course.**  Answered as in `talk`, a load achieves some progress
exactly when its course can go that way. -/
theorem ends_collect_iff {talk : Talk} {p : Progress} :
    Ends (s.collect lookup provider) talk p ↔
      Course s lookup provider (s.passTags lookup) talk p.downloads p.failure :=
  ends_passes_iff

end BrokerSettings

/-! ## The failures of a load -/

section Failures

variable {s : BrokerSettings} {lookup : Lookup} {provider : String}

theorem Fetches.failure_eq_broker {cs : List Consumer} {talk : Talk}
    {downloads : List (String × Pact)} {failure : Option LoadError}
    (h : Fetches cs talk downloads failure) {e : LoadError} (hf : failure = some e) :
    ∃ fault, e = .broker fault := by
  induction h with
  | finished => cases hf
  | got _ _ _ ih => exact ih hf
  | unreadable | refused | spoiled =>
    cases hf
    exact ⟨_, rfl⟩

theorem Pass.broker_or_noPactsFound {tag : Option String} {talk : Talk}
    {downloads : List (String × Pact)} {e : LoadError}
    (h : Pass s lookup provider tag talk downloads (some e)) :
    (∃ fault, e = .broker fault) ∨ ∃ tag url, e = .noPactsFound provider tag url := by
  cases h with
  | unconfigured | unlisted => exact .inl ⟨_, rfl⟩
  | nobody => exact .inr ⟨_, _, rfl⟩
  | listed _ _ _ hf => exact .inl (hf.failure_eq_broker rfl)

/-- A load fails for the broker, or because there are no pacts of the provider. -/
theorem Course.broker_or_noPactsFound {tags : List (Option String)} {talk : Talk}
    {downloads : List (String × Pact)} {failure : Option LoadError}
    (h : Course s lookup provider tags talk downloads failure) {e : LoadError}
    (hf : failure = some e) :
    (∃ fault, e = .broker fault) ∨ ∃ tag url, e = .noPactsFound provider tag url := by
  induction h with
  | finished => cases hf
  | stopped hp =>
    cases hf
    exact hp.broker_or_noPactsFound
  | onward _ _ _ ih => exact ih hf

end Failures

end Pacts
