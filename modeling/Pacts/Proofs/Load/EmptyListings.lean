import Pacts.Proofs.Broker.Search
import Pacts.Proofs.Load.Passes

/-!
# Whether empty listings are failures

The settings say whether it is a failure that no consumers are found.  What this decides depends on
whether they also have tags.  With tags, such a pass is skipped, so all that can be seen is the
request that was made to tell where nothing was found.  Without tags there is but one pass, and the
load fails with it.

* `BrokerSettings.FindsNobody` — the pass for a tag finds no consumers, and
  `BrokerSettings.diagnosis`, what is asked for on top when that is a failure.
* `BrokerSettings.requests_pass_strict`, `BrokerSettings.result_pass_of_findsNobody` and
  `BrokerSettings.result_pass_of_not_findsNobody` — a pass.
* `BrokerSettings.collect_strict` — the passes of a load with tags, which go on behind such a pass.
* `BrokerSettings.collect_of_findsNobody` and `BrokerSettings.collect_of_not_findsNobody` — the only
  pass of a load without tags.
* `BrokerLoader.load_failIfNone` — loads.
-/

set_option autoImplicit false

namespace Pacts

variable {world : Request → Reply}

/-- A load does not fail in a way that it tolerates. -/
theorem Course.not_tolerated {s : BrokerSettings} {lookup : Lookup} {provider : String}
    {tags : List (Option String)} {talk : Session.Talk} {downloads : List (String × Pact)}
    {failure : Option LoadError} (h : Course s lookup provider tags talk downloads failure)
    {e : LoadError} (hf : failure = some e) : s.tolerates e = false := by
  induction h with
  | finished => cases hf
  | stopped _ fatal =>
    cases hf
    exact fatal
  | onward _ _ _ ih => exact ih hf

namespace BrokerSettings

/-- The settings that take it for a failure that there are no pacts, or do not. -/
def withFailIfNone (s : BrokerSettings) (fail : Bool) : BrokerSettings :=
  { s with failIfNone := fail }

/-- The pass for a tag finds no consumers. -/
def FindsNobody (world : Request → Reply) (s : BrokerSettings) (lookup : Lookup)
    (provider : String) (tag : Option String) : Prop :=
  ∃ c, s.client lookup = .ok c ∧ (c.consumersOf provider tag).result world = .ok []

/-- What is asked for when a pass finds no consumers and that is a failure: the broker's own
document, once more. -/
def diagnosis (world : Request → Reply) (s : BrokerSettings) (lookup : Lookup)
    (provider : String) (tag : Option String) : List Request :=
  match s.client lookup with
  | .error _ => []
  | .ok c =>
    match (c.consumersOf provider tag).result world with
    | .ok [] => [c.requestFor c.baseUrl]
    | _ => []

variable {s : BrokerSettings} {lookup : Lookup} {provider : String} {tag : Option String}

theorem diagnosis_of_findsNobody {c : Client} (hc : s.client lookup = .ok c)
    (hk : (c.consumersOf provider tag).result world = .ok []) :
    s.diagnosis world lookup provider tag = [c.requestFor c.baseUrl] := by
  simp only [diagnosis, hc, hk]

theorem diagnosis_of_not_findsNobody (hn : ¬ s.FindsNobody world lookup provider tag) :
    s.diagnosis world lookup provider tag = [] := by
  rw [diagnosis]
  cases hc : s.client lookup with
  | error e => rfl
  | ok c =>
    dsimp only
    split
    · rename_i hk
      exact absurd ⟨c, hc, hk⟩ hn
    · rfl

/-! ## Passes -/

theorem result_pass_of_findsNobody {c : Client} (hc : s.client lookup = .ok c)
    (hn : (c.consumersOf provider tag).result world = .ok []) :
    ((s.withFailIfNone true).pass lookup provider tag).result world =
        .failed (.noPactsFound provider (tag.getD Consumer.latest)
          ((c.shownListingUrl provider tag).result world)) ∧
      ((s.withFailIfNone false).pass lookup provider tag).result world = .start := by
  rw [Client.result_consumersOf] at hn
  constructor
  · rw [result_pass (s := s.withFailIfNone true) hc, hn]
    exact if_pos ⟨rfl, rfl⟩
  · rw [result_pass (s := s.withFailIfNone false) hc, hn]
    dsimp only
    rw [if_neg (by simp [withFailIfNone])]
    show (download (Inclusion.filter lookup s.consumers [])).result world = _
    rw [Inclusion.filter_nil]
    rfl

theorem result_pass_of_not_findsNobody (hn : ¬ s.FindsNobody world lookup provider tag) :
    ((s.withFailIfNone true).pass lookup provider tag).result world =
      ((s.withFailIfNone false).pass lookup provider tag).result world := by
  cases hc : s.client lookup with
  | error e =>
    rw [result_pass_of_error (s := s.withFailIfNone true) hc,
      result_pass_of_error (s := s.withFailIfNone false) hc]
  | ok c =>
    rw [result_pass (s := s.withFailIfNone true) hc, result_pass (s := s.withFailIfNone false) hc]
    cases hf : c.found world provider tag with
    | error e => rfl
    | ok ks =>
      have hks : ks ≠ [] := by
        rintro rfl
        exact hn ⟨c, hc, by rw [Client.result_consumersOf, hf]⟩
      dsimp only
      rw [if_neg (by simp [hks]), if_neg (by simp [hks])]
      rfl

/-- What a pass asks for when empty listings are failures, and when they are not. -/
theorem requests_pass_strict :
    ((s.withFailIfNone true).pass lookup provider tag).requests world =
      ((s.withFailIfNone false).pass lookup provider tag).requests world ++
        s.diagnosis world lookup provider tag := by
  have hclient : ∀ fail, (s.withFailIfNone fail).client lookup = s.client lookup := fun _ => rfl
  rw [requests_pass, requests_pass, passLog, passLog, diagnosis, hclient, hclient]
  cases s.client lookup with
  | error e => rfl
  | ok c =>
    dsimp only
    rw [Client.result_consumersOf, List.map_append, List.map_append, List.append_assoc]
    refine (List.append_right_inj _).2 ?_
    cases c.found world provider tag with
    | error e => rfl
    | ok ks =>
      dsimp only
      cases ks with
      | nil =>
        rw [listedLog, listedLog, if_pos ⟨rfl, rfl⟩, if_neg (by simp [withFailIfNone]),
          Sent.map_request_searching, Client.requests_shownListingUrl]
        show _ = (downloadLog world (Inclusion.filter lookup s.consumers [])).map _ ++ _
        rw [Inclusion.filter_nil]
        rfl
      | cons k ks =>
        rw [listedLog, listedLog, if_neg (by simp), if_neg (by simp), List.append_nil]
        rfl

/-! ## Passes that go on -/

section Tagged

variable (world s lookup provider)

/-- With tags, a pass ends the load in both cases or in neither, and its downloads are the same. -/
theorem result_pass_strict (ht : s.tags ≠ []) (tag : Option String) :
    let strict := ((s.withFailIfNone true).pass lookup provider tag).result world
    let lax := ((s.withFailIfNone false).pass lookup provider tag).result world
    (s.withFailIfNone true).fatal strict = (s.withFailIfNone false).fatal lax ∧
      strict.downloads = lax.downloads ∧
      ((s.withFailIfNone false).fatal lax ≠ none → strict = lax) := by
  intro strict lax
  by_cases hn : s.FindsNobody world lookup provider tag
  · obtain ⟨c, hc, hk⟩ := hn
    obtain ⟨hstrict, hlax⟩ := result_pass_of_findsNobody hc hk
    have hs : (s.withFailIfNone true).fatal strict = none := by
      rw [show strict = _ from hstrict]
      simp [fatal, Progress.failed, tolerates, withFailIfNone, ht]
    have hl : (s.withFailIfNone false).fatal lax = none := by
      rw [show lax = _ from hlax]
      rfl
    refine ⟨hs.trans hl.symm, ?_, fun h => absurd hl h⟩
    rw [show strict = _ from hstrict, show lax = _ from hlax]
    rfl
  · have heq : strict = lax := result_pass_of_not_findsNobody hn
    rw [heq]
    exact ⟨rfl, rfl, fun _ => rfl⟩

/-- With tags, the same passes are made, and they come to the same. -/
theorem passes_strict (ht : s.tags ≠ []) (tags : List (Option String)) :
    ((s.withFailIfNone true).passes lookup provider tags).result world =
        ((s.withFailIfNone false).passes lookup provider tags).result world ∧
      (s.withFailIfNone true).made world lookup provider tags =
        (s.withFailIfNone false).made world lookup provider tags := by
  induction tags with
  | nil => exact ⟨rfl, rfl⟩
  | cons tag tags ih =>
    obtain ⟨hfatal, hdownloads, hstop⟩ :=
      s.result_pass_strict world lookup provider ht tag
    cases hf : (s.withFailIfNone false).fatal
        (((s.withFailIfNone false).pass lookup provider tag).result world) with
    | none =>
      rw [hf] at hfatal
      rw [result_passes_of_none hfatal, result_passes_of_none hf, made, made, hfatal, hf, ih.1,
        ih.2, hdownloads]
      exact ⟨rfl, rfl⟩
    | some e =>
      rw [hf] at hfatal hstop
      rw [result_passes_of_some hfatal, result_passes_of_some hf, made, made, hfatal, hf]
      exact ⟨hstop (Option.some_ne_none e), rfl⟩

/-- With tags, a load does not fail because there are no pacts. -/
theorem failure_collect_ne_noPactsFound (ht : s.tags ≠ []) (who tag url : String) :
    ((s.collect lookup provider).result world).failure ≠ some (.noPactsFound who tag url) := by
  intro hf
  have hends := Session.ends_talk (Session.steady world) (s.collect lookup provider) ()
  have htolerated := (ends_collect_iff.1 hends).not_tolerated hf
  simp [tolerates, ht] at htolerated

/-- With tags, all that can be told apart is what is asked for on top. -/
theorem collect_strict (ht : s.tags ≠ []) :
    let made := (s.withFailIfNone false).made world lookup provider (s.passTags lookup)
    ((s.withFailIfNone true).collect lookup provider).result world =
        ((s.withFailIfNone false).collect lookup provider).result world ∧
      ((s.withFailIfNone false).collect lookup provider).requests world =
        made.flatMap (fun tag =>
          ((s.withFailIfNone false).pass lookup provider tag).requests world) ∧
      ((s.withFailIfNone true).collect lookup provider).requests world =
        made.flatMap (fun tag =>
          ((s.withFailIfNone false).pass lookup provider tag).requests world ++
            s.diagnosis world lookup provider tag) := by
  intro made
  obtain ⟨hresult, hmade⟩ := s.passes_strict world lookup provider ht (s.passTags lookup)
  refine ⟨hresult, requests_passes, ?_⟩
  calc ((s.withFailIfNone true).collect lookup provider).requests world
      = ((s.withFailIfNone true).made world lookup provider (s.passTags lookup)).flatMap
          fun tag => ((s.withFailIfNone true).pass lookup provider tag).requests world :=
        requests_passes
    _ = _ := by
        rw [hmade]
        simp only [requests_pass_strict]
        rfl

end Tagged

/-! ## The pass of a load without tags -/

/-- Without tags there is one pass, and the load is what becomes of it. -/
theorem collect_of_no_tags (ht : s.tags = []) :
    (s.collect lookup provider).result world = (s.pass lookup provider none).result world ∧
      (s.collect lookup provider).requests world =
        (s.pass lookup provider none).requests world := by
  have hcollect : s.collect lookup provider = s.passes lookup provider [none] := by
    rw [collect, passTags, if_pos ht]
  rw [hcollect]
  constructor
  · cases hf : s.fatal ((s.pass lookup provider none).result world) with
    | some e => exact result_passes_of_some hf
    | none =>
      have hfailure : ((s.pass lookup provider none).result world).failure = none := by
        cases he : ((s.pass lookup provider none).result world).failure with
        | none => rfl
        | some e => cases e <;> simp [fatal, he, tolerates, ht] at hf
      rw [result_passes_of_none hf]
      generalize (s.pass lookup provider none).result world = p at hfailure
      obtain ⟨downloads, failure⟩ := p
      obtain rfl : failure = none := hfailure
      exact congrArg (Progress.mk · none) (List.append_nil downloads)
  · rw [requests_passes, made, List.flatMap_cons]
    split <;> exact List.append_nil _

theorem collect_of_findsNobody (ht : s.tags = []) {c : Client} (hc : s.client lookup = .ok c)
    (hk : (c.consumersOf provider none).result world = .ok []) :
    ((s.withFailIfNone true).collect lookup provider).result world =
        .failed (.noPactsFound provider Consumer.latest
          ((c.shownListingUrl provider none).result world)) ∧
      ((s.withFailIfNone false).collect lookup provider).result world = .start ∧
      ((s.withFailIfNone true).collect lookup provider).requests world =
        ((s.withFailIfNone false).collect lookup provider).requests world ++
          [c.requestFor c.baseUrl] := by
  obtain ⟨hstrict, hlax⟩ := result_pass_of_findsNobody hc hk
  obtain ⟨hresult, hrequests⟩ := collect_of_no_tags (s := s.withFailIfNone true) ht
  obtain ⟨hresult', hrequests'⟩ := collect_of_no_tags (s := s.withFailIfNone false) ht
  refine ⟨hresult.trans hstrict, hresult'.trans hlax, ?_⟩
  rw [hrequests, hrequests', requests_pass_strict, diagnosis_of_findsNobody hc hk]

theorem collect_of_not_findsNobody (ht : s.tags = [])
    (hn : ¬ s.FindsNobody world lookup provider none) :
    ((s.withFailIfNone true).collect lookup provider).result world =
        ((s.withFailIfNone false).collect lookup provider).result world ∧
      ((s.withFailIfNone true).collect lookup provider).requests world =
        ((s.withFailIfNone false).collect lookup provider).requests world := by
  obtain ⟨hresult, hrequests⟩ := collect_of_no_tags (s := s.withFailIfNone true) ht
  obtain ⟨hresult', hrequests'⟩ := collect_of_no_tags (s := s.withFailIfNone false) ht
  constructor
  · rw [hresult, hresult', result_pass_of_not_findsNobody hn]
  · rw [hrequests, hrequests', requests_pass_strict, diagnosis_of_not_findsNobody hn,
      List.append_nil]

end BrokerSettings

/-! ## Loads -/

namespace BrokerLoader

theorem requests_load_withFailIfNone (l : BrokerLoader) (named : Lookup) (provider : String)
    (fail : Bool) :
    ((l.withFailIfNone fail).load named provider).requests world =
      ((l.settings.withFailIfNone fail).collect (l.lookup named) provider).requests world := by
  rw [load_eq, Session.requests_bind, Session.requests_done, List.append_nil]
  rfl

theorem result_load_withFailIfNone (l : BrokerLoader) (named : Lookup) (provider : String)
    (fail : Bool) :
    let p := ((l.settings.withFailIfNone fail).collect (l.lookup named) provider).result world
    ((l.withFailIfNone fail).load named provider).result world =
      ((l.keep p.downloads).withFailIfNone fail, p.result) :=
  result_load_eq (l.withFailIfNone fail) named provider

/-- **What it decides whether empty listings are failures.**  Compare a load for which they are with
a load for which they are not.

With tags, both come to the same result, keep the same pacts and make passes for the same tags, and
neither fails because there are no pacts; but a pass that finds no consumers asks for the broker's
own document once more when that is a failure.

Without tags, both do the same unless no consumers are found.  Then the one load fails, as there are
no pacts of the latest versions, the other returns no pacts, and nothing is kept. -/
theorem load_failIfNone (world : Request → Reply) (l : BrokerLoader) (named : Lookup)
    (provider : String) :
    let s := l.settings
    let lookup := l.lookup named
    let strict := (l.withFailIfNone true).load named provider
    let lax := (l.withFailIfNone false).load named provider
    let made := (s.withFailIfNone false).made world lookup provider (s.passTags lookup)
    (s.tags ≠ [] →
      (strict.result world).2 = (lax.result world).2 ∧
      (strict.result world).1.loaded = (lax.result world).1.loaded ∧
      (∀ who tag url, (strict.result world).2 ≠ .error (.noPactsFound who tag url) ∧
        (lax.result world).2 ≠ .error (.noPactsFound who tag url)) ∧
      lax.requests world = made.flatMap (fun tag =>
        ((s.withFailIfNone false).pass lookup provider tag).requests world) ∧
      strict.requests world = made.flatMap (fun tag =>
        ((s.withFailIfNone false).pass lookup provider tag).requests world ++
          s.diagnosis world lookup provider tag)) ∧
    (s.tags = [] →
      (∀ c, s.client lookup = .ok c → (c.consumersOf provider none).result world = .ok [] →
        strict.result world = (l.withFailIfNone true,
          .error (.noPactsFound provider Consumer.latest
            ((c.shownListingUrl provider none).result world))) ∧
        lax.result world = (l.withFailIfNone false, .ok []) ∧
        strict.requests world = lax.requests world ++ [c.requestFor c.baseUrl]) ∧
      (¬ s.FindsNobody world lookup provider none →
        (strict.result world).2 = (lax.result world).2 ∧
        (strict.result world).1.loaded = (lax.result world).1.loaded ∧
        strict.requests world = lax.requests world)) := by
  intro s lookup strict lax made
  refine ⟨?_, ?_⟩
  · intro ht
    obtain ⟨hresult, hlax, hstrict⟩ := s.collect_strict world lookup provider ht
    have hpacts : ∀ fail who tag url,
        (((l.withFailIfNone fail).load named provider).result world).2 ≠
          .error (.noPactsFound who tag url) := by
      intro fail who tag url he
      rw [result_load_withFailIfNone, Progress.result_eq_error_iff] at he
      exact (s.withFailIfNone fail).failure_collect_ne_noPactsFound world lookup provider ht
        who tag url he
    refine ⟨?_, ?_, fun who tag url => ⟨hpacts true who tag url, hpacts false who tag url⟩, ?_, ?_⟩
    · rw [result_load_withFailIfNone, result_load_withFailIfNone, hresult]
    · rw [result_load_withFailIfNone, result_load_withFailIfNone, hresult]
      rfl
    · rw [requests_load_withFailIfNone, hlax]
    · rw [requests_load_withFailIfNone, hstrict]
  · intro ht
    refine ⟨?_, ?_⟩
    · intro c hc hk
      obtain ⟨hstrict, hlax, hrequests⟩ := BrokerSettings.collect_of_findsNobody ht hc hk
      refine ⟨?_, ?_, ?_⟩
      · rw [result_load_withFailIfNone, hstrict]
        rfl
      · rw [result_load_withFailIfNone, hlax]
        rfl
      · rw [requests_load_withFailIfNone, requests_load_withFailIfNone, hrequests]
    · intro hn
      obtain ⟨hresult, hrequests⟩ := BrokerSettings.collect_of_not_findsNobody ht hn
      refine ⟨?_, ?_, ?_⟩
      · rw [result_load_withFailIfNone, result_load_withFailIfNone, hresult]
      · rw [result_load_withFailIfNone, result_load_withFailIfNone, hresult]
        rfl
      · rw [requests_load_withFailIfNone, requests_load_withFailIfNone, hrequests]

/-- Settings with nothing but a host. -/
def Sample.untagged : BrokerLoader := .ofSettings { BrokerSettings.default with host := "broker" }

/-- A broker without documents knows no consumers. -/
theorem consumersOf_publishing_nil (c : Client) (provider : String) (tag : Option String) :
    (c.consumersOf provider tag).result (Session.publishing []) = .ok [] := by
  rw [Client.result_consumersOf]
  rfl

/-- Against a broker without documents it makes a difference for settings without tags, and for
settings with tags it makes a difference to the requests only. -/
theorem load_failIfNone_of_no_documents :
    (∃ c, Sample.untagged.settings.client .empty = .ok c ∧
      (c.consumersOf "store" none).result (Session.publishing []) = .ok [] ∧
      (((Sample.untagged.withFailIfNone true).load .empty "store").result
        (Session.publishing [])).2 =
          .error (.noPactsFound "store" Consumer.latest
            ((c.shownListingUrl "store" none).result (Session.publishing []))) ∧
      (((Sample.untagged.withFailIfNone false).load .empty "store").result
        (Session.publishing [])).2 = .ok [] ∧
      ((Sample.untagged.withFailIfNone true).load .empty "store").requests (Session.publishing []) =
        ((Sample.untagged.withFailIfNone false).load .empty "store").requests
          (Session.publishing []) ++ [c.requestFor c.baseUrl]) ∧
    Sample.loader.settings.tags ≠ [] ∧
      (((Sample.loader.withFailIfNone true).load .empty "store").result (Session.publishing [])).2 =
        (((Sample.loader.withFailIfNone false).load .empty "store").result
          (Session.publishing [])).2 := by
  have htags : Sample.loader.settings.tags ≠ [] := by decide
  refine ⟨?_, htags, ?_⟩
  · have hok : (Sample.untagged.settings.client .empty).toOption.isSome = true := by
      decide +kernel
    cases hc : Sample.untagged.settings.client .empty with
    | error e => simp [hc, Except.toOption] at hok
    | ok c =>
      have hk := consumersOf_publishing_nil c "store" none
      obtain ⟨hstrict, hlax, hrequests⟩ := ((load_failIfNone (Session.publishing [])
        Sample.untagged .empty "store").2 rfl).1 c hc hk
      exact ⟨c, rfl, hk, congrArg Prod.snd hstrict, congrArg Prod.snd hlax, hrequests⟩
  · exact ((load_failIfNone (Session.publishing []) Sample.loader .empty "store").1 htags).1

end BrokerLoader

end Pacts
