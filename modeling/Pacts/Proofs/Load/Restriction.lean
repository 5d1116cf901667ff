import Pacts.Proofs.Load.Passes
import Pacts.Proofs.Registry.Restriction

/-!
# Which consumers count only takes away

The settings may name the consumers that count.  A load with such settings should come to what a
load without them comes to, less what concerns the other consumers.  That this is so of the pacts,
of the registry and of the requests alike depends on where the names are looked at: in every pass
anew, behind the test whether anything was found, and by the names in the listing, which need not be
those in the pacts.

* `Progress.restrict` and `Sent.concerns` — what is left of what was achieved, and of the requests.
* `BrokerSettings.result_download_filter`, `BrokerSettings.downloadLog_filter` — downloads.
* `BrokerSettings.result_pass_restrict`, `BrokerSettings.passLog_restrict` and
  `BrokerSettings.passes_restrict` — a pass, and the passes of a load.  They speak of passes that
  the broker has not made fail: a download that fails may be one of those that a restricted load
  does not make.
* `BrokerLoader.load_restrict` — loads.
-/

set_option autoImplicit false

namespace Pacts

/-- The settings with other consumers that count. -/
def BrokerSettings.withConsumers (s : BrokerSettings) (consumers : List String) : BrokerSettings :=
  { s with consumers }

/-- The loader with other consumers that count. -/
def BrokerLoader.withConsumers (l : BrokerLoader) (consumers : List String) : BrokerLoader :=
  { l with settings := l.settings.withConsumers consumers }

/-! ## What is left -/

namespace Progress

/-- What was achieved for consumers of given names. -/
def restrict (names : List String) (p : Progress) : Progress :=
  { p with downloads := Registry.restrictLog names p.downloads }

@[simp]
theorem downloads_restrict (names : List String) (p : Progress) :
    (p.restrict names).downloads = Registry.restrictLog names p.downloads := rfl

theorem restrict_after (names : List String) (p : Progress) (downloads : List (String × Pact)) :
    (p.after downloads).restrict names =
      (p.restrict names).after (Registry.restrictLog names downloads) := by
  rw [restrict, after, Registry.restrictLog, List.filter_append]
  rfl

/-- A single download is left when its consumer counts. -/
theorem restrict_after_singleton (names : List String) (p : Progress) (name : String)
    (pact : Pact) :
    (p.after [(name, pact)]).restrict names =
      if names.contains name then (p.restrict names).after [(name, pact)]
      else p.restrict names := by
  rw [restrict_after, Registry.restrictLog, List.filter_cons, List.filter_nil]
  dsimp only
  split <;> rfl

end Progress

namespace Sent

/-- Whether a request is made to find consumers, or for the pact of one of given names. -/
def concerns (names : List String) (sent : Sent) : Bool :=
  sent.consumer.all (names.contains ·.name)

theorem filter_concerns_searching (names : List String) (requests : List Request) :
    (searching requests).filter (concerns names) = searching requests := by
  rw [searching, List.filter_eq_self]
  simp [concerns]

theorem filter_concerns_fetching (names : List String) (k : Consumer) (requests : List Request) :
    (fetching k requests).filter (concerns names) =
      if names.contains k.name then fetching k requests else [] := by
  split
  · rename_i h
    rw [fetching, List.filter_eq_self]
    simpa [concerns] using fun _ _ => h
  · rename_i h
    rw [fetching, List.filter_eq_nil_iff]
    simpa [concerns] using fun _ _ => h

end Sent

namespace BrokerSettings

variable {world : Request → Reply} {names : List String}

/-! ## Downloads -/

/-- Downloads fail for the broker, or they do not fail. -/
theorem failure_download_eq_none {ks : List Consumer}
    (h : ∀ e, ((download ks).result world).failure ≠ some (.broker e)) :
    ((download ks).result world).failure = none := by
  have hends := Session.ends_talk (Session.steady world) (download ks) ()
  refine Option.eq_none_iff_forall_ne_some.2 fun e he => ?_
  obtain ⟨fault, rfl⟩ := (ends_download_iff.1 hends).failure_eq_broker he
  exact h fault he

/-- When no download fails, those for the consumers that count come to their part of it. -/
theorem result_download_filter {ks : List Consumer}
    (h : ((download ks).result world).failure = none) :
    (download (ks.filter (names.contains ·.name))).result world =
      ((download ks).result world).restrict names := by
  induction ks with
  | nil => rfl
  | cons k ks ih =>
    rw [result_download_cons] at h ⊢
    cases hp : k.pact world with
    | error e =>
      rw [hp] at h
      cases h
    | ok pact =>
      rw [hp] at h
      dsimp only
      rw [Progress.restrict_after_singleton, List.filter_cons, ← ih h]
      split
      · rw [result_download_cons, hp]
      · rfl

/-- When no download fails, those for the consumers that count ask for their part of it. -/
theorem downloadLog_filter {ks : List Consumer}
    (h : ((download ks).result world).failure = none) :
    downloadLog world (ks.filter (names.contains ·.name)) =
      (downloadLog world ks).filter (Sent.concerns names) := by
  induction ks with
  | nil => rfl
  | cons k ks ih =>
    rw [result_download_cons] at h
    cases hp : k.pact world with
    | error e =>
      rw [hp] at h
      cases h
    | ok pact =>
      rw [hp] at h
      have honward : ∀ rest : List Sent,
          (if (k.pact world).toOption.isSome = true then rest else []) = rest := by
        intro rest
        rw [hp]
        rfl
      rw [downloadLog, honward, List.filter_append, Sent.filter_concerns_fetching,
        List.filter_cons, ← ih h]
      split
      · rw [downloadLog, honward]
      · rfl

/-! ## Passes -/

section Passes

variable {s : BrokerSettings} {lookup : Lookup} {provider : String} {tag : Option String}
  (hs : Inclusion.names lookup s.consumers = names) (hne : names ≠ [])

include hs hne

theorem filter_eq_filter_names (ks : List Consumer) :
    Inclusion.filter lookup s.consumers ks = ks.filter (names.contains ·.name) := by
  rw [Inclusion.filter, Inclusion.keep, hs, if_neg hne]

/-- What a pass that the broker has not made fail achieves, less the consumers that do not count. -/
theorem result_pass_restrict
    (h : ∀ e, (((s.withConsumers []).pass lookup provider tag).result world).failure ≠
      some (.broker e)) :
    (s.pass lookup provider tag).result world =
      (((s.withConsumers []).pass lookup provider tag).result world).restrict names := by
  cases hc : s.client lookup with
  | error e =>
    rw [result_pass_of_error (s := s.withConsumers []) hc] at h
    exact absurd rfl (h e)
  | ok c =>
    rw [result_pass (s := s.withConsumers []) hc] at h ⊢
    rw [result_pass hc]
    cases hf : c.found world provider tag with
    | error e =>
      rw [hf] at h
      exact absurd rfl (h e)
    | ok ks =>
      rw [hf] at h
      dsimp only at h ⊢
      by_cases hn : s.failIfNone ∧ ks = []
      · rw [if_pos hn, if_pos (show (s.withConsumers []).failIfNone ∧ ks = [] from hn)]
        rfl
      · have hn' : ¬ ((s.withConsumers []).failIfNone ∧ ks = []) := hn
        rw [if_neg hn'] at h
        rw [if_neg hn, if_neg hn', filter_eq_filter_names hs hne]
        exact result_download_filter (failure_download_eq_none h)

/-- What it asks for, less the pacts of the consumers that do not count. -/
theorem passLog_restrict
    (h : ∀ e, (((s.withConsumers []).pass lookup provider tag).result world).failure ≠
      some (.broker e)) :
    s.passLog world lookup provider tag =
      ((s.withConsumers []).passLog world lookup provider tag).filter (Sent.concerns names) := by
  cases hc : s.client lookup with
  | error e =>
    have hc' : (s.withConsumers []).client lookup = .error e := hc
    rw [passLog, passLog, hc, hc']
    rfl
  | ok c =>
    have hc' : (s.withConsumers []).client lookup = .ok c := hc
    rw [result_pass hc'] at h
    rw [passLog, passLog, hc, hc']
    dsimp only
    rw [List.filter_append, Sent.filter_concerns_searching]
    refine congrArg (Sent.searching ((c.consumersOf provider tag).requests world) ++ ·) ?_
    cases hf : c.found world provider tag with
    | error e => rfl
    | ok ks =>
      rw [hf] at h
      dsimp only at h ⊢
      by_cases hn : s.failIfNone ∧ ks = []
      · have hn' : (s.withConsumers []).failIfNone ∧ ks = [] := hn
        rw [listedLog, listedLog, if_pos hn, if_pos hn', Sent.filter_concerns_searching]
      · have hn' : ¬ ((s.withConsumers []).failIfNone ∧ ks = []) := hn
        rw [if_neg hn'] at h
        rw [listedLog, listedLog, if_neg hn, if_neg hn', filter_eq_filter_names hs hne]
        exact downloadLog_filter (failure_download_eq_none h)

/-- Passes that the broker has not made fail are made for the same tags, and what they achieve is
left as far as it is about consumers that count. -/
theorem passes_restrict {tags : List (Option String)}
    (h : ∀ e, (((s.withConsumers []).passes lookup provider tags).result world).failure ≠
      some (.broker e)) :
    (s.passes lookup provider tags).result world =
        (((s.withConsumers []).passes lookup provider tags).result world).restrict names ∧
      (s.made world lookup provider tags).flatMap (s.passLog world lookup provider) =
        (((s.withConsumers []).made world lookup provider tags).flatMap
          ((s.withConsumers []).passLog world lookup provider)).filter (Sent.concerns names) := by
  induction tags with
  | nil => exact ⟨rfl, rfl⟩
  | cons tag tags ih =>
    -- what ends a load depends on the tags and not on the consumers
    have hfatal : ∀ p : Progress, s.fatal (p.restrict names) = (s.withConsumers []).fatal p :=
      fun p => rfl
    cases hf : (s.withConsumers []).fatal
        (((s.withConsumers []).pass lookup provider tag).result world) with
    | none =>
      have hfirst : ∀ e, (((s.withConsumers []).pass lookup provider tag).result world).failure ≠
          some (.broker e) := by
        intro e he
        simp [fatal, he, tolerates] at hf
      have hp := result_pass_restrict hs hne hfirst
      rw [result_passes_of_none hf] at h ⊢
      simp only [Progress.failure_after] at h
      obtain ⟨hresult, hlog⟩ := ih h
      have hf' : s.fatal ((s.pass lookup provider tag).result world) = none := by
        rw [hp, hfatal, hf]
      constructor
      · rw [result_passes_of_none hf', hresult, hp, Progress.restrict_after,
          Progress.downloads_restrict]
      · rw [made, made, hf, hf', if_neg (by simp), if_neg (by simp), List.flatMap_cons,
          List.flatMap_cons, List.filter_append, hlog, passLog_restrict hs hne hfirst]
    | some e =>
      rw [result_passes_of_some hf] at h ⊢
      have hp := result_pass_restrict hs hne h
      have hf' : s.fatal ((s.pass lookup provider tag).result world) = some e := by
        rw [hp, hfatal, hf]
      constructor
      · rw [result_passes_of_some hf', hp]
      · rw [made, made, hf, hf', if_pos (by simp), if_pos (by simp), List.flatMap_cons,
          List.flatMap_cons, List.filter_append, passLog_restrict hs hne h, List.flatMap_nil,
          List.flatMap_nil, List.filter_nil]

variable (world s provider)

/-- The same for all the passes of a load. -/
theorem collect_restrict
    (h : ∀ e, (((s.withConsumers []).collect lookup provider).result world).failure ≠
      some (.broker e)) :
    (s.collect lookup provider).result world =
        (((s.withConsumers []).collect lookup provider).result world).restrict names ∧
      s.log world lookup provider =
        ((s.withConsumers []).log world lookup provider).filter (Sent.concerns names) :=
  passes_restrict hs hne h

end Passes

end BrokerSettings

/-! ## Loads -/

namespace BrokerLoader

/-- **The consumers that count only take away from a load.**  Compare the load of a fresh loader
with that of a loader for which every consumer counts.  When the latter succeeds, so does the
former: with the pacts of those downloads whose consumers, by their names in the listings, count;
with the registry restricted to these consumers; and with the same requests, less those for the
pacts of other consumers.  When the latter fails because there are no pacts, the former fails in the
same way. -/
theorem load_restrict (world : Request → Reply) (l : BrokerLoader) (named : Lookup)
    (provider : String) (fresh : l.loaded = .empty)
    (hne : Inclusion.names (l.lookup named) l.settings.consumers ≠ []) :
    let names := Inclusion.names (l.lookup named) l.settings.consumers
    let everyone := l.settings.withConsumers []
    let whole := (l.withConsumers []).load named provider
    let part := l.load named provider
    let downloads := ((everyone.collect (l.lookup named) provider).result world).downloads
    let log := everyone.log world (l.lookup named) provider
    (∀ pacts, (whole.result world).2 = .ok pacts →
      pacts = downloads.map (·.2) ∧
      (part.result world).2 = .ok ((downloads.filter (names.contains ·.1)).map (·.2)) ∧
      (whole.result world).1.loaded = Registry.empty.recordAll downloads ∧
      (part.result world).1.loaded = (whole.result world).1.loaded.restrict names ∧
      whole.requests world = log.map (·.request) ∧
      part.requests world = (log.filter (Sent.concerns names)).map (·.request)) ∧
    ∀ provider tag url, (whole.result world).2 = .error (.noPactsFound provider tag url) →
      (part.result world).2 = .error (.noPactsFound provider tag url) := by
  intro names everyone whole part downloads log
  have hwhole : whole.result world = ((l.withConsumers []).keep downloads,
      ((everyone.collect (l.lookup named) provider).result world).result) :=
    result_load_eq (l.withConsumers []) named provider
  have hpart : part.result world =
      (l.keep ((l.settings.collect (l.lookup named) provider).result world).downloads,
        ((l.settings.collect (l.lookup named) provider).result world).result) :=
    result_load_eq l named provider
  have hcollect := l.settings.collect_restrict world provider (rfl : _ = names) hne
  refine ⟨?_, ?_⟩
  · intro pacts hr
    rw [hwhole, Progress.result_eq_ok_iff] at hr
    obtain ⟨hn, rfl⟩ := hr
    obtain ⟨hresult, hlog⟩ := hcollect fun e he => Option.some_ne_none _ (he.symm.trans hn)
    have hloaded : (whole.result world).1.loaded = Registry.empty.recordAll downloads := by
      rw [hwhole, ← fresh]
      rfl
    refine ⟨rfl, ?_, hloaded, ?_, ?_, ?_⟩
    · rw [hpart, hresult, Progress.result_eq_ok_iff]
      exact ⟨hn, rfl⟩
    · rw [hloaded, Registry.restrict_recordAll, Registry.restrict_empty, hpart, hresult, ← fresh]
      rfl
    · exact requests_load_eq (l.withConsumers []) named provider
    · rw [← hlog]
      exact requests_load_eq l named provider
  · intro provider' tag url hr
    rw [hwhole, Progress.result_eq_error_iff] at hr
    obtain ⟨hresult, -⟩ := hcollect fun e he => nomatch he.symm.trans hr
    rw [hpart, hresult, Progress.result_eq_error_iff]
    exact hr

/-- The sample's broker, with the pact that is missing there. -/
def Sample.fullBroker : Request → Reply :=
  Session.publishing (Sample.documents ++
    [("http://broker/shop.json", .obj [("consumer", .obj [("name", .str "shop")]),
      ("provider", .obj [("name", .str "store")])])])

/-- Of the two pacts of the broker, a load for the consumer `web` keeps the one. -/
theorem load_restrict_to_web :
    Sample.loader.loaded = .empty ∧
      Inclusion.names (Sample.loader.lookup .empty) Sample.loader.settings.consumers = ["web"] ∧
      (((Sample.loader.withConsumers []).load .empty "store").result
        Sample.fullBroker).1.loaded.pactCount = 2 ∧
      ((Sample.loader.load .empty "store").result Sample.fullBroker).1.loaded =
        (((Sample.loader.withConsumers []).load .empty "store").result
          Sample.fullBroker).1.loaded.restrict ["web"] := by
  have hnames : Inclusion.names (Sample.loader.lookup .empty) Sample.loader.settings.consumers =
      ["web"] := by decide +kernel
  have hok : (((Sample.loader.withConsumers []).load .empty "store").result
      Sample.fullBroker).2.toOption.isSome := by decide +kernel
  have hload := load_restrict Sample.fullBroker Sample.loader .empty "store" rfl
    (by rw [hnames]; exact List.cons_ne_nil _ _)
  simp only [hnames] at hload
  refine ⟨rfl, hnames, by decide +kernel, ?_⟩
  cases hr : (((Sample.loader.withConsumers []).load .empty "store").result
      Sample.fullBroker).2 with
  | error e => simp [hr, Except.toOption] at hok
  | ok pacts => exact (hload.1 pacts hr).2.2.2.1

end BrokerLoader

end Pacts
