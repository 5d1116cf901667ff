import Pacts.Proofs.Load.Accumulation
import Pacts.Proofs.Load.Requests

/-!
# A load as its passes

Two loads that differ in a setting are compared pass by pass.  For this the passes of a load have to
be there as a list, and of a request one has to know on whose behalf it was made.  Against a broker
that always gives the same answer to the same request both can be read off the settings.

* `BrokerSettings.made` — the passes that are made; behind one that ends the load there is no other.
  `BrokerSettings.requests_passes` says that the requests of a load are those of these passes.
* `Sent` — a request with the consumer whose pact it asks for, if it asks for a pact, and
  `BrokerSettings.log`, the requests of a load in this form.  `BrokerSettings.requests_pass` and
  `BrokerLoader.requests_load_eq` say that these are the requests of a pass and of a load.
* `BrokerSettings.result_download_cons`, `BrokerSettings.result_pass`,
  `BrokerSettings.result_passes_of_none` and `BrokerSettings.result_passes_of_some` — what
  downloads, a pass and passes achieve.
-/

set_option autoImplicit false

namespace Pacts

variable (world : Request → Reply)

/-! ## Passes that are made -/

namespace BrokerSettings

variable (s : BrokerSettings) (lookup : Lookup) (provider : String)

/-- The tags that passes are made for, up to the first pass that ends the load. -/
def made : List (Option String) → List (Option String)
  | [] => []
  | tag :: tags =>
    tag :: if (s.fatal ((s.pass lookup provider tag).result world)).isSome then [] else made tags

variable {world s lookup provider} {tag : Option String} {tags : List (Option String)}

theorem passes_cons :
    s.passes lookup provider (tag :: tags) = s.pass lookup provider tag >>= fun first =>
      if (s.fatal first).isSome then .done first
      else s.passes lookup provider tags >>= fun rest => .done (rest.after first.downloads) := by
  rw [passes]
  refine congrArg (s.pass lookup provider tag >>= ·) (funext fun first => ?_)
  cases hf : first.failure with
  | none => simp [fatal, hf]
  | some e => by_cases ht : s.tolerates e = true <;> simp [fatal, hf, ht]

/-- A pass that does not end the load is followed by the others. -/
theorem result_passes_of_none
    (h : s.fatal ((s.pass lookup provider tag).result world) = none) :
    (s.passes lookup provider (tag :: tags)).result world =
      ((s.passes lookup provider tags).result world).after
        ((s.pass lookup provider tag).result world).downloads := by
  rw [passes_cons, Session.result_bind, h, if_neg (by simp), Session.result_bind,
    Session.result_done]

/-- A pass that ends the load is followed by nothing. -/
theorem result_passes_of_some {e : LoadError}
    (h : s.fatal ((s.pass lookup provider tag).result world) = some e) :
    (s.passes lookup provider (tag :: tags)).result world =
      (s.pass lookup provider tag).result world := by
  rw [passes_cons, Session.result_bind, h, if_pos (by simp), Session.result_done]

/-- The requests of passes are those of the passes that are made. -/
theorem requests_passes :
    (s.passes lookup provider tags).requests world =
      (s.made world lookup provider tags).flatMap fun tag =>
        (s.pass lookup provider tag).requests world := by
  induction tags with
  | nil => rfl
  | cons tag tags ih =>
    rw [passes_cons, Session.requests_bind, made, List.flatMap_cons]
    split
    · rw [Session.requests_done, List.flatMap_nil]
    · rw [Session.requests_bind, Session.requests_done, List.append_nil, ih]

/-! ## What a pass achieves -/

theorem result_download_cons (k : Consumer) (ks : List Consumer) :
    (download (k :: ks)).result world =
      match k.pact world with
      | .error e => .failed (.broker e)
      | .ok pact => ((download ks).result world).after [(k.name, pact)] := by
  rw [download, Session.result_bind, Client.result_pactAt]
  cases k.pact world with
  | error e => rfl
  | ok pact => exact Session.result_bind world _ _

theorem result_pass {c : Client} (hc : s.client lookup = .ok c) :
    (s.pass lookup provider tag).result world =
      match c.found world provider tag with
      | .error e => .failed (.broker e)
      | .ok ks =>
        if s.failIfNone ∧ ks = [] then
          .failed (.noPactsFound provider (tag.getD Consumer.latest)
            ((c.shownListingUrl provider tag).result world))
        else (download (Inclusion.filter lookup s.consumers ks)).result world := by
  rw [pass, hc]
  show (c.consumersOf provider tag >>= _).result world = _
  rw [Session.result_bind, Client.result_consumersOf]
  cases c.found world provider tag with
  | error e => rfl
  | ok ks =>
    by_cases hn : s.failIfNone ∧ ks = []
    · simp only [if_pos hn]
      exact Session.result_bind world _ _
    · simp only [if_neg hn]

theorem result_pass_of_error {e : BrokerError} (hc : s.client lookup = .error e) :
    (s.pass lookup provider tag).result world = .failed (.broker e) := by
  rw [pass, hc]
  rfl

end BrokerSettings

/-! ## On whose behalf requests are made -/

/-- A request of a load, with the consumer whose pact it asks for, if it asks for a pact. -/
structure Sent where
  request : Request
  consumer : Option Consumer

namespace Sent

/-- Requests that are made to find consumers. -/
def searching (requests : List Request) : List Sent := requests.map (⟨·, none⟩)

/-- Requests that are made for the pact of a consumer. -/
def fetching (k : Consumer) (requests : List Request) : List Sent := requests.map (⟨·, some k⟩)

theorem map_request_searching (requests : List Request) :
    (searching requests).map (·.request) = requests := by
  rw [searching, List.map_map]
  exact List.map_id requests

theorem map_request_fetching (k : Consumer) (requests : List Request) :
    (fetching k requests).map (·.request) = requests := by
  rw [fetching, List.map_map]
  exact List.map_id requests

end Sent

namespace BrokerSettings

/-- The requests of downloads, up to the first that fails. -/
def downloadLog : List Consumer → List Sent
  | [] => []
  | k :: ks =>
    Sent.fetching k ((Client.pactAt k.href k.credentials).requests world) ++
      if (k.pact world).toOption.isSome then downloadLog ks else []

/-- The requests of a pass behind the search for consumers. -/
def listedLog (s : BrokerSettings) (lookup : Lookup) (provider : String) (c : Client)
    (tag : Option String) (ks : List Consumer) : List Sent :=
  if s.failIfNone ∧ ks = [] then Sent.searching ((c.shownListingUrl provider tag).requests world)
  else downloadLog world (Inclusion.filter lookup s.consumers ks)

/-- The requests of a pass. -/
def passLog (s : BrokerSettings) (lookup : Lookup) (provider : String) (tag : Option String) :
    List Sent :=
  match s.client lookup with
  | .error _ => []
  | .ok c =>
    Sent.searching ((c.consumersOf provider tag).requests world) ++
      match c.found world provider tag with
      | .error _ => []
      | .ok ks => s.listedLog world lookup provider c tag ks

/-- The requests of a load. -/
def log (s : BrokerSettings) (lookup : Lookup) (provider : String) : List Sent :=
  (s.made world lookup provider (s.passTags lookup)).flatMap (s.passLog world lookup provider)

variable {world} {s : BrokerSettings} {lookup : Lookup} {provider : String} {tag : Option String}

theorem requests_download (ks : List Consumer) :
    (download ks).requests world = (downloadLog world ks).map (·.request) := by
  induction ks with
  | nil => rfl
  | cons k ks ih =>
    rw [download, downloadLog, Session.requests_bind, Client.result_pactAt, List.map_append,
      Sent.map_request_fetching]
    congr 1
    cases k.pact world with
    | error e => rfl
    | ok pact =>
      show ((download ks) >>= _).requests world = _
      rw [Session.requests_bind, ih]
      exact List.append_nil _

/-- The log of a pass holds its requests. -/
theorem requests_pass :
    (s.pass lookup provider tag).requests world =
      (s.passLog world lookup provider tag).map (·.request) := by
  rw [pass, passLog]
  cases s.client lookup with
  | error e => rfl
  | ok c =>
    show (c.consumersOf provider tag >>= _).requests world = _
    rw [Session.requests_bind, Client.result_consumersOf]
    dsimp only
    rw [List.map_append, Sent.map_request_searching]
    congr 1
    cases c.found world provider tag with
    | error e => rfl
    | ok ks =>
      by_cases hn : s.failIfNone ∧ ks = []
      · simp only [listedLog, if_pos hn, Sent.map_request_searching]
        rw [Session.requests_bind]
        exact List.append_nil _
      · simp only [listedLog, if_neg hn]
        exact requests_download _

theorem requests_collect :
    (s.collect lookup provider).requests world =
      (s.log world lookup provider).map (·.request) := by
  rw [collect, requests_passes, log, List.map_flatMap]
  simp only [requests_pass]

end BrokerSettings

namespace BrokerLoader

variable {world}

/-- A load makes the requests of its log. -/
theorem requests_load_eq (l : BrokerLoader) (named : Lookup) (provider : String) :
    (l.load named provider).requests world =
      (l.settings.log world (l.lookup named) provider).map (·.request) := by
  rw [load_eq, Session.requests_bind, Session.requests_done, List.append_nil,
    BrokerSettings.requests_collect]

/-- A load keeps and returns what its passes achieve. -/
theorem result_load_eq (l : BrokerLoader) (named : Lookup) (provider : String) :
    (l.load named provider).result world =
      (l.keep ((l.settings.collect (l.lookup named) provider).result world).downloads,
        ((l.settings.collect (l.lookup named) provider).result world).result) := by
  rw [load_eq, Session.result_bind, Session.result_done]

end BrokerLoader

end Pacts
