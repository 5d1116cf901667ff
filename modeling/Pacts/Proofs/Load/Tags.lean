import Pacts.Proofs.Load.Accumulation
import Pacts.Proofs.Load.Requests

/-!
# Tags one after the other

A load makes a pass for every tag, so a load with the tags `a ++ b` should come to the same as a
load with the tags `a` and then, if that succeeds, a load with the tags `b`.  There is more to it
than that the passes are a loop over the tags:

* every load has a registry of its own that is merged into what the loader has loaded, so one merge
  has to do the work of two;
* a load without tags makes a pass without a tag, and it alone fails when nothing is found, so
  neither part of the tags may be empty;
* the passes of a load stop at a failure, and not all failures of a pass are failures of the load.

`passes_append` takes the loop apart, `collect_withTags_append` the passes of a load, and
`BrokerLoader.load_append_tags` the load with everything that can be seen of it: the loader it
leaves, its result, its requests and the state of the machine that answers them.
-/

set_option autoImplicit false

namespace Pacts

open Session (done bind_done bind_assoc_eq)

/-- The settings with other tags. -/
def BrokerSettings.withTags (s : BrokerSettings) (tags : List String) : BrokerSettings :=
  { s with tags }

/-- The loader with other tags. -/
def BrokerLoader.withTags (l : BrokerLoader) (tags : List String) : BrokerLoader :=
  { l with settings := l.settings.withTags tags }

namespace Progress

/-- Goes on with another progress, unless something went wrong. -/
def andThen (p : Progress) (next : Session Progress) : Session Progress :=
  match p.failure with
  | none => next >>= fun q => done (q.after p.downloads)
  | some _ => done p

theorem after_after (p : Progress) (a b : List (String × Pact)) :
    (p.after b).after a = p.after (a ++ b) := by
  simp [after]

theorem andThen_after (p : Progress) (downloads : List (String × Pact)) (next : Session Progress) :
    (p.after downloads).andThen next =
      p.andThen next >>= fun q => done (q.after downloads) := by
  rw [andThen, andThen, failure_after]
  cases p.failure with
  | none =>
    show next >>= _ = next >>= _ >>= _
    rw [bind_assoc_eq]
    congr 1
    funext q
    rw [bind_done, after_after, downloads_after]
  | some e => rfl

variable {σ : Type} {answer : σ → Request → Reply × σ}

theorem run_andThen_of_failure (p : Progress) {e : LoadError} (he : p.failure = some e)
    (next : Session Progress) (answer : σ → Request → Reply × σ) (start : σ) :
    (p.andThen next).run answer start = (p, [], start) := by
  rw [andThen, he]
  rfl

theorem run_andThen (p : Progress) (hn : p.failure = none) {next : Session Progress}
    {start last : σ} {q : Progress} {asked : List Request}
    (hq : next.run answer start = (q, asked, last)) :
    (p.andThen next).run answer start = (q.after p.downloads, asked, last) := by
  rw [andThen, hn, ← List.append_nil asked]
  exact Session.run_bind_of hq rfl

end Progress

namespace BrokerSettings

variable (s : BrokerSettings) (lookup : Lookup) (provider : String)

/-! ## The loop over the tags -/

theorem passes_append (a b : List (Option String)) :
    s.passes lookup provider (a ++ b) =
      s.passes lookup provider a >>= fun p => p.andThen (s.passes lookup provider b) := by
  induction a with
  | nil => exact (Session.bind_pure_eq _).symm
  | cons tag tags ih =>
    rw [List.cons_append, passes, passes, bind_assoc_eq]
    congr 1
    funext first
    have honward : (s.passes lookup provider (tags ++ b) >>= fun q =>
          done (q.after first.downloads)) =
        (s.passes lookup provider tags >>= fun q => done (q.after first.downloads)) >>= fun p =>
          p.andThen (s.passes lookup provider b) := by
      rw [ih, bind_assoc_eq, bind_assoc_eq]
      congr 1
      funext p
      rw [bind_done, Progress.andThen_after]
    cases hf : first.failure with
    | none => exact honward
    | some e =>
      by_cases ht : s.tolerates e = true
      · simp only [if_pos ht]
        exact honward
      · simp only [if_neg ht]
        rw [Session.pure_eq, bind_done, Progress.andThen, hf]

/-! ## What the tags of the settings are for -/

theorem passTags_withTags_append {a b : List String} (ha : a ≠ []) (hb : b ≠ []) :
    (s.withTags (a ++ b)).passTags lookup =
      (s.withTags a).passTags lookup ++ (s.withTags b).passTags lookup := by
  simp [passTags, withTags, ha, hb]

theorem client_withTags (tags : List String) :
    (s.withTags tags).client lookup = s.client lookup := rfl

/-- A pass is made for its tag, whatever other tags there are. -/
theorem pass_withTags (tags : List String) (tag : Option String) :
    (s.withTags tags).pass lookup provider tag = s.pass lookup provider tag := by
  rw [pass, pass, client_withTags]
  cases s.client lookup with
  | error e => rfl
  | ok client => rfl

/-- Whether a failure is tolerated depends on whether there are tags at all. -/
theorem tolerates_withTags {a b : List String} (ha : a ≠ []) (hb : b ≠ []) (e : LoadError) :
    (s.withTags a).tolerates e = (s.withTags b).tolerates e := by
  have hempty : a.isEmpty = b.isEmpty := by
    rw [List.isEmpty_eq_false_iff.2 ha, List.isEmpty_eq_false_iff.2 hb]
  cases e with
  | noPactsFound => exact congrArg (!·) hempty
  | _ => rfl

/-- Passes for given tags depend on whether the settings have tags, and not on which. -/
theorem passes_withTags {a b : List String} (ha : a ≠ []) (hb : b ≠ [])
    (tags : List (Option String)) :
    (s.withTags a).passes lookup provider tags = (s.withTags b).passes lookup provider tags := by
  induction tags with
  | nil => rfl
  | cons tag tags ih =>
    rw [passes, passes, ih, pass_withTags, pass_withTags]
    simp only [s.tolerates_withTags ha hb]

theorem collect_withTags_append {a b : List String} (ha : a ≠ []) (hb : b ≠ []) :
    (s.withTags (a ++ b)).collect lookup provider =
      (s.withTags a).collect lookup provider >>= fun p =>
        p.andThen ((s.withTags b).collect lookup provider) := by
  have hab : a ++ b ≠ [] := List.append_ne_nil_of_left_ne_nil ha b
  rw [collect, collect, collect, s.passTags_withTags_append lookup ha hb, passes_append,
    s.passes_withTags lookup provider hab ha, s.passes_withTags lookup provider hab hb]

variable {s lookup provider} {σ : Type} {answer : σ → Request → Reply × σ} {start middle last : σ}
  {p q : Progress} {asked asked' : List Request}

/-- Passes that fail are followed by nothing. -/
theorem run_collect_append_of_failure {a b : List String} (ha : a ≠ []) (hb : b ≠ [])
    (hp : ((s.withTags a).collect lookup provider).run answer start = (p, asked, middle))
    {e : LoadError} (he : p.failure = some e) :
    ((s.withTags (a ++ b)).collect lookup provider).run answer start = (p, asked, middle) := by
  rw [s.collect_withTags_append lookup provider ha hb,
    Session.run_bind_of hp (p.run_andThen_of_failure he _ answer middle), List.append_nil]

/-- Passes that do not fail are followed by the others. -/
theorem run_collect_append {a b : List String} (ha : a ≠ []) (hb : b ≠ [])
    (hp : ((s.withTags a).collect lookup provider).run answer start = (p, asked, middle))
    (hn : p.failure = none)
    (hq : ((s.withTags b).collect lookup provider).run answer middle = (q, asked', last)) :
    ((s.withTags (a ++ b)).collect lookup provider).run answer start =
      (q.after p.downloads, asked ++ asked', last) := by
  rw [s.collect_withTags_append lookup provider ha hb]
  exact Session.run_bind_of hp (p.run_andThen hn hq)

end BrokerSettings

/-! ## Loads -/

theorem Progress.result_after (p : Progress) (downloads : List (String × Pact)) :
    (p.after downloads).result = p.result.map (downloads.map (·.2) ++ ·) := by
  rw [result, result, failure_after]
  cases p.failure with
  | none => simp [pacts, Except.map]
  | some e => rfl

namespace BrokerLoader

variable {l : BrokerLoader} {named : Lookup} {provider : String} {σ : Type}
  {answer : σ → Request → Reply × σ} {start last : σ} {p : Progress} {asked : List Request}

theorem keep_keep (l : BrokerLoader) (a b : List (String × Pact)) :
    (l.keep a).keep b = l.keep (a ++ b) := by
  rw [keep, keep, keep, Registry.recordAll_append]

/-- A load keeps and returns what its passes achieve. -/
theorem run_load_withTags {tags : List String}
    (h : ((l.settings.withTags tags).collect (l.lookup named) provider).run answer start =
      (p, asked, last)) :
    ((l.withTags tags).load named provider).run answer start =
      (((l.keep p.downloads).withTags tags, p.result), asked, last) := by
  have hload : (l.withTags tags).load named provider =
      (l.settings.withTags tags).collect (l.lookup named) provider >>= fun p =>
        done ((l.keep p.downloads).withTags tags, p.result) :=
    (l.withTags tags).load_eq named provider
  rw [hload, ← List.append_nil asked]
  exact Session.run_bind_of h rfl

/-- **Tags can be loaded one list after the other.**  A load with the tags `a ++ b` is a load with
the tags `a` that, unless it fails, is followed by a load with the tags `b` by the loader that the
first one left and with the machine in the state that it left.  When the first load fails, there is
nothing more to it: the error, the registry and the requests are those of the first load.
Otherwise the requests are those of both, the registry is the one that the second load leaves, and
the result is the error of the second load or the pacts of both. -/
theorem load_append_tags (answer : σ → Request → Reply × σ) (start : σ) (l : BrokerLoader)
    (named : Lookup) (provider : String) {a b : List String} (ha : a ≠ []) (hb : b ≠ []) :
    let whole := ((l.withTags (a ++ b)).load named provider).run answer start
    let first := ((l.withTags a).load named provider).run answer start
    let second := ((first.1.1.withTags b).load named provider).run answer first.2.2
    (∀ e, first.1.2 = .error e →
      whole = ((first.1.1.withTags (a ++ b), .error e), first.2.1, first.2.2)) ∧
    (∀ pacts, first.1.2 = .ok pacts →
      whole = ((second.1.1.withTags (a ++ b), second.1.2.map (pacts ++ ·)),
        first.2.1 ++ second.2.1, second.2.2)) := by
  intro whole first second
  obtain ⟨⟨p, asked, middle⟩, hp⟩ :
      ∃ r, ((l.settings.withTags a).collect (l.lookup named) provider).run answer start = r :=
    ⟨_, rfl⟩
  have hfirst : first = (((l.keep p.downloads).withTags a, p.result), asked, middle) :=
    run_load_withTags hp
  obtain ⟨⟨q, asked', last⟩, hq⟩ :
      ∃ r, ((l.settings.withTags b).collect (l.lookup named) provider).run answer middle = r :=
    ⟨_, rfl⟩
  have hsecond : second =
      ((((l.keep p.downloads).keep q.downloads).withTags b, q.result), asked', last) := by
    show ((first.1.1.withTags b).load named provider).run answer first.2.2 = _
    rw [hfirst]
    exact run_load_withTags (l := l.keep p.downloads) hq
  cases hf : p.failure with
  | none =>
    have hr : p.result = .ok p.pacts := by rw [Progress.result, hf]
    have hwhole : whole = (((l.keep (p.downloads ++ q.downloads)).withTags (a ++ b),
        (q.after p.downloads).result), asked ++ asked', last) :=
      run_load_withTags (BrokerSettings.run_collect_append ha hb hp hf hq)
    rw [hfirst, hsecond, hwhole]
    refine ⟨?_, ?_⟩
    · intro e he
      rw [hr] at he
      cases he
    · intro pacts hpacts
      rw [hr] at hpacts
      cases hpacts
      rw [keep_keep, Progress.result_after]
      rfl
  | some e =>
    have hr : p.result = .error e := by rw [Progress.result, hf]
    have hwhole : whole = (((l.keep p.downloads).withTags (a ++ b), p.result), asked, middle) :=
      run_load_withTags (BrokerSettings.run_collect_append_of_failure ha hb hp hf)
    rw [hfirst, hwhole]
    refine ⟨?_, ?_⟩
    · intro e' he
      rw [← he]
      rfl
    · intro pacts hpacts
      rw [hr] at hpacts
      cases hpacts

/-! ### A broker with pacts for two tags -/

namespace TwoTags

/-- A broker with a pact of the consumer `web` for the tag `v1` and another one for the tag `v2`. -/
def broker : Request → Reply :=
  Session.publishing (Pacts.Sample.documents ++
    [("http://broker/v2", .obj [("_links", .obj [(Client.pactsRel,
        .arr [.obj [("name", .str "web"), ("href", .str "web-2.json")]])])]),
      ("http://broker/web-2.json", .obj [("consumer", .obj [("name", .str "web")]),
        ("provider", .obj [("name", .str "store")])])])

/-- A load with given tags from the broker. -/
def tagged (l : BrokerLoader) (tags : List String) :
    (BrokerLoader × Except LoadError (List Pact)) × List Request × Unit :=
  ((l.withTags tags).load .empty "store").run (Session.steady broker) ()

/-- Lets a load be known by its name: to compare two loads by computing them takes too long. -/
theorem tagged_eq (l : BrokerLoader) (tags : List String) :
    ((l.withTags tags).load .empty "store").run (Session.steady broker) () = tagged l tags := by
  rw [tagged]

end TwoTags

/-- A load with both tags brings the pacts, makes the requests and leaves the registry of the loads
with one tag each. -/
theorem load_append_tags_sample :
    let whole := TwoTags.tagged Pacts.Sample.loader ["v1", "v2"]
    let first := TwoTags.tagged Pacts.Sample.loader ["v1"]
    let second := TwoTags.tagged first.1.1 ["v2"]
    ["v1"] ≠ [] ∧ ["v2"] ≠ [] ∧
      ∃ pacts pacts', first.1.2 = .ok pacts ∧ second.1.2 = .ok pacts' ∧
        pacts.map (·.source) = ["http://broker/web.json"] ∧
        pacts'.map (·.source) = ["http://broker/web-2.json"] ∧
        whole.1.2 = .ok (pacts ++ pacts') ∧ whole.2.1 = first.2.1 ++ second.2.1 ∧
        whole.1.1.loaded = second.1.1.loaded ∧ whole.1.1.loaded.pactCount = 2 := by
  have hfirst : (TwoTags.tagged Pacts.Sample.loader ["v1"]).1.2.toOption.map (·.map (·.source)) =
      some ["http://broker/web.json"] := by decide +kernel
  have hsecond : (TwoTags.tagged (TwoTags.tagged Pacts.Sample.loader ["v1"]).1.1
      ["v2"]).1.2.toOption.map (·.map (·.source)) = some ["http://broker/web-2.json"] := by
    decide +kernel
  have hcount : (TwoTags.tagged (TwoTags.tagged Pacts.Sample.loader ["v1"]).1.1
      ["v2"]).1.1.loaded.pactCount = 2 := by decide +kernel
  have hstate : (TwoTags.tagged Pacts.Sample.loader ["v1"]).2.2 = () := Subsingleton.elim _ _
  have hload := load_append_tags (Session.steady TwoTags.broker) () Pacts.Sample.loader .empty
    "store" (List.cons_ne_nil "v1" []) (List.cons_ne_nil "v2" [])
  simp only [List.singleton_append, TwoTags.tagged_eq, hstate] at hload
  -- from here on the loads are known by what was found about them
  dsimp only
  generalize TwoTags.tagged Pacts.Sample.loader ["v1"] = first at *
  generalize TwoTags.tagged first.1.1 ["v2"] = second at *
  generalize TwoTags.tagged Pacts.Sample.loader ["v1", "v2"] = whole at *
  refine ⟨List.cons_ne_nil _ _, List.cons_ne_nil _ _, ?_⟩
  cases hr : first.1.2 with
  | error e => simp [hr, Except.toOption] at hfirst
  | ok pacts =>
    cases hr' : second.1.2 with
    | error e => simp [hr', Except.toOption] at hsecond
    | ok pacts' =>
      obtain rfl := hload.2 pacts hr
      refine ⟨pacts, pacts', rfl, rfl, ?_, ?_, ?_, rfl, rfl, hcount⟩
      · simpa [hr, Except.toOption] using hfirst
      · simpa [hr', Except.toOption] using hsecond
      · rw [hr']
        rfl

end BrokerLoader

end Pacts
