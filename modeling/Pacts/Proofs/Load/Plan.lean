import Pacts.Load.Broker
import Pacts.Proofs.Broker.Conversation

/-!
# Plans of requests

What a session with an unchanging broker asks for can be written down beforehand as a *plan*: a list
of steps, each with what it is for, the URL it asks for and the failure it ends in, if it does.
Behind the first step that fails nothing is asked any more.

* `Plan.Step` — a step of a plan; `Plan.urls` and `Plan.failure` are what a plan asks for and how it
  fails.
* `Plan.cut` — the steps up to the first that fails, with it.
* `Session.Follows` — a session that makes the requests of a plan and fails as the plan does.
  `Follows.bind` puts two such sessions in a row: either the first one fails, and then nothing may
  be asked any more, or the other one goes on.
-/

set_option autoImplicit false

namespace Pacts

/-! ## Steps -/

namespace Plan

/-- What a step is for. -/
inductive Purpose where
  /-- Making sense of the settings, for which nothing is asked. -/
  | settings
  /-- Finding the link to the listing. -/
  | index
  | listing
  /-- Telling where no consumers were found. -/
  | diagnosis
  | pact (consumer : Consumer)
  deriving DecidableEq

/-- A step of a load. -/
structure Step where
  purpose : Purpose
  /-- The URL that is asked for. -/
  url? : Option String
  /-- Why the load does not go on after the step. -/
  failure : Option LoadError

/-- The URLs that steps ask for. -/
def urls (steps : List Step) : List String := steps.filterMap (·.url?)

/-- The failure of the first step that fails. -/
def failure (steps : List Step) : Option LoadError := steps.findSome? (·.failure)

/-- The steps up to the first that fails, with it. -/
def cut : List Step → List Step
  | [] => []
  | step :: steps => if step.failure.isSome then [step] else step :: cut steps

@[simp]
theorem failure_nil : failure [] = none := rfl

theorem failure_append (a b : List Step) : failure (a ++ b) = (failure a).or (failure b) :=
  List.findSome?_append

theorem urls_append (a b : List Step) : urls (a ++ b) = urls a ++ urls b :=
  List.filterMap_append

theorem failure_cons (step : Step) (steps : List Step) :
    failure (step :: steps) = step.failure.or (failure steps) := by
  rw [failure, List.findSome?_cons]
  cases step.failure <;> rfl

theorem urls_cons (step : Step) (steps : List Step) :
    urls (step :: steps) = step.url?.toList ++ urls steps := by
  rw [urls, List.filterMap_cons]
  cases step.url? <;> rfl

theorem cut_cons_of_none {step : Step} (steps : List Step) (h : step.failure = none) :
    cut (step :: steps) = step :: cut steps := by
  rw [cut, h]
  rfl

theorem cut_cons_of_some {step : Step} (steps : List Step) {e : LoadError}
    (h : step.failure = some e) : cut (step :: steps) = [step] := by
  rw [cut, h]
  rfl

@[simp]
theorem cut_singleton (step : Step) : cut [step] = [step] := by
  rw [cut]
  split <;> rfl

/-- Steps of which none fails stay in front of whatever follows them. -/
theorem cut_append_of_none {a : List Step} (b : List Step) (h : failure a = none) :
    cut (a ++ b) = a ++ cut b := by
  induction a with
  | nil => rfl
  | cons step steps ih =>
    rw [failure_cons, Option.or_eq_none_iff] at h
    rw [List.cons_append, cut_cons_of_none _ h.1, ih h.2, List.cons_append]

/-- Nothing is cut off when no step fails. -/
theorem cut_eq_self {steps : List Step} (h : failure steps = none) : cut steps = steps := by
  simpa [cut] using cut_append_of_none [] h

/-- Steps behind one that fails are cut off. -/
theorem cut_append_of_some {a : List Step} (b : List Step) {e : LoadError}
    (h : failure a = some e) : cut (a ++ b) = cut a := by
  induction a with
  | nil => simp at h
  | cons step steps ih =>
    rw [List.cons_append]
    cases hf : step.failure with
    | none =>
      rw [failure_cons, hf, Option.none_or] at h
      rw [cut_cons_of_none _ hf, cut_cons_of_none _ hf, ih h]
    | some e' => rw [cut_cons_of_some _ hf, cut_cons_of_some _ hf]

/-- A plan that fails is cut behind the first step that fails. -/
theorem cut_of_failure {steps : List Step} {e : LoadError} (h : failure steps = some e) :
    ∃ front step back, steps = front ++ step :: back ∧ cut steps = front ++ [step] ∧
      (∀ s ∈ front, s.failure = none) ∧ step.failure = some e := by
  obtain ⟨front, step, back, rfl, hstep, hfront⟩ := List.findSome?_eq_some_iff.1 h
  refine ⟨front, step, back, rfl, ?_, hfront, hstep⟩
  rw [cut_append_of_none _ (List.findSome?_eq_none_iff.2 hfront), cut_cons_of_some _ hstep]

end Plan

open Plan (Step urls urls_cons urls_append cut cut_singleton cut_append_of_none cut_append_of_some
  failure_nil failure_cons failure_append)

/-! ## Sessions that follow a plan -/

/-- A session that asks for what the steps ask for, up to the first that fails, and whose result has
the failure of that step. -/
structure Session.Follows {α : Type} (world : Request → Reply) (s : Session α)
    (failureOf : α → Option LoadError) (steps : List Step) : Prop where
  asked : (s.requests world).map (·.url.text) = urls (cut steps)
  failed : failureOf (s.result world) = Plan.failure steps

namespace Session.Follows

variable {α β : Type} {world : Request → Reply}

theorem nothing (a : α) {failureOf : α → Option LoadError} (h : failureOf a = none) :
    Follows world (done a) failureOf [] :=
  ⟨rfl, h⟩

/-- A session that fails before it asks for anything. -/
theorem stuck {a : α} {failureOf : α → Option LoadError} {step : Step} (h : step.url? = none)
    (hf : failureOf a = step.failure) : Follows world (done a) failureOf [step] := by
  constructor
  · rw [requests_done, cut_singleton, urls_cons, h]
    rfl
  · rw [result_done, hf, failure_cons, failure_nil, Option.or_none]

/-- A session in front of another: either it fails, and then nothing is asked any more, or the
other one goes on. -/
theorem bind {s : Session α} {f : α → Session β} {failureOf : α → Option LoadError}
    {failureOf' : β → Option LoadError} {a b : List Step} (first : Follows world s failureOf a)
    (stop : ∀ e, failureOf (s.result world) = some e →
      ∃ r, f (s.result world) = done r ∧ failureOf' r = some e)
    (go : failureOf (s.result world) = none → Follows world (f (s.result world)) failureOf' b) :
    Follows world (s >>= f) failureOf' (a ++ b) := by
  cases hf : failureOf (s.result world) with
  | none =>
    have ha : Plan.failure a = none := first.failed ▸ hf
    obtain ⟨hasked, hfailed⟩ := go hf
    constructor
    · rw [requests_bind, List.map_append, first.asked, hasked, Plan.cut_eq_self ha,
        cut_append_of_none b ha, urls_append]
    · rw [result_bind, hfailed, failure_append, ha, Option.none_or]
  | some e =>
    have ha : Plan.failure a = some e := first.failed ▸ hf
    obtain ⟨r, hr, he⟩ := stop e hf
    constructor
    · rw [requests_bind, hr, requests_done, List.append_nil, first.asked,
        cut_append_of_some b ha]
    · rw [result_bind, hr, result_done, he, failure_append, ha, Option.some_or]

/-- What is done with the result of a session asks for nothing. -/
theorem map {s : Session α} {f : α → β} {failureOf : α → Option LoadError}
    {failureOf' : β → Option LoadError} {steps : List Step} (h : Follows world s failureOf steps)
    (hf : ∀ a, failureOf' (f a) = failureOf a) :
    Follows world (s >>= fun a => done (f a)) failureOf' steps := by
  constructor
  · rw [requests_bind, requests_done, List.append_nil, h.asked]
  · rw [result_bind, result_done, hf, h.failed]

end Session.Follows

end Pacts
