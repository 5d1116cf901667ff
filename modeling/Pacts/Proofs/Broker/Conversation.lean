import Pacts.Broker.Session

/-!
# What is said in a session

`Session.run` says what comes out of a session and what was asked for, but not what was answered.
The statements about a load are about both, so this file brings in the *talk*: the requests with
their replies.

* `Ends s talk a` says that the session `s`, when it is answered as in `talk`, ends with `a`.  It
  knows nothing of the machine that answers, so a statement about every talk with `Ends` is one
  about every machine, whatever its answers depend on.
* `talk` reads the talk off a run, and `ends_talk` says that it belongs to the result of the run.
* `ends_bind_iff` takes a session apart: every statement about a whole load goes through it.
* `result` and `requests` are what a run comes to against a broker that always gives the same
  answer to the same request.
-/

set_option autoImplicit false

namespace Pacts

theorem Reply.toExcept_eq_ok_iff {reply : Reply} {url : String} {doc : Json} :
    reply.toExcept url = .ok doc ↔ reply = .document doc := by
  cases reply <;> simp [Reply.toExcept]

namespace Session

variable {α β σ : Type}

/-- Requests with their replies, in order. -/
abbrev Talk := List (Request × Reply)

/-- Answered as in `talk`, the session ends with the result. -/
inductive Ends : Session α → Talk → α → Prop
  | done (a : α) : Ends (done a) [] a
  | ask {r : Request} {next : Reply → Session α} {reply : Reply} {talk : Talk} {a : α}
      (h : Ends (next reply) talk a) : Ends (ask r next) ((r, reply) :: talk) a

/-! ## Taking a session apart -/

@[simp]
theorem ends_done_iff {a b : α} {talk : Talk} : Ends (done a) talk b ↔ talk = [] ∧ b = a := by
  constructor
  · rintro ⟨⟩
    exact ⟨rfl, rfl⟩
  · rintro ⟨rfl, rfl⟩
    exact .done b

theorem ends_ask_iff {r : Request} {next : Reply → Session α} {talk : Talk} {a : α} :
    Ends (ask r next) talk a ↔
      ∃ reply rest, Ends (next reply) rest a ∧ talk = (r, reply) :: rest := by
  constructor
  · rintro (_ | h)
    exact ⟨_, _, h, rfl⟩
  · rintro ⟨reply, rest, h, rfl⟩
    exact .ask h

/-- The talk of two sessions in a row is the talk of the one in front of the talk of the other. -/
theorem ends_bind_iff {s : Session α} {f : α → Session β} {talk : Talk} {b : β} :
    Ends (s >>= f) talk b ↔
      ∃ first a second, Ends s first a ∧ Ends (f a) second b ∧ talk = first ++ second := by
  induction s generalizing talk with
  | done a =>
    rw [bind_done]
    constructor
    · intro h
      exact ⟨[], a, talk, .done a, h, rfl⟩
    · rintro ⟨first, a', second, h₁, h₂, rfl⟩
      obtain ⟨rfl, rfl⟩ := ends_done_iff.1 h₁
      exact h₂
  | ask r next ih =>
    rw [bind_ask, ends_ask_iff]
    constructor
    · rintro ⟨reply, rest, h, rfl⟩
      obtain ⟨first, a, second, h₁, h₂, rfl⟩ := (ih reply).1 h
      exact ⟨(r, reply) :: first, a, second, .ask h₁, h₂, rfl⟩
    · rintro ⟨first, a, second, h₁, h₂, rfl⟩
      obtain ⟨reply, rest, h, rfl⟩ := ends_ask_iff.1 h₁
      exact ⟨reply, rest ++ second, (ih reply).2 ⟨rest, a, second, h, h₂, rfl⟩, rfl⟩

/-- What is done with the result of a session adds nothing to its talk. -/
theorem ends_bind_done_iff {s : Session α} {f : α → β} {talk : Talk} {b : β} :
    Ends (s >>= fun a => done (f a)) talk b ↔ ∃ a, Ends s talk a ∧ b = f a := by
  rw [ends_bind_iff]
  constructor
  · rintro ⟨first, a, second, h₁, h₂, rfl⟩
    obtain ⟨rfl, rfl⟩ := ends_done_iff.1 h₂
    exact ⟨a, by simpa using h₁, rfl⟩
  · rintro ⟨a, h, rfl⟩
    exact ⟨talk, a, [], h, .done _, by simp⟩

/-- A single request is answered by a single reply. -/
theorem ends_request_iff {r : Request} {talk : Talk} {answer : Except BrokerError Json} :
    Ends (request r) talk answer ↔
      ∃ reply, talk = [(r, reply)] ∧ answer = reply.toExcept r.url.text := by
  rw [request, ends_ask_iff]
  constructor
  · rintro ⟨reply, rest, h, rfl⟩
    obtain ⟨rfl, rfl⟩ := ends_done_iff.1 h
    exact ⟨reply, rfl, rfl⟩
  · rintro ⟨reply, rfl, rfl⟩
    exact ⟨reply, [], .done _, rfl⟩

/-! ## The talk of a run -/

/-- What is said while a session runs against a machine. -/
def talk (answer : σ → Request → Reply × σ) : Session α → σ → Talk
  | done _, _ => []
  | ask r next, state =>
    (r, (answer state r).1) :: talk answer (next (answer state r).1) (answer state r).2

/-- The talk of a run leads to the result of the run. -/
theorem ends_talk (answer : σ → Request → Reply × σ) (s : Session α) (state : σ) :
    Ends s (s.talk answer state) (s.run answer state).1 := by
  induction s generalizing state with
  | done a => exact .done a
  | ask r next ih => exact .ask (ih _ _)

/-- What is said against a machine is said by the machine. -/
theorem exists_answer_of_mem_talk {answer : σ → Request → Reply × σ} {s : Session α} {state : σ}
    {x : Request × Reply} (hx : x ∈ s.talk answer state) :
    ∃ state', (answer state' x.1).1 = x.2 := by
  induction s generalizing state with
  | done a => cases hx
  | ask r next ih =>
    rcases List.mem_cons.1 hx with rfl | hx
    · exact ⟨state, rfl⟩
    · exact ih _ hx

/-- The machine has failures of its own, but none that blames the settings. -/
def Blameless (answer : σ → Request → Reply × σ) : Prop :=
  ∀ state r e, (answer state r).1 = .failed e → e.isConfiguration = false

/-- Nothing that is said against such a machine blames the settings. -/
theorem Blameless.isConfiguration_of_mem_talk {answer : σ → Request → Reply × σ}
    (h : Blameless answer) {s : Session α} {state : σ} {r : Request} {e : BrokerError}
    (hr : (r, Reply.failed e) ∈ s.talk answer state) : e.isConfiguration = false := by
  obtain ⟨state', hs⟩ := exists_answer_of_mem_talk hr
  exact h state' r e hs

/-- The requests of a run are those of its talk. -/
theorem requests_eq_map_talk (answer : σ → Request → Reply × σ) (s : Session α) (state : σ) :
    (s.run answer state).2.1 = (s.talk answer state).map (·.1) := by
  induction s generalizing state with
  | done a => rfl
  | ask r next ih => simp [run, talk, ih]

/-- A run of two sessions in a row, from the runs of both. -/
theorem run_bind_of {answer : σ → Request → Reply × σ} {s : Session α} {f : α → Session β}
    {start middle last : σ} {a : α} {b : β} {first second : List Request}
    (hs : s.run answer start = (a, first, middle))
    (hf : (f a).run answer middle = (b, second, last)) :
    (s >>= f).run answer start = (b, first ++ second, last) := by
  rw [run_bind, hs]
  show (_, first ++ _, _) = _
  rw [hf]

/-! ## Brokers that do not change -/

section Steady

variable (world : Request → Reply)

/-- The machine that always gives the same answer to the same request. -/
def steady (_ : Unit) (r : Request) : Reply × Unit := (world r, ())

/-- What comes out of a session with a broker that does not change. -/
def result (s : Session α) : α := (s.run (steady world) ()).1

/-- What a session asks a broker that does not change for. -/
def requests (s : Session α) : List Request := (s.run (steady world) ()).2.1

@[simp]
theorem result_done (a : α) : (done a).result world = a := rfl

@[simp]
theorem requests_done (a : α) : (done a).requests world = [] := rfl

@[simp]
theorem result_request (r : Request) :
    (request r).result world = (world r).toExcept r.url.text := rfl

@[simp]
theorem requests_request (r : Request) : (request r).requests world = [r] := rfl

@[simp]
theorem result_bind (s : Session α) (f : α → Session β) :
    (s >>= f).result world = (f (s.result world)).result world := by
  simp [result, run_bind]

@[simp]
theorem requests_bind (s : Session α) (f : α → Session β) :
    (s >>= f).requests world = s.requests world ++ (f (s.result world)).requests world := by
  simp [result, requests, run_bind]

end Steady

/-- A broker that gives out documents by their URLs, whoever is asking. -/
def publishing (documents : List (String × Json)) (r : Request) : Reply :=
  match documents.lookup r.url.text with
  | some doc => .document doc
  | none => .missing

theorem blameless_publishing (documents : List (String × Json)) :
    Blameless (steady (publishing documents)) := by
  intro _ r e h
  simp only [steady, publishing] at h
  split at h <;> cases h

theorem mem_of_publishing {documents : List (String × Json)} {r : Request} {doc : Json}
    (h : publishing documents r = .document doc) : (r.url.text, doc) ∈ documents := by
  rw [publishing] at h
  split at h
  · rename_i found hf
    cases h
    obtain ⟨front, back, rfl, -⟩ := List.lookup_eq_some_iff.1 hf
    simp
  · cases h

end Session

end Pacts
