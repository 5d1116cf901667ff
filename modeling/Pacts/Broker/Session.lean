import Pacts.Broker.Error

/-!
# Conversations with a broker

A session is a computation that may ask a broker for documents before it is done.  It does not say
how the answers come about: `Session.run` lets a machine answer whose state may change with every
request, and `Session.runIn` lets any monad answer.  `run` also returns the requests in the order in
which they were made.
-/

set_option autoImplicit false

namespace Pacts

/-- What is asked of a broker: the document at a URL. -/
structure Request where
  url : Url
  /-- What the broker is told about who is asking. -/
  authorization : Option String
  deriving DecidableEq, Repr

/-- What comes back. -/
inductive Reply where
  | document (value : Json)
  /-- There is nothing at the URL. -/
  | missing
  | refused (status : Nat)
  | unreachable (problem : String)
  | unusable (reason : String)
  /-- Any other failure. -/
  | failed (error : BrokerError)
  deriving DecidableEq

/-- The document of a reply, or why there is none. -/
def Reply.toExcept (url : String) : Reply → Except BrokerError Json
  | .document value => .ok value
  | .missing => .error (.notFound url)
  | .refused status => .error (.requestFailed url status)
  | .unreachable problem => .error (.transport url problem)
  | .unusable reason => .error (.invalidHal url reason)
  | .failed error => .error error

/-- A computation that asks a broker for documents. -/
inductive Session (α : Type) where
  | done (result : α)
  | ask (request : Request) (next : Reply → Session α)

namespace Session

variable {α β γ σ : Type}

/-- Goes on with the result of a session. -/
def bind : Session α → (α → Session β) → Session β
  | done a, f => f a
  | ask request next, f => ask request fun reply => (next reply).bind f

instance : Monad Session where
  pure := done
  bind := bind

@[simp]
theorem pure_eq (a : α) : (pure a : Session α) = done a := rfl

@[simp]
theorem bind_done (a : α) (f : α → Session β) : (done a >>= f) = f a := rfl

@[simp]
theorem bind_ask (request : Request) (next : Reply → Session α) (f : α → Session β) :
    (ask request next >>= f) = ask request fun reply => next reply >>= f := rfl

theorem bind_pure_eq (s : Session α) : (s >>= fun a => done a) = s := by
  induction s with
  | done a => rfl
  | ask request next ih => rw [bind_ask]; congr 1; funext reply; exact ih reply

theorem bind_assoc_eq (s : Session α) (f : α → Session β) (g : β → Session γ) :
    s >>= f >>= g = s >>= fun a => f a >>= g := by
  induction s with
  | done a => rfl
  | ask request next ih => simp only [bind_ask]; congr 1; funext reply; exact ih reply

instance : LawfulMonad Session :=
  LawfulMonad.mk' Session (fun s => bind_pure_eq s) (fun _ _ => rfl)
    (fun s f g => bind_assoc_eq s f g)

/-- Asks for the document at a URL. -/
def request (r : Request) : Session (Except BrokerError Json) :=
  ask r fun reply => done (reply.toExcept r.url.text)

/-- Runs a session against a machine.  The result comes with the requests that were made and the
state that the machine was left in. -/
def run (answer : σ → Request → Reply × σ) : Session α → σ → α × List Request × σ
  | done a, state => (a, [], state)
  | ask r next, state =>
    let (reply, state) := answer state r
    let (a, requests, state) := run answer (next reply) state
    (a, r :: requests, state)

/-- Runs a session where every request is answered by an action. -/
def runIn {m : Type → Type} [Monad m] (answer : Request → m Reply) : Session α → m α
  | done a => pure a
  | ask r next => do
    let reply ← answer r
    runIn answer (next reply)

@[simp]
theorem run_done (answer : σ → Request → Reply × σ) (a : α) (state : σ) :
    run answer (done a) state = (a, [], state) := rfl

theorem run_bind (answer : σ → Request → Reply × σ) (s : Session α) (f : α → Session β)
    (state : σ) :
    run answer (s >>= f) state =
      (let first := run answer s state
       let second := run answer (f first.1) first.2.2
       (second.1, first.2.1 ++ second.2.1, second.2.2)) := by
  induction s generalizing state with
  | done a => simp
  | ask r next ih => simp [run, ih]

end Session

end Pacts
