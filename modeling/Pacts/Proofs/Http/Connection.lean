import Pacts.Http.Message
import Pacts.Proofs.Broker.Conversation
import Pacts.Proofs.Http.Verdict

/-!
# The machine and the connection

What is proved about requests over HTTP is proved about a machine, `exchange`.  What is run is
`replyIn`, an action that sends a message and waits for another.  This file shows that the two
agree: a session that is run by the action leads to the same result as against the machine, and the
same questions are sent in the same order.

* `Session.runIn_eq_run` — an action with a state runs a session as a machine does.
* `replyIn_recording` and `runIn_replyIn` — the action over a conversation that brings the messages
  of a server is the machine for that server.
* `blameless_exchange` — over HTTP nobody says that the settings are at fault.
-/

set_option autoImplicit false

namespace Pacts

variable {α σ : Type}

/-- An action with a state is a machine. -/
theorem Session.runIn_eq_run (answer : σ → Request → Reply × σ) (s : Session α) (state : σ) :
    (s.runIn (m := StateM σ) fun r state => answer state r).run state =
      ((s.run answer state).1, (s.run answer state).2.2) := by
  induction s generalizing state with
  | done a => rfl
  | ask r next ih => exact ih _ _

namespace Http

variable {timeout : Option Nat} {messages : Question → List UInt8} {server : Question → Answer}

/-- A conversation that writes down every question and brings the message for it. -/
def recording (messages : Question → List UInt8) (q : Question) :
    StateM (List Question) (Except String (List UInt8)) :=
  fun asked => (.ok (messages q), asked ++ [q])

/-- A single request is answered by the action as by the machine. -/
theorem replyIn_recording (h : ∀ q, Answer.ofMessage (messages q) = .ok (server q)) (r : Request)
    (asked : List Question) :
    replyIn (recording messages) timeout r asked = exchange timeout server asked r := by
  rw [replyIn, exchange]
  cases Question.ofRequest timeout r with
  | error problem => rfl
  | ok q =>
    show (replyOf (.ok (messages q)), asked ++ [q]) = _
    rw [replyOf, h q]

/-- **The action does what the machine does.**  Whatever session is run, when every message that
comes back is that of an answer of the server, the result is the same, and so are the questions that
were sent. -/
theorem runIn_replyIn (h : ∀ q, Answer.ofMessage (messages q) = .ok (server q)) (s : Session α)
    (asked : List Question) :
    (s.runIn (replyIn (recording messages) timeout)).run asked =
      ((s.run (exchange timeout server) asked).1, (s.run (exchange timeout server) asked).2.2) := by
  have haction : replyIn (recording messages) timeout =
      fun r asked => exchange timeout server asked r := by
    funext r asked
    exact replyIn_recording h r asked
  rw [haction]
  exact Session.runIn_eq_run (exchange timeout server) s asked

example : Answer.ofMessage ("HTTP/1.1 404 -\r\n\r\n".toList.map fun c => UInt8.ofNat c.toNat) =
    .ok ⟨404, none, ⟨#[]⟩⟩ := by cbv

/-- Whatever a server answers, it does not say that the settings are at fault. -/
theorem blameless_exchange (timeout : Option Nat) (server : Question → Answer) :
    Session.Blameless (exchange timeout server) := by
  intro asked r e h
  rw [exchange] at h
  split at h
  · cases h
  · exact absurd h (Answer.reply_ne_failed _ e)

end Http

end Pacts
