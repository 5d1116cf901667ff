import Pacts.Load.Broker
import Pacts.Proofs.Broker.Endpoints
import Pacts.Proofs.Text.Fields

/-!
# The broker in words

A loader tells in words where its broker is, and a load works out for itself where to go.  Both look
up the same settings, but only the load takes away the blanks around what it finds, and so only the
load sees that a port of blanks is no port.  The words are those of the endpoint as it is written.

* `BrokerSettings.writtenEndpoint` — the endpoint with its blanks, and `Endpoint.tidied`, without.
* `Endpoint.text_tidied_eq_iff` — that blanks are missing is seen from the text, because it is
  shorter.
* `BrokerLoader.description_eq_iff` — in which cases the words name the endpoint of a load.
* `BrokerLoader.blank_port_described` — a case in which they do not.
-/

set_option autoImplicit false

namespace Pacts

namespace Endpoint

/-- What is left of a port without the blanks around it; nothing but blanks is no port. -/
def tidiedPort : Option String → Option String
  | none => none
  | some port => if trimmed port = "" then none else some (trimmed port)

/-- An empty text is no port to begin with. -/
theorem tidiedPort_of_text (port : String) :
    tidiedPort (if port = "" then none else some port) =
      if trimmed port = "" then none else some (trimmed port) := by
  by_cases hp : port = ""
  · subst hp
    rfl
  · rw [if_neg hp, tidiedPort]

/-- The endpoint without the blanks around its parts. -/
def tidied (e : Endpoint) : Endpoint := ⟨trimmed e.scheme, trimmed e.host, tidiedPort e.port⟩

/-- A port as it stands behind the host. -/
def portText : Option String → String
  | none => ""
  | some port => ":" ++ port

theorem text_eq (e : Endpoint) : e.text = e.base ++ portText e.port := by
  rw [text]
  cases e.port with
  | none => exact String.append_empty.symm
  | some port => exact String.append_assoc

/-- A port does not get longer when its blanks are taken away, and if it does not get shorter there
were none. -/
theorem length_portText_tidiedPort (port : Option String) :
    (portText (tidiedPort port)).length ≤ (portText port).length ∧
      ((portText port).length ≤ (portText (tidiedPort port)).length → tidiedPort port = port) := by
  cases port with
  | none => exact ⟨Nat.le_refl _, fun _ => rfl⟩
  | some port =>
    have hle := length_trimmed_le port
    by_cases hp : trimmed port = ""
    · have hnone : tidiedPort (some port) = none := if_pos hp
      have hcolon : ":".length = 1 := rfl
      simp only [hnone, portText, String.length_append, String.length_empty, hcolon]
      exact ⟨Nat.zero_le _, fun h => by omega⟩
    · have hsome : tidiedPort (some port) = some (trimmed port) := if_neg hp
      simp only [hsome, portText, String.length_append]
      exact ⟨by omega, fun h => congrArg some (trimmed_eq_of_length (by omega))⟩

/-- **Whether an endpoint has blanks around its parts is seen from its text.** -/
theorem text_tidied_eq_iff {e : Endpoint} : e.tidied.text = e.text ↔ e.tidied = e := by
  refine ⟨fun h => ?_, congrArg text⟩
  obtain ⟨scheme, host, port⟩ := e
  have hlength : (tidied ⟨scheme, host, port⟩).text.length = (text ⟨scheme, host, port⟩).length :=
    congrArg String.length h
  simp only [text_eq, base, tidied, String.length_append] at hlength
  have hs := length_trimmed_le scheme
  have hh := length_trimmed_le host
  obtain ⟨hp, hport⟩ := length_portText_tidiedPort port
  -- no part has got longer, so none has got shorter
  rw [tidied, trimmed_eq_of_length (s := scheme) (by omega),
    trimmed_eq_of_length (s := host) (by omega), hport (by omega)]

end Endpoint

namespace BrokerSettings

variable {s : BrokerSettings} {lookup : Lookup}

/-- The endpoint as it is written in the settings, with whatever the lookup gives. -/
def writtenEndpoint (s : BrokerSettings) (lookup : Lookup) : Endpoint where
  scheme := expand lookup s.scheme
  host := expand lookup s.host
  port := if expand lookup s.port = "" then none else some (expand lookup s.port)

theorem description_eq (s : BrokerSettings) (lookup : Lookup) :
    s.description lookup = "Pact Broker(" ++ (s.writtenEndpoint lookup).text ++ ")" := by
  change "Pact Broker(" ++ expand lookup s.scheme ++ "://" ++ expand lookup s.host ++
    (if expand lookup s.port = "" then "" else ":" ++ expand lookup s.port) ++ ")" = _
  rw [Endpoint.text_eq, writtenEndpoint, Endpoint.base]
  dsimp only
  split <;> simp [Endpoint.portText, String.append_assoc]

/-- The endpoint of the settings is the written one without its blanks. -/
theorem tidied_writtenEndpoint {e : Endpoint}
    (h : Endpoint.ofSettings lookup s.scheme s.host s.port = .ok e) :
    (s.writtenEndpoint lookup).tidied = e := by
  obtain ⟨-, -, rfl⟩ := Endpoint.ofSettings_eq_ok_iff.1 h
  rw [writtenEndpoint, Endpoint.tidied, Endpoint.tidiedPort_of_text]

/-- The written endpoint is tidy when the settings stand for texts without blanks around them. -/
theorem tidied_writtenEndpoint_eq_iff :
    (s.writtenEndpoint lookup).tidied = s.writtenEndpoint lookup ↔
      ∀ setting ∈ [s.scheme, s.host, s.port],
        trimmed (expand lookup setting) = expand lookup setting := by
  simp only [writtenEndpoint, Endpoint.tidied, Endpoint.mk.injEq, List.forall_mem_cons,
    List.not_mem_nil, false_imp_iff, implies_true, and_true]
  refine and_congr_right fun _ => and_congr_right fun _ => ?_
  generalize expand lookup s.port = port
  by_cases hport : port = ""
  · subst hport
    exact iff_of_true rfl rfl
  · rw [if_neg hport, Endpoint.tidiedPort]
    split
    · rename_i hblank
      rw [hblank]
      exact iff_of_false nofun fun he => hport he.symm
    · exact Option.some_inj

/-- A port is written that the endpoint does not have when the setting stands for nothing but
blanks. -/
theorem port_writtenEndpoint_iff {e : Endpoint}
    (h : Endpoint.ofSettings lookup s.scheme s.host s.port = .ok e) :
    ((s.writtenEndpoint lookup).port = none ↔ e.port = none) ↔
      (trimmed (expand lookup s.port) = "" → expand lookup s.port = "") := by
  obtain ⟨-, -, rfl⟩ := Endpoint.ofSettings_eq_ok_iff.1 h
  have hempty : expand lookup s.port = "" → trimmed (expand lookup s.port) = "" := by
    intro hport
    rw [hport]
    rfl
  rw [writtenEndpoint]
  dsimp only
  generalize trimmed (expand lookup s.port) = p at hempty ⊢
  generalize expand lookup s.port = port at hempty ⊢
  simp only [ite_eq_left_iff, reduceCtorEq, imp_false, Decidable.not_not]
  exact ⟨Iff.mpr, fun hblank => ⟨hempty, hblank⟩⟩

end BrokerSettings

namespace BrokerLoader

/-- **Whether the words name the endpoint of a load.**  They name an endpoint that is the one of a
load but for blanks around its parts.  So they name that of a load itself exactly when the settings
stand for texts without blanks around them.  They name a port exactly when that of a load has one,
unless the setting of the port stands for blanks and nothing else. -/
theorem description_eq_iff (l : BrokerLoader) (named : Lookup) {e : Endpoint}
    (h : Endpoint.ofSettings (l.lookup named) l.settings.scheme l.settings.host l.settings.port =
      .ok e) :
    (l.description named = "Pact Broker(" ++ e.text ++ ")" ↔
      ∀ setting ∈ [l.settings.scheme, l.settings.host, l.settings.port],
        trimmed (expand (l.lookup named) setting) = expand (l.lookup named) setting) ∧
    ∃ written : Endpoint,
      l.description named = "Pact Broker(" ++ written.text ++ ")" ∧ written.tidied = e ∧
      ((written.port = none ↔ e.port = none) ↔
        (trimmed (expand (l.lookup named) l.settings.port) = "" →
          expand (l.lookup named) l.settings.port = "")) := by
  have hwritten : l.description named =
      "Pact Broker(" ++ (l.settings.writtenEndpoint (l.lookup named)).text ++ ")" :=
    BrokerSettings.description_eq _ _
  have htidied := BrokerSettings.tidied_writtenEndpoint h
  refine ⟨?_, _, hwritten, htidied, BrokerSettings.port_writtenEndpoint_iff h⟩
  rw [hwritten, String.append_left_inj, String.append_right_inj,
    ← BrokerSettings.tidied_writtenEndpoint_eq_iff, ← Endpoint.text_tidied_eq_iff, htidied]
  exact eq_comm

/-- A port that is looked up is named by the words. -/
theorem description_eq_iff_of_port :
    let named : Lookup := fun key => if key = "port" then some "8080" else none
    let l : BrokerLoader := .ofSettings
      { BrokerSettings.default with scheme := "https", host := "pb.local", port := "${port}" }
    let e : Endpoint := ⟨"https", "pb.local", some "8080"⟩
    Endpoint.ofSettings (l.lookup named) l.settings.scheme l.settings.host l.settings.port = .ok e ∧
      l.description named = "Pact Broker(" ++ e.text ++ ")" := by
  intro named l e
  have he : Endpoint.ofSettings (l.lookup named) l.settings.scheme l.settings.host l.settings.port =
      .ok e := by decide +kernel
  refine ⟨he, (description_eq_iff l named he).1.2 ?_⟩
  decide +kernel

/-- A port that is one blank is named by the words, but not by the endpoint. -/
theorem blank_port_described :
    let named : Lookup := fun _ => none
    let l : BrokerLoader := .ofSettings
      { BrokerSettings.default with scheme := "http", host := "pb.local", port := " " }
    let e : Endpoint := ⟨"http", "pb.local", none⟩
    Endpoint.ofSettings (l.lookup named) l.settings.scheme l.settings.host l.settings.port = .ok e ∧
      l.description named = "Pact Broker(http://pb.local: )" ∧
      l.description named ≠ "Pact Broker(" ++ e.text ++ ")" := by
  decide +kernel

end BrokerLoader

end Pacts
