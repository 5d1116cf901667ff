import Pacts.Broker.Credentials
import Pacts.Proofs.Text.Decoding
import Pacts.Proofs.Text.Fields

/-!
# What the broker is told tells who is asking

A request carries one line of text about who is asking.  A token is in it as it is.  A user and a
password are put together with a colon between them, and the bytes of that are written in groups of
four characters.  This file reads the line back.

* `Credentials.basicHeader_inj` — the user ends at the first colon, so a user without one and any
  password can be told from the line.
* `Credentials.basicHeader_ne_bearerHeader` — a token never looks like a user, whatever it is.
* `Credentials.header?_determines` — the line determines the credentials, and what stands in it for
  a user are the bytes of the user, a colon and the password.

A user with a colon is read wrongly, since a part of the name is taken for the password.  Explicit
credentials are not told either: their scheme is written in the same way as that of the others.
-/

set_option autoImplicit false

namespace Pacts

open Text (utf8 base64 fromBase64? fromBase64?_base64 base64_injective utf8_injective)

namespace Credentials

/-- Credentials of a token, or of a user without a colon. -/
inductive Recoverable : Credentials → Prop
  | basic {username : String} (plain : ':' ∉ username.toList) (password : String) :
      Recoverable (.basic username password)
  | bearer (token : String) : Recoverable (.bearer token)

variable {username password username' password' token token' : String}

theorem basicHeader_inj (h : ':' ∉ username.toList) (h' : ':' ∉ username'.toList) :
    basicHeader username password = basicHeader username' password' ↔
      username = username' ∧ password = password' := by
  constructor
  · intro he
    rw [basicHeader, basicHeader, String.append_right_inj, String.ofList_inj] at he
    have hjoined : username.toList ++ ':' :: password.toList =
        username'.toList ++ ':' :: password'.toList := utf8_injective (base64_injective he)
    have husername : username.toList = username'.toList := Text.eq_of_append_sep h h' hjoined
    rw [husername, List.append_cancel_left_eq, List.cons.injEq] at hjoined
    exact ⟨String.toList_inj.1 husername, String.toList_inj.1 hjoined.2⟩
  · rintro ⟨rfl, rfl⟩
    rfl

theorem bearerHeader_inj : bearerHeader token = bearerHeader token' ↔ token = token' := by
  rw [bearerHeader, bearerHeader, String.append_right_inj]

/-- The second letter of the header tells a user from a token. -/
theorem basicHeader_ne_bearerHeader : basicHeader username password ≠ bearerHeader token := by
  intro h
  have hsecond := congrArg (·.toList[1]?) h
  simp [basicHeader, bearerHeader] at hsecond

/-- **What is sent determines the credentials**, as long as they are those of a token or of a user
without a colon.  What is sent for a user, read back into bytes, is the user, a colon and the
password, whatever these are. -/
theorem header?_determines :
    (∀ c d : Credentials, c.Recoverable → d.Recoverable → (c.header? = d.header? ↔ c = d)) ∧
    ∀ username password, ∃ code, (basic username password).header? = some ("Basic " ++ code) ∧
      fromBase64? code.toList = some (utf8 username.toList ++ 0x3A :: utf8 password.toList) := by
  constructor
  · intro c d hc hd
    cases hc with
    | basic h password =>
      cases hd with
      | basic h' password' =>
        rw [header?, header?, Option.some_inj, basicHeader_inj h h', basic.injEq]
      | bearer token => simp [header?, basicHeader_ne_bearerHeader]
    | bearer token =>
      cases hd with
      | basic h' password' => simp [header?, basicHeader_ne_bearerHeader.symm]
      | bearer token' => rw [header?, header?, Option.some_inj, bearerHeader_inj, bearer.injEq]
  · intro username password
    refine ⟨_, rfl, ?_⟩
    rw [String.toList_ofList, fromBase64?_base64, Text.utf8_append, Text.utf8_cons]
    rfl

/-- A token that is the code of a user and a password is not taken for them.  A user with a colon
in its name is taken for another one. -/
theorem header?_determines_of_lookalikes :
    (basic "jörg" "a:b").Recoverable ∧ (bearer "asO2cmc6YTpi").Recoverable ∧
      (basic "jörg" "a:b").header? = some "Basic asO2cmc6YTpi" ∧
      (basic "jörg" "a:b").header? ≠ (bearer "asO2cmc6YTpi").header? ∧
      (basic "jörg" "a:b").header? = (basic "jörg:a" "b").header? := by
  have huser : (basic "jörg" "a:b").Recoverable := .basic (by decide) _
  have htoken : (bearer "asO2cmc6YTpi").Recoverable := .bearer _
  refine ⟨huser, htoken, by decide +kernel, ?_, by decide +kernel⟩
  rw [Ne, header?_determines.1 _ _ huser htoken]
  decide

end Credentials

end Pacts
