import Pacts.Http.Question
import Pacts.Proofs.Broker.Authorization

/-!
# What is sent and what is not

A request to an `http` URL becomes a question unless there is no time to wait, or the credentials
cannot be written in a header (`ofRequest_of_sendable`, `ofRequest_of_not_sendable`).  A user and a
password can always be written, whatever they are: their header has visible characters only, and
one space that it does not end in (`isHeaderValue_basicHeader`).  A token may have any characters.

Who is asking is said by the credentials, or else by the user and the password in the URL
(`exists_authorization_iff`).
-/

set_option autoImplicit false

namespace Pacts

namespace Text

/-- The characters that can be seen. -/
def Visible (c : Char) : Prop := 0x21 ≤ c.toNat ∧ c.toNat ≤ 0x7E

theorem visible_base64Char (n : Nat) : Visible (base64Char n) := by
  by_cases h : n < 64
  · have hall : ∀ n < 64, 0x21 ≤ (base64Char n).toNat ∧ (base64Char n).toNat ≤ 0x7E := by decide
    exact hall n h
  · have hlast : base64Char n = '/' := by
      rw [base64Char, if_neg (by omega), if_neg (by omega), if_neg (by omega), if_neg (by omega)]
    rw [hlast, Visible]
    decide

/-- The characters that bytes are written in can be seen. -/
theorem visible_base64 : ∀ bytes, ∀ c ∈ base64 bytes, Visible c
  | [] => by simp [base64]
  | [a] => by
    have hpadding : Visible '=' := by rw [Visible]; decide
    simp [base64, visible_base64Char, hpadding]
  | [a, b] => by
    have hpadding : Visible '=' := by rw [Visible]; decide
    simp [base64, visible_base64Char, hpadding]
  | a :: b :: c :: rest => by
    have hrest := visible_base64 rest
    simpa [base64, visible_base64Char] using hrest

theorem base64_ne_nil {bytes : List UInt8} (h : bytes ≠ []) : base64 bytes ≠ [] := by
  match bytes with
  | [_] => exact List.cons_ne_nil _ _
  | [_, _] => exact List.cons_ne_nil _ _
  | _ :: _ :: _ :: _ => exact List.cons_ne_nil _ _

end Text

namespace Http

/-! ## Headers -/

theorem isHeaderChar_of_visible {c : Char} (h : Text.Visible c) : isHeaderChar c = true := by
  simp [isHeaderChar, h.1, h.2]

/-- Text that ends in a visible character can be sent. -/
theorem isHeaderValue_append {front : String} {visible : List Char} (hne : visible ≠ [])
    (hf : ∀ c ∈ front.toList, isHeaderChar c = true) (hv : ∀ c ∈ visible, Text.Visible c) :
    isHeaderValue (front ++ String.ofList visible) = true := by
  have hlast : (front.toList ++ visible).getLast? = some (visible.getLast hne) := by
    rw [List.getLast?_append_of_ne_nil _ hne, List.getLast?_eq_some_getLast hne]
  obtain ⟨hfirst, -⟩ := hv _ (List.getLast_mem hne)
  have hspace : visible.getLast hne ≠ ' ' := by
    intro h
    rw [h] at hfirst
    exact absurd hfirst (by decide)
  have htab : visible.getLast hne ≠ '\t' := by
    intro h
    rw [h] at hfirst
    exact absurd hfirst (by decide)
  rw [isHeaderValue, String.toList_append, String.toList_ofList, hlast, Bool.and_eq_true,
    List.all_eq_true]
  refine ⟨fun c hc => ?_, by simp [hspace, htab]⟩
  rcases List.mem_append.1 hc with hc | hc
  · exact hf c hc
  · exact isHeaderChar_of_visible (hv c hc)

/-- **A user and a password can always be sent.** -/
theorem isHeaderValue_basicHeader (username password : String) :
    isHeaderValue (Credentials.basicHeader username password) = true := by
  have hfront : "Basic ".toList.all isHeaderChar = true := by decide
  refine isHeaderValue_append (Text.base64_ne_nil ?_) (List.all_eq_true.1 hfront)
    (Text.visible_base64 _)
  rw [Text.utf8_append, Text.utf8_cons, Text.utf8EncodeChar_of_lt (by decide)]
  simp

namespace Question

/-! ## Questions -/

/-- Whether a request in the name of someone can be sent: there is time to wait, and the name can be
written in a header. -/
def Sendable (timeout : Option Nat) (credentials : Credentials) : Prop :=
  timeout ≠ some 0 ∧ ∀ value ∈ credentials.header?, isHeaderValue value = true

variable {timeout : Option Nat} {credentials : Credentials} {url : Url}

/-- Nothing but the credentials can keep a request from being sent: what the URL says about who is
asking can always be written. -/
theorem any_authorizationOf :
    ((authorizationOf ⟨url, credentials.header?⟩).any fun value => !isHeaderValue value) =
      credentials.header?.any fun value => !isHeaderValue value := by
  rw [authorizationOf]
  cases credentials.header? with
  | some value => rfl
  | none =>
    simp only
    split
    · rfl
    · rw [Option.any_some, isHeaderValue_basicHeader]
      rfl

theorem any_header?_iff : (credentials.header?.any fun value => !isHeaderValue value) = true ↔
    ¬∀ value ∈ credentials.header?, isHeaderValue value = true := by
  cases credentials.header? <;> simp

theorem ofRequest_of_sendable (hs : url.scheme = "http") (h : Sendable timeout credentials) :
    ∃ q, ofRequest timeout ⟨url, credentials.header?⟩ = .ok q ∧
      q.authorization = authorizationOf ⟨url, credentials.header?⟩ := by
  obtain ⟨htime, hvalue⟩ := h
  rw [ofRequest, if_neg (not_not.2 hs), if_neg htime]
  simp only [any_authorizationOf]
  rw [if_neg (mt any_header?_iff.1 (not_not.2 hvalue))]
  exact ⟨_, rfl, rfl⟩

theorem ofRequest_of_not_sendable (hs : url.scheme = "http") (h : ¬Sendable timeout credentials) :
    ∃ problem, ofRequest timeout ⟨url, credentials.header?⟩ = .error problem := by
  rw [ofRequest, if_neg (not_not.2 hs)]
  split
  · exact ⟨_, rfl⟩
  · rename_i htime
    simp only [any_authorizationOf]
    rw [if_pos (any_header?_iff.2 fun hvalue => h ⟨htime, hvalue⟩)]
    exact ⟨_, rfl⟩

/-! ## Who is asking -/

/-- A URL that names a user or a password. -/
def NamesUser (url : Url) : Prop := url.username ≠ "" ∨ url.password.getD "" ≠ ""

/-- Who is asking is said by the credentials, and where they do not say it by the URL. -/
theorem authorizationOf_eq_some_iff {value : String} :
    authorizationOf ⟨url, credentials.header?⟩ = some value ↔
      credentials.header? = some value ∨ credentials.header? = none ∧ NamesUser url ∧
        value = Credentials.basicHeader url.username (url.password.getD "") := by
  rw [authorizationOf, NamesUser, ← not_and_or]
  cases credentials.header? with
  | some header => simp
  | none =>
    simp only [reduceCtorEq, false_or, true_and]
    split
    · rename_i hnone
      simp [hnone]
    · rename_i hsome
      rw [Option.some_inj, eq_comm]
      exact (and_iff_right hsome).symm

theorem mem_headers_iff {q : Question} {value : String} :
    ("Authorization", value) ∈ q.headers ↔ q.authorization = some value := by
  rw [headers]
  cases q.authorization <;> simp [eq_comm]

end Question

end Http

end Pacts
