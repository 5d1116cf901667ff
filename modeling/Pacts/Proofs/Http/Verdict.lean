import Pacts.Proofs.Http.ContentType
import Pacts.Proofs.Http.Sending
import Pacts.Proofs.Json.Acceptance
import Pacts.Url.Parse

/-!
# What becomes of an answer

A request that can be sent is sent once, and then the answer decides: first its status, then its
content type, and last its body.  `Verdict` says what comes of an answer without the order in which
the code looks at it, one law for each outcome; the four outcomes exclude each other, and one of
them comes about (`verdict_reply`).

The body of an answer is read as `Json.IsText` says, so `Answer.Holds` does not mention the reader.

`request_classified` is the result for a request as a whole, with what is sent for it.
-/

set_option autoImplicit false

namespace Pacts.Http

/-! ## Documents -/

/-- The body of an answer is a JSON text that stands for a value. -/
def Answer.Holds (a : Answer) (v : Json) : Prop := ∃ text, a.text? = some text ∧ Json.IsText text v

/-- A text that is sent as a body is the text of the body, unless the status has none. -/
theorem Answer.text?_toUTF8 {status : Nat} (h : hasNoBody status = false)
    (contentType : Option String) (text : String) :
    (⟨status, contentType, text.toUTF8⟩ : Answer).text? = some text := by
  rw [Answer.text?, h, if_neg Bool.false_ne_true]
  exact dif_pos text.isValidUTF8

theorem Answer.document_eq_ok_iff {a : Answer} {v : Json} :
    a.document = .ok v ↔ IsJsonType a.contentType ∧ a.Holds v := by
  rw [document, ← isJson_mediaType_iff, Holds]
  split
  · rename_i hjson
    rw [and_iff_right hjson]
    cases a.text? with
    | none => simp
    | some text =>
      have hread : Json.read .streamed text = .ok v ↔ Json.IsText text v := Json.read_eq_ok_iff
      simp only [Option.some.injEq, exists_eq_left', ← hread]
      cases Json.read .streamed text <;> simp [Except.mapError]
  · rename_i hplain
    simp [hplain]

theorem Answer.document_ne_ok_iff {a : Answer} :
    (∀ v, a.document ≠ .ok v) ↔ ¬IsJsonType a.contentType ∨ ∀ v, ¬a.Holds v := by
  simp only [ne_eq, document_eq_ok_iff, not_and, ← imp_iff_not_or]
  exact ⟨fun h hj v => h v hj, fun h v hj => h hj v⟩

/-! ## Verdicts -/

/-- What comes of an answer to a request for the document at a URL. -/
structure Verdict (url : Url) (a : Answer) (result : Except BrokerError Json) : Prop where
  notFound : result = .error (.notFound url.text) ↔ a.status = 404
  requestFailed : ∀ status, result = .error (.requestFailed url.text status) ↔
    a.status = status ∧ 400 ≤ status ∧ status ≠ 404
  invalidHal : (∃ reason, result = .error (.invalidHal url.text reason)) ↔
    a.status < 400 ∧ (¬IsJsonType a.contentType ∨ ∀ v, ¬a.Holds v)
  document : ∀ v, result = .ok v ↔ a.status < 400 ∧ IsJsonType a.contentType ∧ a.Holds v

theorem toExcept_reply (a : Answer) (url : String) :
    a.reply.toExcept url =
      if a.status = 404 then .error (.notFound url)
      else if 400 ≤ a.status then .error (.requestFailed url a.status)
      else a.document.mapError (.invalidHal url) := by
  rw [Answer.reply]
  split
  · rfl
  · split
    · rfl
    · cases a.document <;> rfl

/-- **The status decides first, then the content type, and last the body.** -/
theorem verdict_reply (url : Url) (a : Answer) : Verdict url a (a.reply.toExcept url.text) := by
  rw [toExcept_reply]
  by_cases hmissing : a.status = 404
  · rw [if_pos hmissing]
    constructor <;> simp [hmissing]
  · rw [if_neg hmissing]
    by_cases hrefused : 400 ≤ a.status
    · rw [if_pos hrefused]
      constructor <;> simp [hmissing, hrefused]
    · rw [if_neg hrefused]
      have hlow : a.status < 400 := Nat.lt_of_not_le hrefused
      have hstatus : ∀ status, ¬(a.status = status ∧ 400 ≤ status ∧ status ≠ 404) := by omega
      -- below 400 only the document is left to decide
      constructor
      · cases a.document <;> simp [Except.mapError, hmissing]
      · intro status
        cases a.document <;> simp [Except.mapError, hstatus]
      · rw [← Answer.document_ne_ok_iff]
        cases a.document <;> simp [Except.mapError, hlow]
      · intro v
        rw [← Answer.document_eq_ok_iff]
        cases a.document <;> simp [Except.mapError, hlow]

/-! ## Conversations over HTTP -/

/-- A machine that sends the question of every request that can be sent, and writes it down;
`server` gives the answers. -/
def exchange (timeout : Option Nat) (server : Question → Answer) (asked : List Question)
    (r : Request) : Reply × List Question :=
  match Question.ofRequest timeout r with
  | .error problem => (.unreachable problem, asked)
  | .ok q => ((server q).reply, asked ++ [q])

section Conversations

variable {timeout : Option Nat} {server : Question → Answer} {r : Request}

theorem run_request_of_ok {q : Question} (h : Question.ofRequest timeout r = .ok q)
    (asked : List Question) :
    (Session.request r).run (exchange timeout server) asked =
      ((server q).reply.toExcept r.url.text, [r], asked ++ [q]) := by
  simp only [Session.request, Session.run, exchange, h]

theorem run_request_of_error {problem : String} (h : Question.ofRequest timeout r = .error problem)
    (asked : List Question) :
    (Session.request r).run (exchange timeout server) asked =
      (.error (.transport r.url.text problem), [r], asked) := by
  simp only [Session.request, Session.run, exchange, h, Reply.toExcept]

end Conversations

/-- What the header about who is asking holds.  There is one when there are credentials that say so,
or when the URL names a user or a password; the credentials come first. -/
structure Signed (url : Url) (credentials : Credentials) (q : Question) : Prop where
  signed : (∃ value, ("Authorization", value) ∈ q.headers) ↔
    credentials.header? ≠ none ∨ Question.NamesUser url
  first : ∀ value, credentials.header? = some value →
    ∀ value', ("Authorization", value') ∈ q.headers ↔ value' = value
  second : credentials.header? = none → Question.NamesUser url →
    ∀ value', ("Authorization", value') ∈ q.headers ↔
      value' = Credentials.basicHeader url.username (url.password.getD "")

theorem signed_of_authorization {url : Url} {credentials : Credentials} {q : Question}
    (h : q.authorization = Question.authorizationOf ⟨url, credentials.header?⟩) :
    Signed url credentials q := by
  have hmem : ∀ value, ("Authorization", value) ∈ q.headers ↔
      credentials.header? = some value ∨ credentials.header? = none ∧ Question.NamesUser url ∧
        value = Credentials.basicHeader url.username (url.password.getD "") := by
    intro value
    rw [Question.mem_headers_iff, h, Question.authorizationOf_eq_some_iff]
  constructor
  · simp only [hmem]
    cases credentials.header? with
    | none => simp
    | some value => simp
  · intro value hvalue value'
    rw [hmem, hvalue]
    simp [eq_comm]
  · intro hnone hnames value'
    rw [hmem, hnone]
    simp [hnames]

/-- **What comes of a request to an `http` URL.**  A request that can be sent is sent once, and
status, content type and body of the answer decide; a request that cannot be sent is a failure of
the transport.  Of a content type neither parameters, nor blanks, nor the case of letters count, and
an answer without one is no JSON. -/
theorem request_classified (url : Url) (hs : url.scheme = "http") (timeout : Option Nat)
    (credentials : Credentials) (server : Question → Answer) :
    let run := (Session.request ⟨url, credentials.header?⟩).run (exchange timeout server) []
    (Question.Sendable timeout credentials →
      ∃ q, run.2.2 = [q] ∧ Signed url credentials q ∧ Verdict url (server q) run.1) ∧
    (¬Question.Sendable timeout credentials →
      run.2.2 = [] ∧ ∃ problem, run.1 = .error (.transport url.text problem)) ∧
    ¬IsJsonType none ∧
    ∀ left name name' right parameters : String, isBlankString left = true →
      isBlankString right = true → (∀ c ∈ parameters.toList.head?, c = ';') →
      sameLetters name name' = true →
      (IsJsonType (some (left ++ (name' ++ (right ++ parameters)))) ↔ IsJsonType (some name)) := by
  intro run
  refine ⟨fun h => ?_, fun h => ?_, fun h => (by cases h), ?_⟩
  · obtain ⟨q, hq, hauthorization⟩ := Question.ofRequest_of_sendable hs h
    rw [show run = _ from run_request_of_ok hq []]
    exact ⟨q, rfl, signed_of_authorization hauthorization, verdict_reply url (server q)⟩
  · obtain ⟨problem, hproblem⟩ := Question.ofRequest_of_not_sendable hs h
    rw [show run = _ from run_request_of_error hproblem []]
    exact ⟨rfl, problem, rfl⟩
  · intro left name name' right parameters hl hr hp hn
    rw [← isJson_mediaType_iff, ← isJson_mediaType_iff, isJson_around hl hr hp hn]

/-- A token comes before the user in the URL, and a content type in capitals is one of JSON. -/
theorem request_classified_of_token :
    let url : Url :=
      { scheme := "http", username := "ci", password := some "secret", host := some "pb.local",
        port := none, path := .segments [""], query := none, fragment := none }
    let credentials := Credentials.bearer "t0k"
    let answer : Answer := ⟨200, some "Application/HAL+JSON ;charset=utf-8", "[1]".toUTF8⟩
    let run := (Session.request ⟨url, credentials.header?⟩).run
      (exchange (some 5) fun _ => answer) []
    url.scheme = "http" ∧ Question.Sendable (some 5) credentials ∧
      (∃ q, run.2.2 = [q] ∧ ("Authorization", "Bearer t0k") ∈ q.headers) ∧
      run.1 = .ok (.arr [.num (.integer 1)]) := by
  intro url credentials answer run
  have hsendable : Question.Sendable (some 5) credentials := ⟨by decide, by decide⟩
  have htype : IsJsonType answer.contentType := isJson_mediaType_iff.1 (by decide +kernel)
  have hread : Json.read .streamed "[1]" = .ok (.arr [.num (.integer 1)]) := by decide +kernel
  have htext : answer.text? = some "[1]" := by decide +kernel
  obtain ⟨hsent, -⟩ := request_classified url rfl (some 5) credentials fun _ => answer
  obtain ⟨q, hasked, hsigned, hverdict⟩ := hsent hsendable
  exact ⟨rfl, hsendable, ⟨q, hasked, (hsigned.first _ rfl _).2 rfl⟩,
    (hverdict.document _).2 ⟨by decide, htype, _, htext, Json.read_eq_ok_iff.1 hread⟩⟩

/-- Lists in lists, with as many brackets as `depth` says. -/
def brackets (depth : Nat) : List Char := List.replicate depth '[' ++ List.replicate depth ']'

theorem exists_spells_brackets (depth : Nat) :
    ∃ v, Json.Spells (depth + 1) (brackets (depth + 1)) v := by
  induction depth with
  | zero => exact ⟨.arr [], .inr (.list (.empty Json.blank_nil))⟩
  | succ depth ih =>
    obtain ⟨v, hv⟩ := ih
    have hlayer : brackets (depth + 2) =
        '[' :: (([] ++ (brackets (depth + 1) ++ [])) ++ [']']) := by
      rw [brackets, brackets, List.replicate_succ, List.replicate_succ' (n := depth + 1)]
      simp
    rw [hlayer]
    exact ⟨.arr [v], .inr (.list (.parts (.one (.around Json.blank_nil Json.blank_nil hv))))⟩

/-- **The URL says who is asking too, and not every body that JSON allows is read**: the answer may
be one without a body, and numbers, nesting and escapes have their bounds.  What cannot be written
in a header is not sent. -/
theorem request_signed_by_url :
    let answering (status : Nat) (body : String) : Answer :=
      ⟨status, some "application/json", body.toUTF8⟩
    let plain : Url :=
      { scheme := "http", username := "", password := none, host := some "broker", port := none,
        path := .segments [""], query := none, fragment := none }
    let named : Url := { plain with username := "u", password := some "p" }
    let run (url : Url) (credentials : Credentials) (answer : Answer) :=
      (Session.request ⟨url, credentials.header?⟩).run (exchange none fun _ => answer) []
    let unread (status : Nat) (body : String) : Prop :=
      ∃ reason, (run plain .anonymous (answering status body)).1 =
        .error (.invalidHal "http://broker/" reason)
    (Url.parse "http://u:p@broker/" = .ok named ∧ Credentials.anonymous.header? = none ∧
      (run named .anonymous (answering 200 "[]")).2.2.map (·.headers.lookup "Authorization") =
        [some "Basic dTpw"]) ∧
    (Json.IsText "[]" (.arr []) ∧ unread 204 "[]") ∧
    (Json.Numeral "1e999".toList ∧ unread 200 "1e999") ∧
    ((∃ v, Json.Spells 128 (brackets 128) v) ∧ unread 200 (String.ofList (brackets 128))) ∧
    (Json.Hex "d800".toList 0xD800 ∧ unread 200 "\"\\ud800\"") ∧
    ((Credentials.bearer "\n").header? ≠ none ∧
      (run plain (.bearer "\n") (answering 200 "[]")).2.2 = []) := by
  intro answering plain named run unread
  -- below 400 and with a content type of JSON only the text of the body can be at fault
  have hunread : ∀ {status : Nat} {body text : String}, status < 400 →
      (answering status body).text? = some text → (Json.readChars text.toList).toOption = none →
      unread status body := by
    intro status body text hlow htext hread
    refine (verdict_reply plain (answering status body)).invalidHal.2 ⟨hlow, .inr ?_⟩
    rintro v ⟨text', htext', hv⟩
    obtain rfl := Option.some.inj (htext.symm.trans htext')
    rw [Json.readChars_eq_ok_iff.2 hv] at hread
    cases hread
  have hdeep : (Json.readChars (String.ofList (brackets 128)).toList).toOption = none := by
    rw [String.toList_ofList]
    decide +kernel
  have hempty : Json.read .streamed "[]" = .ok (.arr []) := by decide +kernel
  have hpower : Json.Power ([] ++ '9' :: ['9', '9']) :=
    .digits (by decide) (List.all_eq_true.1 (by decide))
  have hnumeral : Json.Numeral ('1' :: [] ++ 'e' :: ([] ++ '9' :: ['9', '9'])) :=
    .plain (.digits (by decide) (List.all_eq_true.1 (by decide))
      (.whole (.some (by decide) hpower)))
  have hhex : Json.Hex ['d', '8', '0', '0'] (((13 * 16 + 8) * 16 + 0) * 16 + 0) :=
    .four (by decide) (by decide) (by decide) (by decide)
  have hbody : hasNoBody 200 = false := by decide
  exact ⟨⟨by decide +kernel, rfl, by decide +kernel⟩,
    ⟨Json.read_eq_ok_iff.1 hempty, hunread (by decide) rfl (by decide +kernel)⟩,
    ⟨hnumeral, hunread (by decide) (Answer.text?_toUTF8 hbody _ _) (by decide +kernel)⟩,
    ⟨exists_spells_brackets 127, hunread (by decide) (Answer.text?_toUTF8 hbody _ _) hdeep⟩,
    ⟨hhex, hunread (by decide) (Answer.text?_toUTF8 hbody _ _) (by decide +kernel)⟩,
    by decide, by decide +kernel⟩

end Pacts.Http
