import Pacts.Broker.Session
import Pacts.Json.Reader
import Pacts.Text.Blank
import Pacts.Text.Fields
import Pacts.Text.Letters

/-!
# What an HTTP answer says

An answer has a status, perhaps the header that says what its body is, and a body.  It holds a
document when its status is below 400, its content type is one of JSON, and its body is a JSON text.
Everything else is an error: status 404 means that there is nothing, and any other status from 400
on that the request was refused, whatever the body is.

An answer without a content type counts as plain text.
-/

set_option autoImplicit false

namespace Pacts.Http

/-- An answer. -/
structure Answer where
  status : Nat
  /-- The value of the header `Content-Type`, without the blanks around it. -/
  contentType : Option String
  body : ByteArray

/-! ## Content types -/

/-- What an answer without a content type counts as. -/
def plainText : String := "text/plain"

/-- What stands in front of the first semicolon. -/
def beforeParameters (contentType : String) : String :=
  String.ofList (contentType.toList.takeWhile (· ≠ ';'))

/-- The content type of an answer, without parameters. -/
def mediaType (contentType : Option String) : String :=
  match contentType with
  | none => plainText
  | some s => beforeParameters s

/-- Whether a content type is one of JSON.  Blanks and the case of letters do not matter. -/
def isJson (mediaType : String) : Bool :=
  let name := (lowered (trimmed (beforeParameters mediaType))).toList
  name == "application/json".toList || "+json".toList.isSuffixOf name

/-! ## Documents -/

/-- The statuses whose answers have no body. -/
def hasNoBody (status : Nat) : Bool := status == 204 || status == 304

/-- The text of a body. -/
def Answer.text? (a : Answer) : Option String :=
  if hasNoBody a.status then some "" else String.fromUTF8? a.body

/-- What starts the complaint about a body. -/
def unreadable : String := "Failed to read JSON: "

/-- The document in the body of an answer, or what is wrong with it. -/
def Answer.document (a : Answer) : Except String Json :=
  if isJson (mediaType a.contentType) then
    match a.text? with
    | none => .error (unreadable ++ "invalid unicode code point")
    | some text => (Json.read .streamed text).mapError (unreadable ++ ·)
  else
    .error ("expected a HAL+JSON response from the pact broker, but got '" ++
      mediaType a.contentType ++ "'")

/-- What an answer means. -/
def Answer.reply (a : Answer) : Reply :=
  if a.status = 404 then .missing
  else if 400 ≤ a.status then .refused a.status
  else match a.document with
    | .ok doc => .document doc
    | .error reason => .unusable reason

/-- An answer says nothing but what can be told from its status and its document. -/
theorem Answer.reply_ne_failed (a : Answer) (e : BrokerError) : a.reply ≠ .failed e := by
  rw [reply]
  split
  · simp
  · split
    · simp
    · cases a.document <;> simp

end Pacts.Http
