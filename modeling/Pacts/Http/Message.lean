import Pacts.Http.Answer
import Pacts.Http.Header
import Pacts.Http.Question
import Pacts.Text.Percent

/-!
# HTTP messages

A message is a head of lines, an empty line and a body.  `Question.message` writes a question, and
`Answer.ofMessage` reads an answer, of which the first line has the status.  How long the body of an
answer is, its headers say; if they do not, everything that follows is the body.

`replyIn` puts the two together.  It leaves open how a message gets to the other side and what comes
back, so it is the same over a connection (`Http.reply`) and in a proof.
-/

set_option autoImplicit false

namespace Pacts.Http

/-- The message of a question. -/
def Question.message (q : Question) : String :=
  let headers := ("Host", q.host ++ ":" ++ toString q.port) :: ("Connection", "close") :: q.headers
  String.join ((q.line :: headers.map fun (name, value) => name ++ ": " ++ value).map (· ++ "\r\n"))
    ++ "\r\n"

/-! ## Lines -/

/-- The first line of a message and what follows it, if the line ends. -/
def splitLine : List UInt8 → Option (List UInt8 × List UInt8)
  | [] => none
  | 13 :: 10 :: bytes => some ([], bytes)
  | b :: bytes => (splitLine bytes).map fun (line, rest) => (b :: line, rest)

/-- The lines of a head, of which there is at least one, and what follows the empty line behind
them. -/
def splitHead : List UInt8 → Option (List (List UInt8) × List UInt8)
  | [] => none
  | 13 :: 10 :: 13 :: 10 :: rest => some ([[]], rest)
  | 13 :: 10 :: bytes => (splitHead bytes).map fun (lines, rest) => ([] :: lines, rest)
  | b :: bytes =>
    match splitHead bytes with
    | some (line :: lines, rest) => some ((b :: line) :: lines, rest)
    | _ => none

/-! ## Heads -/

/-- The status in the first line of an answer, a number of three digits. -/
def statusOf? (line : List UInt8) : Option Nat := do
  let text ← Text.ofUtf8? line
  let status := (text.dropWhile (· ≠ ' ')).drop 1 |>.takeWhile (· ≠ ' ')
  if status.length = 3 ∧ status.all Char.isDigit then (String.ofList status).toNat? else none

/-- The value of a line with a header of the name. -/
def valueIn? (name : String) (line : List UInt8) : Option (Option String) :=
  let colon := 58
  if sameLetters (String.ofList ((Text.ofUtf8? (line.takeWhile (· ≠ colon))).getD [])) name then
    some ((Text.ofUtf8? ((line.dropWhile (· ≠ colon)).drop 1)).bind fun cs =>
      headerValue? (String.ofList cs))
  else none

/-- The value of the first header of a name. -/
def header? (name : String) (lines : List (List UInt8)) : Option String :=
  (lines.findSome? (valueIn? name)).join

/-! ## Bodies -/

/-- The number of bytes of a chunk. -/
def chunkSize? (line : List UInt8) : Option Nat := do
  let digits := line.takeWhile (· ≠ 59)
  if digits.isEmpty then none
  else digits.foldlM (fun n b => (Text.hexDigitValue? b).map (n * 16 + ·)) 0

/-- The bytes of chunks, of which there are at most `fuel`. -/
def unchunked : (fuel : Nat) → List UInt8 → Option (List UInt8)
  | 0, _ => none
  | fuel + 1, bytes => do
    let (line, rest) ← splitLine bytes
    let size ← chunkSize? line
    if size = 0 then some []
    else if rest.length < size then none
    else
      let others ← unchunked fuel (rest.drop (size + 2))
      return rest.take size ++ others

/-- The body in what follows a head. -/
def bodyOf? (lines : List (List UInt8)) (rest : List UInt8) : Option (List UInt8) :=
  if (header? "Transfer-Encoding" lines).any (sameLetters "chunked") then
    unchunked (rest.length + 1) rest
  else match (header? "Content-Length" lines).bind String.toNat? with
    | some n => if rest.length < n then none else some (rest.take n)
    | none => some rest

/-- The answer in a message, or what is wrong with the message. -/
def Answer.ofMessage (bytes : List UInt8) : Except String Answer :=
  match splitHead bytes with
  | some (first :: lines, rest) =>
    match statusOf? first with
    | none => .error "bad status"
    | some status =>
      match if hasNoBody status then some [] else bodyOf? lines rest with
      | none => .error "unexpected end of the answer"
      | some body => .ok ⟨status, header? "Content-Type" lines, ⟨body.toArray⟩⟩
  | _ => .error "bad answer"

/-! ## Replies -/

/-- What the bytes that came back mean, or what went wrong before they came. -/
def replyOf : Except String (List UInt8) → Reply
  | .error problem => .unreachable problem
  | .ok bytes =>
    match Answer.ofMessage bytes with
    | .ok answer => answer.reply
    | .error problem => .unreachable problem

/-- The reply to a request, where `converse` brings what comes back for a question; `timeout` is the
time to wait in seconds. -/
def replyIn {m : Type → Type} [Monad m] (converse : Question → m (Except String (List UInt8)))
    (timeout : Option Nat) (request : Request) : m Reply := do
  match Question.ofRequest timeout request with
  | .error problem => return .unreachable problem
  | .ok q => return replyOf (← converse q)

end Pacts.Http
