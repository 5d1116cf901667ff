import Pacts.Json.Basic

/-!
# JSON values from texts

The reader takes a text apart from its front.  Every step returns what it read together with the
text that is left, or a `Fault`: what is wrong, the text that was left when it was noticed, and how
many more bytes had been looked at by then.  `Fault.place` turns that into a line and a column, both
counted from one, the column in bytes.

A nested value is read by a function that is handed to the loop over the items or members around
it, so the depth of nesting is one structural recursion, and the loops run on the length of the
text.  Nesting deeper than `maxDepth` is refused.

Numbers that are not integers are rounded step by step (`Binary64.ofScaled?`): at most as many
digits as fit into 64 bits are kept, and the rest only moves the exponent.
-/

set_option autoImplicit false

namespace Pacts

namespace Json

/-- What can be wrong with a JSON text. -/
inductive Reason where
  | eofInList
  | eofInObject
  | eofInString
  | eofInValue
  | expectedColon
  | expectedListCommaOrEnd
  | expectedObjectCommaOrEnd
  | expectedIdent
  | expectedValue
  | invalidEscape
  | invalidNumber
  | numberOutOfRange
  | controlCharacter
  | keyMustBeString
  | loneSurrogate
  | trailingComma
  | trailingCharacters
  | unfinishedSurrogate
  | tooDeep
  deriving DecidableEq, Repr

/-- The wording of a reason. -/
def Reason.message : Reason → String
  | .eofInList => "EOF while parsing a list"
  | .eofInObject => "EOF while parsing an object"
  | .eofInString => "EOF while parsing a string"
  | .eofInValue => "EOF while parsing a value"
  | .expectedColon => "expected `:`"
  | .expectedListCommaOrEnd => "expected `,` or `]`"
  | .expectedObjectCommaOrEnd => "expected `,` or `\x7d`"
  | .expectedIdent => "expected ident"
  | .expectedValue => "expected value"
  | .invalidEscape => "invalid escape"
  | .invalidNumber => "invalid number"
  | .numberOutOfRange => "number out of range"
  | .controlCharacter => "control character (\\u0000-\\u001F) found while parsing a string"
  | .keyMustBeString => "key must be a string"
  | .loneSurrogate => "lone leading surrogate in hex escape"
  | .trailingComma => "trailing comma"
  | .trailingCharacters => "trailing characters"
  | .unfinishedSurrogate => "unexpected end of hex escape"
  | .tooDeep => "recursion limit exceeded"

/-- A reason, with the place where it was noticed. -/
structure Fault where
  reason : Reason
  /-- The text that had not been taken yet. -/
  rest : List Char
  /-- The number of bytes of `rest` that had been looked at. -/
  ahead : Nat
  /-- Whether a reader that has to take a byte to look at it had taken one more. -/
  peeked : Bool
  deriving Repr

/-- A fault that lies in the last byte taken. -/
def Fault.behind (reason : Reason) (rest : List Char) : Fault := ⟨reason, rest, 0, false⟩

/-- A fault that lies in the next byte. -/
def Fault.before (reason : Reason) (rest : List Char) : Fault := ⟨reason, rest, 1, false⟩

/-- What a step of the reader returns, unless it runs into a fault. -/
abbrev Reading := Except Fault

/-- How a text reaches the reader: as a whole, or byte by byte. -/
inductive Delivery where
  | whole
  | streamed
  deriving DecidableEq

/-- The number of bytes of a text. -/
def byteCount (cs : List Char) : Nat := cs.foldr (fun c n => c.utf8Size + n) 0

/-- The line and the column of the byte that `n` bytes stand before: the line is counted from one,
and the column is the number of bytes since the last line break. -/
def lineAndColumn (n : Nat) (cs : List Char) : Nat × Nat :=
  go n cs 1 0
where
  /-- Walks on from a line and a column. -/
  go (left : Nat) (cs : List Char) (line column : Nat) : Nat × Nat :=
    match cs with
    | [] => (line, column)
    | c :: cs =>
      if left = 0 then (line, column)
      else if c = '\n' then go (left - 1) cs (line + 1) 0
      else if left < c.utf8Size then (line, column + left)
      else go (left - c.utf8Size) cs line (column + c.utf8Size)

/-- The place of a fault in the whole text. -/
def Fault.place (delivery : Delivery) (whole : List Char) (f : Fault) : Nat × Nat :=
  let ahead := if delivery = .streamed ∧ f.peeked then f.ahead + 1 else f.ahead
  let total := byteCount whole
  lineAndColumn (min total (total - byteCount f.rest + ahead)) whole

/-- The wording of a fault: its reason and its place. -/
def Fault.message (delivery : Delivery) (whole : List Char) (f : Fault) : String :=
  let (line, column) := f.place delivery whole
  f.reason.message ++ " at line " ++ toString line ++ " column " ++ toString column

/-! ## Blanks -/

/-- The blanks between the parts of a JSON text. -/
def isSpace (c : Char) : Bool := c == ' ' || c == '\t' || c == '\n' || c == '\r'

/-- The text without the blanks in front. -/
def skipSpaces (cs : List Char) : List Char := cs.dropWhile isSpace

/-! ## Words -/

/-- Takes the rest of one of the words `null`, `true` and `false`. -/
def word (value : Json) : (expected : List Char) → List Char → Reading (Json × List Char)
  | [], cs => .ok (value, cs)
  | _ :: _, [] => .error (.before .eofInValue [])
  | e :: es, c :: cs =>
    if c = e then word value es cs else .error (.before .expectedIdent (c :: cs))

/-! ## Texts -/

/-- The value of a hexadecimal digit. -/
def hexValue? (c : Char) : Option Nat :=
  if '0' ≤ c ∧ c ≤ '9' then some (c.toNat - 48)
  else if 'a' ≤ c ∧ c ≤ 'f' then some (c.toNat - 87)
  else if 'A' ≤ c ∧ c ≤ 'F' then some (c.toNat - 55)
  else none

/-- The number of four hexadecimal digits. -/
def hexDigits : List Char → Reading (Nat × List Char)
  | a :: b :: c :: d :: cs =>
    match hexValue? a, hexValue? b, hexValue? c, hexValue? d with
    | some a, some b, some c, some d => .ok (((a * 16 + b) * 16 + c) * 16 + d, cs)
    | _, _, _, _ => .error ⟨.invalidEscape, a :: b :: c :: d :: cs, 4, false⟩
  | cs =>
    if byteCount cs < 4 then .error ⟨.eofInString, cs, 4, false⟩
    else .error ⟨.invalidEscape, cs, 4, false⟩

/-- The character of an escape by its number.  A number of the upper half of a pair has to be
followed by an escape of the lower half. -/
def numberedChar (cs : List Char) : Reading (Char × List Char) := do
  let (high, cs) ← hexDigits cs
  if 0xDC00 ≤ high ∧ high ≤ 0xDFFF then .error (.behind .loneSurrogate cs)
  else if high < 0xD800 ∨ 0xDBFF < high then .ok (Char.ofNat high, cs)
  else match cs with
    | '\\' :: 'u' :: cs => do
      let (low, cs) ← hexDigits cs
      if low < 0xDC00 ∨ 0xDFFF < low then .error (.behind .loneSurrogate cs)
      else .ok (Char.ofNat (0x10000 + (high - 0xD800) * 0x400 + (low - 0xDC00)), cs)
    | [] => .error (.behind .eofInString [])
    | ['\\'] => .error (.behind .eofInString [])
    | '\\' :: cs => .error (.before .unfinishedSurrogate cs)
    | cs => .error (.before .unfinishedSurrogate cs)

/-- The character of an escape, from behind its backslash. -/
def escapedChar : List Char → Reading (Char × List Char)
  | [] => .error (.behind .eofInString [])
  | 'u' :: cs => numberedChar cs
  | '"' :: cs => .ok ('"', cs)
  | '\\' :: cs => .ok ('\\', cs)
  | '/' :: cs => .ok ('/', cs)
  | 'b' :: cs => .ok (Char.ofNat 0x08, cs)
  | 'f' :: cs => .ok (Char.ofNat 0x0C, cs)
  | 'n' :: cs => .ok ('\n', cs)
  | 'r' :: cs => .ok ('\r', cs)
  | 't' :: cs => .ok ('\t', cs)
  | cs => .error (.before .invalidEscape cs)

/-- The rest of a text up to its closing quote, from behind its opening quote.  `soFar` holds what
was read, last character first. -/
def stringBody : (fuel : Nat) → (soFar : List Char) → List Char → Reading (String × List Char)
  | 0, _, cs => .error (.behind .eofInString cs)
  | _, _, [] => .error (.behind .eofInString [])
  | _, soFar, '"' :: cs => .ok (String.ofList soFar.reverse, cs)
  | fuel + 1, soFar, '\\' :: cs => do
    let (c, cs) ← escapedChar cs
    stringBody fuel (c :: soFar) cs
  | fuel + 1, soFar, c :: cs =>
    if c.toNat < 0x20 then .error (.before .controlCharacter (c :: cs))
    else stringBody fuel (c :: soFar) cs

/-- A text, from behind its opening quote. -/
def string (cs : List Char) : Reading (String × List Char) := stringBody (cs.length + 1) [] cs

/-! ## Numbers -/

/-- The largest significand that is kept. -/
def maxSignificand : Nat := Nat.pow 2 64 - 1

/-- The largest exponent that is kept. -/
def maxExponent : Nat := Nat.pow 2 31 - 1

/-- The digit a character stands for. -/
def digit? (c : Char) : Option Nat := if c.isDigit then some (c.toNat - 48) else none

/-- A number from its significand and its power of ten. -/
def scaled (negative : Bool) (significand : Nat) (exponent : Int) (cs : List Char) :
    Reading (Number × List Char) :=
  match Binary64.ofScaled? negative significand exponent with
  | some x => .ok (.float x, cs)
  | none => .error ⟨.numberOutOfRange, cs, 0, true⟩

/-- The digits of an exponent behind the first one. -/
def exponentDigits (negative : Bool) (significand : Nat) (start : Int) (negativeExponent : Bool) :
    (exponent : Nat) → List Char → Reading (Number × List Char)
  | exponent, c :: cs =>
    match digit? c with
    | some d =>
      if maxExponent < exponent * 10 + d then
        if significand ≠ 0 ∧ !negativeExponent then .error (.behind .numberOutOfRange cs)
        else .ok (.float (.zero negative), cs.dropWhile Char.isDigit)
      else exponentDigits negative significand start negativeExponent (exponent * 10 + d) cs
    | none =>
      scaled negative significand (if negativeExponent then start - exponent else start + exponent)
        (c :: cs)
  | exponent, [] =>
    scaled negative significand (if negativeExponent then start - exponent else start + exponent) []

/-- An exponent, from behind its letter. -/
def exponentPart (negative : Bool) (significand : Nat) (start : Int) (cs : List Char) :
    Reading (Number × List Char) :=
  let (negativeExponent, cs) := match cs with
    | '+' :: cs => (false, cs)
    | '-' :: cs => (true, cs)
    | cs => (false, cs)
  match cs with
  | [] => .error (.behind .eofInValue [])
  | c :: cs => match digit? c with
    | some d => exponentDigits negative significand start negativeExponent d cs
    | none => .error (.before .invalidNumber (c :: cs))

/-- What may follow the digits of a number: an exponent, or nothing. -/
def scaledOrExponent (negative : Bool) (significand : Nat) (exponent : Int) (cs : List Char) :
    Reading (Number × List Char) :=
  match cs with
  | 'e' :: cs => exponentPart negative significand exponent cs
  | 'E' :: cs => exponentPart negative significand exponent cs
  | cs => scaled negative significand exponent cs

/-- The digits behind the point.  `taken` is the number of those already kept, and `exponent` what
digits in front of the point that could not be kept are worth. -/
def fractionDigits (negative : Bool) (exponent : Int) :
    (significand taken : Nat) → List Char → Reading (Number × List Char)
  | significand, taken, c :: cs =>
    match digit? c with
    | some d =>
      if maxSignificand < significand * 10 + d then
        scaledOrExponent negative significand (exponent - taken) (cs.dropWhile Char.isDigit)
      else fractionDigits negative exponent (significand * 10 + d) (taken + 1) cs
    | none =>
      if taken = 0 then .error (.before .invalidNumber (c :: cs))
      else scaledOrExponent negative significand (exponent - taken) (c :: cs)
  | significand, taken, [] =>
    if taken = 0 then .error (.before .eofInValue [])
    else scaledOrExponent negative significand (exponent - taken) []

/-- What follows the digits in front of the point when there are too many of them to be kept. -/
def afterLongInteger (negative : Bool) (significand : Nat) (exponent : Int) (cs : List Char) :
    Reading (Number × List Char) :=
  match cs with
  | '.' :: cs => fractionDigits negative exponent significand 0 cs
  | cs => scaledOrExponent negative significand exponent cs

/-- What follows the digits in front of the point.  An integer of 64 bits stays one. -/
def afterInteger (negative : Bool) (significand : Nat) (cs : List Char) :
    Reading (Number × List Char) :=
  match cs with
  | '.' :: cs => fractionDigits negative 0 significand 0 cs
  | 'e' :: cs => exponentPart negative significand 0 cs
  | 'E' :: cs => exponentPart negative significand 0 cs
  | cs =>
    if !negative then .ok (.integer significand, cs)
    else if significand = 0 ∨ Nat.pow 2 63 < significand then scaled true significand 0 cs
    else .ok (.integer (-(significand : Int)), cs)

/-- The digits in front of the point behind the first one. -/
def integerDigits (negative : Bool) : (significand : Nat) → List Char → Reading (Number × List Char)
  | significand, c :: cs =>
    match digit? c with
    | some d =>
      if maxSignificand < significand * 10 + d then
        let dropped := (c :: cs).takeWhile Char.isDigit
        afterLongInteger negative significand dropped.length (cs.dropWhile Char.isDigit)
      else integerDigits negative (significand * 10 + d) cs
    | none => afterInteger negative significand (c :: cs)
  | significand, [] => afterInteger negative significand []

/-- A number, from behind its sign. -/
def number (negative : Bool) : List Char → Reading (Number × List Char)
  | [] => .error (.behind .eofInValue [])
  | '0' :: cs => match cs with
    | c :: cs => if c.isDigit then .error (.before .invalidNumber (c :: cs))
      else afterInteger negative 0 (c :: cs)
    | [] => afterInteger negative 0 []
  | c :: cs => match digit? c with
    | some d => integerDigits negative d cs
    | none => .error (.before .invalidNumber (c :: cs))

/-! ## Lists and objects -/

/-- The items of a list, from behind its bracket or behind an item. -/
def items (value : List Char → Reading (Json × List Char)) : (fuel : Nat) → (first : Bool) →
    (soFar : List Json) → List Char → Reading (List Json × List Char)
  | 0, _, _, cs => .error (.before .eofInList cs)
  | fuel + 1, first, soFar, cs =>
    match skipSpaces cs with
    | [] => .error (.before .eofInList [])
    | ']' :: cs => .ok (soFar.reverse, cs)
    | c :: cs => do
      let cs ←
        if first then .ok (c :: cs)
        else if c = ',' then
          match skipSpaces cs with
          | [] => .error (.before .eofInValue [])
          | ']' :: cs => .error (.before .trailingComma (']' :: cs))
          | cs => .ok cs
        else .error (.before .expectedListCommaOrEnd (c :: cs))
      let (item, cs) ← value cs
      items value fuel false (item :: soFar) cs

/-- A member of an object, from behind the quote that opens its name. -/
def member (value : List Char → Reading (Json × List Char)) (cs : List Char) :
    Reading ((String × Json) × List Char) := do
  let (name, cs) ← string cs
  match skipSpaces cs with
  | [] => .error (.before .eofInObject [])
  | ':' :: cs => do
    let (v, cs) ← value cs
    .ok ((name, v), cs)
  | cs => .error (.before .expectedColon cs)

/-- The members of an object, from behind its brace or behind a member. -/
def members (value : List Char → Reading (Json × List Char)) : (fuel : Nat) → (first : Bool) →
    (soFar : List (String × Json)) → List Char → Reading (List (String × Json) × List Char)
  | 0, _, _, cs => .error (.before .eofInObject cs)
  | fuel + 1, first, soFar, cs =>
    match skipSpaces cs with
    | [] => .error (.before .eofInObject [])
    | '}' :: cs => .ok (soFar.reverse, cs)
    | c :: cs => do
      let cs ←
        if first then
          if c = '"' then .ok cs else .error (.before .keyMustBeString (c :: cs))
        else if c = ',' then
          match skipSpaces cs with
          | [] => .error (.before .eofInValue [])
          | '"' :: cs => .ok cs
          | '}' :: cs => .error (.before .trailingComma ('}' :: cs))
          | cs => .error (.before .keyMustBeString cs)
        else .error (.before .expectedObjectCommaOrEnd (c :: cs))
      let (m, cs) ← member value cs
      members value fuel false (m :: soFar) cs

/-! ## Values -/

/-- A value that is neither a list nor an object. -/
def scalar : List Char → Reading (Json × List Char)
  | [] => .error (.before .eofInValue [])
  | 'n' :: cs => word .null ['u', 'l', 'l'] cs
  | 't' :: cs => word (.bool true) ['r', 'u', 'e'] cs
  | 'f' :: cs => word (.bool false) ['a', 'l', 's', 'e'] cs
  | '"' :: cs => do
    let (s, cs) ← string cs
    .ok (.str s, cs)
  | '-' :: cs => do
    let (n, cs) ← number true cs
    .ok (.num n, cs)
  | c :: cs =>
    if c.isDigit then do
      let (n, cs) ← number false (c :: cs)
      .ok (.num n, cs)
    else .error (.before .expectedValue (c :: cs))

/-- A value whose lists and objects are nested at most `depth` deep. -/
def value : (depth : Nat) → List Char → Reading (Json × List Char)
  | 0, cs => match skipSpaces cs with
    | '[' :: cs => .error (.before .tooDeep ('[' :: cs))
    | '{' :: cs => .error (.before .tooDeep ('{' :: cs))
    | cs => scalar cs
  | depth + 1, cs => match skipSpaces cs with
    | '[' :: cs => do
      let (vs, cs) ← items (value depth) (cs.length + 1) true [] cs
      .ok (.arr vs, cs)
    | '{' :: cs => do
      let (ms, cs) ← members (value depth) (cs.length + 1) true [] cs
      .ok (ofMembers ms, cs)
    | cs => scalar cs

/-- The deepest nesting of lists and objects that is read. -/
def maxDepth : Nat := 127

/-- The value of a whole text. -/
def readChars (cs : List Char) : Except Fault Json := do
  let (v, rest) ← value maxDepth cs
  match skipSpaces rest with
  | [] => .ok v
  | rest => .error (.before .trailingCharacters rest)

/-- The value of a JSON text, or what is wrong with the text and where. -/
def read (delivery : Delivery) (text : String) : Except String Json :=
  let cs := text.toList
  match readChars cs with
  | .ok v => .ok v
  | .error f => .error (f.message delivery cs)

end Json

end Pacts
