import Pacts.Number.Shortest
import Pacts.Json.Reader
import Pacts.Yaml.Cursor

/-!
# What scalars mean

A plain scalar means nothing, a truth value, an integer, another number or just its text.  Integers
may be given to the bases 2, 8 and 16.  Digits behind a leading zero are a text.
-/

set_option autoImplicit false

namespace Pacts.Yaml

/-- A number that is not an integer; unlike a finite one, the others have only their text. -/
inductive Float where
  | finite (x : Binary64)
  | infinite (negative : Bool)
  | undefined
  deriving DecidableEq, Repr

namespace Float

/-- The text of a number. -/
def text : Float → String
  | .finite x => x.text ⟨false⟩
  | .infinite negative => if negative then "-.inf" else ".inf"
  | .undefined => ".nan"

end Float

namespace Scalar

/-- Whether a text is one of the words for nothing. -/
def isNull (s : String) : Bool := s == "null" || s == "Null" || s == "NULL" || s == "~"

/-- The truth value that a text means. -/
def bool? (s : String) : Option Bool :=
  if s = "true" ∨ s = "True" ∨ s = "TRUE" then some true
  else if s = "false" ∨ s = "False" ∨ s = "FALSE" then some false
  else none

/-! ## Integers -/

/-- The number that digits of a base mean. -/
def digits? (base : Nat) (cs : List Char) : Option Nat :=
  if cs.isEmpty then none
  else cs.foldlM (fun n c => do
    let d ← Json.hexValue? c
    if d < base then some (n * base + d) else none) 0

/-- The base that the two characters in front of the digits mean, and the digits. -/
def splitBase : List Char → Option (Nat × List Char)
  | '0' :: 'x' :: cs => some (16, cs)
  | '0' :: 'o' :: cs => some (8, cs)
  | '0' :: 'b' :: cs => some (2, cs)
  | _ => none

/-- The text behind a sign. -/
def unsigned : List Char → List Char
  | '+' :: cs => cs
  | '-' :: cs => cs
  | cs => cs

/-- Whether a text is made of digits of which the first is a zero that does not count. -/
def isPadded (cs : List Char) : Bool :=
  match unsigned cs with
  | '0' :: c :: rest => (c :: rest).all Char.isDigit
  | _ => false

/-- The number that a text without a sign means. -/
def magnitude? (cs : List Char) : Option Nat :=
  match (splitBase cs).bind fun (base, ds) => digits? base ds with
  | some n => some n
  | none => if isPadded cs then none else digits? 10 cs

/-- The number that a text means that may have a plus sign. -/
def natural? (s : String) : Option Nat :=
  match s.toList with
  | '+' :: cs => magnitude? cs
  | cs => magnitude? cs

/-- The integer that a text means. -/
def integer? (s : String) : Option Int :=
  match s.toList with
  | '-' :: cs => (magnitude? cs).map fun n => -(n : Int)
  | _ => (natural? s).map Int.ofNat

/-- Whether an integer is small enough to be kept as one of 64 bits. -/
def fits (n : Int) : Bool := -(Int.pow 2 63) ≤ n && n < Int.pow 2 64

/-- Whether an integer is small enough to be taken for one at all. -/
def isInteger (n : Int) : Bool := -(Int.pow 2 127) ≤ n && n < Int.pow 2 128

/-! ## Other numbers -/

/-- The exponent in a text that is empty or starts with the letter of an exponent. -/
def exponent? : List Char → Option Int
  | [] => some 0
  | e :: cs =>
    if e = 'e' ∨ e = 'E' then
      match cs with
      | '-' :: ds => (digits? 10 ds).map fun n => -(n : Int)
      | '+' :: ds => (digits? 10 ds).map Int.ofNat
      | ds => (digits? 10 ds).map Int.ofNat
    else none

/-- The decimal number that a text without a sign means. -/
def decimal? (negative : Bool) (cs : List Char) : Option Binary64 := do
  let whole := cs.takeWhile Char.isDigit
  let (fraction, rest) := match cs.dropWhile Char.isDigit with
    | '.' :: cs => (cs.takeWhile Char.isDigit, cs.dropWhile Char.isDigit)
    | cs => ([], cs)
  let exponent ← exponent? rest
  let n ← digits? 10 (whole ++ fraction)
  Binary64.ofDecimal? negative n (exponent - fraction.length)

/-- Whether a text without a sign means a number that is too large for any other. -/
def isInfinite (cs : List Char) : Bool :=
  cs == ".inf".toList || cs == ".Inf".toList || cs == ".INF".toList

/-- The number that a text means. -/
def float? (s : String) : Option Float :=
  if s = ".nan" ∨ s = ".NaN" ∨ s = ".NAN" then some .undefined
  else match s.toList with
    | '-' :: cs =>
      if isInfinite cs then some (.infinite true) else (decimal? true cs).map .finite
    | '+' :: cs =>
      if isInfinite cs then some (.infinite false) else (decimal? false cs).map .finite
    | cs => if isInfinite cs then some (.infinite false) else (decimal? false cs).map .finite

end Scalar

end Pacts.Yaml
